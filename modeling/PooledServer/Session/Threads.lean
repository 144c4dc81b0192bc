import PooledServer.Session.Reply

/-!
# A session with one thread

    A thread that carries one item is started, watched and joined.  What its item does is told when the
    thread is joined.
-/

namespace PooledServer.Session.Threads

open Work (Item Job Note Registry Carrier)

/-- The thread, and what its item has done so far. -/
structure State where
  registry : Registry
  thread : Carrier
  notes : List Note := []

/-- One step. -/
inductive Command where
  | start
  | awaitGate
  | openGate (gate : String)
  | join
  | alive
  | name
  | hasNativeId
  | runs

namespace State

/-- A thread for a new item. -/
def new (name : String) (job : Job) : State :=
  let (item, registry) := Registry.make {} job
  { registry, thread := Carrier.new name item }

/-- Lets the thread run as far as it can. -/
def settle (s : State) : State :=
  let fuel := match s.thread.routine with
    | .unstarted item | .beginning item => item.steps + 2
    | .executing e => e.item.steps + 2
    | .lost | .ended _ => 0
  let (registry, thread, notes) := s.thread.steps s.registry fuel
  { registry, thread, notes := s.notes ++ notes }

/-- One step of the session; the notes of the thread come with a join. -/
def step (s : State) : Command → State × Reply × List Note
  | .start =>
    match s.thread.start none with
    | (thread, .ok (), _) => ({ s with thread }.settle, .ok, [])
    | (thread, .error e, notes) => ({ s with thread }, .threadFailed e, notes)
  | .awaitGate => (s, .number 1, [])
  | .openGate gate => ({ s with registry := s.registry.openGate gate }.settle, .ok, [])
  | .join =>
    match s.thread.join with
    | some (clean, thread) => ({ s with thread, notes := [] }, .flag clean, s.notes)
    | none => (s, .wouldBlock, [])
  | .alive => (s, .flag s.thread.alive, [])
  | .name => (s, .text s.thread.name, [])
  | .hasNativeId => (s, .flag s.thread.isStarted, [])
  | .runs => (s, .runs s.registry.runs, [])

end State

end PooledServer.Session.Threads
