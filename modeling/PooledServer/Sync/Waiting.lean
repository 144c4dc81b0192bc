import PooledServer.Sync.Call
import PooledServer.Sync.Deadline

/-!
# Waiting on a condition

    Mutexes and one condition variable that threads use.  A wait gives its mutex up, lets the thread
    sleep until a signal or a deadline, and ends with the mutex taken again.  Waiting with a mutex that
    the thread does not hold is refused.
-/

namespace PooledServer.Sync

open Log (Component Record)

/-- A thread in a wait. -/
structure Sleeper where
  thread : String
  mutex : String
  deadline : Option Timespec
  /-- How the wait will end, once it is known; the mutex still has to be taken. -/
  verdict : Option Bool := none
  /-- The thread unlocks the mutex after the wait. -/
  thenUnlock : Bool := false
  deriving DecidableEq, Repr

/-- Mutexes, a condition variable, and the threads that use them. -/
structure Room where
  mutexes : List Mutex
  condition : String
  /-- Threads are numbered in the order in which they are first heard of. -/
  threads : List String := []
  sleepers : List Sleeper := []
  /-- Waits that have ended and whose outcome nobody has asked for. -/
  outcomes : List (String × Bool) := []
  now : Timespec := ⟨0, 0⟩

namespace Room

def mutex? (r : Room) (name : String) : Option Mutex := r.mutexes.find? (·.name == name)

def setMutex (r : Room) (m : Mutex) : Room :=
  { r with mutexes := r.mutexes.map fun n => if n.name = m.name then m else n }

/-- The number of a thread, which is known from now on. -/
def thread (r : Room) (name : String) : ThreadId × Room :=
  match r.threads.idxOf? name with
  | some t => (t, r)
  | none => (r.threads.length, { r with threads := r.threads ++ [name] })

/-- Ends the wait of one sleeper whose verdict is known and whose mutex is free. -/
def rise (r : Room) (s : Sleeper) : Option (Room × List Record) :=
  match s.verdict, r.mutex? s.mutex with
  | some verdict, some m =>
    let (t, r) := r.thread s.thread
    (m.retake t).map fun m =>
      let r := { r with sleepers := r.sleepers.filter (·.thread != s.thread) }
      if s.thenUnlock then
        let called := m.callUnlock t
        ({ r.setMutex called.after with outcomes := r.outcomes ++ [(s.thread, verdict && called.result)] },
          called.records)
      else ({ r.setMutex m with outcomes := r.outcomes ++ [(s.thread, verdict)] }, [])
  | _, _ => none

/-- The first sleeper that can end its wait ends it. -/
def riseFirst (r : Room) : List Sleeper → Option (Room × List Record)
  | [] => none
  | s :: rest =>
    match r.rise s with
    | some result => some result
    | none => r.riseFirst rest

/-- Ends waits until no more can end; there are at most as many as sleepers. -/
def settle (r : Room) : Nat → Room × List Record
  | 0 => (r, [])
  | fuel + 1 =>
    match r.riseFirst r.sleepers with
    | none => (r, [])
    | some (r, records) =>
      let (r, later) := r.settle fuel
      (r, records ++ later)

/-- Begins a wait of thread `t`, or refuses it. -/
def sleep (r : Room) (t : String) (mutex : String) (timeout : Option Duration) (thenUnlock : Bool) :
    Called Room :=
  let (number, r) := r.thread t
  let refusal :=
    if timeout.isSome then s!"condvar '{r.condition}' timed wait failed: errno {errnoNotOwner}"
    else s!"condvar '{r.condition}' wait on '{mutex}' failed: errno {errnoNotOwner}"
  match (r.mutex? mutex).bind (·.release number) with
  | some m =>
    let deadline := timeout.map (deadlineAfter r.now)
    ⟨true, { r.setMutex m with sleepers := r.sleepers ++ [{ thread := t, mutex, deadline, thenUnlock }] }, []⟩
  | none => ⟨false, r, [Component.primitives.debug refusal]⟩

/-- Signals the condition to the sleeper that has slept longest. -/
def signalOne (r : Room) : Room :=
  match r.sleepers.findIdx? (·.verdict.isNone) with
  | some i => { r with sleepers := r.sleepers.modify i fun s => { s with verdict := some true } }
  | none => r

/-- Signals the condition to all sleepers. -/
def signalAll (r : Room) : Room :=
  { r with sleepers := r.sleepers.map fun s =>
      if s.verdict.isNone then { s with verdict := some true } else s }

/-- Lets time pass until the deadline of thread `t`, if it sleeps and has one. -/
def passTime (r : Room) (t : String) : Room :=
  match (r.sleepers.find? (·.thread == t)).bind (·.deadline) with
  | none => r
  | some deadline =>
    let now := if r.now.isBefore deadline then deadline else r.now
    let expire (s : Sleeper) : Sleeper :=
      match s.verdict, s.deadline with
      | none, some d => if now.isBefore d then s else { s with verdict := some false }
      | _, _ => s
    { r with now, sleepers := r.sleepers.map expire }

/-- The outcome of the last wait of thread `t`, which is forgotten. -/
def takeOutcome (r : Room) (t : String) : Option Bool × Room :=
  (r.outcomes.lookup t, { r with outcomes := r.outcomes.filter (·.1 != t) })

end Room

end PooledServer.Sync
