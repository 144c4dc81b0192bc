import PooledServer.Work.Execution
import PooledServer.Error

/-!
# Threads that carry an item

    A thread is made for one item and started once; if the system refuses to start it, the item is lost.
    Its routine raises a flag, executes the item, and lowers the flag when the task has ended, before the
    observer hears of it.  Joining succeeds once, and only if no panic has escaped from the routine.  No
    queue is at hand here, so what an item submits is refused.
-/

namespace PooledServer.Work

open Log (Component)

/-- How far the routine of a thread has come. -/
inductive Routine where
  /-- The thread is not started: it still has its item. -/
  | unstarted (item : Item)
  /-- The thread could not be started. -/
  | lost
  | beginning (item : Item)
  | executing (execution : Execution)
  | ended (ended : Ended)

/-- A thread, its routine and its flag. -/
structure Carrier where
  name : String
  routine : Routine
  alive : Bool := false
  /-- The thread has been started and not yet joined. -/
  joinable : Bool := false

namespace Carrier

/-- A thread for an item. -/
def new (name : String) (item : Item) : Carrier := { name, routine := .unstarted item }

/-- Starts the thread.  If the system refuses, the item goes with the attempt. -/
def start (c : Carrier) (refusal : Option String) : Carrier × Except SyncError Unit × List Note :=
  match c.routine with
  | .unstarted item =>
    match refusal with
    | none => ({ c with routine := .beginning item, joinable := true }, .ok (), [])
    | some reason => ({ c with routine := .lost }, .error (.spawnFailed c.name reason), item.discard)
  | _ => (c, .error .alreadyStarted, [])

/-- The thread has been started. -/
def isStarted (c : Carrier) : Bool :=
  match c.routine with
  | .unstarted _ | .lost => false
  | _ => true

/-- The next step of the routine. -/
def step (r : Registry) (c : Carrier) : Option (Registry × Carrier × List Note) :=
  match c.routine with
  | .unstarted _ | .lost | .ended _ => none
  | .beginning item =>
    some (r, { c with routine := .executing { item }, alive := true },
      [.log (Component.thread.trace s!"thread '{c.name}' running {item.name}")])
  | .executing e =>
    match e.phase with
    | .concluded ended =>
      some (r, { c with routine := .ended ended }, [])
    | .ran outcome =>
      let notes : List Note := match outcome with
        | .completed => []
        | .panicked message =>
          [.log (Component.thread.warn s!"thread '{c.name}' runnable panicked: {message}")]
      some (r, { c with routine := .executing { e with phase := .hooked outcome }, alive := false }, notes)
    | _ => (e.stepAlone r).map fun (r, e, notes) => (r, { c with routine := .executing e }, notes)

/-- At most `fuel` steps of the routine, as long as there is one. -/
def steps (r : Registry) (c : Carrier) : Nat → Registry × Carrier × List Note
  | 0 => (r, c, [])
  | fuel + 1 =>
    match c.step r with
    | none => (r, c, [])
    | some (r, c, notes) =>
      let (r, c, later) := steps r c fuel
      (r, c, notes ++ later)

/-- Waits for the routine to end: whether joining succeeds, and the thread afterwards.  There is no
    answer while the routine goes on. -/
def join (c : Carrier) : Option (Bool × Carrier) :=
  if c.joinable then
    match c.routine with
    | .ended ended => some (ended matches .returned _, { c with joinable := false })
    | _ => none
  else some (false, c)

/-! ### Runs -/

/-- What happens to a thread. -/
inductive Move where
  /-- Somebody starts it; the system may have a reason to refuse. -/
  | start (refusal : Option String)
  /-- The routine goes on, with the shared tasks and the gates as they stand by then. -/
  | step (registry : Registry)
  /-- Somebody joins it. -/
  | join

/-- What comes of a move. -/
inductive Shown where
  | started (result : Except SyncError Unit) (notes : List Note)
  | stepped (notes : List Note)
  | joined (result : Bool)

/-- One move, if it is possible. -/
def move (c : Carrier) : Move → Option (Carrier × Shown)
  | .start refusal =>
    let (c, result, notes) := c.start refusal
    some (c, .started result notes)
  | .step r => (c.step r).map fun (_, c, notes) => (c, .stepped notes)
  | .join => c.join.map fun (result, c) => (c, .joined result)

/-- A sequence of moves, and what comes of them. -/
def run (c : Carrier) : List Move → Option (Carrier × List Shown)
  | [] => some (c, [])
  | m :: rest => (c.move m).bind fun (c, s) => (c.run rest).map fun (c, later) => (c, s :: later)

end Carrier

namespace Execution

/-- Executes an item on the calling thread, where there is no queue, with a hook between the run and the
    observer.  There is no end if the task stops at a closed gate. -/
def steps (hook : Outcome → List Note) (r : Registry) (e : Execution) :
    Nat → Registry × Execution × List Note
  | 0 => (r, e, [])
  | fuel + 1 =>
    let hooked : List Note := match e.phase with
      | .ran outcome => hook outcome
      | _ => []
    match e.stepAlone r with
    | none => (r, e, [])
    | some (r, e, notes) =>
      let (r, e, later) := steps hook r e fuel
      (r, e, hooked ++ notes ++ later)

/-- The end of an execution, if it has come. -/
def ended? (e : Execution) : Option Ended :=
  match e.phase with
  | .concluded ended => some ended
  | _ => none

end Execution

/-- Enough steps to execute an item where there is no queue. -/
def Item.steps (item : Item) : Nat := item.job.weight + 8

/-- Executes an item to its end. -/
def execute (hook : Outcome → List Note) (r : Registry) (item : Item) :
    Registry × Option Ended × List Note :=
  let (r, e, notes) := Execution.steps hook r { item } item.steps
  (r, e.ended?, notes)

/-- Runs the routine of a thread for an item to its end. -/
def runRoutine (name : String) (r : Registry) (item : Item) : Registry × Carrier × List Note :=
  ((Carrier.new name item).start none).1.steps r (item.steps + 2)

end PooledServer.Work
