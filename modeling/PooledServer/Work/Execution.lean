import PooledServer.Work.Item

/-!
# Executing items

    Executing an item runs its task, lets a hook look at the outcome, tells the observer and destroys
    the item, in this order.  A panic of the task ends in the outcome; a panic of the observer escapes,
    after the item has been destroyed all the same.  A closure destroys what it holds when it ends,
    before the hook; an owned task goes with the item.

    An execution is a small machine, because a task may stop at a gate and because the work that it
    submits goes through a queue that other threads use.
-/

namespace PooledServer.Work

/-- A task that its submitter keeps. -/
structure SharedTask where
  /-- The job that first brought the task along. -/
  job : Job
  runs : Nat := 0
  /-- A thread is running it; another one has to wait. -/
  busy : Bool := false

/-- What all executions share: the numbering of items, the shared tasks, the open gates. -/
structure Registry where
  nextId : TaskId := 1
  shared : List SharedTask := []
  openGates : List String := []

namespace Registry

def shared? (r : Registry) (tag : Tag) : Option SharedTask :=
  r.shared.find? fun s => decide (s.job.tag = tag)

/-- Changes the shared task of the given name. -/
def update (r : Registry) (tag : Tag) (f : SharedTask → SharedTask) : Registry :=
  { r with shared := r.shared.map fun s => if s.job.tag = tag then f s else s }

/-- Makes an item for a job.  A shared job refers to the task that first came under its name. -/
def make (r : Registry) (job : Job) : Item × Registry :=
  let next := { r with nextId := r.nextId + 1 }
  match job with
  | .mk tag .shared observer .. =>
    match r.shared? tag with
    | some s => (⟨r.nextId, .mk tag .shared observer s.job.actions s.job.ending, none⟩, next)
    | none => (⟨r.nextId, job, none⟩, { next with shared := r.shared ++ [{ job }] })
  | _ => (⟨r.nextId, job, none⟩, next)

/-- The next number goes to something that is not described here, such as the loop of a worker. -/
def skipId (r : Registry) : TaskId × Registry :=
  (r.nextId, { r with nextId := r.nextId + 1 })

def openGate (r : Registry) (gate : String) : Registry :=
  { r with openGates := gate :: r.openGates }

/-- The runs of every shared task so far. -/
def runs (r : Registry) : List (Tag × Nat) :=
  r.shared.map fun s => (s.job.tag, s.runs)

end Registry

/-- How an execution ends. -/
inductive Ended where
  | returned (outcome : Outcome)
  /-- The observer has panicked. -/
  | escaped (message : String)
  deriving DecidableEq, Repr

/-- How far an execution has come. -/
inductive Phase where
  | ready
  /-- Inside the task, in its run number `count`. -/
  | acting (count : Nat) (rest : List Action)
  /-- The task submits `child`; `inQueue` tells whether the queue has been asked already. -/
  | offering (count : Nat) (child : Item) (inQueue : Bool) (rest : List Action)
  /-- The task has ended; the hook is next. -/
  | ran (outcome : Outcome)
  /-- The observer is next. -/
  | hooked (outcome : Outcome)
  | concluded (ended : Ended)

/-- An item that is being executed. -/
structure Execution where
  item : Item
  phase : Phase := .ready

/-- What the beginning of a task's run number `count` leaves behind. -/
def Item.begin (item : Item) (count : Nat) : List Note :=
  [.begun item.id item.runBy, .event (.run item.job.tag count)]

namespace Execution

/-- The end of the run number `count`: a closure destroys what it holds. -/
def endRun (r : Registry) (item : Item) (count : Nat) : Registry × Phase × List Note :=
  let outcome := item.job.ending.outcome count
  match item.job.ownership with
  | .closure => (r, .ran outcome, [.event (.dropped item.job.tag)])
  | .owned => (r, .ran outcome, [])
  | .shared => (r.update item.job.tag fun s => { s with busy := false }, .ran outcome, [])

/-- Telling the observer and destroying the item. -/
def conclude (item : Item) (outcome : Outcome) : Ended × List Note :=
  let destroyed : List Note :=
    match item.job.ownership with
    | .owned => [.event (.dropped item.job.tag)]
    | .closure | .shared => []
  match item.job.observer with
  | none => (.returned outcome, destroyed)
  | some o =>
    let told := Note.event (.notified item.job.tag item.id o.keepsWorker item.runBy outcome)
    match o.panic with
    | none => (.returned outcome, told :: destroyed)
    | some message => (.escaped message, told :: destroyed)

/-- The next step of an execution that does not need the queue, if there is one. -/
def step (r : Registry) (e : Execution) : Option (Registry × Execution × List Note) :=
  match e.phase with
  | .ready =>
    match e.item.job.ownership with
    | .shared =>
      match r.shared? e.item.job.tag with
      | some s =>
        if s.busy then none
        else
          let count := s.runs + 1
          some (r.update e.item.job.tag fun s => { s with runs := count, busy := true },
            { e with phase := .acting count e.item.job.actions }, e.item.begin count)
      | none => none
    | .closure | .owned =>
      some (r, { e with phase := .acting 1 e.item.job.actions }, e.item.begin 1)
  | .acting count [] =>
    let (r, phase, notes) := endRun r e.item count
    some (r, { e with phase }, notes)
  | .acting count (.pass gate :: rest) =>
    if r.openGates.contains gate then some (r, { e with phase := .acting count rest }, []) else none
  | .acting count (.submit job :: rest) =>
    let (child, r) := r.make job
    some (r, { e with phase := .offering count child false rest }, [])
  | .offering .. => none
  | .ran outcome => some (r, { e with phase := .hooked outcome }, [])
  | .hooked outcome =>
    let (ended, notes) := conclude e.item outcome
    some (r, { e with phase := .concluded ended }, notes)
  | .concluded _ => none

/-- The queue has answered the offer of `child`, made in run number `count` before the actions `rest`.
    A refused child is destroyed. -/
def offered (e : Execution) (count : Nat) (child : Item) (rest : List Action) (accepted : Bool) :
    Execution × List Note :=
  ({ e with phase := .acting count rest },
    (if accepted then [] else child.discard) ++ [.event (.submitted child.job.tag accepted)])

/-- The next step of an execution where there is no queue: what the task submits is refused. -/
def stepAlone (r : Registry) (e : Execution) : Option (Registry × Execution × List Note) :=
  match e.phase with
  | .offering count child _ rest =>
    let (e, notes) := e.offered count child rest false
    some (r, e, .refused child.id :: notes)
  | _ => e.step r

end Execution

end PooledServer.Work
