import PooledServer.Work.Task
import PooledServer.Log

/-!
# Work items

    A work item is a job on its way through a queue: it has a number of its own, and it is stamped with
    the worker that runs it.
-/

namespace PooledServer.Work

/-- The number of a work item; items count from one in order of creation. -/
abbrev TaskId := Nat

/-- A job that has been given a number. -/
structure Item where
  id : TaskId
  job : Job
  /-- The worker that runs it. -/
  runBy : Option Nat := none

/-- How an item is named in messages. -/
def taskName (id : TaskId) : String := s!"task-{id}"

namespace Item

def name (item : Item) : String := taskName item.id

/-- Executing the item also destroys its task. -/
def isOwned (item : Item) : Bool := item.job.ownership != .shared

/-- The item described for diagnosis. -/
def debug (item : Item) : String :=
  let owned := toString item.isOwned
  let runBy := match item.runBy with
    | some w => s!"Some({w})"
    | none => "None"
  "WorkItem \x7b id: TaskId(" ++ toString item.id ++ "), owned: " ++ owned ++ ", run_by: " ++ runBy ++ " \x7d"

/-- The wording when a queue refuses the item. -/
def rejection (item : Item) : String := s!"work item {item.name} rejected"

/-- The refusal described for diagnosis. -/
def rejectionDebug (item : Item) : String := s!"RejectedWork(TaskId({item.id}))"

end Item

/-! ## What is seen of running items -/

/-- What can be seen when items run. -/
inductive Event where
  /-- A task runs, for the given time. -/
  | run (tag : Tag) (count : Nat)
  /-- A task has submitted further work. -/
  | submitted (child : Tag) (accepted : Bool)
  /-- The hook between the run and the observer is called. -/
  | afterRun (outcome : Outcome)
  /-- An observer is told; `keepsWorker` says whether it keeps the number of the worker. -/
  | notified (tag : Tag) (id : TaskId) (keepsWorker : Bool) (worker : Option Nat) (outcome : Outcome)
  /-- A task is destroyed. -/
  | dropped (tag : Tag)
  deriving DecidableEq, Repr

/-- What is left behind, in order: log records, events, objects made. -/
inductive Note where
  | log (record : Log.Record)
  | event (event : Event)
  | created (object : String)
  /-- The queue accepted an item. -/
  | accepted (id : TaskId)
  /-- The queue or the pool refused an item. -/
  | refused (id : TaskId)
  /-- The queue handed an item out. -/
  | handedOut (id : TaskId)
  /-- The task of an item has begun to run; the item may be stamped with a worker. -/
  | begun (id : TaskId) (runBy : Option Nat)
  /-- A worker has counted an item as executed. -/
  | counted (worker : Nat) (id : TaskId)
  deriving DecidableEq, Repr

/-- Destroying an item that has not run destroys its task, unless the submitter keeps it. -/
def Item.discard (item : Item) : List Note :=
  match item.job.ownership with
  | .shared => []
  | .closure | .owned => [.event (.dropped item.job.tag)]

namespace Note

def records (notes : List Note) : List Log.Record :=
  notes.filterMap fun
    | .log r => some r
    | _ => none

def events (notes : List Note) : List Event :=
  notes.filterMap fun
    | .event e => some e
    | _ => none

def creations (notes : List Note) : List String :=
  notes.filterMap fun
    | .created o => some o
    | _ => none

end Note

end PooledServer.Work
