/-!
# Tasks

    A task is what a work item runs.  As far as threads and queues can tell, a run is a list of actions
    (passing a gate, submitting further work) and an ending: the task returns or panics.  A job is a
    task together with the way it is owned and with the observer that is told when it has run.
-/

namespace PooledServer.Work

/-- The name of a task. -/
inductive Tag where
  | named (name : String)
  | numbered (number : Nat)
  deriving DecidableEq, Repr

/-- What a panic carries. -/
inductive Payload where
  | text (text : String)
  | other
  deriving DecidableEq, Repr

/-- The text of a panic, as far as it has one. -/
def Payload.message : Payload → String
  | text t => t
  | other => "non-string panic payload"

/-- How a run of a task ends. -/
inductive Ending where
  | returns
  | panics (payload : Payload)
  /-- Panics the first time it runs and returns afterwards. -/
  | panicsOnce (payload : Payload)
  deriving DecidableEq, Repr

/-- What happened when an item was executed. -/
inductive Outcome where
  | completed
  | panicked (message : String)
  deriving DecidableEq, Repr

/-- The outcome of the run number `count` (from one) of a task. -/
def Ending.outcome (count : Nat) : Ending → Outcome
  | returns => .completed
  | panics p => .panicked p.message
  | panicsOnce p => if count = 1 then .panicked p.message else .completed

/-- Who owns a task. -/
inductive Ownership where
  /-- The item owns a closure, which destroys what it holds when it ends. -/
  | closure
  /-- The item owns the task and destroys it when it is itself destroyed. -/
  | owned
  /-- The submitter keeps the task; items only refer to it. -/
  | shared
  deriving DecidableEq, Repr

/-- Who is told that an item has run. -/
structure Observer where
  /-- The observer keeps the number of the worker, not only whether there was one. -/
  keepsWorker : Bool := true
  /-- The message of its panic, if it panics. -/
  panic : Option String := none
  deriving DecidableEq, Repr

mutual

/-- A task, its owner and its observer. -/
inductive Job where
  | mk (tag : Tag) (ownership : Ownership) (observer : Option Observer) (actions : List Action)
    (ending : Ending)

/-- What a task does while it runs. -/
inductive Action where
  /-- Wait until a gate is open. -/
  | pass (gate : String)
  /-- Submit further work. -/
  | submit (job : Job)

end

instance : Inhabited Job := ⟨.mk (.numbered 0) .closure none [] .returns⟩

namespace Job

def tag : Job → Tag
  | mk tag .. => tag

def ownership : Job → Ownership
  | mk _ ownership .. => ownership

def observer : Job → Option Observer
  | mk _ _ observer .. => observer

def actions : Job → List Action
  | mk _ _ _ actions _ => actions

def ending : Job → Ending
  | mk _ _ _ _ ending => ending

mutual

/-- A measure of the work in a job, the jobs that it submits included. -/
def weight : Job → Nat
  | mk _ _ _ actions _ => 1 + weights actions

/-- The work in some actions. -/
def weights : List Action → Nat
  | [] => 0
  | .pass _ :: rest => 1 + weights rest
  | .submit job :: rest => 1 + job.weight + weights rest

end

end Job

end PooledServer.Work
