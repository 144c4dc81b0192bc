import PooledServer.Queue.Monitor
import PooledServer.Work.Execution
import PooledServer.Error

/-!
# The thread pool

    A pool is a queue, a flag that says whether work is welcome, and workers: threads that take items
    from the queue and execute them until the queue is shut down or they are asked to stop.  Beside the
    workers there are threads of the application, which submit work, execute items themselves, or start,
    grow and stop the pool.

    This file has the state: who is where.  A thread's place is an `Activity`; each place stands for
    the one thing that the thread does next.

    The number of workers that a pool is to have is a 64-bit count, to which a pool that is not running
    adds whatever it is asked for (`Arithmetic`).
-/

namespace PooledServer.Pool

open Work (Item TaskId Execution Note Registry)

/-- How 64-bit counts are added. -/
inductive Arithmetic where
  /-- A sum that does not fit is a panic. -/
  | checked
  /-- A sum that does not fit wraps around. -/
  | wrapping
  deriving DecidableEq, Repr

/-- A 64-bit count with more added to it, or the message of a panic. -/
def Arithmetic.add (arithmetic : Arithmetic) (count : UInt64) (more : Nat) : Except String UInt64 :=
  if arithmetic = .checked ∧ UInt64.size ≤ count.toNat + more then
    .error "attempt to add with overflow"
  else .ok (count + more.toUInt64)

/-- What a worker and its thread share.  Its number and its count of items are kept in 64 bits; a run
    makes fewer than 2^64 workers and executes fewer than 2^64 items, so neither wraps around. -/
structure Worker where
  id : Nat
  thread : ThreadId
  /-- The worker has been asked to stop. -/
  stop : Bool := false
  executed : Nat := 0
  /-- The thread is inside its loop. -/
  alive : Bool := false
  deriving DecidableEq, Repr

/-- Where the thread of a worker stands. -/
inductive WorkerPoint where
  /-- About to begin, as the item `task`. -/
  | starting (task : TaskId)
  /-- About to look whether it is asked to stop. -/
  | checking
  /-- Inside a blocking take. -/
  | taking
  /-- About to stamp the item and to begin with it. -/
  | holding (item : Item)
  | executing (execution : Execution)
  /-- About to count the item as executed. -/
  | counting (id : TaskId)
  /-- Out of the loop, about to say so. -/
  | leaving
  /-- About to end, possibly because of a panic. -/
  | ending (escaped : Option String)
  | ended

/-- What the owner of a pool can do with it. -/
inductive Order where
  | start
  | grow (count : Nat)
  /-- The queue is measured first if the log is to tell how long it is. -/
  | stop (measures : Bool)
  deriving DecidableEq, Repr

/-- Where a thread stands that carries out an order. -/
inductive OrderPoint where
  | begun (order : Order)
  /-- Start: inside the question whether the queue is running. -/
  | asking
  /-- Start: that many workers are left to make. -/
  | hiring (left : Nat)
  /-- Growth: that many workers are left to make. -/
  | growing (left : Nat)
  /-- Stop: inside the question how many items are queued. -/
  | measuring
  /-- Stop: inside the wait for the queue to drain. -/
  | draining
  /-- Shutting the queue down, because of a failed start or at the end of a stop. -/
  | closing (failure : Option PoolError)
  /-- Asking the workers to stop, those with the given numbers still to come. -/
  | dismissing (left : List Nat) (failure : Option PoolError)
  /-- Waiting for the workers to end. -/
  | joining (failure : Option PoolError)

/-- What a thread of the application has got for its call. -/
inductive Result where
  | answered (answer : Queue.Answer Item)
  | submitted (item : Item) (accepted : Bool)
  | executed (ended : Work.Ended)
  | ordered (outcome : Except PoolError Unit)
  /-- The call ended in a panic. -/
  | panicked (message : String)

/-- Where a thread stands. -/
inductive Activity where
  | worker (id : Nat) (point : WorkerPoint)
  /-- Inside a request of its own to the queue. -/
  | request
  /-- Submitting an item through the pool; `inQueue` tells whether the queue has been asked already. -/
  | submission (item : Item) (inQueue : Bool)
  | execution (execution : Execution)
  | order (point : OrderPoint)
  | finished (result : Result)

/-- A thread and its place. -/
structure Thread where
  id : ThreadId
  activity : Activity

/-- A pool with all its threads. -/
structure State where
  name : String
  queueName : String
  monitor : Queue.Monitor Item
  registry : Registry := {}
  /-- Work that tasks submit passes the pool's flag first. -/
  guarded : Bool := true
  /-- The number of workers that the pool is meant to have, a 64-bit count. -/
  size : UInt64
  /-- How that number grows. -/
  arithmetic : Arithmetic := .checked
  nextWorker : Nat := 0
  /-- Work is welcome. -/
  running : Bool := false
  workers : List Worker := []
  /-- Items executed by workers that are gone; of these too a run has fewer than 2^64. -/
  retired : Nat := 0
  threads : List Thread := []
  nextThread : ThreadId := 0

/-- What the primitives do during one step. -/
structure Luck extends Queue.Luck where
  /-- The error number with which making a thread fails. -/
  create : Option Int := none
  /-- Starting a thread works. -/
  spawn : Bool := true
  /-- Joining a thread reports success. -/
  join : Bool := true
  deriving DecidableEq, Repr

namespace State

def activity? (s : State) (t : ThreadId) : Option Activity :=
  (s.threads.find? fun th => th.id == t).map (·.activity)

/-- Thread `t` moves to another place. -/
def place (s : State) (t : ThreadId) (a : Activity) : State :=
  { s with threads := s.threads.map fun th => if th.id = t then { th with activity := a } else th }

def worker? (s : State) (id : Nat) : Option Worker :=
  s.workers.find? (·.id == id)

/-- Changes what worker `id` and its thread share. -/
def updateWorker (s : State) (id : Nat) (f : Worker → Worker) : State :=
  { s with workers := s.workers.map fun w => if w.id = id then f w else w }

/-- Workers inside their loop. -/
def aliveCount (s : State) : Nat :=
  (s.workers.filter (·.alive)).length

/-- Items executed by the pool's workers, those that are gone included. -/
def executed (s : State) : Nat :=
  s.retired + s.workers.foldr (fun w n => w.executed + n) 0

/-- The name of a worker's thread. -/
def threadName (s : State) (id : Nat) : String := s!"{s.name}-worker-{id}"

/-- A thread is at its end. -/
def isOver (s : State) (t : ThreadId) : Bool :=
  match s.activity? t with
  | some (.worker _ .ended) | some (.finished _) | none => true
  | _ => false

/-- Takes a thread that has finished away, with what it got. -/
def collect (s : State) (t : ThreadId) : Option (Result × State) :=
  match s.activity? t with
  | some (.finished result) => some (result, { s with threads := s.threads.filter (·.id != t) })
  | _ => none

/-- A new thread begins at the given place. -/
def launch (s : State) (a : Activity) : State :=
  { s with threads := s.threads ++ [⟨s.nextThread, a⟩], nextThread := s.nextThread + 1 }

end State

end PooledServer.Pool
