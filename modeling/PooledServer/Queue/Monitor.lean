import PooledServer.Queue.Basic
import PooledServer.Sync.Mutex

/-!
# Threads at the queue

    A monitor is a queue with its lock and the threads that are inside one of its operations.  A thread
    comes with a request and stands at the door; it takes the lock and has its turn; the turn answers
    it, or leaves it waiting on a condition until a signal, or nothing at all, wakes it for another
    turn.  A whole turn, from taking the lock to giving it up, is one step: no other thread can do
    anything to the queue in between.

    What the primitives do is an input of the step: whether the lock can be taken, whether a wait fails
    at once, and which of the waiters a single signal wakes.
-/

namespace PooledServer.Queue

variable {α : Type}

/-- Where a thread stands inside an operation of the queue. -/
inductive Stage where
  /-- About to take the lock for the first time. -/
  | entering
  | waiting (condition : Condition)
  /-- Woken, by a signal or by nothing, and about to take the lock again. -/
  | woken (signalled : Bool)
  deriving DecidableEq, Repr

/-- A thread inside an operation. -/
structure Caller (α : Type) where
  thread : ThreadId
  request : Request α
  stage : Stage
  deriving DecidableEq, Repr

/-- A queue, its lock, and the threads inside its operations. -/
structure Monitor (α : Type) where
  contents : Contents α := {}
  mutex : Sync.Mutex
  callers : List (Caller α) := []
  deriving DecidableEq, Repr

/-- What the primitives do during one turn. -/
structure Luck where
  /-- The lock can be taken. -/
  lock : Bool := true
  /-- A wait does not fail at once. -/
  wait : Bool := true
  /-- The waiter that a single signal wakes. -/
  chosen : Option ThreadId := none
  deriving DecidableEq, Repr

/-- A request that has been answered. -/
structure Reply (α : Type) where
  thread : ThreadId
  request : Request α
  answer : Answer α
  deriving DecidableEq, Repr

/-- What a turn shows to the outside. -/
structure Shown (α : Type) where
  reply : Option (Reply α) := none
  reports : List (Report α) := []
  deriving DecidableEq, Repr

namespace Caller

/-- The thread waits on `condition`. -/
def waitsOn (c : Caller α) (condition : Condition) : Bool :=
  c.stage == .waiting condition

/-- The caller after a signal on `condition`. -/
def wakeIf (condition : Condition) (c : Caller α) : Caller α :=
  if c.waitsOn condition then { c with stage := .woken true } else c

end Caller

/-- The callers after a signal.  A single signal needs a waiter to be chosen if there is one. -/
def signal (chosen : Option ThreadId) (callers : List (Caller α)) : Signal → Option (List (Caller α))
  | .all condition => some (callers.map (Caller.wakeIf condition))
  | .one condition =>
    if callers.any (·.waitsOn condition) then
      match chosen with
      | some t =>
        if callers.any fun c => c.thread == t && c.waitsOn condition then
          some (callers.map fun c => if c.thread = t then c.wakeIf condition else c)
        else none
      | none => none
    else some callers

/-- The callers after several signals. -/
def signals (chosen : Option ThreadId) (callers : List (Caller α)) :
    List Signal → Option (List (Caller α))
  | [] => some callers
  | s :: rest => (signal chosen callers s).bind fun callers => signals chosen callers rest

namespace Monitor

/-- The caller of thread `t`. -/
def caller? (m : Monitor α) (t : ThreadId) : Option (Caller α) :=
  m.callers.find? (·.thread == t)

/-- The callers without thread `t`. -/
def others (m : Monitor α) (t : ThreadId) : List (Caller α) :=
  m.callers.filter (·.thread != t)

/-- The waiter that is woken by default: the one that has been inside longest. -/
def firstWaiter (m : Monitor α) (condition : Condition) : Option ThreadId :=
  (m.callers.find? (·.waitsOn condition)).map (·.thread)

/-- Thread `t` comes with a request; it must not be inside already. -/
def call (m : Monitor α) (t : ThreadId) (request : Request α) : Option (Monitor α) :=
  match m.caller? t with
  | some _ => none
  | none => some { m with callers := m.callers ++ [⟨t, request, .entering⟩] }

/-- Thread `c.thread` holds the lock and leaves with an answer. -/
def leave (m : Monitor α) (luck : Luck) (c : Caller α) (contents : Contents α) (answer : Answer α)
    (sent : List Signal) (reports : List (Report α)) : Option (Monitor α × Shown α) :=
  match signals luck.chosen (m.others c.thread) sent, m.mutex.unlock c.thread with
  | some callers, some mutex =>
    some ({ contents, mutex, callers }, ⟨some ⟨c.thread, c.request, answer⟩, reports⟩)
  | _, _ => none

/-- Thread `c.thread` holds the lock and has its turn. -/
def turn (m : Monitor α) (luck : Luck) (c : Caller α) : Option (Monitor α × Shown α) :=
  match c.request.turn m.contents with
  | .leave contents answer sent reports => m.leave luck c contents answer sent reports
  | .wait condition =>
    if luck.wait then
      match m.mutex.release c.thread with
      | some mutex =>
        let wait (d : Caller α) : Caller α :=
          if d.thread = c.thread then { d with stage := .waiting condition } else d
        some ({ m with mutex, callers := m.callers.map wait }, {})
      | none => none
    else
      match c.request.waitFailure m.contents with
      | .leave contents answer sent reports => m.leave luck c contents answer sent reports
      | .wait _ => none

/-- Thread `t`, which is inside an operation, takes the lock and has a turn.  The step is not possible
    while the thread waits or while another thread holds the lock. -/
def step (m : Monitor α) (t : ThreadId) (luck : Luck) : Option (Monitor α × Shown α) :=
  match m.caller? t with
  | none => none
  | some c =>
    match c.stage with
    | .waiting _ => none
    | .entering =>
      if luck.lock then
        match m.mutex.lock t with
        | .locked mutex => { m with mutex }.turn luck c
        | .refused _ | .held => none
      else
        let (answer, reports) := c.request.lockFailure
        some ({ m with callers := m.others t }, ⟨some ⟨t, c.request, answer⟩, reports⟩)
    | .woken _ =>
      match m.mutex.retake t with
      | some mutex => { m with mutex }.turn luck c
      | none => none

/-- Thread `t` wakes up without a signal. -/
def wakeUp (m : Monitor α) (t : ThreadId) : Option (Monitor α) :=
  match m.caller? t with
  | some ⟨_, _, .waiting _⟩ =>
    let wake (c : Caller α) : Caller α := if c.thread = t then { c with stage := .woken false } else c
    some { m with callers := m.callers.map wake }
  | _ => none

end Monitor

/-! ## Runs -/

/-- What can happen at a monitor. -/
inductive Move (α : Type) where
  /-- A thread comes with a request. -/
  | call (thread : ThreadId) (request : Request α)
  /-- A thread has a turn. -/
  | turn (thread : ThreadId) (luck : Luck)
  /-- A waiting thread wakes up without a signal. -/
  | wakeUp (thread : ThreadId)
  deriving DecidableEq, Repr

/-- One move, and what it shows. -/
def Monitor.move (m : Monitor α) : Move α → Option (Monitor α × Shown α)
  | .call t request => (m.call t request).map (·, {})
  | .turn t luck => m.step t luck
  | .wakeUp t => (m.wakeUp t).map (·, {})

/-- A sequence of moves, and what they show. -/
def Monitor.run (m : Monitor α) : List (Move α) → Option (Monitor α × List (Shown α))
  | [] => some (m, [])
  | move :: rest =>
    (m.move move).bind fun (m, shown) => (m.run rest).map fun (m, later) => (m, shown :: later)

/-- The items that were accepted, in order of acceptance. -/
def accepted (shown : List (Shown α)) : List α :=
  shown.filterMap fun s =>
    match s.reply with
    | some ⟨_, .add item, .added⟩ => some item
    | _ => none

/-- The items that were handed out, in order of the takes. -/
def handedOut (shown : List (Shown α)) : List α :=
  shown.filterMap fun s =>
    match s.reply with
    | some ⟨_, _, .taken item⟩ => some item
    | _ => none

end PooledServer.Queue
