import PooledServer.Log

/-!
# The work queue

    A first-in first-out queue that threads share.  It runs until it is shut down, and a shut-down
    queue neither accepts items nor hands them out.

    This file has the queue's side of every request: what one turn under the lock does.  A turn either
    answers the request or finds that the thread has to wait on one of two conditions:

    * `notEmpty`, signalled to one waiter when an item arrives at an empty queue or a take leaves items
      behind, and to all at shutdown;
    * `drained`, signalled to all when a take leaves the queue empty, and at shutdown.
-/

namespace PooledServer.Queue

variable {α : Type}

/-- What the queue's lock protects. -/
structure Contents (α : Type) where
  items : List α := []
  running : Bool := true
  deriving DecidableEq, Repr

/-- What threads wait for. -/
inductive Condition where
  | notEmpty
  | drained
  deriving DecidableEq, Repr

/-- What a thread asks of the queue. -/
inductive Request (α : Type) where
  | add (item : α)
  /-- Take the first item; `block` tells whether to wait for one. -/
  | take (block : Bool)
  | shutDown
  /-- Wait until all items are taken, then shut down in the same turn. -/
  | shutDownWhenDrained
  | waitUntilEmpty
  | size
  | isRunning
  deriving DecidableEq, Repr

/-- What the queue answers. -/
inductive Answer (α : Type) where
  | added
  /-- The item is handed back. -/
  | rejected (item : α)
  | taken (item : α)
  | empty
  | notRunning
  | flag (value : Bool)
  | count (value : Nat)
  deriving DecidableEq, Repr

/-- Wake one waiter, if there is one, or all. -/
inductive Signal where
  | one (condition : Condition)
  | all (condition : Condition)
  deriving DecidableEq, Repr

/-- What the queue has to tell about a turn. -/
inductive Report (α : Type) where
  | lockFailedInAdd (item : α)
  | lockFailedInTake
  | lockFailedInShutDown
  | lockFailedInDrain
  | waitFailedInTake
  | waitFailedInDrain
  | rejectedAfterShutDown (item : α)
  | shutDown (pending : Nat)
  | drained (pending : Nat)
  deriving DecidableEq, Repr

/-- How a turn under the lock ends. -/
inductive Turn (α : Type) where
  /-- The lock is given up until the condition is signalled. -/
  | wait (condition : Condition)
  /-- The request is answered. -/
  | leave (contents : Contents α) (answer : Answer α) (signals : List Signal) (reports : List (Report α))
  deriving DecidableEq, Repr

/-- A request that changes nothing and tells nothing. -/
def Turn.same (c : Contents α) (answer : Answer α) : Turn α :=
  .leave c answer [] []

/-- Both conditions are signalled to all at shutdown. -/
def closingSignals : List Signal := [.all .notEmpty, .all .drained]

/-- Closing a running queue, with the report that goes with it. -/
def Contents.close (c : Contents α) (reports : List (Report α)) : Turn α :=
  .leave { c with running := false } (.flag true) closingSignals reports

/-- The first item goes to the thread whose turn it is. -/
def Contents.handOut (c : Contents α) : Turn α :=
  match c.items with
  | [] => .same c .empty
  | [item] => .leave { c with items := [] } (.taken item) [.all .drained] []
  | item :: rest => .leave { c with items := rest } (.taken item) [.one .notEmpty] []

namespace Request

/-- The turn of a request when its thread holds the lock.  A thread that has waited begins again. -/
def turn (c : Contents α) : Request α → Turn α
  | add item =>
    if c.running then
      let signals := if c.items.isEmpty then [.one .notEmpty] else []
      .leave { c with items := c.items ++ [item] } .added signals []
    else .leave c (.rejected item) [] [.rejectedAfterShutDown item]
  | take block =>
    if c.running then
      if block && c.items.isEmpty then .wait .notEmpty else c.handOut
    else .same c .notRunning
  | shutDown =>
    if c.running then c.close [.shutDown c.items.length] else .same c (.flag false)
  | shutDownWhenDrained =>
    if c.running then
      if c.items.isEmpty then c.close [.drained 0] else .wait .drained
    else .same c (.flag false)
  | waitUntilEmpty =>
    if c.running && !c.items.isEmpty then .wait .drained else .same c (.flag c.items.isEmpty)
  | size => .same c (.count c.items.length)
  | isRunning => .same c (.flag c.running)

/-- The answer when the lock cannot be taken, and what is told about it. -/
def lockFailure : Request α → Answer α × List (Report α)
  | add item => (.rejected item, [.lockFailedInAdd item])
  | take _ => (.notRunning, [.lockFailedInTake])
  | shutDown => (.flag false, [.lockFailedInShutDown])
  | shutDownWhenDrained => (.flag false, [.lockFailedInDrain])
  | waitUntilEmpty => (.flag false, [])
  | size => (.count 0, [])
  | isRunning => (.flag false, [])

/-- The end of a turn whose wait has failed at once.  A drain that cannot wait closes the queue as it
    stands; every other request leaves it alone. -/
def waitFailure (c : Contents α) : Request α → Turn α
  | take _ => .leave c .notRunning [] [.waitFailedInTake]
  | shutDownWhenDrained => c.close [.waitFailedInDrain, .drained c.items.length]
  | waitUntilEmpty => .same c (.flag false)
  | r => .same c r.lockFailure.1

end Request

/-- The log record of a report of queue `name`; `label` names the items. -/
def Report.record (name : String) (label : α → String) : Report α → Log.Record
  | lockFailedInAdd item => Log.Component.queue.error s!"queue '{name}': lock failed, rejecting {label item}"
  | lockFailedInTake => Log.Component.queue.error s!"queue '{name}': lock failed in take"
  | lockFailedInShutDown => Log.Component.queue.error s!"queue '{name}': lock failed in shut_down"
  | lockFailedInDrain => Log.Component.queue.error s!"queue '{name}': lock failed in shut_down_when_drained"
  | waitFailedInTake => Log.Component.queue.error s!"queue '{name}': wait failed"
  | waitFailedInDrain => Log.Component.queue.error s!"queue '{name}': drain wait failed"
  | rejectedAfterShutDown item =>
    Log.Component.queue.debug s!"queue '{name}': shut down, rejecting {label item}"
  | shutDown pending => Log.Component.queue.debug s!"queue '{name}' shut down with {pending} pending"
  | drained pending => Log.Component.queue.debug s!"queue '{name}' drained and shut down ({pending} pending)"

end PooledServer.Queue
