import PooledServer.Work.Thread
import PooledServer.Queue.Basic

/-!
# Replies of sessions with work

    What a step of a session with items, threads, a queue, a worker or a pool answers.
-/

namespace PooledServer.Session

open Work (Item Tag Outcome Ended)

/-- The answer to a step. -/
inductive Reply where
  | ok
  /-- The call goes on in the background. -/
  | started
  | nothing
  | noItem
  | noQueue
  | noPool
  | wouldBlock
  | empty
  | notRunning
  | flag (value : Bool)
  | number (value : Nat)
  | text (value : String)
  | failed (error : PoolError)
  | panicked (message : String)
  | threadFailed (error : SyncError)
  | made (item : Item)
  | taken (item : Item)
  | rejected (item : Item)
  | executed (ended : Ended)
  /-- Executed with a hook. -/
  | hooked (ended : Ended)
  /-- Executed by the routine of a thread, whose flag is shown too. -/
  | routine (outcome : Option Outcome) (alive : Bool)
  | runs (runs : List (Tag × Nat))

/-- The answer of a queue as a reply. -/
def Reply.ofAnswer : Queue.Answer Item → Reply
  | .added => .ok
  | .rejected item => .rejected item
  | .taken item => .taken item
  | .empty => .empty
  | .notRunning => .notRunning
  | .flag value => .flag value
  | .count value => .number value

end PooledServer.Session
