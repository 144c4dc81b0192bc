import PooledServer.Pool.Step
import PooledServer.Sync.Call

/-!
# Making queues and pools

    A queue needs a mutex and two condition variables, all named after it.  A pool needs a queue and at
    least one worker to be made for.
-/

namespace PooledServer

open Work (Note)
open Log (Component)

namespace Queue

def mutexName (queueName : String) : String := queueName ++ "-lock"

/-- The name of the condition variable behind a condition. -/
def conditionName (queueName : String) : Condition → String
  | .notEmpty => queueName ++ "-not-empty"
  | .drained => queueName ++ "-drained"

/-- Makes a running, empty queue. -/
def create {α : Type} (name : String) (faults : Sync.Faults) :
    List Note × Sync.Faults × Except SyncError (Monitor α) :=
  let (notes, faults, mutex) := Sync.createMutex (mutexName name) faults
  match mutex with
  | .error e => (notes, faults, .error e)
  | .ok mutex =>
    let (notes', faults, first) := Sync.createCondition (conditionName name .notEmpty) faults
    match first with
    | .error e => (notes ++ notes', faults, .error e)
    | .ok () =>
      let (notes'', faults, second) := Sync.createCondition (conditionName name .drained) faults
      (notes ++ notes' ++ notes'', faults, second.map fun () => { mutex })

/-- What destroying a queue leaves behind: its items go unexecuted. -/
def destroy (name : String) (contents : Contents Work.Item) : List Note :=
  let lost := contents.items.length
  let warning : List Note :=
    if lost = 0 then []
    else [.log (Component.queue.warn s!"queue '{name}' dropped with {lost} unexecuted items")]
  warning ++ contents.items.flatMap Work.Item.discard

end Queue

namespace Pool

/-- A pool that has not been started. -/
def create (name : String) (size : UInt64) (faults : Sync.Faults)
    (arithmetic : Arithmetic := .checked) :
    List Note × Sync.Faults × Except PoolError State :=
  if size = 0 then ([], faults, .error (.invalidArgument "thread pool needs at least one worker"))
  else
    let queueName := name ++ "-queue"
    let (notes, faults, monitor) := Queue.create queueName faults
    match monitor with
    | .error e => (notes, faults, .error (.sync e))
    | .ok monitor => (notes, faults, .ok { name, queueName, monitor, size, arithmetic })

end Pool

end PooledServer
