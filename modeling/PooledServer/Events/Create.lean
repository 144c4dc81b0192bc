import PooledServer.Error
import PooledServer.Events.Step
import PooledServer.Sync.Call

/-!
# Making an event server

    An event server needs a mutex around its table, a listener that does not wait, and a backend that
    watches the listener.
-/

namespace PooledServer.Events

open Net

/-- The name of the mutex around the table. -/
def tableMutexName : String := "kernel-event-tracked"

/-- The state of a new server. -/
def State.new (listener : Descriptor) : State :=
  { listener, kernel := ({} : Kernel).openFile listener .listener |>.watch listener }

/-- Makes a server over a listener; the listener may refuse not to wait, and the backend to watch. -/
def State.create (listener : Descriptor) (faults : Sync.Faults) (nonBlocking watch : Option IoError) :
    List Work.Note × Sync.Faults × List Note × Except ServerError State :=
  let (made, faults, mutex) := Sync.createMutex tableMutexName faults
  match mutex with
  | .error e => (made, faults, [], .error (.ofSync e))
  | .ok _ =>
    match nonBlocking with
    | some e => (made, faults, [], .error (.io e))
    | none =>
      match watch with
      | some e => (made, faults, [.addWatch listener], .error (.io e))
      | none => (made, faults, [.addWatch listener], .ok (State.new listener))

end PooledServer.Events
