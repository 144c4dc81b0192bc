import PooledServer.Events.Kernel
import PooledServer.Net.Host

/-!
# A session with a readiness queue

    Connections are watched for readiness and waited for.  On a host without a network there are no
    connections, so only descriptors that are not connections can be named to the readiness queue.
-/

namespace PooledServer.Session.Watches

open Net
open Events (Kernel)

/-- The host, and what the system knows of this session's files.  None is open in the beginning. -/
structure State where
  host : Host := {}
  kernel : Kernel := {}

/-- One step. -/
inductive Command where
  /-- Opens a connection. -/
  | connect
  /-- Does something with a connection. -/
  | use
  | watchDescriptor (d : Descriptor)
  | unwatchDescriptor (d : Descriptor)
  /-- Opens a plain file, tries to watch it, and closes it. -/
  | watchFile
  | wait (room : Nat)
  | capacity (asked : Nat)
  | name

/-- The answer of a step. -/
inductive Reply where
  /-- No connection can be opened; the session ends. -/
  | unreachable (e : IoError)
  | noConnection
  | done
  | failed (e : IoError)
  | wouldBlock
  | events (reports : List (Descriptor × EventFlags))
  | number (n : Nat)
  | text (s : String)

/-- The number that a plain file is opened under. -/
def fileNumber : Descriptor := 3

/-- Of the files of this session, which are plain ones, none can be watched. -/
def poll : Events.Poll
  | .other _ => none
  | .listener | .connection _ => some {}

/-- The session after a call on the readiness queue. -/
def State.called (s : State) : Except IoError Kernel → State × Reply
  | .ok kernel => ({ s with kernel }, .done)
  | .error e => (s, .failed e)

def State.step (s : State) : Command → State × Reply
  | .connect => (s, .unreachable s.host.connectFailure)
  | .use => (s, .noConnection)
  | .watchDescriptor d => s.called (s.kernel.addReadWatch poll d)
  | .unwatchDescriptor d => s.called (s.kernel.removeReadWatch poll d)
  | .watchFile =>
    let opened := s.kernel.openFile fileNumber (.other 0)
    s.called ((opened.addReadWatch poll fileNumber).map (·.close fileNumber))
  | .wait room =>
    (s, match s.kernel.waitForEvents poll (Events.eventRoom room) with
      | none => .wouldBlock
      | some reports => .events reports)
  | .capacity asked => (s, .number (Events.eventRoom asked))
  | .name => (s, .text Events.queueName)

end PooledServer.Session.Watches
