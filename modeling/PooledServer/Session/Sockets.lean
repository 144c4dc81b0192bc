import PooledServer.Events.Request
import PooledServer.Net.Frame
import PooledServer.Net.Line

/-!
# Sockets, step by step

    One request on one end of a connected pair in memory, and the far end of the pair.  The socket
    lives until its request is finished; whoever awaits it keeps it open after that.
-/

namespace PooledServer.Session.Sockets

open Net Events

/-- What can be asked of a socket. -/
inductive Call where
  | read (n : Nat)
  | readLine
  | receiveFrame
  | sendFrame (payload : ByteArray)
  | write (data : ByteArray)
  | close
  | hasPending
  | isOpen
  | debug
  | knowsPeer

/-- What can be done in one step. -/
inductive Command where
  | call (c : Call)
  | sameDescriptor
  | eventIndex
  | requestDebug
  | finish
  | finishByPanic
  | intoDescriptor
  | isValid
  | returned
  | farSend (data : ByteArray)
  | farTake
  | farFinish
  | farLeave

/-- The answer of a step. -/
inductive Reply where
  | ok
  | noSocket
  | noPeer
  | flag (b : Bool)
  | number (n : Nat)
  | text (s : String)
  | bytes (b : ByteArray)
  | line (l : Option String)
  | frame (f : Option ByteArray)
  | failed (e : IoError)
  | released (same valid : Bool)
  | returned (sockets : List Socket)
  | received (data : ByteArray) (isEnd : Bool)

/-- The answer of an operation that may fail. -/
def Reply.ofResult {α : Type} (f : α → Reply) : Except IoError α → Reply
  | .ok a => f a
  | .error e => .failed e

/-- Makes one call on a socket. -/
def Call.run {σ : Type} [ByteStream σ] (c : Call) (s : Socket) (stream : σ) : Reply × Socket × σ :=
  match c with
  | .read n => let (r, rest) := s.read stream n; (.ofResult .bytes r, rest)
  | .readLine => let (r, rest) := s.readLine stream; (.ofResult .line r, rest)
  | .receiveFrame => let (r, rest) := s.receiveFrame stream; (.ofResult .frame r, rest)
  | .sendFrame b => let (r, stream) := s.sendFrame stream b; (.ofResult (fun _ => .ok) r, s, stream)
  | .write b => let (r, stream) := s.write stream b; (.ofResult (fun _ => .ok) r, s, stream)
  | .close => let (s, stream, _) := s.close stream; (.ok, s, stream)
  | .hasPending => (.flag s.hasPending, s, stream)
  | .isOpen => (.flag s.isOpen, s, stream)
  | .debug => (.text s.debug, s, stream)
  | .knowsPeer => (.flag s.peer.isSome, s, stream)

/-- A request, the stream of its socket, and the sockets that were given back. -/
structure State where
  request : Option Request
  stream : Duplex := {}
  isValid : Bool := true
  kept : List Socket := []

namespace State

/-- The descriptor of the only socket. -/
def descriptor : Descriptor := 3

/-- A new request on a new pair. -/
def new (eventIndex : Option Nat) : State :=
  let socket : Socket := { descriptor }
  { request := some (match eventIndex with
      | some i => .awaited socket i
      | none => .detached socket) }

/-- The descriptor is released, which the far end sees. -/
def released (s : State) : State :=
  { s with stream := s.stream.abandon, isValid := false }

/-- The request ends. -/
def finish (s : State) (r : Request) : State :=
  let s := { s with request := none }
  match r.finish with
  | some socket => { s with kept := s.kept ++ [socket] }
  | none => s.released

/-- Does what needs the socket. -/
def stepRequest (s : State) (r : Request) : Command → State × Reply
  | .call c =>
    let (reply, socket, stream) := c.run r.socket s.stream
    ({ s with request := some { r with socket }, stream }, reply)
  | .sameDescriptor => (s, .flag (r.socket.descriptor = descriptor))
  | .eventIndex => (s, .number r.eventIndex)
  | .requestDebug => (s, .text r.debug)
  | .finish => (s.finish r, .ok)
  | .finishByPanic => (s.finish r, .flag true)
  | .intoDescriptor =>
    ({ s.released with request := none }, .released (r.socket.descriptor = descriptor) s.isValid)
  | _ => (s, .noSocket)

/-- Does what needs the far end. -/
def stepFar (s : State) (c : Command) : State × Reply :=
  if s.stream.far = .gone then (s, .noPeer)
  else
    match c with
    | .farSend data =>
      let (r, stream) := s.stream.farSend data
      ({ s with stream }, .ofResult (fun _ => .ok) r)
    | .farTake =>
      let (data, isEnd, stream) := s.stream.farTake
      ({ s with stream }, .received data isEnd)
    | .farFinish => ({ s with stream := s.stream.farFinish }, .ok)
    | _ => ({ s with stream := s.stream.farLeave }, .ok)

/-- One step. -/
def step (s : State) (c : Command) : State × Reply :=
  match c with
  | .isValid => (s, .flag s.isValid)
  | .returned => (s, .returned s.kept)
  | .farSend _ | .farTake | .farFinish | .farLeave => s.stepFar c
  | _ =>
    match s.request with
    | some r => s.stepRequest r c
    | none => (s, .noSocket)

end State

end PooledServer.Session.Sockets
