import PooledServer.Net.Socket

/-!
# Requests

    A request is a ready socket on loan to a handler.  However the handler is done with it, returning
    or failing, the socket goes back to whoever awaits it; if nobody does, it is closed.
-/

namespace PooledServer.Events

open Net

/-- A socket on loan.  `isAwaited` says whether an event server takes the socket back, and
    `eventIndex` which event of its batch made it ready. -/
structure Request where
  socket : Socket
  eventIndex : Nat := 0
  isAwaited : Bool := false
  deriving Inhabited

namespace Request

/-- The loan of a socket that an event server takes back. -/
def awaited (socket : Socket) (eventIndex : Nat) : Request :=
  ⟨socket, eventIndex, true⟩

/-- The loan of a socket that nobody takes back. -/
def detached (socket : Socket) : Request :=
  ⟨socket, 0, false⟩

/-- Where the socket of a finished request goes: back, or nowhere and it is closed. -/
def finish (r : Request) : Option Socket :=
  if r.isAwaited then some r.socket else none

/-- The text of a request for people who look for faults. -/
def debug (r : Request) : String :=
  "SocketRequest \x7b fd: Some(" ++ toString r.socket.descriptor ++ "), event_index: "
    ++ toString r.eventIndex ++ " \x7d"

end Request

end PooledServer.Events
