import PooledServer.Events.Request
import PooledServer.Net.Line

/-!
# Request handlers

    A handler works with the socket of a connection and says whether the connection is kept.  With an
    event server a handler is called once for each readiness event and the socket goes back after
    every call; with an accept loop it is called again and again on the same connection.

    Whatever the handler does, the connection ends when it declines, panics, or closes the socket.
-/

namespace PooledServer.Server

open Net Events
open Log (Component)

/-- What a handler says about the connection when it is done. -/
inductive Verdict where
  | keep
  | decline
  | panic (message : String)
  deriving DecidableEq, Repr

/-- What a handler does with a socket and its stream. -/
abbrev RequestHandler (σ : Type) :=
  Socket → σ → Verdict × Socket × σ × List Log.Record

variable {σ : Type} [ByteStream σ]

/-- One call of the handler for one request: the socket as it goes back. -/
def serveRequest (handler : RequestHandler σ) (r : Request) (stream : σ) :
    Socket × σ × List Log.Record :=
  match handler r.socket stream with
  | (.keep, socket, stream, records) => (socket, stream, records)
  | (.decline, socket, stream, records) =>
    let (closed, stream, more) := socket.close stream
    (closed, stream,
      records ++ Component.handler.debug s!"fd {socket.descriptor} released by handler" :: more)
  | (.panic message, socket, stream, records) =>
    let (closed, stream, more) := socket.close stream
    (closed, stream,
      records ++ Component.handler.warn s!"fd {socket.descriptor}: handler panicked: {message}" :: more)

/-- How the work on a connection of an accept loop ended. -/
inductive ConnectionEnd where
  | closed
  | panicked (message : String)
  /-- It has not ended within the calls that were allowed. -/
  | unfinished
  deriving DecidableEq, Repr

/-- At most `calls` calls of the handler on a connection, until it is over. -/
def serveConnection (handler : RequestHandler σ) (socket : Socket) (stream : σ) :
    Nat → ConnectionEnd × Socket × σ × List Log.Record
  | 0 => (.unfinished, socket, stream, [])
  | calls + 1 =>
    let finish (socket : Socket) (stream : σ) (records : List Log.Record) :=
      let (socket, stream, more) := socket.close stream
      (ConnectionEnd.closed, socket, stream, records ++ more)
    if socket.isOpen then
      match handler socket stream with
      | (.keep, socket, stream, records) =>
        let (ended, socket, stream, more) := serveConnection handler socket stream calls
        (ended, socket, stream, records ++ more)
      | (.decline, socket, stream, records) => finish socket stream records
      | (.panic message, socket, stream, records) =>
        (.panicked message, socket, ByteStream.shutDown stream, records)
    else finish socket stream []

/-! ## Requests as work -/

/-- What becomes of the work item that carries a request. -/
inductive Fate where
  /-- A worker of the pool executes it. -/
  | onWorker
  /-- It is executed at once, because there is no pool. -/
  | inline
  /-- The pool does not take it. -/
  | rejected
  /-- It is destroyed with the queue that it waits in. -/
  | discarded
  deriving DecidableEq, Repr

/-- Whether the handler is called. -/
def Fate.isExecuted : Fate → Bool
  | onWorker | inline => true
  | rejected | discarded => false

end PooledServer.Server
