import PooledServer.Events.Create
import PooledServer.Server.Handler
import PooledServer.Work.Thread

/-!
# Serving the requests of an event server

    A service makes a work item of every request that an event server hands out: a closure that owns the
    request.  The pool queues the item or refuses it; without a pool it is executed at once.  A queued
    item is executed by a worker, step by step, or destroyed with its queue.

    The closure calls the handler when it begins to run.  When the closure is destroyed, after it has run
    or without, its request is destroyed with it, and the socket goes back to the event server.
-/

namespace PooledServer.Server

open Net
open Events (Request)
open Work (TaskId Item Execution)
open Log (Component)

/-- What can be seen of the requests of a service. -/
inductive ServiceNote where
  /-- A work item has been made for a request. -/
  | made (id : TaskId) (request : Request)
  /-- The handler was called; it left the socket open or closed. -/
  | called (id : TaskId) (verdict : Verdict) (isOpen : Bool)
  /-- The socket has gone back to the event server, on the given thread. -/
  | handedBack (id : TaskId) (fate : Fate) (thread : ThreadId) (socket : Socket)
  | log (record : Log.Record)

/-- The work item of a request: a closure that returns. -/
def carrier (id : TaskId) : Item :=
  ⟨id, .mk (.numbered id) .closure none [] .returns, none⟩

/-- The item of a request, and what the handler has made of the request's socket. -/
structure Errand where
  request : Request
  execution : Execution
  isOpen : Bool
  pending : ByteArray

namespace Errand

/-- A request for which an item has been made. -/
def new (id : TaskId) (r : Request) : Errand :=
  { request := r, execution := { item := carrier id }
    isOpen := r.socket.isOpen, pending := r.socket.pending }

/-- The number of the item. -/
def id (e : Errand) : TaskId := e.execution.item.id

/-- The socket as it is now. -/
def socket (e : Errand) : Socket :=
  { e.request.socket with isOpen := e.isOpen, pending := e.pending }

/-- The closure is still there, and so is its request. -/
def owns (e : Errand) : Bool :=
  match e.execution.phase with
  | .ready | .acting .. | .offering .. => true
  | .ran _ | .hooked _ | .concluded _ => false

/-- The closure begins to run. -/
def begins (notes : List Work.Note) : Bool :=
  notes.any fun n => n matches .begun ..

/-- The closure is destroyed. -/
def isDropped (notes : List Work.Note) : Bool :=
  notes.any fun n => n matches .event (.dropped _)

end Errand

/-- An event server with its service: the items that were queued, and the stream of each connection.
    The event server keeps the requests of the items in the order of `errands`. -/
structure Service (σ : Type) where
  hub : Events.State
  streams : Nat → σ
  errands : List Errand := []
  nextId : TaskId := 1

/-- What the pool does with the item of a new request. -/
inductive Reception where
  | queued
  | refused
  /-- There is no pool. -/
  | alone
  deriving DecidableEq, Repr

/-- What can happen to a service. -/
inductive ServiceMove (σ : Type) where
  /-- The event server moves by itself. -/
  | hub (move : Events.Move)
  /-- A thread of the event server hands its next request out. -/
  | dispatch (thread : ThreadId) (reception : Reception)
  /-- The execution of a queued item goes on. -/
  | work (place : Nat)
  /-- An item that waits is destroyed with its queue. -/
  | destroy (place : Nat)
  /-- The system changes the stream of a connection. -/
  | stream (connection : Nat) (stream : σ)

namespace Service

/-- A service that has not begun to serve. -/
def new {σ : Type} (listener : Descriptor) (streams : Nat → σ) : Service σ :=
  { hub := .new listener, streams }

/-- The service with another stream for a connection. -/
def setStream {σ : Type} (s : Service σ) (connection : Nat) (stream : σ) : Service σ :=
  { s with streams := fun n => if n = connection then stream else s.streams n }

/-- Moves of an event server that have nothing to do with its requests. -/
def isOwn (hub : Events.State) : Events.Move → Bool
  | .step t _ => !(hub.agenda? t matches some (.serve _ :: _))
  | .complete .. => false
  | _ => true

variable {σ : Type} [ByteStream σ]

/-- The handler is called for a request. -/
def call (handler : RequestHandler σ) (s : Service σ) (e : Errand) :
    Service σ × Errand × List ServiceNote :=
  let connection := e.request.socket.connection
  let (verdict, left, _, _) := handler e.socket (s.streams connection)
  let (socket, stream, records) :=
    serveRequest handler { e.request with socket := e.socket } (s.streams connection)
  (s.setStream connection stream, { e with isOpen := socket.isOpen, pending := socket.pending },
    .called e.id verdict left.isOpen :: records.map .log)

/-- The handler is called if the closure begins to run. -/
def heed (handler : RequestHandler σ) (s : Service σ) (e : Errand) (notes : List Work.Note) :
    Service σ × Errand × List ServiceNote :=
  if Errand.begins notes then s.call handler e else (s, e, [])

/-- Thread `t` makes an item for its next request, which meets its fate before the thread does anything
    else; `said` is what the pool's answer gives rise to. -/
def atOnce (handler : RequestHandler σ) (s : Service σ) (t : ThreadId) (r : Request) (fate : Fate)
    (said : List Log.Record) (notes : List Work.Note) : Option (Service σ × List ServiceNote) :=
  let (s, e, later) := { s with nextId := s.nextId + 1 }.heed handler (.new s.nextId r) notes
  if Errand.isDropped notes then
    (s.hub.step t { handling := .finishes e.isOpen e.pending none }).map fun (hub, _) =>
      ({ s with hub },
        .made e.id r :: (later ++ said.map .log ++ [.handedBack e.id fate t e.socket]))
  else none

/-- What is said about an item that was executed without a pool. -/
def inlineRecords (item : Item) : Option Work.Ended → List Log.Record
  | some (.returned (.panicked message)) =>
    [Component.handler.warn s!"{item.name} panicked: {message}"]
  | _ => []

/-- Thread `t` hands its next request out. -/
def dispatch (handler : RequestHandler σ) (s : Service σ) (t : ThreadId) (reception : Reception) :
    Option (Service σ × List ServiceNote) :=
  match s.hub.agenda? t with
  | some (.serve r :: _) =>
    let item := carrier s.nextId
    match reception with
    | .queued =>
      (s.hub.step t { handling := .keeps }).map fun (hub, _) =>
        ({ s with hub, errands := s.errands ++ [.new s.nextId r], nextId := s.nextId + 1 },
          [.made item.id r])
    | .refused =>
      let said := Component.handler.warn s!"pool not accepting work: {item.rejection}"
      s.atOnce handler t r .rejected [said] item.discard
    | .alone =>
      let (_, ended, notes) := Work.execute (fun _ => []) {} item
      (s.atOnce handler t r .inline [] notes).map fun (s, seen) =>
        (s, seen ++ (inlineRecords item ended).map .log)
  | _ => none

/-- The place of an item's request among those that the event server keeps. -/
def rank (s : Service σ) (place : Nat) : Nat :=
  (s.errands.take place).countP Errand.owns

/-- The execution of a queued item goes on. -/
def work (handler : RequestHandler σ) (s : Service σ) (place : Nat) :
    Option (Service σ × List ServiceNote) :=
  s.errands[place]?.bind fun e => (e.execution.step {}).bind fun (_, execution, notes) =>
    let (after, e, later) := s.heed handler { e with execution } notes
    let after := { after with errands := s.errands.set place e }
    if Errand.isDropped notes then
      (s.hub.complete (s.rank place) e.isOpen e.pending).map fun hub =>
        ({ after with hub }, later ++ [.handedBack e.id .onWorker s.hub.nextThread e.socket])
    else some (after, later)

/-- An item that waits is destroyed with its queue. -/
def destroy (s : Service σ) (place : Nat) : Option (Service σ × List ServiceNote) :=
  s.errands[place]?.bind fun e =>
    match e.execution.phase with
    | .ready =>
      let after := { s with errands := s.errands.eraseIdx place }
      if Errand.isDropped e.execution.item.discard then
        (s.hub.complete (s.rank place) e.isOpen e.pending).map fun hub =>
          ({ after with hub }, [.handedBack e.id .discarded s.hub.nextThread e.socket])
      else some (after, [])
    | _ => none

/-- One move of a service, and what can be seen of it. -/
def move (handler : RequestHandler σ) (s : Service σ) :
    ServiceMove σ → Option (Service σ × List ServiceNote)
  | .hub m =>
    if isOwn s.hub m then (s.hub.move m).map fun (hub, _) => ({ s with hub }, []) else none
  | .dispatch t reception => s.dispatch handler t reception
  | .work place => s.work handler place
  | .destroy place => s.destroy place
  | .stream connection stream => some (s.setStream connection stream, [])

end Service

end PooledServer.Server
