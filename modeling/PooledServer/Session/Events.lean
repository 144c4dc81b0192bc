import PooledServer.Events.Schedule
import PooledServer.Net.Host

/-!
# A session with an event server

    An event server on a listener of its own, with a backend that plays a script of events.  On a host
    without a network no connection ever arrives, so the events are of the listener and of descriptors
    that the server does not track.
-/

namespace PooledServer.Session.Events

open Net
open PooledServer.Events

/-- What an event is of. -/
inductive Place where
  | listener
  | connection (name : String)
  | number (d : Descriptor)

/-- A number beyond those that the system gives to descriptors.  Descriptors that are known by a name
    have such numbers, so that no number in a script stands for them. -/
def firstNamed : Descriptor := 0x100000000

/-- The listener's descriptor. -/
def listenerDescriptor : Descriptor := firstNamed

/-- A number that is not open; it stands for every connection that was not accepted. -/
def unusedDescriptor : Descriptor := firstNamed + 1

/-- How descriptors are called. -/
def nameOf (d : Descriptor) : String :=
  if d = listenerDescriptor then "listener"
  else if d = unusedDescriptor then "unused"
  else toString d

/-- The descriptor of a place. -/
def Place.descriptor : Place → Descriptor
  | listener => listenerDescriptor
  | connection _ => unusedDescriptor
  | number d => d

/-- How a session begins. -/
structure Plan where
  capacity : Nat := 32
  faults : Sync.Faults := []
  watchFaults : List WatchFault := []
  waitErrno : Int := 5

/-- One step. -/
inductive Command where
  /-- A client connects. -/
  | connect
  | events (batches : List (List (Place × EventFlags)))
  /-- Ends a request that the handler keeps. -/
  | finish
  /-- Uses the socket of a request that the handler keeps. -/
  | useRequest
  /-- Does something as a client. -/
  | useClient
  /-- Asks for something of an accepted connection. -/
  | useConnection
  | setHandler
  | breakListener
  | lockFault (nth : Nat)
  | watchFault (fault : WatchFault)
  | backendName
  | isBusy (d : Descriptor)

/-- The answer of a step. -/
inductive Reply where
  | ok
  | nothing
  /-- No connection can be opened; the session ends. -/
  | unreachable (e : IoError)
  | noRequest
  | noConnection
  | failed (e : ServerError)
  | flag (b : Bool)
  | text (s : String)

/-- A server and the script it runs by. -/
structure State where
  setting : Setting
  /-- Where the listener listens, while it is one. -/
  address : Option Endpoint
  capacity : Nat
  waitErrno : Int
  host : Host

namespace State

/-- The name of the scripted backend. -/
def backend : String := "scripted"

/-- Where the listener listens. -/
def endpoint (port : UInt16) : Endpoint := { address := .loopback, port }

/-- A session with a new server: log records, backend calls, and the session. -/
def new (plan : Plan) (port : UInt16) :
    List Log.Record × List Note × Except ServerError State :=
  let asked := 16
  let opened := listeningRecord (endpoint port) (nameOf listenerDescriptor) asked
  let (struck, watchFaults) := WatchFault.meet .add (nameOf listenerDescriptor) plan.watchFaults
  let (made, faults, notes, server) := PooledServer.Events.State.create listenerDescriptor plan.faults none struck
  let withStreams (s : PooledServer.Events.State) : PooledServer.Events.State :=
    { s with kernel := [0, 1, 2].foldl (fun k n => k.openFile (Int.ofNat n) (.other n)) s.kernel }
  (opened :: Work.Note.records made, notes, server.map fun state =>
    { setting := { state := withStreams state, name := nameOf, faults, watchFaults }
      address := some (endpoint port)
      capacity := eventRoom plan.capacity, waitErrno := plan.waitErrno, host := {} })

/-- One step. -/
def step (s : State) (command : Command) : State × Reply × List Note :=
  match command with
  | .connect => (s, .unreachable s.host.connectFailure, [])
  | .events batches =>
    let batches := batches.map fun b => b.map fun (p, flags) =>
      (⟨p.descriptor, Readiness.classify flags⟩ : Event)
    let (setting, notes, e) :=
      s.setting.run s.capacity backend s.address batches (.system s.waitErrno)
    ({ s with setting }, .failed e, notes)
  | .finish => (s, .flag false, [])
  | .useRequest => (s, .noRequest, [])
  | .useClient => (s, .noConnection, [])
  | .useConnection => (s, .nothing, [])
  | .setHandler => (s, .ok, [])
  | .breakListener =>
    let setting := { s.setting with arrival := .failed (.system 88) }
    ({ s with setting, address := none }, .flag true, [])
  | .lockFault nth =>
    let fault : Sync.Fault := { primitive := .lock, object := some tableMutexName, left := nth }
    ({ s with setting := { s.setting with faults := s.setting.faults ++ [fault] } }, .ok, [])
  | .watchFault fault =>
    ({ s with setting := { s.setting with watchFaults := s.setting.watchFaults ++ [fault] } }, .ok, [])
  | .backendName => (s, .text backend, [])
  | .isBusy d =>
    let (luck, setting) := s.setting.lockLuck
    let busy := if luck.lock then setting.state.isBusy? d else none
    ({ s with setting }, busy.elim .nothing .flag, [])

/-- The log records among notes. -/
def records (notes : List Note) : List Log.Record :=
  notes.filterMap fun n => match n with
    | .report r => some (r.record nameOf)
    | _ => none

end State

end PooledServer.Session.Events
