import PooledServer.Pool.Schedule
import PooledServer.Server.Step

/-!
# A session with a server

    A server is started, stopped and set to serve.  Its port may be a free one, or one that somebody
    else listens on.  Once it serves, only clients remain; on a host without a network none of them
    gets a connection.
-/

namespace PooledServer.Session.Servers

open Net
open Work (Note)
open PooledServer.Server (Answer Opening Outcome)

/-- Which port the server is to have. -/
inductive Port where
  | free
  | taken
  | fixed (port : UInt16)

/-- One step. -/
inductive Command where
  | setHandler
  | start
  /-- Starts while the process may open no descriptor. -/
  | startWithoutDescriptors
  /-- Starts and serves, and answers the exit code of a start that fails. -/
  | run
  | runInBackground
  | serve
  | shutdown
  /-- Whoever listens on the port stops; the answer is whether nobody was told so before. -/
  | freeTaken
  | fault (fault : Sync.Fault)
  | state
  | calls
  | settle
  /-- A client connects. -/
  | connect
  /-- A client uses its connection. -/
  | useConnection

/-- The answer of a step. -/
inductive Reply where
  | ok
  | started
  | notUp
  | failed (e : ServerError)
  | exit (code : Nat)
  | flag (b : Bool)
  | number (n : Nat)
  | refused (e : IoError)
  | noConnection

/-- A server, its host and the failures that await it. -/
structure State where
  server : Server.State
  host : Host
  faults : Sync.Faults
  /-- Where somebody else listens. -/
  taken : Option Endpoint := none
  /-- The port was given up: whoever may listen on it has been told to stop. -/
  isGivenUp : Bool := false
  isServing : Bool := false

/-- What can be seen of a server. -/
structure View where
  isInitialized : Bool
  mode : Option ServerMode
  workers : Nat
  bound : Option Endpoint
  keepsPort : Option Bool
  poolSize : Nat

namespace State

/-- A session with a new server; somebody may have to listen on its port first. -/
def new (config : Config) (port : Port) (freePort : UInt16) (hasHandler : Bool) (faults : Sync.Faults) :
    Except IoError State :=
  let host : Host := {}
  match port with
  | .fixed port => .ok { server := .new { config with port } hasHandler, host, faults }
  | .free => do
    let _ ← host.listen { address := config.bindAddress, port := freePort }
    pure { server := .new { config with port := freePort } hasHandler, host, faults }
  | .taken => do
    let (taken, host) ← host.listen { address := config.bindAddress, port := freePort }
    pure { server := .new { config with port := freePort } hasHandler, host, faults, taken := some taken }

/-- What the host does when the server opens its listener. -/
def opening (s : State) : Opening × Host :=
  let queue := if s.host.canOpen then none else some tooManyOpenFiles
  match s.host.listen s.server.config.listenEndpoint with
  | .ok (bound, host) => ({ queue, listener := .ok bound }, host)
  | .error e => ({ queue, listener := .error e }, s.host)

/-- Lets the pool run until all of its threads wait or have ended. -/
def settlePool (s : State) : State × List Note :=
  match s.server.anyPool with
  | none => (s, [])
  | some pool =>
    let (setting, notes) := Pool.Setting.settle ⟨pool, s.faults⟩
    ({ s with server := s.server.setPool setting.state, faults := setting.faults }, notes)

/-- Takes over what a step of the server has left. -/
def absorb (s : State) (o : Outcome) : State :=
  { s with server := o.server, faults := o.faults }

/-- Goes on with a call until it has come to its end, at most so many times. -/
def finish (s : State) (notes : List Note) (answer : Option Answer) :
    Nat → State × List Note × Option Answer
  | 0 => (s, notes, answer)
  | fuel + 1 =>
    let (s, ran) := s.settlePool
    let (opening, host) := s.opening
    match s.server.advance opening s.faults with
    | none => (s, notes ++ ran, answer)
    | some o =>
      let s := if o.server.isInitialized && !s.server.isInitialized then { s with host } else s
      (s.absorb o).finish (notes ++ ran ++ o.notes) o.answer fuel

/-- Makes a call and waits for its end. -/
def call (s : State) (o : Outcome) : State × List Note × Option Answer :=
  (s.absorb o).finish o.notes o.answer 4

/-- Starts the server. -/
def start (s : State) : State × List Note × Except ServerError Unit :=
  match s.call (s.server.start s.faults) with
  | (s, notes, some (.started outcome)) => (s, notes, outcome)
  | (s, notes, _) => (s, notes, .ok ())

/-- Why a client gets no connection. -/
def refusal (s : State) : Reply := .refused s.host.connectFailure

/-- One step. -/
def step (s : State) (command : Command) : State × Reply × List Note :=
  match command with
  | .setHandler => ({ s with server := { s.server with hasHandler := true } }, .ok, [])
  | .start =>
    match s.start with
    | (s, notes, .ok ()) => (s, .ok, notes)
    | (s, notes, .error e) => (s, .failed e, notes)
  | .startWithoutDescriptors =>
    let (after, notes, outcome) := { s with host := { s.host with canOpen := false } }.start
    let after := { after with host := { after.host with canOpen := true } }
    match outcome with
    | .ok () => (after, .ok, notes)
    | .error e => (after, .failed e, notes)
  | .run =>
    match s.start with
    | (s, notes, .ok ()) => (s, .exit 0, notes)
    | (s, notes, .error e) => (s, .exit 1, notes ++ [.log (Server.startupFailure e)])
  | .runInBackground =>
    let (s, notes, _) := s.start
    ({ s with isServing := true }, .notUp, notes)
  | .serve =>
    match s.server.serve with
    | .ok records => ({ s with isServing := true }, .started, records.map .log)
    | .error e => (s, .failed e, [])
  | .shutdown =>
    let (s, notes, _) := s.call (s.server.stop s.faults)
    (s, .ok, notes)
  | .freeTaken =>
    let host := (s.taken.map s.host.release).getD s.host
    ({ s with host, taken := none, isGivenUp := true }, .flag !s.isGivenUp, [])
  | .fault fault => ({ s with faults := s.faults ++ [fault] }, .ok, [])
  | .state => (s, .ok, [])
  | .calls => (s, .number 0, [])
  | .settle => (s, .flag true, [])
  | .connect => (s, s.refusal, [])
  | .useConnection => (s, .noConnection, [])

/-- What can be seen of the server. -/
def view (s : State) : View :=
  let bound := s.server.listening.map (·.bound)
  { isInitialized := s.server.isInitialized, mode := s.server.mode, workers := s.server.workerCount
    bound, keepsPort := bound.map (·.port == s.server.config.port)
    poolSize := s.server.config.threadPoolSize.toNat }

end State

end PooledServer.Session.Servers
