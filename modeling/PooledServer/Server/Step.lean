import PooledServer.Server.Basic

/-!
# Steps of a server

    Starting checks the handler and the settings, starts a pool unless there is one or none is wanted,
    and opens the listener.  Only a readiness queue that cannot be made lowers the mode to the accept
    loop; every other failure ends the start, and the server is as it was, except that a pool that has
    been started stays.
-/

namespace PooledServer.Server

open Net
open Work (Note)
open Log (Component)

/-- The name of a server's pool. -/
def poolName : String := "sockserve"

/-- The answer of a call that has come to its end. -/
inductive Answer where
  | started (outcome : Except ServerError Unit)
  | stopped

/-- What a step leaves: the server, what the primitives still do, notes, and an answer if a call has
    come to its end. -/
structure Outcome where
  server : State
  faults : Sync.Faults := []
  notes : List Note := []
  answer : Option Answer := none

namespace State

/-- The first check of a start that fails. -/
def objection (s : State) : Option ServerError :=
  if s.hasHandler then
    match s.config.validate with
    | .ok () => none
    | .error e => some (.config e)
  else some (.config .noHandler)

/-- A start begins. -/
def start (s : State) (faults : Sync.Faults) : Outcome :=
  if s.isInitialized then { server := s, faults, answer := some (.started (.ok ())) }
  else
    match s.objection with
    | some e => { server := s, faults, answer := some (.started (.error e)) }
    | none =>
      let s := { s with threshold := s.config.logLevel }
      if s.pool.isNone && s.config.threadPoolSize != 0 then
        match Pool.create poolName s.config.threadPoolSize faults with
        | (notes, faults, .error e) =>
          { server := s, faults, notes, answer := some (.started (.error (.pool e))) }
        | (notes, faults, .ok pool) =>
          { server := { s with phase := .starting (pool.order .start) pool.nextThread }, faults, notes }
      else { server := { s with phase := .opening }, faults }

/-- The listener is opened in the given mode. -/
def listen (s : State) (mode : ServerMode) (opening : Opening) (faults : Sync.Faults) :
    Sync.Faults × List Note × Except ServerError Listening :=
  let e := s.config.listenEndpoint
  match opening.listener with
  | .error reason => (faults, [], .error (.io reason))
  | .ok bound =>
    let opened : Note :=
      .log (listeningRecord e (toString opening.descriptor) s.config.maxConnections.toNat)
    match mode with
    | .acceptLoop => (faults, [opened], .ok (.acceptLoop bound))
    | .kernelEvents =>
      match Events.State.create opening.descriptor faults opening.nonBlocking opening.watch with
      | (made, faults, _, .ok hub) => (faults, opened :: made, .ok (.kernelEvents bound hub))
      | (made, faults, _, .error reason) => (faults, opened :: made, .error reason)

/-- The mode that the system allows, and what is to be said about it. -/
def allowedMode (s : State) (opening : Opening) : ServerMode × List Note :=
  match s.config.serverMode, opening.queue with
  | .kernelEvents, some e =>
    (.acceptLoop, [.log (Component.server.warn s!"kernel event backend creation failed: {e.message}"),
      .log (Component.server.warn "kernel events unavailable, falling back to accept loop")])
  | mode, _ => (mode, [])

/-- A start opens the listener and comes to its end. -/
def openListener (s : State) (opening : Opening) (faults : Sync.Faults) : Outcome :=
  let (mode, lowered) := s.allowedMode opening
  let s := { s with phase := .idle }
  match s.listen mode opening faults with
  | (faults, notes, .error e) =>
    { server := s, faults, notes := lowered ++ notes, answer := some (.started (.error e)) }
  | (faults, notes, .ok listening) =>
    let told : Note := .log (Component.server.info
      s!"sockserve initialized: {listening.mode.name} on {listening.bound.text} ({s.workerCount} workers, pthreads)")
    { server := { s with listening := some listening }, faults, notes := lowered ++ notes ++ [told]
      answer := some (.started (.ok ())) }

/-- The server goes on after its pool has carried out an order, or opens its listener. -/
def advance (s : State) (opening : Opening) (faults : Sync.Faults) : Option Outcome :=
  match s.phase with
  | .idle => none
  | .starting pool order =>
    match pool.collect order with
    | some (.ordered (.error e), _) =>
      some { server := { s with phase := .idle }, faults, answer := some (.started (.error (.pool e))) }
    | some (_, pool) => some { server := { s with pool := some pool, phase := .opening }, faults }
    | none => none
  | .opening => some (s.openListener opening faults)
  | .stopping pool order =>
    (pool.collect order).map fun _ =>
      { server := { s with phase := .idle }, faults, answer := some .stopped }

/-- The pool is told to stop. -/
def stop (s : State) (faults : Sync.Faults) : Outcome :=
  match s.pool with
  | none => { server := s, faults, answer := some .stopped }
  | some pool =>
    let stopping := pool.order (.stop (s.threshold.allows .debug))
    { server := { s with pool := none, phase := .stopping stopping pool.nextThread }, faults }

/-- The pool, wherever it is. -/
def anyPool (s : State) : Option Pool.State :=
  match s.phase with
  | .starting pool _ | .stopping pool _ => some pool
  | _ => s.pool

/-- The server with another state of its pool. -/
def setPool (s : State) (pool : Pool.State) : State :=
  match s.phase with
  | .starting _ order => { s with phase := .starting pool order }
  | .stopping _ order => { s with phase := .stopping pool order }
  | _ => { s with pool := some pool }

end State

/-- What can happen to a server. -/
inductive Move where
  | start (faults : Sync.Faults)
  | stop
  | setHandler
  | advance (opening : Opening) (faults : Sync.Faults)
  /-- The pool moves by itself. -/
  | pool (move : Pool.Move)

/-- One move of a server; calls begin only when the server is idle. -/
def State.move (s : State) : Move → Option Outcome
  | .start faults =>
    match s.phase with
    | .idle => some (s.start faults)
    | _ => none
  | .stop =>
    match s.phase with
    | .idle => some (s.stop [])
    | _ => none
  | .setHandler =>
    match s.phase with
    | .idle => some { server := { s with hasHandler := true } }
    | _ => none
  | .advance opening faults => s.advance opening faults
  | .pool move =>
    s.anyPool.bind fun pool => (pool.move move).map fun (pool, notes) =>
      { server := s.setPool pool, notes }

/-- What a server says when it begins to serve, or why it does not. -/
def State.serve (s : State) : Except ServerError (List Log.Record) :=
  match s.hasHandler, s.listening with
  | true, some (.acceptLoop bound) => .ok [Component.server.info s!"accept loop on {bound.text}"]
  | true, some (.kernelEvents bound _) =>
    .ok [(Events.Report.looping Events.queueName (some bound)).record toString]
  | _, _ => .error .notInitialized

/-- The record of a start that has failed. -/
def startupFailure (e : ServerError) : Log.Record :=
  Component.server.error s!"critical: server startup failed: {e.message}"

end PooledServer.Server
