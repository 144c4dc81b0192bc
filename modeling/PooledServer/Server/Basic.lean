import PooledServer.Config.Basic
import PooledServer.Events.Create
import PooledServer.Net.Host
import PooledServer.Pool.Create

/-!
# Socket servers

    A server starts its pool, opens its listener in the configured mode and then serves.  Starting is
    done once; what a failed start has already got, its pool, is used by the next.

    Starting and stopping the pool involve the pool's threads, so they are not one step of the server:
    the server has a phase, and waits in it until the pool has carried out its order.
-/

namespace PooledServer.Server

open Net
open Log (Component)

/-- An open listener and how it is served. -/
inductive Listening where
  | acceptLoop (bound : Endpoint)
  | kernelEvents (bound : Endpoint) (hub : Events.State)

namespace Listening

/-- The mode of serving. -/
def mode : Listening → ServerMode
  | acceptLoop _ => .acceptLoop
  | kernelEvents .. => .kernelEvents

/-- Where the listener listens. -/
def bound : Listening → Endpoint
  | acceptLoop e | kernelEvents e _ => e

end Listening

/-- What a server is doing. -/
inductive Phase where
  | idle
  /-- The new pool starts; `order` is the thread that starts it. -/
  | starting (pool : Pool.State) (order : ThreadId)
  /-- The listener comes next. -/
  | opening
  /-- The pool stops; `order` is the thread that stops it. -/
  | stopping (pool : Pool.State) (order : ThreadId)

/-- A server. -/
structure State where
  config : Config
  hasHandler : Bool := false
  pool : Option Pool.State := none
  listening : Option Listening := none
  phase : Phase := .idle
  /-- The records that are written from now on. -/
  threshold : Log.Threshold := some .info

namespace State

/-- A server that has not been started. -/
def new (config : Config) (hasHandler : Bool) : State :=
  { config, hasHandler }

/-- Whether the server has been started. -/
def isInitialized (s : State) : Bool :=
  s.listening.isSome

/-- The mode of serving, once the server has been started. -/
def mode (s : State) : Option ServerMode :=
  s.listening.map (·.mode)

/-- How many workers the server has. -/
def workerCount (s : State) : Nat :=
  (s.pool.map (·.size.toNat)).getD 0

end State

/-- What the system does when the listener is opened. -/
structure Opening where
  /-- The readiness queue cannot be made. -/
  queue : Option IoError := none
  /-- Where the listener listens, or why it does not. -/
  listener : Except IoError Endpoint
  /-- The listener's descriptor. -/
  descriptor : Descriptor := 3
  /-- The listener cannot be made not to wait. -/
  nonBlocking : Option IoError := none
  /-- The listener cannot be watched. -/
  watch : Option IoError := none

end PooledServer.Server
