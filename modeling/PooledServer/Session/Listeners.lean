import PooledServer.Net.Host

/-!
# A session with listeners

    Listeners are known by names.  A listener may be asked for where another one listens.
-/

namespace PooledServer.Session.Listeners

open Net

/-- Where to listen. -/
inductive Place where
  | endpoint (e : Endpoint)
  | sameAs (listener : String)

/-- One step. -/
inductive Command where
  | setup (place : Place)
  | connect
  | closeAndConnect
  | close

/-- The answer of a step. -/
inductive Reply where
  | listening (bound : Endpoint) (isAsked : Bool)
  | failed (e : IoError)
  | noListener
  /-- The other listener is not there; the session ends. -/
  | nowhere
  | flag (b : Bool)

/-- The host and the listeners by name. -/
structure State where
  host : Host := {}
  listeners : List (String × Endpoint) := []

namespace State

/-- The listener of that name stops listening. -/
def drop (s : State) (name : String) : State :=
  match s.listeners.lookup name with
  | some e => { host := s.host.release e, listeners := s.listeners.filter (·.1 != name) }
  | none => s

/-- Where a place is. -/
def endpoint? (s : State) : Place → Option Endpoint
  | .endpoint e => some e
  | .sameAs name => s.listeners.lookup name

/-- One step that concerns the listener of that name. -/
def step (s : State) (name : String) (command : Command) : State × Reply :=
  let present := (s.listeners.lookup name).isSome
  match command with
  | .setup place =>
    match s.endpoint? place with
    | none => (s, .nowhere)
    | some e =>
      match s.host.listen e with
      | .error reason => (s, .failed reason)
      | .ok (bound, host) =>
        let s := ({ s with host }).drop name
        ({ s with listeners := (name, bound) :: s.listeners }, .listening bound (bound.port = e.port))
  | .connect => (s, if present then .failed s.host.connectFailure else .noListener)
  | .closeAndConnect => (s.drop name, if present then .failed s.host.connectFailure else .noListener)
  | .close => (s.drop name, .flag present)

end State

end PooledServer.Session.Listeners
