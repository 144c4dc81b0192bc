import PooledServer.Log
import PooledServer.Net.Socket

/-!
# Reports of the event server

    What an event server tells: lines for the log, the calls it makes to the readiness backend, and
    the requests it hands to its handler.
-/

namespace PooledServer.Events

open Net
open Log (Component)

/-- Something that is worth a line in the log. -/
inductive Report where
  | lockFailedOnAccept (d : Descriptor)
  | lockFailed (d : Descriptor)
  | lockFailedOnCompletion (d : Descriptor)
  | watchFailed (d : Descriptor) (e : IoError)
  | unwatchFailed (d : Descriptor) (e : IoError)
  | rearmFailed (d : Descriptor) (e : IoError)
  | closeInFlight (d : Descriptor)
  | closedByPeer (d : Descriptor)
  | forgotten (d : Descriptor)
  | alreadyInFlight (d : Descriptor)
  | released (d : Descriptor)
  | rearmed (d : Descriptor)
  | stillNonBlocking (peer : String) (e : IoError)
  | optionsRefused (peer : String) (e : IoError)
  | accepted (peer : String) (d : Descriptor)
  | acceptFailed (e : IoError)
  | handlerPanicked (d : Descriptor) (message : String)
  /-- The event loop begins; the listener's address may not be known. -/
  | looping (backend : String) (address : Option Endpoint)
  | waitFailed (e : IoError)
  deriving DecidableEq, Repr

/-- The log record of a report, with descriptors written as `name` says. -/
def Report.record (name : Descriptor → String) : Report → Log.Record
  | lockFailedOnAccept d => Component.events.error s!"fd {name d}: tracking table lock failed, closing"
  | lockFailed d => Component.events.error s!"fd {name d}: tracking table lock failed"
  | lockFailedOnCompletion d =>
    Component.events.error s!"fd {name d}: tracking table lock failed on completion"
  | watchFailed d e => Component.events.warn s!"fd {name d}: add watch failed: {e.message}"
  | unwatchFailed d e => Component.events.trace s!"fd {name d}: remove watch: {e.message}"
  | rearmFailed d e => Component.events.warn s!"fd {name d}: re-arm failed: {e.message}"
  | closeInFlight d =>
    Component.events.debug s!"fd {name d}: close event while in flight, left to completion"
  | closedByPeer d => Component.events.debug s!"fd {name d} closed by peer"
  | forgotten d => Component.events.debug s!"fd {name d} no longer valid, forgotten"
  | alreadyInFlight d => Component.events.debug s!"fd {name d} already in flight, dropping event"
  | released d => Component.events.trace s!"fd {name d} released"
  | rearmed d => Component.events.trace s!"fd {name d} re-armed"
  | stillNonBlocking peer e => Component.events.warn s!"{peer}: set blocking failed: {e.message}"
  | optionsRefused peer e => Component.events.debug s!"{peer}: socket options not applied: {e.message}"
  | accepted peer d => Component.events.debug s!"accepted {peer} as fd {name d}"
  | acceptFailed e => Component.events.warn s!"accept failed: {e.message}"
  | handlerPanicked d message =>
    Component.events.warn s!"fd {name d}: socket handler panicked: {message}"
  | looping backend address =>
    let place := (address.map (·.text)).getD "?"
    Component.events.info s!"kernel event loop ({backend}) on {place}"
  | waitFailed e => Component.events.error s!"kernel event wait failed: {e.message}"

/-- What a step of an event server leaves behind. -/
inductive Note where
  | report (r : Report)
  | addWatch (d : Descriptor)
  | removeWatch (d : Descriptor)
  | makeBuffer (capacity : Nat)
  | handled (d : Descriptor) (eventIndex : Nat)
  deriving DecidableEq, Repr

end PooledServer.Events
