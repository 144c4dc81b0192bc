import PooledServer.Events.Create

/-!
# Running an event server

    A run of the event loop by itself: batch after batch is acted on, each to its end before the next
    is waited for, and a script says which calls fail.  When no batch is left the wait fails.  The run
    is one of the many that the moves of a server allow.
-/

namespace PooledServer.Events

open Net

/-- The two calls to a readiness backend. -/
inductive Call where
  | add
  | remove
  deriving DecidableEq, Repr

/-- A failure of a call to the backend that is still to come, or spent. -/
structure WatchFault where
  call : Call
  /-- Only calls on the descriptor of this name count. -/
  object : String
  /-- The call that fails, counted from one; zero once the failure is spent. -/
  left : Nat := 1
  errno : Int := 28
  deriving DecidableEq, Repr

/-- A call is made: its failure if it fails, and what is left of the script. -/
def WatchFault.meet (call : Call) (object : String) : List WatchFault → Option IoError × List WatchFault
  | [] => (none, [])
  | f :: rest =>
    let (later, rest') := meet call object rest
    if f.call = call ∧ f.object = object ∧ f.left ≠ 0 then
      let struck := if f.left = 1 then some (IoError.system f.errno) else none
      (struck <|> later, { f with left := f.left - 1 } :: rest')
    else (later, f :: rest')

/-- A server, the failures that await it, what accepting brings, and how descriptors are called. -/
structure Setting where
  state : State
  name : Descriptor → String
  faults : Sync.Faults := []
  watchFaults : List WatchFault := []
  arrival : Arrival := .none

namespace Setting

/-- What the lock does when a stage takes it. -/
def lockLuck (g : Setting) : Luck × Setting :=
  let (struck, faults) := g.faults.meet .lock tableMutexName
  ({ lock := struck.isNone }, { g with faults })

/-- What the backend does with a call on `d`. -/
def backendLuck (g : Setting) (call : Call) (d : Descriptor) : Luck × Setting :=
  let (struck, watchFaults) := WatchFault.meet call (g.name d) g.watchFaults
  ({ backend := struck }, { g with watchFaults })

/-- What everything outside the server does during a stage. -/
def luck (g : Setting) : Stage → Luck × Setting
  | .track _ | .close _ | .forget _ | .lend .. | .park .. => g.lockLuck
  | .watch d | .rearm d => g.backendLuck .add d
  | .unwatchClosed d _ | .unwatchForgotten d _ | .unwatchReady _ d => g.backendLuck .remove d
  | .accept => ({ arrival := g.arrival }, g)
  | _ => ({}, g)

/-- At most `fuel` stages of the event loop, as long as there is one. -/
def drain (g : Setting) (notes : List Note) : Nat → Setting × List Note
  | 0 => (g, notes)
  | fuel + 1 =>
    match g.state.agenda? 0 with
    | some (stage :: _) =>
      let (luck, g) := g.luck stage
      match g.state.step 0 luck with
      | some (state, new) => { g with state }.drain (notes ++ new) fuel
      | none => (g, notes)
    | _ => (g, notes)

/-- More stages than a batch of `n` events has, if no connection is accepted. -/
def bound (n : Nat) : Nat :=
  16 * (n + 1)

/-- Acts on batch after batch. -/
def loop (g : Setting) (notes : List Note) : List (List Event) → Setting × List Note
  | [] => (g, notes)
  | events :: rest =>
    match g.state.receive events with
    | none => (g, notes)
    | some state =>
      let (g, notes) := { g with state }.drain notes (bound events.length)
      g.loop notes rest

/-- The event loop, from its start to the wait that fails. -/
def run (g : Setting) (capacity : Nat) (backend : String) (address : Option Endpoint)
    (batches : List (List Event)) (failure : IoError) : Setting × List Note × ServerError :=
  let (g, notes) := g.loop [.makeBuffer capacity, .report (.looping backend address)] batches
  (g, notes ++ [.report (.waitFailed failure)], .io failure)

end Setting

end PooledServer.Events
