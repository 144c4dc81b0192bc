import PooledServer.Session.Reply
import PooledServer.Pool.Schedule

/-!
# A session with a pool

    The owner of a pool starts, grows and stops it and submits work to it; another submitter has a
    handle of its own, which outlives the pool.  Stopping waits for workers, so it runs in the
    background, and the pool is away until it has come to its end.
-/

namespace PooledServer.Session.Pools

open Work (Item Job Note)
open Pool (Setting)

/-- Why the pool is away. -/
inductive Errand where
  | stop
  | drop
  deriving DecidableEq, Repr

/-- A pool and what is under way with it. -/
structure State where
  setting : Setting
  threshold : Log.Threshold
  errand : Option (ThreadId × Errand) := none
  dropped : Bool := false

/-- One step. -/
inductive Command where
  | start
  | add (job : Job)
  | handleAdd (job : Job)
  | handleRunning
  | addWorkers (count : Nat)
  | removeWorkers
  | name
  | openGate (gate : String)
  | fault (fault : Sync.Fault)
  | runs
  | away (errand : Errand)

/-- What the owner can see of the pool. -/
structure View where
  running : Bool
  workers : Nat
  alive : Nat
  executed : Nat
  queued : Nat

/-- What a step answers and leaves behind. -/
structure Answer where
  reply : Reply
  notes : List Note
  blocked : Option Errand
  finished : Option Errand
  handleRunning : Bool
  view : Option View

namespace State

/-- A session with a new pool, of whose records those within the threshold are logged. -/
def new (name : String) (size : UInt64) (faults : Sync.Faults) (threshold : Log.Threshold) :
    List Note × Except PoolError State :=
  let (notes, faults, pool) := Pool.create name size faults
  (notes, pool.map fun pool => { setting := ⟨pool, faults⟩, threshold })

/-- The owner has the pool. -/
def present (s : State) : Bool := s.errand.isNone && !s.dropped

/-- Carries out an order and waits for its end. -/
def order (s : State) (order : Pool.Order) : State × Reply × List Note :=
  match s.setting.play fun p => p.order order with
  | (setting, some (.ordered (.error e)), notes) => ({ s with setting }, .failed e, notes)
  | (setting, some (.panicked message), notes) => ({ s with setting }, .panicked message, notes)
  | (setting, _, notes) => ({ s with setting }, .ok, notes)

/-- Submits a new item; a rejected one is destroyed. -/
def submit (s : State) (job : Job) : State × Reply × List Note :=
  let (item, registry) := s.setting.state.registry.make job
  let setting := { s.setting with state := { s.setting.state with registry } }
  match setting.play fun p => p.submit item with
  | (setting, some (.submitted item false), notes) =>
    ({ s with setting }, .rejected item, notes ++ item.discard)
  | (setting, _, notes) => ({ s with setting }, .ok, notes)

/-- The step itself, without the errand that ends in it. -/
def act (s : State) (command : Command) : State × Reply × List Note :=
  match command with
  | .handleAdd job => s.submit job
  | .handleRunning => (s, .flag s.setting.state.running, [])
  | .openGate gate =>
    ({ s with setting := { s.setting with state := s.setting.state.openGate gate } }, .ok, [])
  | .fault fault => ({ s with setting := { s.setting with faults := s.setting.faults ++ [fault] } }, .ok, [])
  | .runs => (s, .runs s.setting.state.registry.runs, [])
  | command =>
    if !s.present then (s, .noPool, [])
    else
      match command with
      | .start => s.order .start
      | .add job => s.submit job
      | .addWorkers count => s.order (.grow count)
      | .removeWorkers => (s, .failed (.unsupported "remove_workers"), [])
      | .name => (s, .text s.setting.state.name, [])
      | .away errand =>
        let t := s.setting.state.nextThread
        let state := s.setting.state.order (.stop (s.threshold.allows .debug))
        ({ s with setting := { s.setting with state }, errand := some (t, errand) }, .started, [])
      | _ => (s, .nothing, [])

/-- Brings the pool back if its errand has come to its end. -/
def comeBack (s : State) : State × Option Errand :=
  match s.errand with
  | none => (s, none)
  | some (t, errand) =>
    match s.setting.state.collect t with
    | none => (s, none)
    | some (_, state) =>
      ({ s with setting := { s.setting with state }, errand := none, dropped := errand == .drop },
        some errand)

/-- What the owner can see. -/
def view (s : State) : Option View :=
  let p := s.setting.state
  if s.present then
    some ⟨p.running, p.size.toNat, p.aliveCount, p.executed, p.monitor.contents.items.length⟩
  else none

/-- One step of the session. -/
def step (s : State) (command : Command) : State × Answer :=
  let (s, reply, notes) := s.act command
  let (setting, more) := s.setting.settle
  let (s, finished) := { s with setting }.comeBack
  (s, { reply, notes := notes ++ more, blocked := s.errand.map (·.2), finished
        handleRunning := s.setting.state.running, view := s.view })

end State

end PooledServer.Session.Pools
