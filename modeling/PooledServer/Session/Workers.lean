import PooledServer.Session.Reply
import PooledServer.Pool.Schedule

/-!
# A session with one worker

    A worker on a queue of its own is started, given work, asked to stop and joined.
-/

namespace PooledServer.Session.Workers

open Work (Item Job Note TaskId)
open Pool (Setting)

/-- A worker and its queue. -/
structure State where
  setting : Setting
  id : Nat
  task : TaskId
  started : Bool := false
  joinable : Bool := false

/-- One step. -/
inductive Command where
  | start
  | requestStop
  | join
  | id
  | add (job : Job)
  | shutDown
  | openGate (gate : String)
  | fault (fault : Sync.Fault)

/-- What a step answers and leaves behind. -/
structure Answer where
  reply : Reply
  notes : List Note
  alive : Bool
  executed : Nat
  queued : Nat

namespace State

/-- A worker that has not been started, on a new queue. -/
def new (name : String) (id : Nat) (faults : Sync.Faults) : List Note × Except PoolError State :=
  let queueName := "wq"
  let (notes, faults, monitor) := Queue.create queueName faults
  match monitor with
  | .error e => (notes, .error (.sync e))
  | .ok monitor =>
    let pool : Pool.State :=
      { name, queueName, monitor, guarded := false, size := 1, workers := [{ id, thread := 0 }] }
    let (task, registry) := pool.registry.skipId
    let threadName := pool.threadName id
    let (refused, faults) := faults.meet .threadCreate threadName
    let notes := notes ++ [.created ("thread " ++ threadName)]
    match refused with
    | some errno => (notes, .error (.sync (.spawnFailed threadName s!"errno {errno}")))
    | none => (notes, .ok { setting := ⟨{ pool with registry }, faults⟩, id, task })

/-- The worker's thread is at its end, or not yet started. -/
def isOver (s : State) : Bool :=
  (s.setting.state.worker? s.id).any fun w => s.setting.state.isOver w.thread

/-- The step itself.  Every call that reaches the thread counts for the failures of its kind, also a
start of a thread that runs or has run and a join of one that was never started. -/
def act (s : State) : Command → State × Reply × List Note
  | .start =>
    let p := s.setting.state
    let (struck, faults) := s.setting.faults.meet .spawn (p.threadName s.id)
    if struck.isSome then
      let refusal : SyncError := .spawnFailed (p.threadName s.id) "injected"
      ({ s with setting := ⟨p, faults⟩ }, .failed (.sync refusal), [])
    else if s.started then ({ s with setting := ⟨p, faults⟩ }, .failed (.sync .alreadyStarted), [])
    else
      let p := (p.updateWorker s.id fun w => { w with thread := p.nextThread }).launch
        (.worker s.id (.starting s.task))
      ({ s with setting := ⟨p, faults⟩, started := true, joinable := true }, .ok,
        [.log (Log.Component.worker.debug s!"worker {s.id} started")])
  | .requestStop =>
    let state := s.setting.state.updateWorker s.id fun w => { w with stop := true }
    ({ s with setting := { s.setting with state } }, .ok, [])
  | .join =>
    if s.joinable && !s.isOver then (s, .wouldBlock, [])
    else
      let (struck, faults) := s.setting.faults.meet .join (s.setting.state.threadName s.id)
      ({ s with setting := { s.setting with faults }, joinable := false },
        .flag (s.joinable && struck.isNone), [])
  | .id => (s, .number s.id, [])
  | .add job =>
    let (item, registry) := s.setting.state.registry.make job
    let setting := { s.setting with state := { s.setting.state with registry } }
    match setting.play fun p => p.request (.add item) with
    | (setting, some (.answered (.rejected item)), notes) =>
      ({ s with setting }, .rejected item, notes ++ item.discard)
    | (setting, _, notes) => ({ s with setting }, .ok, notes)
  | .shutDown =>
    match s.setting.play fun p => p.request .shutDown with
    | (setting, some (.answered answer), notes) => ({ s with setting }, .ofAnswer answer, notes)
    | (setting, _, notes) => ({ s with setting }, .wouldBlock, notes)
  | .openGate gate =>
    ({ s with setting := { s.setting with state := s.setting.state.openGate gate } }, .ok, [])
  | .fault fault => ({ s with setting := { s.setting with faults := s.setting.faults ++ [fault] } }, .ok, [])

/-- One step of the session. -/
def step (s : State) (command : Command) : State × Answer :=
  let (s, reply, notes) := s.act command
  let (setting, more) := s.setting.settle
  let s := { s with setting }
  let worker := s.setting.state.worker? s.id
  (s, { reply, notes := notes ++ more, alive := worker.any (·.alive)
        executed := (worker.map (·.executed)).getD 0
        queued := s.setting.state.monitor.contents.items.length })

end State

end PooledServer.Session.Workers
