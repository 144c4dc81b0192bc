import PooledServer.Session.Reply
import PooledServer.Pool.Schedule

/-!
# A session with a queue

    One thread adds, takes and executes items, which it may hold on to; calls that may block run on
    threads of their own.  When the thread lets go of the queue, the calls under way still keep it; it
    is gone with the last of them, and refuses what items submit from then on.
-/

namespace PooledServer.Session.Queues

open Work (Item Job Note TaskId)
open Pool (Setting Result)

/-- Calls that run in the background. -/
inductive Call where
  | take
  | waitUntilEmpty
  | shutDownWhenDrained
  deriving DecidableEq, Repr

def Call.request : Call → Queue.Request Item
  | take => .take true
  | waitUntilEmpty => .waitUntilEmpty
  | shutDownWhenDrained => .shutDownWhenDrained

/-- A queue with everything around it. -/
structure State where
  setting : Setting
  /-- The thread has not let go of the queue. -/
  present : Bool := true
  /-- The queue is destroyed. -/
  gone : Bool := false
  held : List Item := []
  background : List (ThreadId × Call) := []
  /-- There has been a background call. -/
  concurrent : Bool := false

/-- One step. -/
inductive Command where
  | add (job : Job) (keep : Bool)
  | take
  | background (call : Call)
  | execute (id : TaskId)
  | dropItem (id : TaskId)
  | addHeld (id : TaskId)
  | shutDown
  | size
  | isEmpty
  | isRunning
  | name
  | runs
  | fault (fault : Sync.Fault)
  | letGo

/-- What a step answers and leaves behind. -/
structure Answer where
  reply : Reply
  /-- Background calls that have ended, with what they got. -/
  done : List (Call × Reply) := []
  /-- Background calls that go on. -/
  waiting : List Call := []
  notes : List Note := []
  /-- Length of the queue and whether it runs. -/
  queue : Option (Nat × Bool) := none
  concurrent : Bool := false

namespace State

/-- A session with a new queue. -/
def new (name : String) (faults : Sync.Faults) : List Note × Except SyncError State :=
  let (notes, faults, monitor) := Queue.create name faults
  (notes, monitor.map fun monitor =>
    { setting := ⟨{ name, queueName := name, monitor, guarded := false, size := 0 }, faults⟩ })

def held? (s : State) (id : TaskId) : Option Item := s.held.find? (·.id == id)

def hold (s : State) (item : Item) : State := { s with held := s.held ++ [item] }

def release (s : State) (id : TaskId) : State := { s with held := s.held.filter (·.id != id) }

/-- Asks the queue and waits for its answer. -/
def ask (s : State) (request : Queue.Request Item) : State × Option (Queue.Answer Item) × List Note :=
  let (setting, result, notes) := s.setting.play fun p => p.request request
  let answer := match result with
    | some (.answered answer) => some answer
    | _ => none
  ({ s with setting }, answer, notes)

/-- Asks the queue and replies with its answer. -/
def askReply (s : State) (request : Queue.Request Item) : State × Reply × List Note :=
  let (s, answer, notes) := s.ask request
  (s, (answer.map Reply.ofAnswer).getD .wouldBlock, notes)

/-- Adds an item; a rejected one is destroyed unless it is to be kept. -/
def add (s : State) (item : Item) (keep : Bool) : State × Reply × List Note :=
  match s.ask (.add item) with
  | (s, some (.rejected item), notes) =>
    if keep then (s.hold item, .rejected item, notes) else (s, .rejected item, notes ++ item.discard)
  | (s, _, notes) => (s, .ok, notes)

/-- The step itself, without the background calls that end in it. -/
def act (s : State) (command : Command) : State × Reply × List Note :=
  match command with
  | .execute id =>
    match s.held? id with
    | none => (s, .noItem, [])
    | some item =>
      let (setting, result, notes) := s.setting.play fun p => p.execute item
      let reply := match result with
        | some (.executed ended) => .executed ended
        | _ => .wouldBlock
      ({ s.release id with setting }, reply, notes)
  | .dropItem id =>
    match s.held? id with
    | none => (s, .flag false, [])
    | some item => (s.release id, .flag true, item.discard)
  | .runs => (s, .runs s.setting.state.registry.runs, [])
  | .fault fault => ({ s with setting := { s.setting with faults := s.setting.faults ++ [fault] } }, .ok, [])
  | command =>
    if !s.present then (s, .noQueue, [])
    else
      match command with
      | .add job keep =>
        let (item, registry) := s.setting.state.registry.make job
        { s with setting := { s.setting with state := { s.setting.state with registry } } }.add item keep
      | .addHeld id =>
        match s.held? id with
        | none => (s, .noItem, [])
        | some item => (s.release id).add item false
      | .take =>
        match s.askReply (.take false) with
        | (s, .taken item, notes) => (s.hold item, .taken item, notes)
        | other => other
      | .background call =>
        let t := s.setting.state.nextThread
        let setting := { s.setting with state := s.setting.state.request call.request }
        ({ s with setting, background := s.background ++ [(t, call)], concurrent := true }, .started, [])
      | .isEmpty =>
        match s.askReply .size with
        | (s, .number n, notes) => (s, .flag (n == 0), notes)
        | other => other
      | .shutDown => s.askReply .shutDown
      | .size => s.askReply .size
      | .isRunning => s.askReply .isRunning
      | .name => (s, .text s.setting.state.queueName, [])
      | .letGo => ({ s with present := false }, .ok, [])
      | _ => (s, .nothing, [])

/-- Collects the background calls that have ended. -/
def collect (s : State) : List (ThreadId × Call) → State × List (Call × Reply)
  | [] => (s, [])
  | (t, call) :: rest =>
    match s.setting.state.collect t with
    | some (.answered answer, state) =>
      let s := { s with setting := { s.setting with state }, background := s.background.filter (·.1 != t) }
      let s := match answer with
        | .taken item => s.hold item
        | _ => s
      let (s, later) := s.collect rest
      (s, (call, .ofAnswer answer) :: later)
    | _ => s.collect rest

/-- Destroys the queue once nobody has it any more. -/
def expire (s : State) : State × List Note :=
  if s.present || s.gone || !s.background.isEmpty then (s, [])
  else
    let state := s.setting.state
    let closed := { state with guarded := true, running := false }
    ({ s with gone := true, setting := { s.setting with state := closed } },
      Queue.destroy state.queueName state.monitor.contents)

/-- One step of the session. -/
def step (s : State) (command : Command) : State × Answer :=
  let (s, reply, notes) := s.act command
  let (setting, more) := s.setting.settle
  let (s, done) := { s with setting }.collect s.background
  let contents := s.setting.state.monitor.contents
  let (s, lost) := s.expire
  (s, { reply, done, waiting := s.background.map (·.2), notes := notes ++ more ++ lost
        queue := if s.present then some (contents.items.length, contents.running) else none
        concurrent := s.concurrent })

end State

end PooledServer.Session.Queues
