import PooledServer.Pool.Basic

/-!
# Steps of a thread pool

    `State.step s t luck` is the next step of thread `t`: one turn at the queue, or one thing that
    concerns the thread alone or a single flag.  There is no step while the thread has to wait.  What
    the threading primitives do in the step is given by `luck`.

    A worker looks at its stop flag, takes an item (waiting inside the queue if there is none), stamps
    it, executes it and counts it, again and again.  A panicking task is a matter of the item; a
    panicking observer ends the worker's thread.

    Stopping turns the flag that welcomes work off, lets the queue drain and closes it in the same
    turn, asks every worker to stop and waits for its thread.  How many items are queued at the
    beginning is asked only if the log is to tell.
-/

namespace PooledServer.Pool

open Work (Item TaskId Execution Note Registry)
open Log (Component)

/-- The records of a queue's reports. -/
def queueNotes (queueName : String) (reports : List (Queue.Report Item)) : List Note :=
  reports.map fun r => .log (r.record queueName Item.name)

/-- What an answered request means for the items. -/
def replyNotes (reply : Queue.Reply Item) : List Note :=
  match reply.request, reply.answer with
  | .add item, .added => [.accepted item.id]
  | _, .rejected item => [.refused item.id]
  | _, .taken item => [.handedOut item.id]
  | _, _ => []

namespace State

/-- Thread `t` asks the queue for something and goes to the given place. -/
def ask (s : State) (t : ThreadId) (request : Queue.Request Item) (a : Activity) : Option State :=
  (s.monitor.call t request).map fun monitor => { s with monitor }.place t a

/-- Thread `t` has a turn at the queue: the answer, if it gets one. -/
def turn (s : State) (t : ThreadId) (luck : Luck) :
    Option (State × Option (Queue.Answer Item) × List Note) :=
  (s.monitor.step t luck.toLuck).map fun (monitor, shown) =>
    ({ s with monitor }, shown.reply.map (·.answer),
      queueNotes s.queueName shown.reports ++ (shown.reply.map replyNotes).getD [])

/-- The next step of an execution on thread `t`, whose place is given by `here`.  Work that the task
    submits goes to the queue, unless the pool's flag is in the way. -/
def executionStep (s : State) (t : ThreadId) (luck : Luck) (e : Execution) (here : Execution → Activity) :
    Option (State × List Note) :=
  match e.phase with
  | .offering count child false rest =>
    if s.guarded && !s.running then
      let (e, notes) := e.offered count child rest false
      some (s.place t (here e), .refused child.id :: notes)
    else
      (s.ask t (.add child) (here { e with phase := .offering count child true rest })).map (·, [])
  | .offering count child true rest =>
    (s.turn t luck).map fun (s, answer, notes) =>
      match answer with
      | none => (s, notes)
      | some answer =>
        let (e, later) := e.offered count child rest (answer matches .added)
        (s.place t (here e), notes ++ later)
  | _ =>
    (e.step s.registry).map fun (registry, e, notes) => ({ s with registry }.place t (here e), notes)

/-- Worker `id` on thread `t`, once an execution is over. -/
def afterExecution (s : State) (t : ThreadId) (id : Nat) (item : Item) (ended : Work.Ended) :
    State × List Note :=
  match ended with
  | .returned .completed => (s.place t (.worker id (.counting item.id)), [])
  | .returned (.panicked message) =>
    (s.place t (.worker id (.counting item.id)),
      [.log (Component.worker.warn s!"worker {id}: {item.name} panicked: {message}")])
  | .escaped message => (s.place t (.worker id (.ending (some message))), [])

/-- The next step of worker `id` on thread `t`. -/
def workerStep (s : State) (t : ThreadId) (luck : Luck) (id : Nat) (point : WorkerPoint) :
    Option (State × List Note) :=
  match point with
  | .starting task =>
    some ((s.updateWorker id fun w => { w with alive := true }).place t (.worker id .checking),
      [.log (Component.thread.trace s!"thread '{s.threadName id}' running {Work.taskName task}")])
  | .checking =>
    if (s.worker? id).any (·.stop) then some (s.place t (.worker id .leaving), [])
    else (s.ask t (.take true) (.worker id .taking)).map (·, [])
  | .taking =>
    (s.turn t luck).map fun (s, answer, notes) =>
      match answer with
      | none => (s, notes)
      | some (.taken item) => (s.place t (.worker id (.holding item)), notes)
      | some .empty => (s.place t (.worker id .checking), notes)
      | some _ => (s.place t (.worker id .leaving), notes)
  | .holding item =>
    some (s.place t (.worker id (.executing { item := { item with runBy := some id } })),
      [.log (Component.worker.trace s!"worker {id} running {item.name}")])
  | .executing e =>
    match e.phase with
    | .concluded ended => some (s.afterExecution t id e.item ended)
    | _ => s.executionStep t luck e fun e => .worker id (.executing e)
  | .counting task =>
    some ((s.updateWorker id fun w => { w with executed := w.executed + 1 }).place t (.worker id .checking),
      [.counted id task])
  | .leaving =>
    some (s.place t (.worker id (.ending none)), [.log (Component.worker.debug s!"worker {id} exiting")])
  | .ending escaped =>
    let notes : List Note := match escaped with
      | some message => [.log (Component.thread.warn s!"thread '{s.threadName id}' runnable panicked: {message}")]
      | none => []
    some ((s.updateWorker id fun w => { w with alive := false }).place t (.worker id .ended), notes)
  | .ended => none

/-- Makes a worker and starts its thread.  Each attempt uses up a worker number and an item number. -/
def hire (s : State) (luck : Luck) : State × List Note × Except PoolError Unit :=
  let id := s.nextWorker
  let name := s.threadName id
  let (task, registry) := s.registry.skipId
  let s := { s with registry, nextWorker := id + 1 }
  let made : Note := .created ("thread " ++ name)
  match luck.create with
  | some errno => (s, [made], .error (.sync (.spawnFailed name s!"errno {errno}")))
  | none =>
    if luck.spawn then
      let worker : Worker := { id, thread := s.nextThread }
      ({ s with workers := s.workers ++ [worker] }.launch (.worker id (.starting task)),
        [made, .log (Component.worker.debug s!"worker {id} started")], .ok ())
    else (s, [made], .error (.sync (.spawnFailed name "injected")))

/-- The order of thread `t` has been carried out. -/
def finish (s : State) (t : ThreadId) (outcome : Except PoolError Unit) : State :=
  s.place t (.finished (.ordered outcome))

/-- The workers are gone: the end of a stop or of a failed start. -/
def dismissed (s : State) (t : ThreadId) (failure : Option PoolError) : State × List Note :=
  match failure with
  | some e => (s.finish t (.error e), [])
  | none => (s.finish t (.ok ()), [.log (Component.pool.info s!"pool '{s.name}' stopped")])

/-- The next step of thread `t`, which carries out an order. -/
def orderStep (s : State) (t : ThreadId) (luck : Luck) (point : OrderPoint) : Option (State × List Note) :=
  match point with
  | .begun .start =>
    if s.running then some (s.finish t (.ok ()), [])
    else (s.ask t .isRunning (.order .asking)).map (·, [])
  | .begun (.grow count) =>
    if s.running then some (s.place t (.order (.growing count)), [])
    else
      match s.arithmetic.add s.size count with
      | .ok size =>
        some ({ s with size }.finish t (.ok ()),
          [.log (Component.pool.debug s!"pool '{s.name}' now has {size.toNat} workers")])
      | .error message => some (s.place t (.finished (.panicked message)), [])
  | .begun (.stop measures) =>
    if !s.running && s.workers.isEmpty then some (s.finish t (.ok ()), [])
    else
      let s := { s with running := false }
      if measures then (s.ask t .size (.order .measuring)).map (·, [])
      else (s.ask t .shutDownWhenDrained (.order .draining)).map (·, [])
  | .asking =>
    (s.turn t luck).map fun (s, answer, notes) =>
      match answer with
      | none => (s, notes)
      | some (.flag true) => (s.place t (.order (.hiring s.size.toNat)), notes)
      | some _ => (s.finish t (.error .queueShutDown), notes)
  | .hiring 0 =>
    some ({ s with running := true }.finish t (.ok ()),
      [.log (Component.pool.info s!"pool '{s.name}' started with {s.size.toNat} workers (pthreads)")])
  | .hiring (left + 1) =>
    match s.hire luck with
    | (s, notes, .ok ()) => some (s.place t (.order (.hiring left)), notes)
    | (s, notes, .error e) =>
      (s.ask t .shutDown (.order (.closing (some e)))).map (·,
        notes ++ [.log (Component.pool.warn s!"pool '{s.name}': worker start failed: {e.message}")])
  | .growing 0 =>
    some (s.finish t (.ok ()),
      [.log (Component.pool.debug s!"pool '{s.name}' now has {s.size.toNat} workers")])
  | .growing (left + 1) =>
    match s.hire luck with
    | (s, notes, .ok ()) =>
      match s.arithmetic.add s.size 1 with
      | .ok size => some ({ s with size }.place t (.order (.growing left)), notes)
      | .error message => some (s.place t (.finished (.panicked message)), notes)
    | (s, notes, .error e) => some (s.finish t (.error e), notes)
  | .measuring =>
    (s.turn t luck).bind fun (s, answer, notes) =>
      match answer with
      | none => some (s, notes)
      | some answer =>
        let length := match answer with
          | .count n => n
          | _ => 0
        (s.ask t .shutDownWhenDrained (.order .draining)).map (·,
          notes ++ [.log (Component.pool.debug s!"pool '{s.name}' draining {length} queued items")])
  | .draining =>
    (s.turn t luck).bind fun (s, answer, notes) =>
      match answer with
      | none => some (s, notes)
      | some _ => (s.ask t .shutDown (.order (.closing none))).map (·, notes)
  | .closing failure =>
    (s.turn t luck).map fun (s, answer, notes) =>
      match answer with
      | none => (s, notes)
      | some _ => (s.place t (.order (.dismissing (s.workers.map (·.id)) failure)), notes)
  | .dismissing (id :: left) failure =>
    some ((s.updateWorker id fun w => { w with stop := true }).place t (.order (.dismissing left failure)), [])
  | .dismissing [] failure => some (s.place t (.order (.joining failure)), [])
  | .joining failure =>
    match s.workers with
    | [] => some (s.dismissed t failure)
    | w :: rest =>
      if s.isOver w.thread then
        let notes : List Note :=
          if luck.join then []
          else [.log (Component.pool.warn s!"pool '{s.name}': worker {w.id} did not join cleanly")]
        let threads := s.threads.filter (·.id != w.thread)
        some ({ s with workers := rest, retired := s.retired + w.executed, threads }, notes)
      else none

/-- The next step of thread `t`. -/
def step (s : State) (t : ThreadId) (luck : Luck) : Option (State × List Note) :=
  match s.activity? t with
  | none => none
  | some a =>
    match a with
    | .worker id point => s.workerStep t luck id point
    | .request =>
      (s.turn t luck).map fun (s, answer, notes) =>
        match answer with
        | none => (s, notes)
        | some answer => (s.place t (.finished (.answered answer)), notes)
    | .submission item false =>
      if s.running then (s.ask t (.add item) (.submission item true)).map (·, [])
      else some (s.place t (.finished (.submitted item false)), [.refused item.id])
    | .submission item true =>
      (s.turn t luck).map fun (s, answer, notes) =>
        match answer with
        | none => (s, notes)
        | some answer => (s.place t (.finished (.submitted item (answer matches .added))), notes)
    | .execution e =>
      match e.phase with
      | .concluded ended => some (s.place t (.finished (.executed ended)), [])
      | _ => s.executionStep t luck e .execution
    | .order point => s.orderStep t luck point
    | .finished _ => none

/-! ## Calls from outside -/

/-- A new thread asks the queue directly. -/
def request (s : State) (request : Queue.Request Item) : State :=
  let t := s.nextThread
  let s := s.launch .request
  match s.monitor.call t request with
  | some monitor => { s with monitor }
  | none => s

/-- A new thread submits an item through the pool. -/
def submit (s : State) (item : Item) : State := s.launch (.submission item false)

/-- A new thread executes an item. -/
def execute (s : State) (item : Item) : State := s.launch (.execution { item })

/-- A new thread carries out an order of the pool's owner. -/
def order (s : State) (order : Order) : State := s.launch (.order (.begun order))

def openGate (s : State) (gate : String) : State :=
  { s with registry := s.registry.openGate gate }

end State

/-- What can happen to a pool. -/
inductive Move where
  /-- The next step of a thread. -/
  | step (thread : ThreadId) (luck : Luck)
  /-- A thread that waits in the queue wakes up without a signal. -/
  | wakeUp (thread : ThreadId)
  | request (request : Queue.Request Item)
  /-- The application makes an item, to submit it at any later time. -/
  | make (job : Work.Job)
  | submit (item : Item)
  | execute (item : Item)
  | order (order : Order)
  | openGate (gate : String)

/-- One move of a pool, and what it leaves behind. -/
def State.move (s : State) : Move → Option (State × List Note)
  | .step t luck => s.step t luck
  | .wakeUp t => (s.monitor.wakeUp t).map fun monitor => ({ s with monitor }, [])
  | .request request => some (s.request request, [])
  | .make job => some ({ s with registry := (s.registry.make job).2 }, [])
  | .submit item => some (s.submit item, [])
  | .execute item => some (s.execute item, [])
  | .order order => some (s.order order, [])
  | .openGate gate => some (s.openGate gate, [])

end PooledServer.Pool
