import PooledServer.CommandLine.EchoServer
import PooledServer.Pool.Schedule

/-!
# The stress test's command line

    Many small tasks go through a pool.  Each task computes for a while and adds one to a checksum if
    its result is odd; an observer counts the tasks of each worker.

    The main thread starts the pool, submits the tasks one by one and stops the pool; each of these is a
    call that it waits for.  Meanwhile the other threads take their steps in any order: a run under way
    is a small machine, `Run.move`, and the program's own order of things is one of its schedules.
-/

namespace PooledServer.CommandLine.PoolStress

open Log (Component)
open Work (Item Job Note Event)
open Pool (Setting Luck)

/-- The options. -/
inductive Key where
  | tasks
  | workers
  | spin
  deriving DecidableEq, Repr

def grammar : Grammar Key where
  options := [(.tasks, 't', "tasks"), (.workers, 'w', "workers"), (.spin, ' ', "spin")]
  accepts _ s := (Config.size? s).isSome
  hasVersion := false

/-- What the command line asks for.  All numbers are 64-bit ones. -/
structure Plan where
  tasks : UInt64 := 100000
  workers : UInt64 := 4
  /-- The rounds of computing of each task. -/
  spin : UInt64 := 100
  deriving DecidableEq, Repr

/-- Reads the command line. -/
def plan (args : List String) : Except Stop Plan :=
  match grammar.read [] args with
  | .error stop => .error stop
  | .ok found =>
    let given (key : Key) (default : UInt64) : UInt64 :=
      ((found.lookup key).bind Config.size?).getD default
    .ok { tasks := given .tasks 100000, workers := given .workers 4, spin := given .spin 100 }

/-! ## Tasks -/

/-- The result of `left` more rounds of computing, of which the next has the number `round`. -/
def compute (value round : UInt64) : Nat → UInt64
  | 0 => value
  | left + 1 => compute (value * 31 + round) (round + 1) left

/-- What task `i` adds to the checksum. -/
def contribution (spin : UInt64) (i : Nat) : UInt64 :=
  compute i.toUInt64 0 spin.toNat &&& 1

/-- The work of task `i`. -/
def job (i : Nat) : Job :=
  .mk (.numbered i) .closure (some {}) [] .returns

/-! ## The report -/

/-- The counts of a run: the checksum, and how many tasks each worker has completed. -/
structure Tally where
  checksum : UInt64 := 0
  counts : List UInt64
  deriving DecidableEq, Repr

/-- The counts before the first task. -/
def Plan.blank (p : Plan) : Tally := { counts := List.replicate p.workers.toNat 0 }

/-- Takes an event into account.  Work of unknown workers is not counted. -/
def Tally.add (spin : UInt64) (t : Tally) : Event → Tally
  | .run (.numbered i) _ => { t with checksum := t.checksum + contribution spin i }
  | .notified _ _ _ (some worker) _ => { t with counts := t.counts.modify worker (· + 1) }
  | _ => t

/-- Takes all events among notes into account. -/
def Tally.addAll (spin : UInt64) (t : Tally) (notes : List Note) : Tally :=
  (Note.events notes).foldl (Tally.add spin) t

/-! ## A run under way -/

/-- Where the main thread stands.  The thread that a stage names carries out the call that the main
    thread waits for. -/
inductive Stage where
  | starting (thread : ThreadId)
  /-- Submitting task `i`. -/
  | submitting (i : Nat) (thread : ThreadId)
  | stopping (thread : ThreadId)
  /-- At the end, possibly because the pool did not start. -/
  | ended (failure : Option PoolError)

def Stage.isOver : Stage → Bool
  | .ended _ => true
  | _ => false

/-- A run under way.  The records come latest first. -/
structure Run where
  plan : Plan
  /-- The log is to tell how many tasks are queued when the pool is stopped. -/
  measures : Bool := true
  pool : Pool.State
  stage : Stage
  tally : Tally
  /-- A submission has been refused. -/
  refused : Bool := false
  records : List Log.Record := []

/-- A run over a pool whose making has left `made`: the main thread starts the pool. -/
def Plan.begin (p : Plan) (measures : Bool) (made : List Note) (pool : Pool.State) : Run where
  plan := p
  measures
  pool := pool.order .start
  stage := .starting pool.nextThread
  tally := p.blank
  records := (Note.records made).reverse

namespace Run

/-- Adds records, which come in their order. -/
def log (r : Run) (records : List Log.Record) : Run :=
  { r with records := records.reverse ++ r.records }

/-- The main thread stops the pool. -/
def stop (r : Run) : Run :=
  { r with pool := r.pool.order (.stop r.measures), stage := .stopping r.pool.nextThread }

/-- The main thread submits task `i`, or stops the pool if there is no such task. -/
def goOn (r : Run) (i : Nat) : Run :=
  if i < r.plan.tasks.toNat then
    let (item, registry) := r.pool.registry.make (job i)
    { r with
      pool := { r.pool with registry }.submit item
      stage := .submitting i r.pool.nextThread }
  else r.stop

/-- The main thread has been told what came of its call. -/
def told (r : Run) (result : Pool.Result) : Run :=
  match r.stage, result with
  | .starting _, .ordered (.error e) =>
    { r with stage := .ended (some e) }.log [Component.poolStress.error s!"critical: {e.message}"]
  | .starting _, _ =>
    let (tasks, workers) := (r.plan.tasks.toNat, r.plan.workers.toNat)
    (r.log [Component.poolStress.info s!"submitting {tasks} tasks to {workers} workers"]).goOn 0
  | .submitting .., .submitted item false =>
    ({ r with refused := true }.log
      [Component.poolStress.error s!"submit failed: {item.rejection}"]).stop
  | .submitting i _, _ => r.goOn (i + 1)
  | .stopping _, _ =>
    let (executed, checksum) := (r.pool.executed, r.tally.checksum.toNat)
    { r with stage := .ended none }.log
      [Component.poolStress.info s!"executed:    {executed} (checksum {checksum})"]
  | .ended _, _ => r

/-- The main thread goes on, if the call that it waits for has returned. -/
def main (r : Run) : Option Run :=
  match r.stage with
  | .starting t | .submitting _ t | .stopping t =>
    (r.pool.collect t).map fun (result, pool) => { r with pool }.told result
  | .ended _ => none

/-- The other threads have gone on. -/
def after (r : Run) (pool : Pool.State) (notes : List Note) : Run :=
  { r with pool, tally := r.tally.addAll r.plan.spin notes }.log (Note.records notes)

end Run

/-! ## Schedules -/

/-- What can happen next in a run. -/
inductive Move where
  /-- The main thread goes on. -/
  | main
  /-- The next step of another thread. -/
  | step (thread : ThreadId) (luck : Luck)
  /-- A thread that waits in the queue wakes up without a signal. -/
  | wakeUp (thread : ThreadId)

/-- Locks, waits and the making of threads work in the move.  Joining a thread may report a failure: a
    stop says so in the log and goes on. -/
def Move.isSmooth : Move → Bool
  | .step _ luck => luck.lock && luck.wait && luck.create.isNone && luck.spawn
  | .main | .wakeUp _ => true

namespace Run

/-- One move of a run, and what it leaves behind.  When the main thread is at its end, so is the
    program. -/
def move (r : Run) (m : Move) : Option (Run × List Note) :=
  if r.stage.isOver then none
  else
    match m with
    | .main => r.main.map (·, [])
    | .step t luck => (r.pool.step t luck).map fun (pool, notes) => (r.after pool notes, notes)
    | .wakeUp t => (r.pool.monitor.wakeUp t).map fun monitor => ({ r with pool.monitor := monitor }, [])

/-- A sequence of moves, and all that has been left behind at its end. -/
def run (r : Run) (notes : List Note) : List Move → Option (Run × List Note)
  | [] => some (r, notes)
  | m :: rest => (r.move m).bind fun (r, new) => r.run (notes ++ new) rest

/-- All threads but the main one run until they wait or have ended. -/
def settle (r : Run) : Run :=
  let (setting, notes) := Setting.settle { state := r.pool }
  r.after setting.state notes

/-- The other threads and the main thread go on in turns, the main thread at most `fuel` times. -/
def drive (r : Run) : Nat → Run
  | 0 => r
  | fuel + 1 =>
    if r.stage.isOver then r
    else
      let r := r.settle
      match r.main with
      | some r => r.drive fuel
      | none => r

end Run

/-! ## The program -/

/-- What a run has to say in the end, times apart: the exit code, the records, and how many tasks each
    worker has completed. -/
structure Report where
  exit : Nat
  records : List Log.Record
  counts : List UInt64 := []

def Run.report (r : Run) : Report :=
  match r.stage with
  | .ended (some _) => { exit := 1, records := r.records.reverse }
  | _ => { exit := 0, counts := r.tally.counts, records := r.records.reverse }

/-- The whole run: the main thread starts the pool, submits every task and stops the pool. -/
def Plan.run (p : Plan) : Report :=
  match Pool.create "stress" p.workers [] with
  | (made, _, .error e) =>
    { exit := 1, records := Note.records made ++ [Component.poolStress.error s!"critical: {e.message}"] }
  | (made, _, .ok pool) => ((p.begin true made pool).drive (p.tasks.toNat + 2)).report

/-- The lines that tell how many tasks each worker has completed. -/
def workerRecords (counts : List UInt64) : List Log.Record :=
  counts.zipIdx.map fun (count, worker) =>
    Component.poolStress.info s!"  worker {worker}: {count.toNat}"

end PooledServer.CommandLine.PoolStress
