import PooledServer.Pool.Create
import Std.Data.HashSet

/-!
# Running a pool

    A schedule for a pool: step after step, always by the first thread that can take one, until every
    thread waits or has ended.  What the primitives do in each step follows a script of failures.  The
    schedule is one of the many that the moves of a pool allow.
-/

namespace PooledServer.Pool

open Work (Note)

/-- A pool and the failures that await it. -/
structure Setting where
  state : State
  faults : Sync.Faults := []

/-- What the primitives do in the next turn of thread `t` at the queue. -/
def queueLuck (s : State) (t : ThreadId) (faults : Sync.Faults) : Queue.Luck × Sync.Faults :=
  let chosen := s.monitor.firstWaiter .notEmpty
  match s.monitor.caller? t with
  | none => ({ chosen }, faults)
  | some c =>
    let waits (faults : Sync.Faults) : Queue.Luck × Sync.Faults :=
      match c.request.turn s.monitor.contents with
      | .leave .. => ({ chosen }, faults)
      | .wait condition =>
        let (struck, faults) := faults.meet .wait (Queue.conditionName s.queueName condition)
        ({ chosen, wait := struck.isNone }, faults)
    match c.stage with
    | .entering =>
      let (struck, faults) := faults.meet .lock (Queue.mutexName s.queueName)
      if struck.isSome then ({ chosen, lock := false }, faults) else waits faults
    | .waiting _ => ({ chosen }, faults)
    | .woken _ => waits faults

/-- What the primitives do when the next worker is made. -/
def hireLuck (s : State) (faults : Sync.Faults) : Luck × Sync.Faults :=
  let name := s.threadName s.nextWorker
  let (refused, faults) := faults.meet .threadCreate name
  match refused with
  | some errno => ({ create := some errno }, faults)
  | none =>
    let (struck, faults) := faults.meet .spawn name
    ({ spawn := struck.isNone }, faults)

/-- What the primitives do in the next step of thread `t`. -/
def luck (s : State) (t : ThreadId) (faults : Sync.Faults) : Luck × Sync.Faults :=
  match s.activity? t with
  | some (.order (.hiring (_ + 1))) | some (.order (.growing (_ + 1))) => hireLuck s faults
  | some (.order (.joining _)) =>
    match s.workers with
    | [] => ({}, faults)
    | w :: _ =>
      let (struck, faults) := faults.meet .join (s.threadName w.id)
      ({ join := struck.isNone }, faults)
  | _ =>
    let (luck, faults) := queueLuck s t faults
    ({ toLuck := luck }, faults)

namespace Setting

/-- The next step of thread `t`. -/
def step (g : Setting) (t : ThreadId) : Option (Setting × List Note) :=
  let (luck, faults) := luck g.state t g.faults
  (g.state.step t luck).map fun (state, notes) => ({ state, faults }, notes)

/-- The threads that wait inside the queue for a signal. -/
def parked (g : Setting) : Std.HashSet ThreadId :=
  g.state.monitor.callers.foldl (fun found c =>
    match c.stage with
    | .waiting _ => found.insert c.thread
    | _ => found) ∅

/-- The next step of the first of the threads that can take one.  A parked thread cannot, nor one that
    has ended. -/
def stepFirst (g : Setting) (parked : Std.HashSet ThreadId) : List Thread → Option (Setting × List Note)
  | [] => none
  | th :: rest =>
    let isIdle := match th.activity with
      | .worker _ .ended | .finished _ => true
      | _ => parked.contains th.id
    if isIdle then g.stepFirst parked rest
    else
      match g.step th.id with
      | some result => some result
      | none => g.stepFirst parked rest

/-- At most `fuel` steps, as long as there is one.  The notes come latest first. -/
def steps (g : Setting) (notes : List Note) : Nat → Setting × List Note
  | 0 => (g, notes)
  | fuel + 1 =>
    match g.stepFirst g.parked g.state.threads with
    | none => (g, notes)
    | some (g, new) => g.steps (new.reverse ++ notes) fuel

/-- The work that a thread still has before it, as far as it can be told from its place. -/
def load : Activity → Nat
  | .worker _ (.holding item) => item.job.weight
  | .worker _ (.executing e) => e.item.job.weight
  | .submission item _ => item.job.weight
  | .execution e => e.item.job.weight
  | .order (.hiring left) | .order (.growing left) => left
  | .order (.begun (.grow count)) => count
  | _ => 1

/-- The work that comes with a request to the queue. -/
def brought : Queue.Request Work.Item → Nat
  | .add item => item.job.weight
  | _ => 1

/-- More steps than the threads can take before all of them wait. -/
def bound (s : State) : Nat :=
  let queued := s.monitor.contents.items.foldr (fun item n => item.job.weight + 1 + n) 0
  let submitted := s.monitor.callers.foldr (fun (c : Queue.Caller Work.Item) n => brought c.request + n) 0
  let carried := s.threads.foldr (fun th n => load th.activity + n) 0
  let hired := s.size.toNat
  (1 + queued + submitted + carried) * (64 + 8 * s.threads.length) + 64 * hired

/-- Runs the threads until all of them wait or have ended. -/
def settle (g : Setting) : Setting × List Note :=
  let (g, notes) := g.steps [] (bound g.state)
  (g, notes.reverse)

/-- A new thread begins with `start`, and all threads run until they wait or have ended: what the new
    thread has got, if it has ended. -/
def play (g : Setting) (start : State → State) : Setting × Option Result × List Note :=
  let t := g.state.nextThread
  let ({ state, faults }, notes) := { g with state := start g.state }.settle
  match state.collect t with
  | some (result, state) => ({ state, faults }, some result, notes)
  | none => ({ state, faults }, none, notes)

end Setting

end PooledServer.Pool
