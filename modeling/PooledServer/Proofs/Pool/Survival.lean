import PooledServer.Proofs.Pool.Courses
import PooledServer.Proofs.Pool.Stop

/-!
# Workers outlast their items

    A worker that has taken an item executes it, counts it and comes back for the next one, whether the
    task returns or panics.  Only one thing throws it out of its loop before the queue is shut down and
    before it is asked to stop: the observer of the item, if it panics.  Such an item is never counted,
    its worker's thread ends, and nobody takes the worker's place (`State.worker_thrown_out`).

    Runs are the courses in which that does not happen, because the observers of all jobs return: in
    them every accepted item is executed, and a stop returns (`State.workers_survive`). -/

namespace PooledServer.Pool

open Work (Item Note Fate TaskId)

/-- Worker `id` has taken the item and has not counted it yet. -/
def WorkerPoint.WorksOn (id : Nat) (item : Item) : WorkerPoint → Prop
  | .holding i => i = item
  | .executing e => e.item = { item with runBy := some id }
  | .counting task => task = item.id
  | .starting _ | .checking | .taking | .leaving | .ending _ | .ended => False

/-- The worker may have to wait at this place: for an item, for a gate, for a shared task or for the
    queue that its task submits to. -/
def WorkerPoint.mayWait : WorkerPoint → Bool
  | .taking | .ended => true
  | .executing ⟨_, .ready⟩ | .executing ⟨_, .acting ..⟩ | .executing ⟨_, .offering ..⟩ => true
  | .executing ⟨_, .ran _⟩ | .executing ⟨_, .hooked _⟩ | .executing ⟨_, .concluded _⟩ => false
  | .starting _ | .checking | .holding _ | .counting _ | .leaving | .ending _ => false

namespace State

variable {s s' s₁ : State} {t : ThreadId} {id : Nat} {p q : WorkerPoint} {item : Item}
  {notes new notes' : List Note} {fatal fatal' : List Item} {said : List (Fate × TaskId)}
  {moves : List Move}

/-! ## From the taking of an item to its end -/

/-- A worker with an item goes on with it, counts it, or is thrown out over it. -/
theorem Works.worksOn (step : s.Works t id p s₁ q said) (hp : p.WorksOn id item) :
    q.WorksOn id item ∨ p = .counting item.id ∨
      { item with runBy := some id } ∈ (Activity.worker id p).thrown := by
  cases step with
  | stamps i =>
      refine Or.inl ?_
      obtain rfl : i = item := hp
      rfl
  | executes i step => exact Or.inl hp
  | returns i outcome =>
      refine Or.inl ?_
      obtain rfl : i = { item with runBy := some id } := hp
      rfl
  | escapes i message =>
      refine Or.inr (Or.inr ?_)
      obtain rfl : i = { item with runBy := some id } := hp
      exact List.mem_singleton_self _
  | counts task => exact Or.inr (Or.inl (congrArg _ hp))
  | _ => exact hp.elim

/-- What becomes of an item in one move: its worker still has it, has counted it, or is thrown out. -/
theorem Manned.worksOn_move (h : s.Manned notes fatal) {move : Move} (hregular : move.isRegular = true)
    (hmove : s.move move = some (s', new)) (here : s.activity? t = some (.worker id p))
    (hp : p.WorksOn id item) :
    (∃ q, s'.activity? t = some (.worker id q) ∧ q.WorksOn id item) ∨ .counted id item.id ∈ new ∨
      { item with runBy := some id } ∈ s.thrownOver move := by
  cases move with
  | step u luck =>
      obtain ⟨hlock, hwait⟩ := Bool.and_eq_true_iff.mp hregular
      have hstepped := h.stepped_of_step hlock hwait hmove
      by_cases hut : t = u
      · subst hut
        have hmoved : s.step t luck = some (s', new) := hmove
        generalize Note.fates new = said at hstepped
        cases hstepped with
        | works here' step =>
            cases Option.some.inj (here.symm.trans here')
            rcases step.worksOn hp with hq | rfl | hthrown
            · refine Or.inl ⟨_, ?_, hq⟩
              rw [activity?_place (step.frame.activity? ▸ here), Function.update_self]
            -- counting is a step of its own, and it leaves the note behind
            · simp only [State.step] at hmoved
              rw [here] at hmoved
              obtain ⟨-, rfl⟩ := Prod.mk.inj (Option.some.inj hmoved)
              exact Or.inr (Or.inl (List.mem_singleton_self _))
            · refine Or.inr (Or.inr ?_)
              rw [thrownOver_of_activity here]
              exact hthrown
        | submits here' step => cases here.symm.trans here'
        | orders here' step => cases here.symm.trans here'
      · refine Or.inl ⟨p, hstepped.activity?_of_ne h.placed here hut ?_, hp⟩
        rintro id' heq
        cases heq
        exact hp
  | wakeUp u =>
      obtain ⟨monitor, -, heq⟩ := Option.map_eq_some_iff.mp hmove
      obtain ⟨rfl, -⟩ := Prod.mk.inj heq
      exact Or.inl ⟨p, here, hp⟩
  | request request => cases hregular
  | make job =>
      obtain ⟨rfl, -⟩ := Prod.mk.inj (Option.some.inj hmove)
      exact Or.inl ⟨p, here, hp⟩
  | submit i =>
      obtain ⟨rfl, -⟩ := Prod.mk.inj (Option.some.inj hmove)
      exact Or.inl ⟨p, activity?_launch_of_some h.placed here, hp⟩
  | execute i => cases hregular
  | order order =>
      obtain ⟨rfl, -⟩ := Prod.mk.inj (Option.some.inj hmove)
      exact Or.inl ⟨p, activity?_launch_of_some h.placed here, hp⟩
  | openGate gate =>
      obtain ⟨rfl, -⟩ := Prod.mk.inj (Option.some.inj hmove)
      exact Or.inl ⟨p, here, hp⟩

/-- **AN ITEM THAT WAS TAKEN** is still in the hands of the worker that took it, or this worker has
    counted it, or it was thrown out over it. -/
theorem Manned.worksOn_course (h : s.Manned notes fatal) (here : s.activity? t = some (.worker id p))
    (hp : p.WorksOn id item) (hcourse : s.course notes fatal moves = some (s', notes', fatal')) :
    (∃ q, s'.activity? t = some (.worker id q) ∧ q.WorksOn id item) ∨ .counted id item.id ∈ notes' ∨
      { item with runBy := some id } ∈ fatal' := by
  -- once it is counted, or its worker thrown out, this is on record for good
  have hkeeps := course_keeps
    (P := fun s₂ notes₂ fatal₂ => s₂.Manned notes₂ fatal₂ ∧
      ((∃ q, s₂.activity? t = some (.worker id q) ∧ q.WorksOn id item) ∨
        .counted id item.id ∈ notes₂ ∨ { item with runBy := some id } ∈ fatal₂))
    ?_ ⟨h, Or.inl ⟨p, here, hp⟩⟩ hcourse
  · exact hkeeps.2
  · rintro s₂ notes₂ fatal₂ move s₃ new ⟨hmanned, hitem⟩ hregular hmove
    refine ⟨hmanned.move hregular hmove, ?_⟩
    rcases hitem with ⟨q, hq, hworks⟩ | hcounted | hthrown
    · rcases hmanned.worksOn_move hregular hmove hq hworks with hstill | hcounted | hthrown
      · exact Or.inl hstill
      · exact Or.inr (Or.inl (List.mem_append_right _ hcounted))
      · exact Or.inr (Or.inr (List.mem_append_right _ hthrown))
    · exact Or.inr (Or.inl (List.mem_append_left _ hcounted))
    · exact Or.inr (Or.inr (List.mem_append_left _ hthrown))

/-- Wherever it need not wait a worker has a step: once a task has ended, nothing keeps its worker from
    coming back for the next item. -/
theorem canGo_of_loop (hasked : s.monitor.asked t = p.asks)
    (here : s.activity? t = some (.worker id p)) (hp : p.mayWait = false) : s.CanGo t := by
  simp only [CanGo, step]
  rw [here]
  cases p with
  | checking =>
      simp only [workerStep]
      split
      · rfl
      · exact Option.isSome_map.trans (ask_isSome hasked)
  | executing e =>
      obtain ⟨item, phase⟩ := e
      cases phase with
      | ran outcome => rfl
      | hooked outcome => rfl
      | concluded ended => rfl
      | _ => cases hp
  | starting | holding | counting | leaving | ending => rfl
  | taking | ended => cases hp

/-- The same where every thread has asked for what its place says. -/
theorem Asking.canGo_of_worker (h : s.Asking) (here : s.activity? t = some (.worker id p))
    (hp : p.mayWait = false) : s.CanGo t :=
  canGo_of_loop (h.asked_eq here) here hp

/-! ## Where no observer panics -/

theorem isRegular_of_permits {move : Move} (h : s.permits notes move = true) :
    move.isRegular = true := by
  cases move with
  | step t luck => exact h
  | request | execute => exact nomatch h
  | wakeUp | make | submit | order | openGate => rfl

/-- In a calm pool nobody is thrown out. -/
theorem Calm.thrownOver_eq_nil (h : s.Calm) (move : Move) : s.thrownOver move = [] := by
  cases move with
  | step t luck =>
      simp only [thrownOver]
      cases here : s.activity? t with
      | none => rfl
      | some a =>
          simp only [Option.map_some, Option.getD_some, Activity.thrown]
          split
          · exact absurd here (h.not_escaped _ _ _ _)
          · rfl
  | _ => rfl

/-- **A RUN IS A COURSE** that throws nobody out. -/
theorem Sane.course (h : s.Sane notes) (hrun : s.run notes moves = some (s', notes')) :
    s.course notes fatal moves = some (s', notes', fatal) := by
  induction moves generalizing s notes with
  | nil =>
      obtain ⟨rfl, rfl⟩ := Prod.mk.inj (Option.some.inj hrun)
      rfl
  | cons move rest ih =>
      simp only [State.run] at hrun
      split at hrun
      · rename_i hpermits
        obtain ⟨⟨s₁, new⟩, hmove, hrest⟩ := Option.bind_eq_some_iff.mp hrun
        simp only [State.course]
        rw [if_pos (isRegular_of_permits hpermits), hmove, h.calm.thrownOver_eq_nil,
          List.append_nil]
        exact ih (h.move hpermits hmove) hrest
      · cases hrun

/-- A worker in its loop goes on, or another thread does, unless the worker waits at an empty queue. -/
theorem Sane.exists_canGo (h : s.Sane notes) (hfree : s.Unblocked)
    (here : s.activity? t = some (.worker id p)) (hended : p ≠ .ended)
    (htaking : p = .taking →
      s.monitor.contents.running = false ∨ s.monitor.contents.items ≠ []) : ∃ u, s.CanGo u := by
  cases hopen : s.monitor.contents.running with
  | false => exact exists_canGo_of_closed h hfree hopen here hended
  | true =>
      refine exists_canGo_of_worker h hfree here hended fun hwaits => ?_
      obtain ⟨w, hw, -⟩ := h.placed.known t id p here
      rcases htaking hwaits with hclosed | hitems
      · exact nomatch hopen.symm.trans hclosed
      · exact exists_canGo_of_items h hfree hopen hitems (List.ne_nil_of_mem hw)

/-- A stop of a pool with workers begins. -/
theorem Sane.stopping (h : s.Sane notes) (hidle : s.isIdle = true) (hworkers : s.workers ≠ [])
    (measures : Bool) : (s.order (.stop measures)).Stopping s.nextThread := by
  have hsettled : s.Settled := h.orderly.settled (not_order_of_isIdle hidle)
  refine ⟨.order (.begun (.stop measures)), ?_, ?_, hworkers⟩
  · simp only [State.order]
    rw [activity?_launch h.placed, Function.update_self]
  · rcases hsettled with hopen | ⟨hnone, -⟩
    · exact hopen.1
    · exact absurd hnone hworkers

/-- A stop that has returned has returned normally, and its work is done. -/
theorem Stopping.returned (h : s.Sane notes) (hstop : s.Stopping t) {result : Result}
    (hresult : s.activity? t = some (.finished result)) : result = .ordered (.ok ()) ∧ s.Done notes := by
  obtain ⟨a, ha, hfit⟩ := hstop
  cases Option.some.inj (ha.symm.trans hresult)
  cases result with
  | ordered outcome =>
      cases outcome with
      | ok done => exact ⟨rfl, h.done hfit⟩
      | error e => exact hfit.elim
  | _ => exact hfit.elim

/-- A stop that has not returned is not stuck. -/
theorem Stopping.exists_canGo (h : s.Sane notes) (hstop : s.Stopping t) (hfree : s.Unblocked)
    (hnot : ∀ result, s.activity? t ≠ some (.finished result)) : ∃ u, s.CanGo u := by
  obtain ⟨a, ha, hfit⟩ := hstop
  cases a with
  | finished result => exact absurd ha (hnot result)
  | order p =>
      refine exists_canGo_of_order h hfree ha ?_
      rintro rfl
      exact hfit
  | _ => exact hfit.elim

/-- What holds of a pool at any time, whatever its items do: the items on the list are such whose
    observers panic; a worker is out of its loop only for a reason; every item that was handed out is
    with a worker, or counted, or on the list; and the worker that has taken an item keeps it until it
    has counted it, unless its observer panics. -/
structure Survives (s : State) (notes : List Note) (fatal : List Item) : Prop where
  thrown : ∀ item ∈ fatal, item.throws = true
  out : ∀ t id p, s.activity? t = some (.worker id p) → p.isOut = true → s.MayBeOut fatal id
  onward : ∀ t id p, s.activity? t = some (.worker id p) → p.mayWait = false → s.CanGo t
  executed : s.executed = (Fate.counted.met (Note.fates notes)).length
  handed : (↑(Fate.handedOut.met (Note.fates notes)) : Multiset TaskId) =
    ↑(Fate.counted.met (Note.fates notes)) + s.gather Activity.held + ↑(fatal.map (·.id))
  taken : ∀ t id item, s.activity? t = some (.worker id (.holding item)) →
    ∀ moves s' notes' fatal', s.course notes fatal moves = some (s', notes', fatal') →
      (∃ p, s'.activity? t = some (.worker id p) ∧ p.WorksOn id item) ∨
        .counted id item.id ∈ notes' ∨
        item.throws = true ∧ { item with runBy := some id } ∈ fatal'

/-- What holds of a pool in which no observer panics: no worker is out of its loop before the queue is
    shut down; a worker with something to do is not stuck; and a stop executes all that was accepted. -/
structure Thrives (s : State) (notes : List Note) : Prop where
  loops : ∀ t id p, s.activity? t = some (.worker id p) → p.isOut = true →
    s.monitor.contents.running = false
  goesOn : s.Unblocked → ∀ t id p, s.activity? t = some (.worker id p) → p ≠ .ended →
    (p = .taking → s.monitor.contents.running = false ∨ s.monitor.contents.items ≠ []) →
      ∃ u, s.CanGo u
  stops : s.workers ≠ [] → s.isIdle = true → ∀ measures moves s' notes',
    (s.order (.stop measures)).run notes moves = some (s', notes') →
      (∀ result, s'.activity? s.nextThread = some (.finished result) →
        result = .ordered (.ok ()) ∧ s'.Done notes') ∧
      (s'.Unblocked → (∀ result, s'.activity? s.nextThread ≠ some (.finished result)) →
        ∃ u, s'.CanGo u)

theorem Manned.survives (h : s.Manned notes fatal) : s.Survives notes fatal := by
  refine ⟨h.thrown, h.out, fun t id p here => h.asking.canGo_of_worker here, h.executed, h.handed, ?_⟩
  intro t id item here moves s' notes' fatal' hcourse
  rcases h.worksOn_course here rfl hcourse with hstill | hcounted | hthrown
  · exact Or.inl hstill
  · exact Or.inr (Or.inl hcounted)
  · have hthrows := (h.course hcourse).thrown _ hthrown
    exact Or.inr (Or.inr ⟨hthrows, hthrown⟩)

theorem Sane.thrives (h : s.Sane notes) : s.Thrives notes := by
  refine ⟨h.orderly.out, fun hfree t id p here => h.exists_canGo hfree here, ?_⟩
  intro hworkers hidle measures moves s' notes' hrun
  obtain ⟨hsane, hstop⟩ := (h.stopping hidle hworkers measures).run (h.order hidle) hrun
  exact ⟨fun result => hstop.returned hsane, hstop.exists_canGo hsane⟩

/-- **NO TASK KILLS A WORKER**, and no observer that returns does.  At the end of any course of a new
    pool, whatever its tasks and observers have done, a worker is out of its loop only because the queue
    is shut down, because it was asked to stop, or because the observer of an item that it ran has
    panicked; the worker that takes an item whose observer does not panic goes through with it and
    counts it; and the number of executed items is the number of those that were counted.

    If no observer panics, nobody is ever thrown out, workers go on as long as there is something to do,
    and a stop executes every accepted item and returns. -/
theorem workers_survive {name : String} {size : UInt64} {faults faults' : Sync.Faults}
    {arithmetic : Arithmetic} {made : List Note} {pool : State}
    (hcreate : create name size faults arithmetic = (made, faults', .ok pool)) :
    (∀ moves s notes fatal, pool.course [] [] moves = some (s, notes, fatal) →
      s.Survives notes fatal) ∧
    ∀ moves s notes, pool.run [] moves = some (s, notes) →
      pool.course [] [] moves = some (s, notes, []) ∧ s.Thrives notes := by
  constructor
  · intro moves s notes fatal hcourse
    exact ((manned_create hcreate).course hcourse).survives
  · intro moves s notes hrun
    have hsane := sane_create hcreate
    exact ⟨hsane.course hrun, (hsane.run hrun).thrives⟩

/-- The first item of a pool with one worker: its task panics, its observer returns. -/
def rough : Item := ⟨2, .mk (.numbered 0) .closure (some {}) [] (.panics (.text "task failure")), none⟩

/-- The first item of a pool with one worker: its task returns, its observer panics. -/
def touchy : Item := ⟨2, .mk (.numbered 0) .closure (some { panic := some "told" }) [] .returns, none⟩

/-- The item after it. -/
def follower : Item := ⟨3, .mk (.numbered 1) .closure none [] .returns, none⟩

/-- The pool is started and both items are submitted. -/
def bothSubmitted (first : Item) : List Move :=
  [.order .start, .step 0 {}, .step 0 {}, .step 0 {}, .step 0 {}, .make first.job,
    .make follower.job, .submit first, .step 2 {}, .step 2 {}, .submit follower, .step 3 {},
    .step 3 {}]

/-- The worker comes, executes and counts both items. -/
def bothExecuted : List Move := bothSubmitted rough ++ List.replicate 19 (.step 1 {})

/-- The worker comes and executes the first item until its thread has ended; then the pool is stopped. -/
def firstFatal : List Move :=
  bothSubmitted touchy ++ List.replicate 10 (.step 1 {}) ++
    [.order (.stop false), .step 4 {}, .step 4 {}]

/-- The pool after both items. -/
def afterBoth : State × List Note := (lonePool.run [] bothExecuted).getD (lonePool, [])

/-- The pool after the fatal item. -/
def afterFatal : State × List Note × List Item :=
  (lonePool.course [] [] firstFatal).getD (lonePool, [], [])

/-- A panicking task and the task after it: both are counted, and the worker is in its loop. -/
theorem workers_survive_rough :
    lonePool.run [] bothExecuted = some afterBoth ∧ afterBoth.1.executed = 2 ∧
    afterBoth.1.aliveCount = 1 ∧ afterBoth.1.Thrives afterBoth.2 ∧
    afterFatal.1.Survives afterFatal.2.1 afterFatal.2.2 := by
  have hboth : lonePool.run [] bothExecuted = some afterBoth :=
    (Option.getD_of_ne_none (by decide) _).symm
  have hfatal : lonePool.course [] [] firstFatal = some afterFatal :=
    (Option.getD_of_ne_none (by decide) _).symm
  have hcreate : create "pool" 1 [] = ((create "pool" 1 []).1, [], .ok lonePool) := rfl
  obtain ⟨hsurvives, hthrives⟩ := workers_survive hcreate
  exact ⟨hboth, by decide, by decide, (hthrives _ _ _ hboth).2, hsurvives _ _ _ _ hfatal⟩

/-- **A PANICKING OBSERVER KILLS A WORKER**: the queue runs and nobody was asked to stop, yet the thread
    of the only worker has ended.  The item that it had taken is not counted, the next one, though it was
    accepted, is not begun, and the stop that waits for it is stuck. -/
theorem worker_thrown_out :
    lonePool.course [] [] firstFatal = some afterFatal ∧
    (afterFatal.1.monitor.contents.running = true ∧
      ∀ w ∈ afterFatal.1.workers, w.stop = false ∧ w.alive = false) ∧
    (afterFatal.1.activity? 1).any (fun a => a matches .worker _ .ended) = true ∧
    Fate.accepted.met (Note.fates afterFatal.2.1) = [2, 3] ∧
    Fate.begun.met (Note.fates afterFatal.2.1) = [2] ∧ afterFatal.1.executed = 0 ∧
    (afterFatal.1.activity? 4).any (fun a => a matches .order .draining) = true ∧
    afterFatal.1.Unblocked ∧ ¬ ∃ u, afterFatal.1.CanGo u := by
  have hfatal : lonePool.course [] [] firstFatal = some afterFatal :=
    (Option.getD_of_ne_none (by decide) _).symm
  have hcreate : create "pool" 1 [] = ((create "pool" 1 []).1, [], .ok lonePool) := rfl
  have hmanned : afterFatal.1.Manned afterFatal.2.1 afterFatal.2.2 :=
    (manned_create hcreate).course hfatal
  refine ⟨hfatal, by decide, by decide, by decide, by decide, by decide, by decide, ?_, ?_⟩
  · intro t id e here
    -- no thread executes anything
    have hnone : ∀ th ∈ afterFatal.1.threads, th.activity.held = [] := by decide
    cases hnone _ (mem_threads_of_activity? here)
  · rintro ⟨u, hu⟩
    cases here : afterFatal.1.activity? u with
    | none =>
        simp only [CanGo, State.step] at hu
        rw [here] at hu
        cases hu
    | some a =>
        -- there are five threads, and none of them has a step
        have hlt : u < 5 := hmanned.placed.lt_nextThread here
        have hstill : ∀ u < 5, (afterFatal.1.step u (afterFatal.1.goodLuck u)).isSome = false := by
          decide
        exact Bool.noConfusion ((hstill u hlt).symm.trans hu)

end State

end PooledServer.Pool
