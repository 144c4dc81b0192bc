import PooledServer.Proofs.Pool.Frames

/-!
# The life of a pool

    Between orders a pool is in one of three conditions: it is open (it welcomes work and its queue
    runs), it is fresh (it has never welcomed work, so nobody has ever offered an item to its queue), or
    it is closed (its queue is shut down and empty).  An order takes it from one to the other, and each
    place of an order belongs to a stretch of this way, `OrderPoint.Fits`.

    Only orders move a pool along.  The invariant `State.Orderly` says where a pool is, that one order
    is carried out at a time, and that no worker leaves before the queue is closed. -/

namespace PooledServer.Pool

open Work (Item Execution Phase Note Fate TaskId)

/-- The worker is out of its loop. -/
def WorkerPoint.isOut : WorkerPoint → Bool
  | .leaving | .ending _ | .ended => true
  | .starting _ | .checking | .taking | .holding _ | .executing _ | .counting _ => false

namespace State

/-- The pool welcomes work and its queue runs. -/
def Open (s : State) : Prop := s.running = true ∧ s.monitor.contents.running = true

/-- Nothing is queued and nobody offers an item to the queue. -/
def Untouched (s : State) : Prop :=
  s.monitor.contents.items = [] ∧ ∀ t item, s.monitor.asked t ≠ some (.add item)

/-- The queue runs, but the pool has not welcomed work yet. -/
def Fresh (s : State) : Prop :=
  s.running = false ∧ s.monitor.contents.running = true ∧ s.Untouched

/-- The queue is shut down and empty. -/
def Closed (s : State) : Prop :=
  s.running = false ∧ s.monitor.contents.running = false ∧ s.monitor.contents.items = []

/-- The pool drains: its queue still runs, but it welcomes no more work. -/
def Draining (s : State) : Prop := s.running = false ∧ s.monitor.contents.running = true

/-- What holds while no order is carried out. -/
def Settled (s : State) : Prop := s.Open ∨ s.workers = [] ∧ (s.Fresh ∨ s.Closed)

end State

/-- What holds while an order is at the given place. -/
def OrderPoint.Fits (s : State) : OrderPoint → Prop
  | .begun _ => s.Settled
  | .asking => s.workers = [] ∧ (s.Fresh ∨ s.Closed)
  | .hiring _ | .closing (some _) => s.Fresh
  | .growing _ => s.Open
  | .measuring | .draining => s.Draining
  | .closing none | .dismissing .. | .joining _ => s.Closed

/-- The same for a thread that may have carried its order out. -/
def Activity.Fits (s : State) : Activity → Prop
  | .order p => p.Fits s
  | _ => s.Settled

namespace State

/-- The order of the pool's owner, if there is one, is where the pool is. -/
structure Orderly (s : State) : Prop where
  one : ∀ t u p q, s.activity? t = some (.order p) → s.activity? u = some (.order q) → t = u
  fits : ∀ t p, s.activity? t = some (.order p) → p.Fits s
  settled : (∀ t p, s.activity? t ≠ some (.order p)) → s.Settled
  out : ∀ t id p, s.activity? t = some (.worker id p) → p.isOut = true →
    s.monitor.contents.running = false
  asked : ∀ w ∈ s.workers, w.stop = true → s.monitor.contents.running = false

/-- The part of it that concerns the owner alone. -/
structure Situated (s : State) : Prop where
  one : ∀ t u p q, s.activity? t = some (.order p) → s.activity? u = some (.order q) → t = u
  fits : ∀ t p, s.activity? t = some (.order p) → p.Fits s
  settled : (∀ t p, s.activity? t ≠ some (.order p)) → s.Settled

theorem Orderly.situated {s : State} (h : s.Orderly) : s.Situated := ⟨h.one, h.fits, h.settled⟩

variable {s s' s₁ : State} {t : ThreadId} {a b : Activity} {said : List (Fate × TaskId)}

/-! ## Workers and submissions keep the pool where it is -/

/-- `s₁` is where `s` is. -/
structure Steady (s s₁ : State) : Prop where
  running : s₁.running = s.running
  opened : s₁.monitor.contents.running = s.monitor.contents.running
  nobody : s.workers = [] → s₁.workers = []
  untouched : s.running = false → s.Untouched → s₁.Untouched
  empty : s.monitor.contents.running = false → s.monitor.contents.items = [] →
    s₁.monitor.contents.items = []

theorem Steady.open (h : s.Steady s₁) (ho : s.Open) : s₁.Open :=
  ⟨h.running.trans ho.1, h.opened.trans ho.2⟩

theorem Steady.fresh (h : s.Steady s₁) (hf : s.Fresh) : s₁.Fresh :=
  ⟨h.running.trans hf.1, h.opened.trans hf.2.1, h.untouched hf.1 hf.2.2⟩

theorem Steady.closed (h : s.Steady s₁) (hc : s.Closed) : s₁.Closed :=
  ⟨h.running.trans hc.1, h.opened.trans hc.2.1, h.empty hc.2.1 hc.2.2⟩

theorem Steady.settled (h : s.Steady s₁) (hs : s.Settled) : s₁.Settled := by
  rcases hs with ho | ⟨hw, hf | hc⟩
  · exact Or.inl (h.open ho)
  · exact Or.inr ⟨h.nobody hw, Or.inl (h.fresh hf)⟩
  · exact Or.inr ⟨h.nobody hw, Or.inr (h.closed hc)⟩

theorem Steady.fits (h : s.Steady s₁) {p : OrderPoint} (hp : p.Fits s) : p.Fits s₁ := by
  cases p with
  | begun order => exact h.settled hp
  | asking =>
      obtain ⟨hw, hf | hc⟩ := hp
      · exact ⟨h.nobody hw, Or.inl (h.fresh hf)⟩
      · exact ⟨h.nobody hw, Or.inr (h.closed hc)⟩
  | hiring left => exact h.fresh hp
  | growing left => exact h.open hp
  | measuring => exact ⟨h.running.trans hp.1, h.opened.trans hp.2⟩
  | draining => exact ⟨h.running.trans hp.1, h.opened.trans hp.2⟩
  | closing failure =>
      cases failure with
      | none => exact h.closed hp
      | some e => exact h.fresh hp
  | dismissing left failure => exact h.closed hp
  | joining failure => exact h.closed hp

/-- A call for something else than an addition. -/
theorem untouched_of_call {monitor : Queue.Monitor Item} {r : Queue.Request Item}
    (h : s.monitor.call t r = some monitor) (hr : ∀ item, r ≠ .add item) (hu : s.Untouched) :
    State.Untouched { s with monitor } := by
  obtain ⟨hasked, hcontents⟩ := Queue.Monitor.asked_call h
  refine ⟨(congrArg _ hcontents).trans hu.1, ?_⟩
  intro u item
  show monitor.asked u ≠ _
  rw [hasked]
  by_cases hut : u = t
  · subst hut
    rw [Function.update_self]
    exact fun heq => hr item (Option.some.inj heq)
  · rw [Function.update_of_ne hut]
    exact hu.2 u item

/-- An answer that leaves the items alone. -/
theorem untouched_of_answer {monitor : Queue.Monitor Item} {r : Queue.Request Item}
    {answer : Queue.Answer Item} (h : s.monitor.Answered t r monitor answer)
    (hitems : monitor.contents.items = s.monitor.contents.items) (hu : s.Untouched) :
    State.Untouched { s with monitor } := by
  refine ⟨hitems.trans hu.1, ?_⟩
  intro u item
  show monitor.asked u ≠ _
  rw [h.asked]
  by_cases hut : u = t
  · subst hut
    rw [Function.update_self]
    exact fun heq => nomatch heq
  · rw [Function.update_of_ne hut]
    exact hu.2 u item

theorem untouched_of_wait {monitor : Queue.Monitor Item} {r : Queue.Request Item}
    (h : s.monitor.Waited t r monitor) (hu : s.Untouched) : State.Untouched { s with monitor } := by
  refine ⟨(congrArg _ h.contents).trans hu.1, ?_⟩
  show ∀ u item, monitor.asked u ≠ _
  rw [h.asked]
  exact hu.2

theorem Executes.untouched {item : Item} {phase phase' : Phase}
    (h : s.Executes t item phase s₁ phase' said) (hr : s.running = false) (hu : s.Untouched) :
    s₁.Untouched := by
  cases h with
  | proceeds stepped => exact hu
  | barred count child rest closed => exact hu
  | offers count child rest monitor welcome called => exact nomatch hr.symm.trans welcome
  | accepted count child rest monitor answered => exact absurd answered.asked_self (hu.2 _ _)
  | refused count child rest monitor answered => exact absurd answered.asked_self (hu.2 _ _)

theorem Executes.items {item : Item} {phase phase' : Phase}
    (h : s.Executes t item phase s₁ phase' said) (hq : s.monitor.contents.running = false) :
    s₁.monitor.contents.items = s.monitor.contents.items := by
  cases h with
  | proceeds stepped => rfl
  | barred count child rest closed => rfl
  | offers count child rest monitor welcome called =>
      exact congrArg _ (Queue.Monitor.asked_call called).2
  | accepted count child rest monitor answered =>
      rcases answered.add with ⟨-, hr, -⟩ | ⟨h, -⟩
      · exact nomatch hq.symm.trans hr
      · exact nomatch h
  | refused count child rest monitor answered =>
      rcases answered.add with ⟨h, -⟩ | ⟨-, -, hc⟩
      · exact nomatch h
      · exact congrArg _ hc

/-- A worker neither opens nor closes anything. -/
theorem Works.steady {id : Nat} {p q : WorkerPoint} (h : s.Works t id p s₁ q said) : s.Steady s₁ := by
  have hframe := h.frame
  refine ⟨hframe.running, hframe.opened, hframe.workers_eq_nil_iff.mpr, ?_, ?_⟩
  · intro hr hu
    cases h with
    | comes monitor called => exact untouched_of_call called (fun _ h => nomatch h) hu
    | waits monitor waited => exact untouched_of_wait waited hu
    | takes monitor item answered =>
        rcases answered.take with ⟨item', -, hi, -⟩ | ⟨h, -⟩
        -- the queue of a fresh pool has no item to be taken
        · exact nomatch hu.1.symm.trans hi
        · exact nomatch h
    | sentAway monitor answered =>
        rcases answered.take with ⟨item', h, -⟩ | ⟨-, -, hc⟩
        · exact nomatch h
        · exact untouched_of_answer answered (congrArg _ hc) hu
    | executes item step => exact step.untouched hr hu
    | _ => exact hu
  · intro hq hi
    cases h with
    | comes monitor called => exact (congrArg _ (Queue.Monitor.asked_call called).2).trans hi
    | waits monitor waited => exact (congrArg _ waited.contents).trans hi
    | takes monitor item answered =>
        rcases answered.take with ⟨item', -, -, hr, -⟩ | ⟨h, -⟩
        · exact nomatch hq.symm.trans hr
        · exact nomatch h
    | sentAway monitor answered =>
        rcases answered.take with ⟨item', h, -⟩ | ⟨-, -, hc⟩
        · exact nomatch h
        · exact (congrArg _ hc).trans hi
    | executes item step => exact (step.items hq).trans hi
    | _ => exact hi

/-- Nor does a submission. -/
theorem Submits.steady {item : Item} {inQueue : Bool} (h : s.Submits t item inQueue s₁ b said) :
    s.Steady s₁ := by
  have hframe := h.frame
  refine ⟨hframe.running, hframe.opened, hframe.workers_eq_nil_iff.mpr, ?_, ?_⟩
  · intro hr hu
    cases h with
    | barred closed => exact hu
    | comes monitor welcome called => exact nomatch hr.symm.trans welcome
    -- nobody is adding to the queue of a pool that was never opened
    | accepted monitor answered => exact absurd answered.asked_self (hu.2 _ _)
    | refused monitor answered => exact absurd answered.asked_self (hu.2 _ _)
  · intro hq hi
    cases h with
    | barred closed => exact hi
    | comes monitor welcome called =>
        exact (congrArg _ (Queue.Monitor.asked_call called).2).trans hi
    | accepted monitor answered =>
        rcases answered.add with ⟨-, hr, -⟩ | ⟨h, -⟩
        · exact nomatch hq.symm.trans hr
        · exact nomatch h
    | refused monitor answered =>
        rcases answered.add with ⟨h, -⟩ | ⟨-, -, hc⟩
        · exact nomatch h
        · exact (congrArg _ hc).trans hi

/-! ## Orders take the pool along -/

theorem fresh_of_call {monitor : Queue.Monitor Item} {r : Queue.Request Item}
    (h : s.monitor.call t r = some monitor) (hr : ∀ item, r ≠ .add item) (hf : s.Fresh) :
    State.Fresh { s with monitor } :=
  ⟨hf.1, (congrArg _ (Queue.Monitor.asked_call h).2).trans hf.2.1, untouched_of_call h hr hf.2.2⟩

theorem closed_of_contents {m : Queue.Monitor Item} (h : m.contents = s.monitor.contents)
    (hc : s.Closed) : State.Closed { s with monitor := m } :=
  ⟨hc.1, (congrArg _ h).trans hc.2.1, (congrArg _ h).trans hc.2.2⟩

/-- **EACH STEP OF AN ORDER** takes the pool to where the order's next place belongs. -/
theorem Orders.fits {p : OrderPoint} (h : s.Orders t p s₁ b) (hp : p.Fits s) : b.Fits s₁ := by
  cases h with
  | startsNothing welcome => exact hp
  | inquires monitor closed called =>
      rcases hp with ho | ⟨hw, hf | hc⟩
      · exact nomatch closed.symm.trans ho.1
      · exact ⟨hw, Or.inl (fresh_of_call called (fun _ h => nomatch h) hf)⟩
      · exact ⟨hw, Or.inr (closed_of_contents (Queue.Monitor.asked_call called).2 hc)⟩
  | grows count welcome =>
      rcases hp with ho | ⟨-, hf | hc⟩
      · exact ho
      · exact nomatch welcome.symm.trans hf.1
      · exact nomatch welcome.symm.trans hc.1
  | plans count size closed => exact hp
  | overplans count message closed => exact hp
  | stopsNothing stop closed nobody => exact hp
  | measures stop monitor due called =>
      rcases hp with ho | ⟨hw, hf⟩
      · exact ⟨rfl, (congrArg _ (Queue.Monitor.asked_call called).2).trans ho.2⟩
      · rcases due with hr | hnot
        · rcases hf with hf | hc
          · exact nomatch hr.symm.trans hf.1
          · exact nomatch hr.symm.trans hc.1
        · exact absurd hw hnot
  | drains stop monitor due called =>
      rcases hp with ho | ⟨hw, hf⟩
      · exact ⟨rfl, (congrArg _ (Queue.Monitor.asked_call called).2).trans ho.2⟩
      · rcases due with hr | hnot
        · rcases hf with hf | hc
          · exact nomatch hr.symm.trans hf.1
          · exact nomatch hr.symm.trans hc.1
        · exact absurd hw hnot
  | mayStart monitor answered =>
      obtain ⟨hflag, hc⟩ := answered.isRunning
      have hq : s.monitor.contents.running = true := (Queue.Answer.flag.inj hflag).symm
      rcases hp with ⟨-, hf | hclosed⟩
      · exact ⟨hf.1, (congrArg _ hc).trans hq, untouched_of_answer answered (congrArg _ hc) hf.2.2⟩
      · exact nomatch hq.symm.trans hclosed.2.1
  | mayNot monitor answered =>
      obtain ⟨hflag, hc⟩ := answered.isRunning
      have hq : s.monitor.contents.running = false := (Queue.Answer.flag.inj hflag).symm
      rcases hp with ⟨hw, hf | hclosed⟩
      · exact nomatch hq.symm.trans hf.2.1
      · exact Or.inr ⟨hw, Or.inr (closed_of_contents hc hclosed)⟩
  | opens => exact Or.inl ⟨rfl, hp.2.1⟩
  | hires left => exact hp
  | givesUp left failure monitor called =>
      exact fresh_of_call (s := s.attempted) called (fun _ h => nomatch h) hp
  | grown => exact Or.inl hp
  | growsBy left size => exact hp
  | outgrows left message => exact Or.inl hp
  | stunted left failure => exact Or.inl hp
  | measured between monitor count answered called =>
      refine ⟨hp.1, ?_⟩
      show monitor.contents.running = true
      rw [(Queue.Monitor.asked_call called).2, answered.size.2]
      exact hp.2
  | waits monitor waited => exact ⟨hp.1, (congrArg _ waited.contents).trans hp.2⟩
  | drained between monitor answer answered called =>
      -- draining has come to its end, so the queue is empty and shut down
      obtain ⟨hq, hitems, hempty⟩ := answered.shutDownWhenDrained
      obtain ⟨-, hcontents⟩ := Queue.Monitor.asked_call called
      exact ⟨hp.1, (congrArg _ hcontents).trans hq,
        (congrArg _ hcontents).trans (hitems.trans (hempty hp.2))⟩
  | closes failure monitor answer answered =>
      obtain ⟨hq, hitems⟩ := answered.shutDown
      cases failure with
      | none => exact ⟨hp.1, hq, hitems.trans hp.2.2⟩
      | some e => exact ⟨hp.1, hq, hitems.trans hp.2.2.1⟩
  | dismisses id left failure => exact hp
  | dismissed failure => exact hp
  | joins failure w rest first gone => exact hp
  | joined failure nobody => exact Or.inr ⟨nobody, Or.inr hp⟩

/-- No order opens a queue that is shut down. -/
theorem Orders.stays_closed {p : OrderPoint} (h : s.Orders t p s₁ b)
    (hq : s.monitor.contents.running = false) : s₁.monitor.contents.running = false := by
  cases h with
  | inquires monitor closed called => exact (congrArg _ (Queue.Monitor.asked_call called).2).trans hq
  | measures stop monitor due called =>
      exact (congrArg _ (Queue.Monitor.asked_call called).2).trans hq
  | drains stop monitor due called =>
      exact (congrArg _ (Queue.Monitor.asked_call called).2).trans hq
  | givesUp left failure monitor called =>
      exact (congrArg _ (Queue.Monitor.asked_call called).2).trans hq
  | mayStart monitor answered => exact (congrArg _ answered.isRunning.2).trans hq
  | mayNot monitor answered => exact (congrArg _ answered.isRunning.2).trans hq
  | measured between monitor count answered called =>
      exact (congrArg _ ((Queue.Monitor.asked_call called).2.trans answered.size.2)).trans hq
  | waits monitor waited => exact (congrArg _ waited.contents).trans hq
  | drained between monitor answer answered called =>
      exact (congrArg _ (Queue.Monitor.asked_call called).2).trans answered.shutDownWhenDrained.1
  | closes failure monitor answer answered => exact answered.shutDown.1
  | _ => exact hq

/-- A worker that is asked to stop belongs to a pool that is closed. -/
theorem Orders.workers {p : OrderPoint} (h : s.Orders t p s₁ b) (hp : p.Fits s) :
    ∀ w ∈ s₁.workers, w.stop = true → w ∈ s.workers ∨ s₁.monitor.contents.running = false := by
  -- who is hired is not asked to stop
  have hnew : ∀ w ∈ s.enlarged.workers, w.stop = true → w ∈ s.workers := by
    intro w hw hstop
    rcases List.mem_append.mp hw with hold | hnew
    · exact hold
    · rw [List.mem_singleton.mp hnew] at hstop
      exact nomatch hstop
  intro w hw hstop
  cases h with
  | hires left => exact Or.inl (hnew w hw hstop)
  | growsBy left size => exact Or.inl (hnew w hw hstop)
  | outgrows left message => exact Or.inl (hnew w hw hstop)
  | dismisses id left failure => exact Or.inr hp.2.1
  | joins failure v rest first gone =>
      refine Or.inl ?_
      rw [first]
      exact List.mem_cons_of_mem _ hw
  | _ => exact Or.inl hw

/-! ## The invariant -/

theorem any_stop {id : Nat} (h : (s.worker? id).any (·.stop) = true) :
    ∃ w ∈ s.workers, w.stop = true := by
  obtain ⟨w, hw, hstop⟩ := (Option.any_eq_true _ _).mp h
  exact ⟨w, List.mem_of_find?_eq_some hw, hstop⟩

/-- A worker leaves its loop only when the queue is shut down. -/
theorem Works.out (h : s.Orderly) {id : Nat} {p q : WorkerPoint} (step : s.Works t id p s₁ q said)
    (hp : p.isOut = true → s.monitor.contents.running = false)
    (hcalm : ∀ item message, p ≠ .executing ⟨item, .concluded (.escaped message)⟩)
    (hq : q.isOut = true) : s.monitor.contents.running = false := by
  cases step with
  | quits stop =>
      obtain ⟨w, hw, hstop⟩ := any_stop stop
      exact h.asked w hw hstop
  | sentAway monitor answered =>
      rcases answered.take with ⟨item, heq, -⟩ | ⟨-, hr, -⟩
      · exact nomatch heq
      · exact hr
  | escapes item message => exact absurd rfl (hcalm item message)
  | leaves => exact hp rfl
  | ends escaped => exact hp rfl
  | _ => exact nomatch hq

/-- A change that leaves the pool where it is, its threads and its workers as they are. -/
theorem Orderly.of_steady (h : s.Orderly) (steady : s.Steady s₁)
    (hactivity : s₁.activity? = s.activity?) (hworkers : s₁.workers = s.workers) : s₁.Orderly := by
  refine ⟨?_, ?_, ?_, ?_, ?_⟩
  · rw [hactivity]
    exact h.one
  · rw [hactivity]
    exact fun u p hu => steady.fits (h.fits u p hu)
  · rw [hactivity]
    exact fun hnone => steady.settled (h.settled hnone)
  · rw [hactivity]
    exact fun u id p hu hp => steady.opened.trans (h.out u id p hu hp)
  · rw [hworkers]
    exact fun w hw hstop => steady.opened.trans (h.asked w hw hstop)

/-- Threads that are no order's move and leave the pool where it is. -/
theorem Orderly.place (h : s.Orderly) (frame : s.Frame s₁) (steady : s.Steady s₁)
    (here : s.activity? t = some a) (ha : ∀ p, a ≠ .order p) (hb : ∀ p, b ≠ .order p)
    (hout : ∀ id p, b = .worker id p → p.isOut = true → s.monitor.contents.running = false) :
    (s₁.place t b).Orderly := by
  rw [← frame.activity?] at here
  -- the orders are carried out where they were before
  have horder : ∀ u p, (s₁.place t b).activity? u = some (.order p) ↔
      s.activity? u = some (.order p) := by
    intro u p
    rw [activity?_place here]
    by_cases hut : u = t
    · subst hut
      rw [Function.update_self, ← frame.activity?, here]
      exact iff_of_false (fun h => hb p (Option.some.inj h)) (fun h => ha p (Option.some.inj h))
    · rw [Function.update_of_ne hut, frame.activity?]
  refine ⟨?_, ?_, ?_, ?_, ?_⟩
  · intro u v p q hu hv
    exact h.one u v p q ((horder u p).mp hu) ((horder v q).mp hv)
  · intro u p hu
    exact steady.fits (h.fits u p ((horder u p).mp hu))
  · intro hnone
    exact steady.settled (h.settled fun u p hu => hnone u p ((horder u p).mpr hu))
  · intro u id p hu hp
    rw [activity?_place here] at hu
    refine steady.opened.trans ?_
    by_cases hut : u = t
    · subst hut
      rw [Function.update_self] at hu
      exact hout id p (Option.some.inj hu) hp
    · rw [Function.update_of_ne hut, frame.activity?] at hu
      exact h.out u id p hu hp
  · intro w hw hstop
    obtain ⟨f, hworkers, hf⟩ := frame.workers
    have hmem : w ∈ s₁.workers := hw
    rw [hworkers] at hmem
    obtain ⟨v, hv, rfl⟩ := List.mem_map.mp hmem
    exact steady.opened.trans (h.asked v hv ((hf v).2.2.symm.trans hstop))

/-- No other thread carries out an order after a step of one. -/
theorem Situated.alone (hs : s.Placed) (h : s.Situated) {p q : OrderPoint}
    (here : s.activity? t = some (.order p)) (step : s.Orders t p s₁ b) {u : ThreadId} (hut : u ≠ t) :
    (s₁.place t b).activity? u ≠ some (.order q) := by
  intro hu
  rw [activity?_place (step.placed hs here).2, Function.update_of_ne hut] at hu
  rcases step.others hs u with heq | ⟨-, id, task, hnew⟩ | ⟨-, hgone⟩
  · exact hut (h.one u t q p (heq ▸ hu) here)
  · exact nomatch hu.symm.trans hnew
  · exact nomatch hu.symm.trans hgone

/-- After the last step of an order nobody carries one out. -/
theorem Situated.over (hs : s.Placed) (h : s.Situated) {p q : OrderPoint}
    (here : s.activity? t = some (.order p)) (step : s.Orders t p s₁ b) (hb : ∀ q, b ≠ .order q)
    {u : ThreadId} : (s₁.place t b).activity? u ≠ some (.order q) := by
  by_cases hut : u = t
  · subst hut
    rw [activity?_place (step.placed hs here).2, Function.update_self]
    exact fun hu => hb q (Option.some.inj hu)
  · exact h.alone hs here step hut

/-- An order's thread moves and takes the pool along. -/
theorem Situated.order (hs : s.Placed) (h : s.Situated) {p : OrderPoint}
    (here : s.activity? t = some (.order p)) (step : s.Orders t p s₁ b) :
    (s₁.place t b).Situated := by
  have hb : b.Fits s₁ := step.fits (h.fits t p here)
  have hself : (s₁.place t b).activity? t = some b := by
    rw [activity?_place (step.placed hs here).2, Function.update_self]
  refine ⟨?_, ?_, ?_⟩
  · intro u v q r hu hv
    by_cases hut : u = t
    · by_cases hvt : v = t
      · rw [hut, hvt]
      · exact absurd hv (h.alone hs here step hvt)
    · exact absurd hu (h.alone hs here step hut)
  · intro u q hu
    by_cases hut : u = t
    · subst hut
      rw [hself] at hu
      rw [Option.some.inj hu] at hb
      exact hb
    · exact absurd hu (h.alone hs here step hut)
  · intro hnone
    cases b with
    | order q => exact absurd hself (hnone t q)
    | _ => exact hb

theorem Orderly.order (hs : s.Placed) (h : s.Orderly) {p : OrderPoint}
    (here : s.activity? t = some (.order p)) (step : s.Orders t p s₁ b) :
    (s₁.place t b).Orderly := by
  have hp : p.Fits s := h.fits t p here
  have here₁ := (step.placed hs here).2
  obtain ⟨hone, hfits, hsettled⟩ := h.situated.order hs here step
  refine ⟨hone, hfits, hsettled, ?_, ?_⟩
  · intro u id q hu hq
    rw [activity?_place here₁] at hu
    by_cases hut : u = t
    · subst hut
      rw [Function.update_self] at hu
      have hrole := step.worker?
      rw [Option.some.inj hu] at hrole
      exact nomatch hrole
    · rw [Function.update_of_ne hut] at hu
      -- a worker that has just been hired has not left its loop
      rcases step.others hs u with heq | ⟨-, id', task, hnew⟩ | ⟨-, hgone⟩
      · exact step.stays_closed (h.out u id q (heq ▸ hu) hq)
      · cases Option.some.inj (hu.symm.trans hnew)
        exact nomatch hq
      · exact nomatch hu.symm.trans hgone
  · intro w hw hstop
    rcases step.workers hp w hw hstop with hold | hclosed
    · exact step.stays_closed (h.asked w hold hstop)
    · exact hclosed

/-- **A POOL'S LIFE IS ORDERLY**. -/
theorem Orderly.stepped (hs : s.Placed) (h : s.Orderly)
    (hcalm : ∀ u id item message,
      s.activity? u ≠ some (.worker id (.executing ⟨item, .concluded (.escaped message)⟩)))
    (hstep : s.Stepped t s' said) : s'.Orderly := by
  cases hstep with
  | works here step =>
      refine h.place step.frame step.steady here (fun _ h => nomatch h) (fun _ h => nomatch h) ?_
      rintro id p heq hp
      cases heq
      refine step.out h (h.out t _ _ here) ?_ hp
      rintro item message rfl
      exact hcalm _ _ _ _ here
  | submits here step =>
      refine h.place step.frame step.steady here (fun _ h => nomatch h) ?_ ?_
      · cases step <;> exact fun _ h => nomatch h
      · intro id p heq
        have hrole := step.worker?
        rw [heq] at hrole
        exact nomatch hrole
  | orders here step => exact h.order hs here step

end State

end PooledServer.Pool
