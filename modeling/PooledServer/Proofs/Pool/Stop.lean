import PooledServer.Proofs.Pool.Progress

/-!
# Stopping a pool

    The thread of a stop takes a pool with workers from open to closed: it turns the flag off, lets the
    queue drain, closes it, asks the workers to stop and joins them one by one.  While it drains there
    is a worker left, and when it has returned the pool is shut: closed, and without workers.  Then the
    books of the pool leave room for nothing but that every accepted item was executed once.

    A pool that is shut stays so whatever is tried on it. -/

namespace PooledServer.Pool

open Work (Item Note Fate TaskId)

namespace State

variable {s s' s₁ : State} {t u : ThreadId} {a b : Activity} {notes new : List Note}
  {said : List (Fate × TaskId)} {moves : List Move}

/-! ## What submitters can rely on -/

/-- What holds of items at any time: an item is accepted at most once and begun at most once, only
    accepted items are ever begun, and whoever submitted an item has been told the truth about it. -/
structure Fair (s : State) (notes : List Note) : Prop where
  accepted_once : (Fate.accepted.met (Note.fates notes)).Nodup
  begun_once : (Fate.begun.met (Note.fates notes)).Nodup
  begun_accepted : ∀ i ∈ Fate.begun.met (Note.fates notes), i ∈ Fate.accepted.met (Note.fates notes)
  answers : ∀ t item ok, s.activity? t = some (.finished (.submitted item ok)) →
    item.id ∈ (if ok then Fate.accepted else Fate.refused).met (Note.fates notes)

/-- Whoever has begun an item holds it. -/
theorem gather_inHand_le : s.gather Activity.inHand ≤ s.gather Activity.held := by
  -- place by place, so the sums over the threads compare by induction on them
  have hle : ∀ a : Activity, (↑a.inHand : Multiset TaskId) ≤ ↑a.held := by
    intro a
    cases a with
    | worker id p =>
        cases p with
        | executing e =>
            simp only [Activity.inHand, Activity.held]
            split
            · exact le_refl _
            · exact Multiset.zero_le _
        | counting task => exact le_refl _
        | _ => exact Multiset.zero_le _
    | _ => exact Multiset.zero_le _
  simp only [gather]
  induction s.threads with
  | nil => exact le_refl _
  | cons th rest ih =>
      rw [List.map_cons, List.map_cons, List.sum_cons, List.sum_cons]
      exact add_le_add (hle th.activity) ih

theorem Sane.fair (h : s.Sane notes) : s.Fair notes := by
  -- begun, handed out, accepted: each of these histories is part of the next
  have hhanded : (↑(Fate.begun.met (Note.fates notes)) : Multiset TaskId) ≤
      ↑(Fate.handedOut.met (Note.fates notes)) := by
    rw [h.books.begun, h.books.held]
    exact add_le_add_right gather_inHand_le _
  have haccepted : (↑(Fate.handedOut.met (Note.fates notes)) : Multiset TaskId) ≤
      ↑(Fate.accepted.met (Note.fates notes)) := by
    rw [h.books.queue, ← Multiset.coe_add]
    exact Multiset.le_add_right _ _
  have honce : (↑(Fate.accepted.met (Note.fates notes)) : Multiset TaskId).Nodup :=
    Multiset.nodup_of_le (Multiset.le_add_right _ _) h.books.once
  have hle := hhanded.trans haccepted
  refine ⟨Multiset.coe_nodup.mp honce, Multiset.coe_nodup.mp (Multiset.nodup_of_le hle honce), ?_,
    h.books.answers⟩
  intro i hi
  exact Multiset.mem_coe.mp (Multiset.mem_of_le hle (Multiset.mem_coe.mpr hi))

/-! ## A pool that is shut -/

/-- The pool is closed and has no workers. -/
def Shut (s : State) : Prop := s.Closed ∧ s.workers = []

theorem Orders.shut {p : OrderPoint} (h : s.Orders t p s₁ b) (hp : p.Fits s) (hshut : s.Shut) :
    s₁.Shut := by
  obtain ⟨hclosed, hw⟩ := hshut
  -- a shut pool is neither fresh nor open, which rules out every step that hires
  have hfresh : ¬ s.Fresh := fun hf => by cases hf.2.1.symm.trans hclosed.2.1
  have hopen : ¬ s.Open := fun ho => by cases ho.1.symm.trans hclosed.1
  cases h with
  | inquires monitor closed called =>
      exact ⟨closed_of_contents (Queue.Monitor.asked_call called).2 hclosed, hw⟩
  | measures stop monitor due called =>
      rcases due with hr | hnot
      · cases hr.symm.trans hclosed.1
      · exact absurd hw hnot
  | drains stop monitor due called =>
      rcases due with hr | hnot
      · cases hr.symm.trans hclosed.1
      · exact absurd hw hnot
  | mayStart monitor answered => exact ⟨closed_of_contents answered.isRunning.2 hclosed, hw⟩
  | mayNot monitor answered => exact ⟨closed_of_contents answered.isRunning.2 hclosed, hw⟩
  | opens => exact absurd hp hfresh
  | hires left => exact absurd hp hfresh
  | givesUp left failure monitor called => exact absurd hp hfresh
  | growsBy left size => exact absurd hp hopen
  | outgrows left message => exact absurd hp hopen
  | stunted left failure => exact absurd hp hopen
  | measured between monitor count answered called =>
      cases hp.2.symm.trans hclosed.2.1
  | waits monitor waited => cases hp.2.symm.trans hclosed.2.1
  | drained between monitor answer answered called =>
      cases hp.2.symm.trans hclosed.2.1
  | closes failure monitor answer answered =>
      obtain ⟨hq, hitems⟩ := answered.shutDown
      exact ⟨⟨hclosed.1, hq, hitems.trans hclosed.2.2⟩, hw⟩
  | dismisses id left failure =>
      refine ⟨hclosed, ?_⟩
      simp only [updateWorker]
      rw [hw, List.map_nil]
  | joins failure w rest first gone => cases hw.symm.trans first
  | _ => exact ⟨hclosed, hw⟩

/-- In a pool that is shut nothing is accepted, and no step opens it. -/
theorem Shut.stepped (h : s.Sane notes) (hshut : s.Shut) (hstep : s.Stepped t s' said) :
    s'.Shut ∧ Fate.accepted.met said = [] := by
  obtain ⟨hclosed, hw⟩ := hshut
  cases hstep with
  | works here step =>
      -- every worker's thread is enrolled, and nobody is
      obtain ⟨w, hmem, -⟩ := h.placed.known _ _ _ here
      rw [hw] at hmem
      exact nomatch hmem
  | submits here step =>
      refine ⟨⟨step.steady.closed hclosed, step.steady.nobody hw⟩, ?_⟩
      cases step with
      | barred closed => rfl
      | comes monitor welcome called => rfl
      | accepted monitor answered =>
          rcases answered.add with ⟨-, hr, -⟩ | ⟨h, -⟩
          · exact nomatch hr.symm.trans hclosed.2.1
          · exact nomatch h
      | refused monitor answered => rfl
  | orders here step => exact ⟨step.shut (h.orderly.fits _ _ here) ⟨hclosed, hw⟩, rfl⟩

/-- What the other moves of a run leave alone. -/
theorem frame_of_move {move : Move} (h : s.Sane notes) (hpermits : s.permits notes move = true)
    (hmove : s.move move = some (s', new)) (hstep : ∀ t luck, move ≠ .step t luck) :
    new = [] ∧ s'.running = s.running ∧ s'.workers = s.workers ∧
      s'.monitor.contents = s.monitor.contents ∧
      ∀ u c, s.activity? u = some c → s'.activity? u = some c := by
  cases move with
  | step t luck => exact absurd rfl (hstep t luck)
  | wakeUp t =>
      obtain ⟨monitor, hwake, heq⟩ := Option.map_eq_some_iff.mp hmove
      obtain ⟨rfl, rfl⟩ := Prod.mk.inj heq
      exact ⟨rfl, rfl, rfl, (Queue.Monitor.asked_wakeUp hwake).2, fun _ _ hu => hu⟩
  | request request => exact nomatch hpermits
  | make job =>
      obtain ⟨rfl, rfl⟩ := Prod.mk.inj (Option.some.inj hmove)
      exact ⟨rfl, rfl, rfl, rfl, fun _ _ hu => hu⟩
  | submit item =>
      obtain ⟨rfl, rfl⟩ := Prod.mk.inj (Option.some.inj hmove)
      exact ⟨rfl, rfl, rfl, rfl, fun _ _ => activity?_launch_of_some h.placed⟩
  | execute item => exact nomatch hpermits
  | order order =>
      obtain ⟨rfl, rfl⟩ := Prod.mk.inj (Option.some.inj hmove)
      exact ⟨rfl, rfl, rfl, rfl, fun _ _ => activity?_launch_of_some h.placed⟩
  | openGate gate =>
      obtain ⟨rfl, rfl⟩ := Prod.mk.inj (Option.some.inj hmove)
      exact ⟨rfl, rfl, rfl, rfl, fun _ _ hu => hu⟩

theorem Sane.stepped_of_permits (h : s.Sane notes) {luck : Luck}
    (hpermits : s.permits notes (.step t luck) = true) (hstep : s.step t luck = some (s', new)) :
    s.Stepped t s' (Note.fates new) := by
  obtain ⟨hlock, hwait⟩ := Bool.and_eq_true_iff.mp hpermits
  exact stepped_of_step h.placed h.asking h.calm.guarded hlock hwait
    (fun e he => h.calm.threads t _ he) hstep

theorem Shut.move (h : s.Sane notes) (hshut : s.Shut) {move : Move}
    (hpermits : s.permits notes move = true) (hmove : s.move move = some (s', new)) :
    s'.Shut ∧ Fate.accepted.met (Note.fates new) = [] := by
  by_cases hstep : ∃ t luck, move = .step t luck
  · obtain ⟨t, luck, rfl⟩ := hstep
    exact hshut.stepped h (h.stepped_of_permits hpermits hmove)
  · obtain ⟨rfl, hrunning, hworkers, hcontents, -⟩ :=
      frame_of_move h hpermits hmove fun t luck heq => hstep ⟨t, luck, heq⟩
    obtain ⟨hclosed, hw⟩ := hshut
    refine ⟨⟨⟨hrunning.trans hclosed.1, ?_, ?_⟩, hworkers.trans hw⟩, rfl⟩
    · rw [hcontents]
      exact hclosed.2.1
    · rw [hcontents]
      exact hclosed.2.2

/-- From then on nothing is accepted. -/
theorem Shut.run (h : s.Sane notes) (hshut : s.Shut) {notes' : List Note}
    (hrun : s.run notes moves = some (s', notes')) :
    s'.Shut ∧ Fate.accepted.met (Note.fates notes') = Fate.accepted.met (Note.fates notes) := by
  have hkeeps := run_keeps
    (P := fun s₂ notes₂ => s₂.Sane notes₂ ∧ s₂.Shut ∧
      Fate.accepted.met (Note.fates notes₂) = Fate.accepted.met (Note.fates notes)) ?_
    ⟨h, hshut, rfl⟩ hrun
  · exact hkeeps.2
  · rintro s₂ notes₂ move s₃ new ⟨hsane, hshut₂, heq⟩ hpermits hmove
    obtain ⟨hshut₃, hnone⟩ := hshut₂.move hsane hpermits hmove
    refine ⟨hsane.move hpermits hmove, hshut₃, ?_⟩
    rw [Note.fates_append, Fate.met_append, hnone, List.append_nil]
    exact heq

/-- What holds when a stop has returned: every accepted item has been executed and counted, once; the
    queue is empty and shut down; no worker is left; and every later submission is refused. -/
structure Done (s : State) (notes : List Note) : Prop where
  begun : (Fate.begun.met (Note.fates notes)).Perm (Fate.accepted.met (Note.fates notes))
  counted : (Fate.counted.met (Note.fates notes)).Perm (Fate.accepted.met (Note.fates notes))
  executed : s.executed = (Fate.accepted.met (Note.fates notes)).length
  empty : s.monitor.contents.items = []
  workers : s.workers = [] ∧ ∀ t id p, s.activity? t ≠ some (.worker id p)
  later : ∀ moves s' notes', s.run notes moves = some (s', notes') →
    Fate.accepted.met (Note.fates notes') = Fate.accepted.met (Note.fates notes) ∧
    ∀ t item luck, s'.activity? t = some (.submission item false) →
      s'.step t luck =
        some (s'.place t (.finished (.submitted item false)), [.refused item.id])

/-- What only workers hold is held by nobody when no worker is left. -/
theorem gather_of_nobody (hd : (s.threads.map (·.id)).Nodup)
    (hnobody : ∀ t id p, s.activity? t ≠ some (.worker id p)) {f : Activity → List TaskId}
    (hf : ∀ a, a.worker? = none → f a = []) : s.gather f = 0 := by
  refine gather_eq_zero fun th hth => hf _ ?_
  cases hrole : th.activity.worker? with
  | none => rfl
  | some id =>
      obtain ⟨p, hp⟩ := Activity.worker?_eq_some hrole
      refine absurd (activity?_of_mem (a := th.activity) hd hth) ?_
      rw [hp]
      exact hnobody th.id id p

theorem Sane.done (h : s.Sane notes) (hshut : s.Shut) : s.Done notes := by
  obtain ⟨hclosed, hw⟩ := hshut
  have hnobody : ∀ t id p, s.activity? t ≠ some (.worker id p) := by
    intro t id p hp
    obtain ⟨w, hmem, -⟩ := h.placed.known t id p hp
    rw [hw] at hmem
    exact nomatch hmem
  -- no worker is left, so nothing is handed out or begun that is not counted
  have hheld : s.gather Activity.held = 0 := by
    refine gather_of_nobody h.placed.distinct hnobody fun a ha => ?_
    cases a with
    | worker id p => exact nomatch ha
    | _ => rfl
  have hinHand : s.gather Activity.inHand = 0 := by
    refine gather_of_nobody h.placed.distinct hnobody fun a ha => ?_
    cases a with
    | worker id p => exact nomatch ha
    | _ => rfl
  -- the queue is empty, so all that was accepted was handed out
  have hqueue : Fate.accepted.met (Note.fates notes) = Fate.handedOut.met (Note.fates notes) := by
    rw [h.books.queue, show s.queued = [] from congrArg (List.map _) hclosed.2.2, List.append_nil]
  have hcounted : (Fate.counted.met (Note.fates notes)).Perm
      (Fate.accepted.met (Note.fates notes)) := by
    rw [hqueue]
    refine Multiset.coe_eq_coe.mp ?_
    rw [h.books.held, hheld, add_zero]
  have hbegun : (Fate.begun.met (Note.fates notes)).Perm (Fate.counted.met (Note.fates notes)) := by
    refine Multiset.coe_eq_coe.mp ?_
    rw [h.books.begun, hinHand, add_zero]
  refine ⟨hbegun.trans hcounted, hcounted, ?_, hclosed.2.2, ⟨hw, hnobody⟩, ?_⟩
  · rw [h.books.executed]
    exact hcounted.length_eq
  · intro moves s' notes' hrun
    obtain ⟨⟨hclosed', -⟩, haccepted⟩ := Shut.run h ⟨hclosed, hw⟩ hrun
    refine ⟨haccepted, ?_⟩
    intro t item luck here
    simp only [State.step]
    rw [here]
    simp only [hclosed'.1]
    rfl

/-! ## The thread of a stop -/

/-- Where the thread of a stop can be, and what is left to be done there. -/
def StopFits (s : State) : Activity → Prop
  | .order (.begun (.stop _)) => s.running = true ∧ s.workers ≠ []
  | .order .measuring | .order .draining => s.workers ≠ []
  | .order (.closing none) | .order (.dismissing _ none) | .order (.joining none) => True
  | .finished (.ordered (.ok ())) => s.Shut
  | _ => False

/-- Thread `t` stops the pool, or has stopped it. -/
def Stopping (s : State) (t : ThreadId) : Prop := ∃ a, s.activity? t = some a ∧ s.StopFits a

/-- What a thread of a stop needs is kept by whoever leaves the pool where it is. -/
theorem StopFits.of_eq (h : s.StopFits a) (hrunning : s₁.running = s.running)
    (hworkers : s.workers ≠ [] → s₁.workers ≠ []) (hshut : s.Shut → s₁.Shut) : s₁.StopFits a := by
  simp only [StopFits] at h ⊢
  split at h
  · exact ⟨hrunning.trans h.1, hworkers h.2⟩
  · exact hworkers h
  · exact hworkers h
  · exact trivial
  · exact trivial
  · exact trivial
  · exact hshut h
  · exact h.elim

/-- A stop takes its own steps to the end, and returns when the pool is shut. -/
theorem Orders.stopFits {p : OrderPoint} (h : s.Orders t p s₁ b) (hp : p.Fits s)
    (hfit : s.StopFits (.order p)) : s₁.StopFits b := by
  cases h with
  | stopsNothing stop closed nobody => exact nomatch hfit.1.symm.trans closed
  | measures stop monitor due called => exact hfit.2
  | drains stop monitor due called => exact hfit.2
  | measured between monitor count answered called => exact hfit
  | waits monitor waited => exact hfit
  | drained between monitor answer answered called => exact trivial
  | closes failure monitor answer answered =>
      cases failure with
      | none => exact trivial
      | some e => exact hfit.elim
  | dismisses id left failure =>
      cases failure with
      | none => exact trivial
      | some e => exact hfit.elim
  | dismissed failure =>
      cases failure with
      | none => exact trivial
      | some e => exact hfit.elim
  | joins failure w rest first gone =>
      cases failure with
      | none => exact trivial
      | some e => exact hfit.elim
  | joined failure nobody =>
      cases failure with
      | none => exact ⟨hp, nobody⟩
      | some e => exact hfit.elim
  | _ => exact hfit.elim

/-- A worker or a submission does not concern the thread of a stop. -/
theorem Stopping.framed (hstop : s.Stopping t) {c : Activity} (frame : s.Frame s₁)
    (steady : s.Steady s₁) (here : s.activity? u = some c) (hut : u ≠ t) :
    (s₁.place u b).Stopping t := by
  obtain ⟨a, ha, hfit⟩ := hstop
  refine ⟨a, ?_, ?_⟩
  · rw [activity?_place (frame.activity? ▸ here), Function.update_of_ne (Ne.symm hut),
      frame.activity?]
    exact ha
  · refine hfit.of_eq steady.running ?_ fun hshut => ⟨steady.closed hshut.1, steady.nobody hshut.2⟩
    exact fun hw hnil => hw (frame.workers_eq_nil_iff.mp hnil)

theorem Stopping.stepped (h : s.Sane notes) (hstop : s.Stopping t) (hstep : s.Stepped u s' said) :
    s'.Stopping t := by
  have hwhole := hstop
  obtain ⟨a, ha, hfit⟩ := hstop
  cases hstep with
  | works here step =>
      refine hwhole.framed step.frame step.steady here ?_
      rintro rfl
      cases Option.some.inj (here.symm.trans ha)
      exact hfit.elim
  | submits here step =>
      refine hwhole.framed step.frame step.steady here ?_
      rintro rfl
      cases Option.some.inj (here.symm.trans ha)
      exact hfit.elim
  | orders here step =>
      have hp := h.orderly.fits _ _ here
      have here₁ := (step.placed h.placed here).2
      by_cases hut : u = t
      · subst hut
        cases Option.some.inj (here.symm.trans ha)
        refine ⟨_, ?_, step.stopFits hp hfit⟩
        rw [activity?_place here₁, Function.update_self]
      · refine ⟨a, ?_, ?_⟩
        · rw [activity?_place here₁, Function.update_of_ne (Ne.symm hut)]
          rcases step.others h.placed t with heq | ⟨hnone, -⟩ | ⟨⟨id, hended⟩, -⟩
          · exact heq.trans ha
          · exact nomatch hnone.symm.trans ha
          · cases Option.some.inj (hended.symm.trans ha)
            exact hfit.elim
        · -- one order at a time: this stop has returned
          cases a with
          | order q => exact absurd (h.orderly.one u t _ q here ha) hut
          | finished result =>
              cases result with
              | ordered outcome =>
                  cases outcome with
                  | ok done => exact step.shut hp hfit
                  | error e => exact hfit.elim
              | _ => exact hfit.elim
          | _ => exact hfit.elim

theorem Stopping.move (h : s.Sane notes) (hstop : s.Stopping t) {move : Move}
    (hpermits : s.permits notes move = true) (hmove : s.move move = some (s', new)) :
    s'.Stopping t := by
  by_cases hstep : ∃ u luck, move = .step u luck
  · obtain ⟨u, luck, rfl⟩ := hstep
    exact hstop.stepped h (h.stepped_of_permits hpermits hmove)
  · obtain ⟨-, hrunning, hworkers, hcontents, hactivity⟩ :=
      frame_of_move h hpermits hmove fun u luck heq => hstep ⟨u, luck, heq⟩
    obtain ⟨a, ha, hfit⟩ := hstop
    refine ⟨a, hactivity t a ha, hfit.of_eq hrunning (fun hw => hworkers ▸ hw) fun hshut => ?_⟩
    exact (hshut.move h hpermits hmove).1

/-- The thread of a stop is followed from its first step on. -/
theorem Stopping.run (h : s.Sane notes) (hstop : s.Stopping t) {notes' : List Note}
    (hrun : s.run notes moves = some (s', notes')) : s'.Sane notes' ∧ s'.Stopping t :=
  run_keeps (P := fun s₂ notes₂ => s₂.Sane notes₂ ∧ s₂.Stopping t)
    (fun _ _ _ _ _ h hpermits hmove => ⟨h.1.move hpermits hmove, h.2.move h.1 hpermits hmove⟩)
    ⟨h, hstop⟩ hrun

/-- **A STOP DOES ITS WORK AND IS NEVER STUCK**.  Take any run of a new pool that has come to have a
    worker.  If no task is blocked, then either no order is being carried out, so that a stop can be
    called, or some thread has a step.  After any run that goes on from a call of stop:

    * every item was accepted at most once and begun at most once, none was begun that was not
      accepted, and every submission that has returned told whether its item was accepted;
    * if the stop has returned, it has returned normally, every accepted item was executed exactly once,
      the number of executed items is the number of accepted ones, the queue is empty, no worker is
      left, and from then on every submission is refused;
    * if the stop has not returned and no task is blocked, some thread has a step. -/
theorem stop_executes_all {name : String} {size : UInt64} {faults faults' : Sync.Faults}
    {arithmetic : Arithmetic} {made notes : List Note} {pool : State} {before : List Move}
    (hcreate : create name size faults arithmetic = (made, faults', .ok pool))
    (hbefore : pool.run [] before = some (s, notes)) (hworkers : s.workers ≠ []) :
    (s.Unblocked → s.isIdle = true ∨ ∃ u, s.CanGo u) ∧
    ∀ measures after s' notes', s.isIdle = true →
      (s.order (.stop measures)).run notes after = some (s', notes') →
      s'.Fair notes' ∧
      (∀ result, s'.activity? s.nextThread = some (.finished result) →
        result = .ordered (.ok ()) ∧ s'.Done notes') ∧
      ((∀ result, s'.activity? s.nextThread ≠ some (.finished result)) →
        s'.Unblocked → ∃ u, s'.CanGo u) := by
  have hsane : s.Sane notes := (sane_create hcreate).run hbefore
  constructor
  · intro hfree
    by_cases hidle : s.isIdle = true
    · exact Or.inl hidle
    · right
      obtain ⟨th, hth, horder⟩ : ∃ th ∈ s.threads, ∃ p, th.activity = .order p := by
        by_contra hnone
        refine hidle (List.all_eq_true.mpr fun th hth => ?_)
        cases hactivity : th.activity with
        | order p => exact absurd ⟨th, hth, p, hactivity⟩ hnone
        | _ => rfl
      obtain ⟨p, hp⟩ := horder
      have here : s.activity? th.id = some th.activity := activity?_of_mem hsane.placed.distinct hth
      rw [hp] at here
      exact exists_canGo_of_order hsane hfree here fun _ => hworkers
  · intro measures after s' notes' hidle hafter
    have hordered : (s.order (.stop measures)).Sane notes := hsane.order hidle
    -- a pool with workers that carries out no order is open
    have hopen : s.running = true := by
      have hsettled : s.Settled := hsane.orderly.settled fun t p hp =>
        Bool.noConfusion (List.all_eq_true.mp hidle _ (mem_threads_of_activity? hp))
      rcases hsettled with ho | ⟨hw, -⟩
      · exact ho.1
      · exact absurd hw hworkers
    -- the thread of the stop is followed from its first step to its return
    have hstopping : (s.order (.stop measures)).Stopping s.nextThread := by
      refine ⟨.order (.begun (.stop measures)), ?_, hopen, hworkers⟩
      simp only [order]
      rw [activity?_launch hsane.placed, Function.update_self]
    obtain ⟨hsane', a, ha, hfit⟩ := run_keeps
      (P := fun s₂ notes₂ => s₂.Sane notes₂ ∧ s₂.Stopping s.nextThread)
      (fun s₂ notes₂ move s₃ new h hpermits hmove =>
        ⟨h.1.move hpermits hmove, h.2.move h.1 hpermits hmove⟩) ⟨hordered, hstopping⟩ hafter
    refine ⟨hsane'.fair, ?_, ?_⟩
    · intro result hresult
      cases Option.some.inj (ha.symm.trans hresult)
      cases result with
      | ordered outcome =>
          cases outcome with
          | ok done => exact ⟨rfl, hsane'.done hfit⟩
          | error e => exact hfit.elim
      | _ => exact hfit.elim
    · intro hnot hfree
      cases a with
      | finished result => exact absurd ha (hnot result)
      | order p =>
          refine exists_canGo_of_order hsane' hfree ha ?_
          rintro rfl
          exact hfit
      | _ => exact hfit.elim

/-- The first item of a pool with one worker, for a task that does nothing. -/
def errand : Item := ⟨2, .mk (.numbered 0) .closure none [] .returns, none⟩

/-- The pool is started and the item submitted. -/
def errandSubmitted : List Move :=
  [.order .start, .step 0 {}, .step 0 {}, .step 0 {}, .step 0 {}, .make errand.job, .submit errand,
    .step 2 {}, .step 2 {}]

/-- The stop waits for the item; the worker takes, executes and counts it, and is joined. -/
def errandStopped : List Move :=
  [.step 3 {}, .step 3 {}, .step 1 {}, .step 1 {}, .step 1 {}, .step 1 {}, .step 1 {}, .step 1 {},
    .step 1 {}, .step 1 {}, .step 1 {}, .step 1 {}, .step 3 {}, .step 3 {}, .step 3 {}, .step 3 {},
    .step 1 {}, .step 1 {}, .step 1 {}, .step 3 {}, .step 3 {}]

/-- A new pool for one worker. -/
def lonePool : State where
  name := "pool"
  queueName := "pool" ++ "-queue"
  monitor := { mutex := { name := Queue.mutexName ("pool" ++ "-queue") } }
  size := 1

/-- The pool with the item in its queue, and what has been left behind. -/
def errandQueued : State × List Note := (lonePool.run [] errandSubmitted).getD (lonePool, [])

/-- The pool after the stop. -/
def errandDone : State × List Note :=
  ((errandQueued.1.order (.stop false)).run errandQueued.2 errandStopped).getD (lonePool, [])

/-- A stop that is called while the only item is queued. -/
theorem stop_executes_errand :
    lonePool.run [] errandSubmitted = some errandQueued ∧
    (errandQueued.1.order (.stop false)).run errandQueued.2 errandStopped = some errandDone ∧
    Fate.accepted.met (Note.fates errandDone.2) = [2] ∧ errandDone.1.Done errandDone.2 := by
  have hbefore : lonePool.run [] errandSubmitted = some errandQueued :=
    (Option.getD_of_ne_none (by decide) _).symm
  have hafter : (errandQueued.1.order (.stop false)).run errandQueued.2 errandStopped =
      some errandDone := (Option.getD_of_ne_none (by decide) _).symm
  have hcreate : create "pool" 1 [] = ((create "pool" 1 []).1, [], .ok lonePool) := rfl
  have hreturned : errandDone.1.activity? 3 = some (.finished (.ordered (.ok ()))) := rfl
  obtain ⟨-, hall⟩ := stop_executes_all hcreate hbefore (by decide)
  obtain ⟨-, hdone, -⟩ := hall false errandStopped _ _ (by decide) hafter
  exact ⟨hbefore, hafter, by decide, (hdone _ hreturned).2⟩

end State

end PooledServer.Pool
