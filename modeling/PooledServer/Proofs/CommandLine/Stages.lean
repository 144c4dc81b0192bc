import PooledServer.Proofs.CommandLine.Tasks
import PooledServer.Proofs.Pool.Staffing

/-!
# The stages of a stress test

    The main thread makes one call after the other: it starts the pool, submits the tasks in order and
    stops the pool.  So besides the workers there is one thread at most, which carries out its call, and
    the place of this thread says how far the test has come (`Fits`).

    As long as the primitives work no call fails, and every step of a thread keeps to the stage
    (`Tested.step`). -/

namespace PooledServer.CommandLine.PoolStress

open Work (Item Note Fate TaskId)
open Pool (State WorkerPoint OrderPoint Activity Luck)

/-! ## How far a test has come -/

/-- The item number of the first task: the loop of each worker has taken one before. -/
def Plan.first (p : Plan) : Nat := p.workers.toNat + 1

/-- The item of task `i`. -/
def Plan.item (p : Plan) (i : Nat) : Item := { id := p.first + i, job := job i }

/-- The items of the first `n` tasks. -/
def Plan.items (p : Plan) (n : Nat) : List TaskId := (List.range n).map (p.first + ·)

/-- The thread that carries out the call of the main thread. -/
def Stage.thread? : Stage → Option ThreadId
  | .starting t | .submitting _ t | .stopping t => some t
  | .ended _ => none

/-- Where the thread of a start can be: every worker that has been made is there, and the rest is left
    to be made. -/
def StartFits (s : State) : Activity → Prop
  | .order (.begun .start) | .order .asking =>
    (s.workers.length = 0 ∧ s.nextWorker = 0) ∧ s.Draining
  | .order (.hiring left) => s.workers.length = s.nextWorker ∧ s.nextWorker + left = s.size.toNat
  | .finished (.ordered (.ok ())) => 0 < s.workers.length ∧ s.nextWorker = s.size.toNat
  | _ => False

/-- Where the thread of a submission can be, when these items have been accepted. -/
def SubmitFits (p : Plan) (i : Nat) (accepted : List TaskId) : Activity → Prop
  | .submission item _ => item = p.item i ∧ accepted = p.items i
  | .finished (.submitted _ true) => accepted = p.items (i + 1)
  | _ => False

/-- What holds at a stage, when these items have been accepted. -/
def Fits (p : Plan) (s : State) (accepted : List TaskId) : Stage → Prop
  | .starting t =>
    s.registry.nextId = s.nextWorker + 1 ∧ accepted = [] ∧
      ∃ a, s.activity? t = some a ∧ StartFits s a
  | .submitting i t =>
    i < p.tasks.toNat ∧ 0 < s.workers.length ∧ s.registry.nextId = p.first + i + 1 ∧
      ∃ a, s.activity? t = some a ∧ SubmitFits p i accepted a
  | .stopping t => accepted = p.items p.tasks.toNat ∧ s.Stopping t
  | .ended none => accepted = p.items p.tasks.toNat ∧ s.Shut
  | .ended (some _) => False

/-- The items that were accepted. -/
def accepted (notes : List Note) : List TaskId := Fate.accepted.met (Note.fates notes)

/-- The pool at a stage of its stress test, after `notes`. -/
structure Tested (p : Plan) (stage : Stage) (s : State) (notes : List Note) : Prop where
  stressed : Stressed s p.first notes
  size : s.size = p.workers
  crew : s.nextWorker ≤ p.workers.toNat
  alone : ∀ u a, s.activity? u = some a → a.worker? = none → stage.thread? = some u
  fits : Fits p s (accepted notes) stage

variable {p : Plan} {stage : Stage} {s s' s₁ : State} {t u : ThreadId} {i n : Nat} {a b : Activity}
  {luck : Luck} {notes new : List Note} {said : List (Fate × TaskId)} {ids : List TaskId}

theorem items_succ (p : Plan) (n : Nat) : p.items (n + 1) = p.items n ++ [p.first + n] := by
  simp only [Plan.items]
  rw [List.range_succ, List.map_append, List.map_singleton]

/-- While the main thread waits for a call that is no order, the pool is open. -/
theorem Tested.isOpen (h : Tested p stage s notes) (hworkers : 0 < s.workers.length)
    (hnot : ∀ u q, stage.thread? = some u → s.activity? u ≠ some (.order q)) : s.Open := by
  have hsettled : s.Settled :=
    h.stressed.sane.orderly.settled fun u q hu => hnot u q (h.alone u _ hu rfl) hu
  rcases hsettled with ho | ⟨hw, -⟩
  · exact ho
  · rw [hw] at hworkers
    cases hworkers

/-! ## Steps in the background -/

theorem StartFits.background (h : StartFits s a) (back : s.Background s') : StartFits s' a := by
  have hlength := back.length_workers
  have hempty : (s.workers.length = 0 ∧ s.nextWorker = 0) ∧ s.Draining →
      (s'.workers.length = 0 ∧ s'.nextWorker = 0) ∧ s'.Draining := by
    rintro ⟨hcrew, hrunning, hopen⟩
    rw [hlength, back.nextWorker]
    exact ⟨hcrew, back.steady.running.trans hrunning, back.steady.opened.trans hopen⟩
  simp only [StartFits] at h ⊢
  split at h
  · exact hempty h
  · exact hempty h
  · rw [hlength, back.nextWorker, back.size]
    exact h
  · rw [hlength, back.nextWorker, back.size]
    exact h
  · exact h

/-- A start makes no more workers than the pool is meant to have. -/
theorem StartFits.nextWorker_le (h : StartFits s a) : s.nextWorker ≤ s.size.toNat := by
  simp only [StartFits] at h
  split at h
  · exact h.1.2 ▸ Nat.zero_le _
  · exact h.1.2 ▸ Nat.zero_le _
  · exact h.2 ▸ Nat.le_add_right _ _
  · exact Nat.le_of_eq h.2
  · exact h.elim

/-- A worker's step has nothing to do with the stage. -/
theorem fits_of_works (h : Tested p stage s notes) {id : Nat} {q q' : WorkerPoint}
    (here : s.activity? t = some (.worker id q)) (step : s.Works t id q s₁ q' said) :
    Fits p (s₁.place t (.worker id q')) (accepted notes) stage := by
  have hsane := h.stressed.sane
  have hstepped : s.Stepped t (s₁.place t (.worker id q')) said := .works here step
  have back : s.Background (s₁.place t (.worker id q')) :=
    hstepped.background hsane.placed fun q hq => nomatch hq.symm.trans here
  obtain ⟨-, -, hnext⟩ := apart_of_works (h.stressed.working t id q here) step
  have hfits := h.fits
  cases stage with
  | starting u =>
      obtain ⟨hnumber, hnone, a, ha, hstart⟩ := hfits
      refine ⟨?_, hnone, a, back.stays u a ha ?_, hstart.background back⟩
      · rw [back.nextWorker]
        exact hnext.trans hnumber
      · simp only [StartFits] at hstart
        split at hstart
        · rfl
        · rfl
        · rfl
        · rfl
        · exact hstart.elim
  | submitting i u =>
      obtain ⟨hi, hworkers, hnumber, a, ha, hsubmit⟩ := hfits
      refine ⟨hi, back.length_workers ▸ hworkers, hnext.trans hnumber, a, ?_, hsubmit⟩
      refine hstepped.activity?_of_ne hsane.placed ha ?_ ?_
      · rintro rfl
        cases ha.symm.trans here
        exact hsubmit
      · rintro id' rfl
        exact hsubmit
  | stopping u => exact ⟨hfits.1, hfits.2.stepped hsane hstepped⟩
  | ended failure =>
      cases failure with
      | none =>
          obtain ⟨w, hw, -⟩ := hsane.placed.known t id q here
          rw [hfits.2.2] at hw
          cases hw
      | some e => exact hfits

/-! ## Steps of the call -/

/-- Nothing goes wrong with a submission to an open pool. -/
theorem submitFits_of_submits (hopen : s.Open) {inQueue : Bool}
    (hids : ids = p.items i) (step : s.Submits t (p.item i) inQueue s₁ b said) :
    SubmitFits p i (ids ++ Fate.accepted.met said) b := by
  subst hids
  cases step with
  | barred closed => cases closed.symm.trans hopen.1
  | comes monitor welcome called => exact ⟨rfl, List.append_nil _⟩
  | accepted monitor answered => exact (items_succ p i).symm
  | refused monitor answered =>
      rcases answered.add with ⟨h, -⟩ | ⟨-, hclosed, -⟩
      · cases h
      · cases hclosed.symm.trans hopen.2

/-- With good luck a worker is made. -/
theorem hire_made (hcreate : luck.create = none) (hspawn : luck.spawn = true) :
    (s.hire luck).2.2 = .ok () := by
  simp only [State.hire, hcreate, hspawn, if_true]

/-- **A START GOES THROUGH** if every worker can be made: it makes all of them and opens the pool. -/
theorem startFits_of_staffs (hcreate : luck.create = none) (hspawn : luck.spawn = true)
    (hpeopled : 0 < s.size.toNat) {q : OrderPoint} (hfit : StartFits s (.order q))
    (step : s.Staffs t luck q s₁ b) :
    StartFits s₁ b ∧ s₁.size = s.size ∧
      (s.registry.nextId = s.nextWorker + 1 → s₁.registry.nextId = s₁.nextWorker + 1) := by
  have hmade : (s.hire luck).2.2 = .ok () := hire_made hcreate hspawn
  cases step with
  | hires left made =>
      obtain ⟨hworkers, hleft⟩ := hfit
      refine ⟨⟨?_, ?_⟩, rfl, congrArg (· + 1)⟩
      · show (s.workers ++ [_]).length = s.nextWorker + 1
        rw [List.length_append, hworkers]
        rfl
      · show s.nextWorker + 1 + left = s.size.toNat
        rw [← hleft]
        exact Nat.add_right_comm ..
  | givesUp left e monitor failed called => cases failed.symm.trans hmade
  | grows | plans | overplans | adds | outgrows | stunted => exact hfit.elim
  | carriesOn plain step =>
      cases step with
      | startsNothing welcome => cases welcome.symm.trans hfit.2.1
      | inquires monitor closed called =>
          refine ⟨⟨hfit.1, hfit.2.1, ?_⟩, rfl, fun hnumber => hnumber⟩
          exact (congrArg _ (Queue.Monitor.asked_call called).2).trans hfit.2.2
      | mayStart monitor answered =>
          obtain ⟨⟨hworkers, hcrew⟩, -⟩ := hfit
          refine ⟨⟨hworkers.trans hcrew.symm, ?_⟩, rfl, fun hnumber => hnumber⟩
          show s.nextWorker + s.size.toNat = s.size.toNat
          rw [hcrew, Nat.zero_add]
      | mayNot monitor answered =>
          obtain ⟨hflag, -⟩ := answered.isRunning
          cases (Queue.Answer.flag.inj hflag).trans hfit.2.2
      | opens =>
          obtain ⟨hworkers, hleft⟩ := hfit
          refine ⟨⟨?_, hleft⟩, rfl, fun hnumber => hnumber⟩
          show 0 < s.workers.length
          rw [hworkers, show s.nextWorker = s.size.toNat from hleft]
          exact hpeopled
      | hires | givesUp => cases plain
      | _ => exact hfit.elim

/-- A stop makes no worker. -/
theorem size_of_stop {q : OrderPoint} (hfit : s.StopFits (.order q)) (step : s.Orders t q s₁ b) :
    s₁.size = s.size ∧ s₁.nextWorker = s.nextWorker := by
  cases step with
  | hires | givesUp | growsBy | outgrows | stunted | plans => exact hfit.elim
  | _ => exact ⟨rfl, rfl⟩

/-! ## Every step of a thread -/

theorem accepted_append (notes new : List Note) :
    accepted (notes ++ new) = accepted notes ++ Fate.accepted.met (Note.fates new) := by
  simp only [accepted, Note.fates_append, Fate.met_append]

/-- After a step the thread of the call is where it was, and all others are workers. -/
theorem alone_next (hs : s.Placed) (hstep : s.Stepped t s' said)
    (halone : ∀ u a, s.activity? u = some a → a.worker? = none → stage.thread? = some u) :
    ∀ u a, s'.activity? u = some a → a.worker? = none → stage.thread? = some u := by
  cases hstep with
  | works here step =>
      intro u a hu hrole
      rw [State.activity?_place (step.frame.activity? ▸ here), step.frame.activity?] at hu
      by_cases hut : u = t
      · subst hut
        rw [Function.update_self] at hu
        cases hu
        cases hrole
      · rw [Function.update_of_ne hut] at hu
        exact halone u a hu hrole
  | submits here step =>
      have ht := halone t _ here rfl
      intro u a hu hrole
      rw [State.activity?_place (step.frame.activity? ▸ here), step.frame.activity?] at hu
      by_cases hut : u = t
      · rw [hut]
        exact ht
      · rw [Function.update_of_ne hut] at hu
        exact halone u a hu hrole
  | orders here step =>
      have ht := halone t _ here rfl
      intro u a hu hrole
      rw [State.activity?_place (step.placed hs here).2] at hu
      by_cases hut : u = t
      · rw [hut]
        exact ht
      · rw [Function.update_of_ne hut] at hu
        rcases step.others hs u with heq | ⟨-, id, task, hnew⟩ | ⟨-, hgone⟩
        · exact halone u a (heq ▸ hu) hrole
        · cases hu.symm.trans hnew
          cases hrole
        · cases hu.symm.trans hgone

/-- **A THREAD THAT IS NO WORKER CARRIES OUT THE CALL OF THE STAGE**. -/
theorem Tested.call (h : Tested p stage s notes) (here : s.activity? t = some a)
    (hrole : a.worker? = none) :
    (stage = .starting t ∧ StartFits s a) ∨
      (∃ i, stage = .submitting i t ∧ SubmitFits p i (accepted notes) a) ∨
      (stage = .stopping t ∧ s.StopFits a) := by
  have ht := h.alone t a here hrole
  have hfits := h.fits
  cases stage with
  | starting u =>
      cases ht
      obtain ⟨-, -, b, hb, hstart⟩ := hfits
      cases here.symm.trans hb
      exact Or.inl ⟨rfl, hstart⟩
  | submitting i u =>
      cases ht
      obtain ⟨-, -, -, b, hb, hsubmit⟩ := hfits
      cases here.symm.trans hb
      exact Or.inr (Or.inl ⟨i, rfl, hsubmit⟩)
  | stopping u =>
      cases ht
      obtain ⟨-, b, hb, hstop⟩ := hfits
      cases here.symm.trans hb
      exact Or.inr (Or.inr ⟨rfl, hstop⟩)
  | ended failure => cases ht

/-- The thread of a submission submits the item of its task. -/
theorem Tested.item_eq (h : Tested p stage s notes) {item : Item} {inQueue : Bool}
    (here : s.activity? t = some (.submission item inQueue)) :
    ∃ i, stage = .submitting i t ∧ item = p.item i ∧ accepted notes = p.items i := by
  rcases h.call here rfl with ⟨-, hstart⟩ | ⟨i, hstage, hsubmit⟩ | ⟨-, hstop⟩
  · exact hstart.elim
  · exact ⟨i, hstage, hsubmit⟩
  · exact hstop.elim

/-- The step of a submission keeps to its stage. -/
theorem Tested.submits (h : Tested p stage s notes) {item : Item} {inQueue : Bool}
    (here : s.activity? t = some (.submission item inQueue))
    (step : s.Submits t item inQueue s₁ b said) :
    Fits p (s₁.place t b) (accepted notes ++ Fate.accepted.met said) stage := by
  obtain ⟨i, rfl, rfl, hids⟩ := h.item_eq here
  obtain ⟨hi, hworkers, hnumber, -⟩ := h.fits
  have hopen : s.Open := by
    refine h.isOpen hworkers ?_
    rintro u q hu hq
    cases hu
    cases here.symm.trans hq
  have hstepped : s.Stepped t (s₁.place t b) said := .submits here step
  have back : s.Background (s₁.place t b) :=
    hstepped.background h.stressed.sane.placed fun q hq => nomatch hq.symm.trans here
  refine ⟨hi, back.length_workers ▸ hworkers, ?_, b, ?_, submitFits_of_submits hopen hids step⟩
  · cases step <;> exact hnumber
  · exact State.activity?_place_self (step.frame.activity? ▸ here)

/-- The step of an order keeps to its stage. -/
theorem Tested.orders (h : Tested p stage s notes) (hpeopled : 0 < p.workers.toNat)
    (hcreate : luck.create = none) (hspawn : luck.spawn = true) {q : OrderPoint}
    (here : s.activity? t = some (.order q)) (step : s.Staffs t luck q s₁ b) :
    Fits p (s₁.place t b) (accepted notes) stage ∧ s₁.size = s.size ∧
      s₁.nextWorker ≤ p.workers.toNat := by
  have hsane := h.stressed.sane
  have hplaced := State.activity?_place_self (b := b) (step.orders.placed hsane.placed here).2
  rcases h.call here rfl with ⟨rfl, hstart⟩ | ⟨i, -, hsubmit⟩ | ⟨rfl, hstop⟩
  · obtain ⟨hnumber, hnone, -⟩ := h.fits
    obtain ⟨hnext, hsize, hnumbers⟩ :=
      startFits_of_staffs hcreate hspawn (h.size ▸ hpeopled) hstart step
    refine ⟨⟨hnumbers hnumber, hnone, b, hplaced, hnext⟩, hsize, ?_⟩
    have hle := hnext.nextWorker_le
    rw [hsize, h.size] at hle
    exact hle
  · exact hsubmit.elim
  · obtain ⟨hids, -⟩ := h.fits
    obtain ⟨hsize, hcrew⟩ := size_of_stop hstop step.orders
    refine ⟨⟨hids, b, hplaced, ?_⟩, hsize, hcrew ▸ h.crew⟩
    exact step.orders.stopFits (hsane.orderly.fits t q here) hstop

/-- **EVERY STEP OF A THREAD KEEPS TO THE STAGE** if the primitives work. -/
theorem Tested.step (h : Tested p stage s notes) (hpeopled : 0 < p.workers.toNat)
    (hlock : luck.lock = true) (hwait : luck.wait = true) (hcreate : luck.create = none)
    (hspawn : luck.spawn = true) (hstep : s.step t luck = some (s', new)) :
    Tested p stage s' (notes ++ new) := by
  have hsane := h.stressed.sane
  have hstressed : Stressed s' p.first (notes ++ new) := by
    refine h.stressed.step hlock hwait ?_ hstep
    intro item inQueue here
    obtain ⟨i, -, rfl, -⟩ := h.item_eq here
    exact ⟨i, rfl, rfl⟩
  have hstepped := hsane.stepped_of_permits (Bool.and_eq_true_iff.mpr ⟨hlock, hwait⟩) hstep
  have halone := alone_next hsane.placed hstepped h.alone
  by_cases horder : ∃ q, s.activity? t = some (.order q)
  · obtain ⟨q, here⟩ := horder
    have hnone : Fate.accepted.met (Note.fates new) = [] := by
      generalize Note.fates new = said at hstepped
      cases hstepped with
      | orders => rfl
      | works here' => cases here.symm.trans here'
      | submits here' => cases here.symm.trans here'
    obtain ⟨s₁, b, rfl, step⟩ :=
      State.staffs_of_step hsane.placed hsane.asking hlock hwait here hstep
    obtain ⟨hfits, hsize, hcrew⟩ := h.orders hpeopled hcreate hspawn here step
    refine ⟨hstressed, hsize.trans h.size, hcrew, halone, ?_⟩
    rw [accepted_append, hnone, List.append_nil]
    exact hfits
  · have back : s.Background s' := hstepped.background hsane.placed fun q hq => horder ⟨q, hq⟩
    refine ⟨hstressed, back.size.trans h.size, back.nextWorker ▸ h.crew, halone, ?_⟩
    rw [accepted_append]
    generalize Note.fates new = said at hstepped
    cases hstepped with
    | works here step =>
        rw [(apart_of_works (h.stressed.working _ _ _ here) step).2.1, List.append_nil]
        exact fits_of_works h here step
    | submits here step => exact h.submits here step
    | orders here => exact absurd ⟨_, here⟩ horder

end PooledServer.CommandLine.PoolStress
