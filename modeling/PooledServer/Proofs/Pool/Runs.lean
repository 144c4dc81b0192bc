import PooledServer.Pool.Create
import PooledServer.Proofs.Pool.Accounts
import PooledServer.Proofs.Pool.Lifecycle
import PooledServer.Proofs.Pool.Tasks

/-!
# Runs of a pool

    A run is any sequence of moves that keep to the rules (`State.permits`): locks and waits work, every
    job is calm, an item is submitted by whoever has it (so not while it is being submitted, and not
    after it was accepted), one order is given at a time, and all work comes in through the pool or its
    handles.  Making and joining threads may fail, waiting threads may wake up for nothing, and gates
    are opened at any time.

    Everything that is true of a pool from its creation on is in `State.Sane`: the five invariants of
    the modules before, which every move of a run keeps. -/

namespace PooledServer.Pool

open Work (Item Execution Phase Note Fate TaskId)

namespace State

/-- No order is being carried out. -/
def isIdle (s : State) : Bool := s.threads.all fun th => !(th.activity matches .order _)

/-- The item can be executed, it was never accepted, and nobody submits it at the moment. -/
def maySubmit (s : State) (notes : List Note) (item : Item) : Bool :=
  s.registry.fits item && decide (item.id < s.registry.nextId) &&
    !(Fate.accepted.met (Note.fates notes)).contains item.id &&
    s.threads.all fun th => !th.activity.pending.contains item.id

/-- Moves that keep to the rules, after `notes` have been left behind. -/
def permits (s : State) (notes : List Note) : Move → Bool
  | .step _ luck => luck.lock && luck.wait
  | .wakeUp _ | .openGate _ => true
  | .make job => job.isCalm
  | .submit item => s.maySubmit notes item
  | .order _ => s.isIdle
  | .request _ | .execute _ => false

/-- A sequence of moves that keep to the rules, and all that has been left behind at its end. -/
def run (s : State) (notes : List Note) : List Move → Option (State × List Note)
  | [] => some (s, notes)
  | move :: rest =>
    if s.permits notes move then
      (s.move move).bind fun (s', new) => s'.run (notes ++ new) rest
    else none

/-- What is true of every pool in use. -/
structure Sane (s : State) (notes : List Note) : Prop where
  placed : s.Placed
  asking : s.Asking
  books : s.Ledger (Note.fates notes)
  calm : s.Calm
  orderly : s.Orderly

variable {s s' : State} {t : ThreadId} {a : Activity} {notes new : List Note} {moves : List Move}

theorem not_order_of_isIdle (h : s.isIdle = true) (t : ThreadId) (p : OrderPoint) :
    s.activity? t ≠ some (.order p) := fun hp =>
  Bool.noConfusion (List.all_eq_true.mp h _ (mem_threads_of_activity? hp))

/-- A property that every permitted move keeps holds at the end of a run. -/
theorem run_keeps {P : State → List Note → Prop}
    (hmove : ∀ s notes move s' new, P s notes → s.permits notes move = true →
      s.move move = some (s', new) → P s' (notes ++ new))
    (h : P s notes) {notes' : List Note} (hrun : s.run notes moves = some (s', notes')) :
    P s' notes' := by
  -- the notes are handed on from move to move, so they stay general
  induction moves generalizing s notes with
  | nil =>
      obtain ⟨rfl, rfl⟩ := Prod.mk.inj (Option.some.inj hrun)
      exact h
  | cons move rest ih =>
      simp only [run] at hrun
      split at hrun
      · rename_i hpermits
        obtain ⟨⟨s₁, new⟩, hstep, hrest⟩ := Option.bind_eq_some_iff.mp hrun
        exact ih (hmove s notes move s₁ new h hpermits hstep) hrest
      · exact nomatch hrun

/-! ## The beginning -/

/-- A new pool has nothing but its queue. -/
theorem create_eq {name : String} {size : UInt64} {faults faults' : Sync.Faults}
    {arithmetic : Arithmetic} (h : create name size faults arithmetic = (notes, faults', .ok s)) :
    ∃ queueName mutexName,
      s = { name, queueName, monitor := { mutex := { name := mutexName } }, size, arithmetic } := by
  simp only [create] at h
  split at h
  · exact nomatch h
  · simp only [Queue.create, Sync.createMutex, Sync.createCondition] at h
    -- each of the three primitives may fail, and then there is no pool
    generalize Sync.Faults.meet .mutexInit _ faults = first at h
    obtain ⟨_ | e, faults₁⟩ := first
    · simp only at h
      generalize Sync.Faults.meet .conditionInit _ faults₁ = second at h
      obtain ⟨_ | e, faults₂⟩ := second
      · simp only at h
        generalize Sync.Faults.meet .conditionInit _ faults₂ = third at h
        obtain ⟨_ | e, faults₃⟩ := third
        · cases h
          exact ⟨_, _, rfl⟩
        · exact nomatch h
      · exact nomatch h
    · exact nomatch h

theorem sane_create {name : String} {size : UInt64} {faults faults' : Sync.Faults}
    {arithmetic : Arithmetic} (h : create name size faults arithmetic = (notes, faults', .ok s)) :
    s.Sane [] := by
  obtain ⟨queueName, mutexName, rfl⟩ := create_eq h
  refine ⟨?_, ?_, ?_, ?_, ?_⟩
  · exact ⟨List.nodup_nil, fun _ h => (nomatch h), List.nodup_nil, fun _ h => (nomatch h),
      fun _ h => (nomatch h), fun _ _ _ h => (nomatch h)⟩
  · exact ⟨fun _ => rfl, Queue.Monitor.attentive_new _, rfl⟩
  · exact ⟨rfl, rfl, rfl, List.nodup_nil, fun _ h => (nomatch h), rfl, fun _ _ _ h => (nomatch h)⟩
  · exact ⟨rfl, fun _ h => (nomatch h), fun _ h => (nomatch h), fun _ _ h => (nomatch h),
      fun _ h => (nomatch h)⟩
  · refine ⟨fun _ _ _ _ h => (nomatch h), fun _ _ h => (nomatch h), ?_, fun _ _ _ h => (nomatch h),
      fun _ h => (nomatch h)⟩
    exact fun _ => Or.inr ⟨rfl, Or.inl ⟨rfl, rfl, rfl, fun _ _ h => (nomatch h)⟩⟩

/-! ## Steps -/

theorem Calm.not_escaped (h : s.Calm) (u : ThreadId) (id : Nat) (item : Item) (message : String) :
    s.activity? u ≠ some (.worker id (.executing ⟨item, .concluded (.escaped message)⟩)) := by
  intro hu
  obtain ⟨-, outcome, heq⟩ := h.threads u _ hu
  exact nomatch heq

theorem Sane.step (h : s.Sane notes) {luck : Luck} (hlock : luck.lock = true)
    (hwait : luck.wait = true) (hstep : s.step t luck = some (s', new)) :
    s'.Sane (notes ++ new) := by
  have hcalm := h.calm.not_escaped
  have hstepped : s.Stepped t s' (Note.fates new) := by
    refine stepped_of_step h.placed h.asking h.calm.guarded hlock hwait ?_ hstep
    exact fun e he => h.calm.threads t _ he
  refine ⟨h.placed.stepped hstepped, h.asking.stepped h.placed hstepped, ?_,
    h.calm.stepped h.placed hstepped, h.orderly.stepped h.placed hcalm hstepped⟩
  rw [Note.fates_append]
  exact h.books.stepped h.placed hcalm hstepped

/-! ## Calls from outside -/

/-- A thread that has not asked for anything begins. -/
theorem Asking.launch (h : s.Asking) (hs : s.Placed) (hasks : a.asks = none) :
    (s.launch a).Asking := by
  refine ⟨fun u => ?_, h.sound⟩
  show s.monitor.asked u = _
  rw [h.asked, activity?_launch hs]
  by_cases hun : u = s.nextThread
  · subst hun
    rw [Function.update_self, hs.activity?_nextThread]
    exact hasks.symm
  · rw [Function.update_of_ne hun]

/-- A thread that submits an item at most, which nobody else does, begins. -/
theorem Ledger.launch {said : List (Fate × TaskId)} (h : s.Ledger said) (hs : s.Placed)
    (hheld : a.held = []) (hinHand : a.inHand = [])
    (honce : (↑(Fate.accepted.met said) + s.gather Activity.pending + ↑a.pending :
      Multiset TaskId).Nodup)
    (hmade : ∀ i ∈ a.pending, i < s.registry.nextId)
    (hfinished : ∀ result, a ≠ .finished result) : (s.launch a).Ledger said := by
  refine ⟨h.queue, ?_, ?_, ?_, ?_, h.executed, ?_⟩
  · rw [gather_launch, hheld, Multiset.coe_nil, add_zero]
    exact h.held
  · rw [gather_launch, hinHand, Multiset.coe_nil, add_zero]
    exact h.begun
  · rw [gather_launch, ← add_assoc]
    exact honce
  · intro i hi
    rw [gather_launch, ← add_assoc] at hi
    rcases Multiset.mem_add.mp hi with hold | hpending
    · exact h.made i hold
    · exact hmade i hpending
  · intro u item ok hu
    rcases launch_cases hs hu with hu | ⟨-, heq⟩
    · exact h.answers u item ok hu
    · exact absurd heq.symm (hfinished _)

theorem Calm.launch (h : s.Calm) (hs : s.Placed) (hfit : a.Fit s.registry) : (s.launch a).Calm := by
  refine ⟨h.guarded, h.tasks, h.queued, ?_, ?_⟩
  · intro u c hu
    rcases launch_cases hs hu with hu | ⟨-, rfl⟩
    · exact h.threads u c hu
    · exact hfit
  · intro task htask hbusy
    obtain ⟨u, c, hu, hc⟩ := h.busy task htask hbusy
    exact ⟨u, c, activity?_launch_of_some hs hu, hc⟩

/-- An order begins only when no other is under way. -/
theorem Situated.launch (h : s.Situated) (hs : s.Placed)
    (horder : ∀ p, a = .order p → s.isIdle = true ∧ p.Fits s) : (s.launch a).Situated := by
  -- the one who gives the order is the only one
  have hidle : ∀ {p}, a = .order p → ∀ {u q}, s.activity? u ≠ some (.order q) :=
    fun ha => not_order_of_isIdle (horder _ ha).1 _ _
  refine ⟨?_, ?_, ?_⟩
  · intro u v p q hu hv
    rcases launch_cases hs hu with hu | ⟨rfl, hup⟩
    · rcases launch_cases hs hv with hv | ⟨-, hvq⟩
      · exact h.one u v p q hu hv
      · exact absurd hu (hidle hvq.symm)
    · rcases launch_cases hs hv with hv | ⟨rfl, -⟩
      · exact absurd hv (hidle hup.symm)
      · rfl
  · intro u p hu
    rcases launch_cases hs hu with hu | ⟨-, heq⟩
    · exact h.fits u p hu
    · exact (horder p heq.symm).2
  · intro hnone
    exact h.settled fun u p hu => hnone u p (activity?_launch_of_some hs hu)

theorem Orderly.launch (h : s.Orderly) (hs : s.Placed) (hrole : a.worker? = none)
    (horder : ∀ p, a = .order p → s.isIdle = true ∧ p.Fits s) : (s.launch a).Orderly := by
  obtain ⟨hone, hfits, hsettled⟩ := h.situated.launch hs horder
  refine ⟨hone, hfits, hsettled, ?_, h.asked⟩
  intro u id p hu hp
  rcases launch_cases hs hu with hu | ⟨-, rfl⟩
  · exact h.out u id p hu hp
  · exact nomatch hrole

/-- A thread that begins at place `a`, which has nothing to do with the queue yet. -/
theorem Sane.launch (h : s.Sane notes) (hasks : a.asks = none) (hheld : a.held = [])
    (hinHand : a.inHand = []) (hrole : a.worker? = none) (hfit : a.Fit s.registry)
    (honce : (↑(Fate.accepted.met (Note.fates notes)) + s.gather Activity.pending + ↑a.pending :
      Multiset TaskId).Nodup)
    (hmade : ∀ i ∈ a.pending, i < s.registry.nextId)
    (hfinished : ∀ result, a ≠ .finished result)
    (horder : ∀ p, a = .order p → s.isIdle = true ∧ p.Fits s) : (s.launch a).Sane notes :=
  ⟨h.placed.launch hrole, h.asking.launch h.placed hasks,
    h.books.launch h.placed hheld hinHand honce hmade hfinished, h.calm.launch h.placed hfit,
    h.orderly.launch h.placed hrole horder⟩

theorem Sane.submit (h : s.Sane notes) {item : Item} (hmay : s.maySubmit notes item = true) :
    (s.submit item).Sane notes := by
  obtain ⟨hfirst, hthreads⟩ := Bool.and_eq_true_iff.mp hmay
  obtain ⟨hfirst, haccepted⟩ := Bool.and_eq_true_iff.mp hfirst
  obtain ⟨hfits, hmade⟩ := Bool.and_eq_true_iff.mp hfirst
  refine h.launch rfl rfl rfl rfl hfits ?_ ?_ (fun _ h => nomatch h) (fun _ h => nomatch h)
  · refine Multiset.nodup_add.mpr ⟨h.books.once, Multiset.nodup_singleton _, ?_⟩
    -- the item was not accepted before and is not being submitted now
    refine Multiset.disjoint_left.mpr ?_
    intro i hi hnew
    rw [Multiset.mem_singleton.mp hnew] at hi
    rcases Multiset.mem_add.mp hi with hold | hpending
    · simp [Multiset.mem_coe.mp hold] at haccepted
    · obtain ⟨th, hth, hmem⟩ := mem_gather.mp hpending
      have hnot := List.all_eq_true.mp hthreads th hth
      simp [hmem] at hnot
  · intro i hi
    rw [List.mem_singleton.mp hi]
    exact of_decide_eq_true hmade

theorem Sane.order (h : s.Sane notes) {order : Order} (hidle : s.isIdle = true) :
    (s.order order).Sane notes := by
  refine h.launch rfl rfl rfl rfl trivial ?_ (fun _ h => nomatch h) (fun _ h => nomatch h) ?_
  · exact (add_zero (_ : Multiset TaskId)).symm ▸ h.books.once
  · intro p hp
    cases hp
    exact ⟨hidle, h.orderly.settled (not_order_of_isIdle hidle)⟩

theorem Sane.wakeUp (h : s.Sane notes) {monitor : Queue.Monitor Item}
    (hwake : s.monitor.wakeUp t = some monitor) : State.Sane { s with monitor } notes := by
  obtain ⟨hasked, hcontents⟩ := Queue.Monitor.asked_wakeUp hwake
  have hitems : monitor.contents.items = s.monitor.contents.items := congrArg _ hcontents
  have hrunning : monitor.contents.running = s.monitor.contents.running := congrArg _ hcontents
  refine ⟨⟨h.placed.distinct, h.placed.numbered, h.placed.enrolled, h.placed.recent,
    h.placed.staffed, h.placed.known⟩, ⟨?_, h.asking.sound.wakeUp hwake⟩, ?_, ?_, ?_⟩
  · show ∀ u, monitor.asked u = _
    rw [hasked]
    exact h.asking.asked
  · refine ⟨?_, h.books.held, h.books.begun, h.books.once, h.books.made, h.books.executed,
      h.books.answers⟩
    rw [queued_of_contents hitems]
    exact h.books.queue
  · exact ⟨h.calm.guarded, h.calm.tasks, contents_of_eq (s := s) h.calm hitems,
      h.calm.threads, h.calm.busy⟩
  -- the queue is as it was, and so is what everybody has asked for
  · refine h.orderly.of_steady ?_ rfl rfl
    refine ⟨rfl, hrunning, fun hw => hw, fun _ hu => ⟨hitems.trans hu.1, ?_⟩,
      fun _ hi => hitems.trans hi⟩
    show ∀ u item, monitor.asked u ≠ _
    rw [hasked]
    exact hu.2

/-- Making items and opening gates changes the registry only. -/
theorem Sane.registry (h : s.Sane notes) {registry : Work.Registry}
    (hprecedes : s.registry.Precedes registry)
    (hbusy : ∀ task ∈ registry.shared, task.busy = true →
      ∃ task₀ ∈ s.registry.shared, task₀.busy = true ∧ task₀.job.tag = task.job.tag) :
    State.Sane { s with registry } notes := by
  refine ⟨⟨h.placed.distinct, h.placed.numbered, h.placed.enrolled, h.placed.recent,
    h.placed.staffed, h.placed.known⟩, ⟨h.asking.asked, h.asking.sound⟩, ?_, ?_, ?_⟩
  · exact ⟨h.books.queue, h.books.held, h.books.begun, h.books.once,
      fun i hi => Nat.lt_of_lt_of_le (h.books.made i hi) hprecedes.nextId, h.books.executed,
      h.books.answers⟩
  · refine ⟨h.calm.guarded, hprecedes.calm h.calm.tasks,
      fun i hi => hprecedes.fits (h.calm.queued i hi),
      fun u c hu => (h.calm.threads u c hu).mono hprecedes, ?_⟩
    intro task htask htaskbusy
    obtain ⟨task₀, htask₀, hbusy₀, htag⟩ := hbusy task htask htaskbusy
    rw [← htag]
    exact h.calm.busy task₀ htask₀ hbusy₀
  · exact h.orderly.of_steady ⟨rfl, rfl, fun hw => hw, fun _ hu => hu, fun _ hi => hi⟩ rfl rfl

/-! ## Runs -/

/-- **EVERY PERMITTED MOVE KEEPS A POOL SANE**. -/
theorem Sane.move (h : s.Sane notes) {move : Move} (hpermits : s.permits notes move = true)
    (hmove : s.move move = some (s', new)) : s'.Sane (notes ++ new) := by
  cases move with
  | step t luck =>
      obtain ⟨hlock, hwait⟩ := Bool.and_eq_true_iff.mp hpermits
      exact h.step hlock hwait hmove
  | wakeUp t =>
      obtain ⟨monitor, hwake, heq⟩ := Option.map_eq_some_iff.mp hmove
      obtain ⟨rfl, rfl⟩ := Prod.mk.inj heq
      rw [List.append_nil]
      exact h.wakeUp hwake
  | request request => exact nomatch hpermits
  | make job =>
      obtain ⟨rfl, rfl⟩ := Prod.mk.inj (Option.some.inj hmove)
      rw [List.append_nil]
      exact h.registry (s.registry.make_fits job hpermits h.calm.tasks).1 fun task htask hbusy =>
        s.registry.busy_of_make job htask hbusy
  | submit item =>
      obtain ⟨rfl, rfl⟩ := Prod.mk.inj (Option.some.inj hmove)
      rw [List.append_nil]
      exact h.submit hpermits
  | execute item => exact nomatch hpermits
  | order order =>
      obtain ⟨rfl, rfl⟩ := Prod.mk.inj (Option.some.inj hmove)
      rw [List.append_nil]
      exact h.order hpermits
  | openGate gate =>
      obtain ⟨rfl, rfl⟩ := Prod.mk.inj (Option.some.inj hmove)
      rw [List.append_nil]
      exact h.registry (s.registry.precedes_openGate gate) fun task htask hbusy =>
        ⟨task, htask, hbusy, rfl⟩

/-- A pool stays sane throughout a run. -/
theorem Sane.run (h : s.Sane notes) {notes' : List Note}
    (hrun : s.run notes moves = some (s', notes')) : s'.Sane notes' :=
  run_keeps (fun _ _ _ _ _ h hpermits hmove => h.move hpermits hmove) h hrun

end State

end PooledServer.Pool
