import PooledServer.Proofs.Pool.Frames

/-!
# Calm pools

    In a calm pool no observer panics, whoever submits what.  Then no execution escapes from its worker,
    every task that an item refers to is known, and a shared task that is busy is being run by a worker.

    The invariant `State.Calm` holds as long as calm items are submitted. -/

namespace PooledServer.Pool

open Work (Item Execution Phase Note Fate TaskId Registry Tag)

/-- The item that a worker has is calm, and so is what is under way of it. -/
def WorkerPoint.Fit (r : Registry) : WorkerPoint → Prop
  | .holding item => r.fits item = true
  | .executing e => r.fits e.item = true ∧ e.phase.Fit r
  | .starting _ | .checking | .taking | .counting _ | .leaving | .ending _ | .ended => True

/-- The thread is a worker's or the pool's owner's, or it submits an item; and its items are calm. -/
def Activity.Fit (r : Registry) : Activity → Prop
  | .worker _ p => p.Fit r
  | .submission item _ => r.fits item = true
  | .request | .execution _ => False
  | .order _ | .finished _ => True

/-- The thread runs the shared task `tag`. -/
def Activity.Inside (a : Activity) (tag : Tag) : Prop :=
  ∃ id e, a = .worker id (.executing e) ∧ e.item.Inside e.phase tag

/-- What is calm stays so when tasks are made. -/
theorem Activity.Fit.mono {r r' : Registry} (h : r.Precedes r') {a : Activity} (ha : a.Fit r) :
    a.Fit r' := by
  cases a with
  | worker id p =>
      cases p with
      | holding item => exact h.fits ha
      | executing e => exact ⟨h.fits ha.1, ha.2.mono h⟩
      | _ => exact ha
  | submission item inQueue => exact h.fits ha
  | _ => exact ha

namespace State

/-- Whatever is in the pool is calm, and busy tasks are being run. -/
structure Calm (s : State) : Prop where
  guarded : s.guarded = true
  tasks : s.registry.Calm
  queued : ∀ item ∈ s.monitor.contents.items, s.registry.fits item = true
  threads : ∀ t a, s.activity? t = some a → a.Fit s.registry
  busy : ∀ task ∈ s.registry.shared, task.busy = true →
    ∃ t a, s.activity? t = some a ∧ a.Inside task.job.tag

variable {s s' s₁ : State} {t : ThreadId} {a b : Activity} {said : List (Fate × TaskId)}

/-- A thread moves; all others that matter stay. -/
theorem Calm.place (h : s.Calm) (here : s.activity? t = some a) (here₁ : s₁.activity? t = some a)
    (hguarded : s₁.guarded = s.guarded) (hprecedes : s.registry.Precedes s₁.registry)
    (hqueued : ∀ item ∈ s₁.monitor.contents.items, s₁.registry.fits item = true)
    (hb : b.Fit s₁.registry)
    (hothers : ∀ u c, s₁.activity? u = some c → s.activity? u = some c ∨ c.Fit s₁.registry)
    (hinside : ∀ u c tag, s.activity? u = some c → c.Inside tag → s₁.activity? u = some c)
    (hbusy : ∀ task ∈ s₁.registry.shared, task.busy = true → b.Inside task.job.tag ∨
      (∃ task₀ ∈ s.registry.shared, task₀.busy = true ∧ task₀.job.tag = task.job.tag) ∧
        ¬ a.Inside task.job.tag) :
    (s₁.place t b).Calm := by
  refine ⟨hguarded.trans h.guarded, hprecedes.calm h.tasks, hqueued, ?_, ?_⟩
  · intro u c hu
    rw [activity?_place here₁] at hu
    by_cases hut : u = t
    · subst hut
      rw [Function.update_self] at hu
      rw [← Option.some.inj hu]
      exact hb
    · rw [Function.update_of_ne hut] at hu
      rcases hothers u c hu with hold | hnew
      · exact (h.threads u c hold).mono hprecedes
      · exact hnew
  · intro task htask htaskbusy
    rw [activity?_place here₁]
    rcases hbusy task htask htaskbusy with hb | ⟨⟨task₀, htask₀, hbusy₀, htag⟩, ha⟩
    · exact ⟨t, b, Function.update_self .., hb⟩
    · obtain ⟨u, c, hu, hc⟩ := h.busy task₀ htask₀ hbusy₀
      rw [htag] at hc
      -- the thread that is inside is another one, for this one is not
      have hut : u ≠ t := by
        rintro rfl
        rw [here] at hu
        rw [← Option.some.inj hu] at hc
        exact ha hc
      refine ⟨u, c, ?_, hc⟩
      rw [Function.update_of_ne hut]
      exact hinside u c _ hu hc

/-- The tasks are as before, and the thread runs none that it ran not before. -/
theorem busy_of_shared_eq (hshared : s₁.registry.shared = s.registry.shared)
    (hab : ∀ tag, a.Inside tag → b.Inside tag) :
    ∀ task ∈ s₁.registry.shared, task.busy = true → b.Inside task.job.tag ∨
      (∃ task₀ ∈ s.registry.shared, task₀.busy = true ∧ task₀.job.tag = task.job.tag) ∧
        ¬ a.Inside task.job.tag := by
  intro task htask hbusy
  rw [hshared] at htask
  by_cases ha : a.Inside task.job.tag
  · exact Or.inl (hab _ ha)
  · exact Or.inr ⟨⟨task, htask, hbusy, rfl⟩, ha⟩

/-- What the step of a thread does to calm items. -/
structure Keeps (s : State) (a : Activity) (s₁ : State) (b : Activity) : Prop where
  precedes : s.registry.Precedes s₁.registry
  queued : ∀ item ∈ s₁.monitor.contents.items, s₁.registry.fits item = true
  fit : b.Fit s₁.registry
  busy : ∀ task ∈ s₁.registry.shared, task.busy = true → b.Inside task.job.tag ∨
    (∃ task₀ ∈ s.registry.shared, task₀.busy = true ∧ task₀.job.tag = task.job.tag) ∧
      ¬ a.Inside task.job.tag

/-- A step that leaves the tasks alone. -/
theorem Keeps.of_registry_eq (hregistry : s₁.registry = s.registry)
    (hqueued : ∀ item ∈ s₁.monitor.contents.items, s.registry.fits item = true)
    (hb : b.Fit s.registry) (hab : ∀ tag, a.Inside tag → b.Inside tag) : s.Keeps a s₁ b := by
  refine ⟨?_, ?_, ?_, busy_of_shared_eq (congrArg _ hregistry) hab⟩
  · rw [hregistry]
    exact .refl _
  · rw [hregistry]
    exact hqueued
  · rw [hregistry]
    exact hb

/-- A queue of calm items stays one when a calm item is added. -/
theorem contents_of_added {monitor : Queue.Monitor Item} {item : Item} (h : s.Calm)
    (hitem : s.registry.fits item = true)
    (hanswered : s.monitor.Answered t (.add item) monitor .added) :
    ∀ i ∈ monitor.contents.items, s.registry.fits i = true := by
  rcases hanswered.add with ⟨-, -, hc⟩ | ⟨h, -⟩
  · rw [hc]
    intro i hi
    rcases List.mem_append.mp hi with hold | hnew
    · exact h.queued i hold
    · rw [List.mem_singleton.mp hnew]
      exact hitem
  · exact nomatch h

/-- So does one whose items stay. -/
theorem contents_of_eq {monitor : Queue.Monitor Item} (h : s.Calm)
    (hc : monitor.contents.items = s.monitor.contents.items) :
    ∀ i ∈ monitor.contents.items, s.registry.fits i = true := by
  rw [hc]
  exact h.queued

/-- An item that is rejected does not get into the queue. -/
theorem contents_of_rejected {monitor : Queue.Monitor Item} {item : Item}
    (hanswered : s.monitor.Answered t (.add item) monitor (.rejected item)) :
    monitor.contents.items = s.monitor.contents.items := by
  rcases hanswered.add with ⟨h, -⟩ | ⟨-, -, hc⟩
  · exact nomatch h
  · rw [hc]

/-- An item that is executed stays calm, and so do its children. -/
theorem Executes.keeps (hs : s.Calm) {id : Nat} {item : Item} {phase phase' : Phase}
    (hitem : s.registry.fits item = true) (hphase : phase.Fit s.registry)
    (h : s.Executes t item phase s₁ phase' said) :
    s.Keeps (.worker id (.executing ⟨item, phase⟩)) s₁ (.worker id (.executing ⟨item, phase'⟩)) := by
  -- inside before and inside after: the same task
  have hinside : ∀ {phase phase' : Phase}, phase.isInside = true → phase'.isInside = true →
      ∀ tag, (Activity.worker id (.executing ⟨item, phase⟩)).Inside tag →
        (Activity.worker id (.executing ⟨item, phase'⟩)).Inside tag := by
    rintro phase phase' - hphase' tag ⟨id', e, heq, hin⟩
    cases heq
    exact ⟨id, _, rfl, hin.1, hin.2.1, hphase'⟩
  cases h with
  | proceeds stepped =>
      obtain ⟨hprecedes, hfit⟩ := stepped.fit hitem hphase hs.tasks
      refine ⟨hprecedes, fun i hi => hprecedes.fits (hs.queued i hi), ⟨hprecedes.fits hitem, hfit⟩, ?_⟩
      intro task htask hbusy
      rcases stepped.busy htask hbusy with hin | ⟨hold, hnot⟩
      · exact Or.inl ⟨id, _, rfl, hin⟩
      · refine Or.inr ⟨hold, ?_⟩
        rintro ⟨id', e, heq, hin⟩
        cases heq
        exact hnot hin
  | barred count child rest closed =>
      exact .of_registry_eq rfl hs.queued ⟨hitem, hphase.2⟩ (hinside rfl rfl)
  | offers count child rest monitor welcome called =>
      refine .of_registry_eq rfl (contents_of_eq hs ?_) ⟨hitem, hphase⟩ (hinside rfl rfl)
      exact congrArg _ (Queue.Monitor.asked_call called).2
  | accepted count child rest monitor answered =>
      exact .of_registry_eq rfl (contents_of_added hs hphase.1 answered) ⟨hitem, hphase.2⟩
        (hinside rfl rfl)
  | refused count child rest monitor answered =>
      exact .of_registry_eq rfl (contents_of_eq hs (contents_of_rejected answered))
        ⟨hitem, hphase.2⟩ (hinside rfl rfl)

/-- A worker takes calm items only, and keeps them so. -/
theorem Works.keeps (hs : s.Calm) {id : Nat} {p q : WorkerPoint} (hp : p.Fit s.registry)
    (h : s.Works t id p s₁ q said) : s.Keeps (.worker id p) s₁ (.worker id q) := by
  -- no task is run outside an execution, nor at its end
  have hidle : ∀ {p q : WorkerPoint}, (∀ e, p ≠ .executing e) → ∀ tag,
      (Activity.worker id p).Inside tag → (Activity.worker id q).Inside tag := by
    rintro p q hp tag ⟨id', e, heq, -⟩
    cases heq
    exact absurd rfl (hp e)
  have hover : ∀ {item : Item} {ended : Work.Ended} {q : WorkerPoint}, ∀ tag,
      (Activity.worker id (.executing ⟨item, .concluded ended⟩)).Inside tag →
        (Activity.worker id q).Inside tag := by
    rintro item ended q tag ⟨id', e, heq, hin⟩
    cases heq
    exact nomatch hin.2.2
  cases h with
  | comes monitor called =>
      refine .of_registry_eq rfl (contents_of_eq hs ?_) trivial (hidle (fun _ h => nomatch h))
      exact congrArg _ (Queue.Monitor.asked_call called).2
  | waits monitor waited =>
      exact .of_registry_eq rfl (contents_of_eq hs (congrArg _ waited.contents)) trivial
        (hidle (fun _ h => nomatch h))
  | takes monitor item answered =>
      rcases answered.take with ⟨item', heq, hi, -⟩ | ⟨h, -⟩
      · cases heq
        -- the item that is taken was queued, and all queued items are fit
        have hfits : ∀ i ∈ item :: monitor.contents.items, s.registry.fits i = true := by
          rw [← hi]
          exact hs.queued
        exact .of_registry_eq rfl (fun i hmem => hfits i (List.mem_cons_of_mem _ hmem))
          (hfits item (List.mem_cons_self ..)) (hidle (fun _ h => nomatch h))
      · exact nomatch h
  | sentAway monitor answered =>
      rcases answered.take with ⟨item', heq, -⟩ | ⟨-, -, hc⟩
      · exact nomatch heq
      · exact .of_registry_eq rfl (contents_of_eq hs (congrArg _ hc)) trivial
          (hidle (fun _ h => nomatch h))
  | stamps item =>
      exact .of_registry_eq rfl hs.queued ⟨hp, trivial⟩ (hidle (fun _ h => nomatch h))
  | executes item step => exact step.keeps hs hp.1 hp.2
  | returns item outcome => exact .of_registry_eq rfl hs.queued trivial hover
  | escapes item message => exact .of_registry_eq rfl hs.queued trivial hover
  | starts | quits | counts | leaves | ends =>
      exact .of_registry_eq rfl hs.queued trivial (hidle (fun _ h => nomatch h))

/-- A submission adds a calm item or none. -/
theorem Submits.keeps (hs : s.Calm) {item : Item} {inQueue : Bool}
    (hitem : s.registry.fits item = true) (h : s.Submits t item inQueue s₁ b said) :
    s.Keeps (.submission item inQueue) s₁ b := by
  have hidle : ∀ tag, (Activity.submission item inQueue).Inside tag → b.Inside tag := by
    rintro tag ⟨id, e, heq, -⟩
    exact nomatch heq
  cases h with
  | barred closed => exact .of_registry_eq rfl hs.queued trivial hidle
  | comes monitor welcome called =>
      refine .of_registry_eq rfl (contents_of_eq hs ?_) hitem hidle
      exact congrArg _ (Queue.Monitor.asked_call called).2
  | accepted monitor answered =>
      exact .of_registry_eq rfl (contents_of_added hs hitem answered) trivial hidle
  | refused monitor answered =>
      exact .of_registry_eq rfl (contents_of_eq hs (contents_of_rejected answered)) trivial hidle

/-- No order touches the queued items. -/
theorem Orders.items {p : OrderPoint} (h : s.Orders t p s₁ b) :
    s₁.monitor.contents.items = s.monitor.contents.items := by
  cases h with
  | inquires monitor closed called => exact congrArg _ (Queue.Monitor.asked_call called).2
  | measures stop monitor due called => exact congrArg _ (Queue.Monitor.asked_call called).2
  | drains stop monitor due called => exact congrArg _ (Queue.Monitor.asked_call called).2
  | givesUp left failure monitor called => exact congrArg _ (Queue.Monitor.asked_call called).2
  | mayStart monitor answered => exact congrArg _ answered.isRunning.2
  | mayNot monitor answered => exact congrArg _ answered.isRunning.2
  | measured between monitor count answered called =>
      exact (congrArg _ (Queue.Monitor.asked_call called).2).trans (congrArg _ answered.size.2)
  | waits monitor waited => exact congrArg _ waited.contents
  | drained between monitor answer answered called =>
      exact (congrArg _ (Queue.Monitor.asked_call called).2).trans answered.shutDownWhenDrained.2.1
  | closes failure monitor answer answered => exact answered.shutDown.2
  | _ => rfl

/-- No order changes how submissions are guarded. -/
theorem Orders.guarded {p : OrderPoint} (h : s.Orders t p s₁ b) : s₁.guarded = s.guarded := by
  cases h <;> rfl

/-- An order has no items. -/
theorem Orders.keeps (hs : s.Calm) {p : OrderPoint} (h : s.Orders t p s₁ b) :
    s.Keeps (.order p) s₁ b := by
  have hidle : ∀ tag, (Activity.order p).Inside tag → b.Inside tag := by
    rintro tag ⟨id, e, heq, -⟩
    exact nomatch heq
  have hfit : ∀ r, b.Fit r := by
    intro r
    cases h <;> exact trivial
  have hshared : s₁.registry.shared = s.registry.shared := by
    cases h <;> rfl
  have hprecedes : s.registry.Precedes s₁.registry := by
    cases h with
    | hires | growsBy | outgrows | givesUp | stunted => exact s.registry.precedes_skipId
    | _ => exact .refl _
  refine ⟨hprecedes, ?_, hfit _, busy_of_shared_eq hshared hidle⟩
  rw [h.items]
  exact fun i hi => hprecedes.fits (hs.queued i hi)

/-- **A CALM POOL STAYS CALM**. -/
theorem Calm.stepped (hs : s.Placed) (h : s.Calm) (hstep : s.Stepped t s' said) : s'.Calm := by
  have hframe : ∀ {s₁ a b}, s.Frame s₁ → s.activity? t = some a → s.Keeps a s₁ b →
      (s₁.place t b).Calm := by
    intro s₁ a b frame here keeps
    have here₁ : s₁.activity? t = some a := frame.activity? ▸ here
    refine h.place here here₁ frame.guarded keeps.precedes keeps.queued keeps.fit ?_ ?_ keeps.busy
    · intro u c hu
      rw [frame.activity?] at hu
      exact Or.inl hu
    · intro u c tag hu _
      rw [frame.activity?]
      exact hu
  cases hstep with
  | works here step => exact hframe step.frame here (step.keeps h (h.threads _ _ here))
  | submits here step => exact hframe step.frame here (step.keeps h (h.threads _ _ here))
  | orders here step =>
      have keeps := step.keeps h
      refine h.place here (step.placed hs here).2 step.guarded keeps.precedes keeps.queued keeps.fit
        ?_ ?_ keeps.busy
      · intro u c hu
        rcases step.others hs u with heq | ⟨-, id, task, hnew⟩ | ⟨-, hgone⟩
        · exact Or.inl (heq ▸ hu)
        · cases Option.some.inj (hu.symm.trans hnew)
          exact Or.inr trivial
        · exact nomatch hu.symm.trans hgone
      · intro u c tag hu hin
        rcases step.others hs u with heq | ⟨hnone, -⟩ | ⟨⟨id, hended⟩, -⟩
        · exact heq.trans hu
        · exact nomatch hu.symm.trans hnone
        -- a thread that was joined had ended, so it was inside no task
        · cases Option.some.inj (hu.symm.trans hended)
          obtain ⟨id', e, heq, -⟩ := hin
          exact nomatch heq

end State

end PooledServer.Pool
