import PooledServer.Proofs.Pool.Runs

/-!
# Courses of a pool

    A course is a sequence of moves of a pool in which locks and waits work, whatever the jobs that come
    in.  Unlike in a run, an observer may panic, and then it throws the worker that ran its item out of
    its loop.  A course keeps a list of these items.

    What is left of the invariants of runs is `State.Manned`: a worker is out of its loop only for a
    reason, and an item that was handed out is with a worker, or counted, or on the list. -/

namespace PooledServer.Pool

open Work (Item Execution Phase Note Fate TaskId)

/-- Locks and waits work, and all work comes in through the pool or its handles. -/
def Move.isRegular : Move → Bool
  | .step _ luck => luck.lock && luck.wait
  | .wakeUp _ | .make _ | .submit _ | .order _ | .openGate _ => true
  | .request _ | .execute _ => false

/-- The item in execution bears the number of its worker, and if the execution has escaped it was the
    observer that panicked. -/
def WorkerPoint.Told (id : Nat) : WorkerPoint → Prop
  | .executing e => e.item.runBy = some id ∧
      ∀ message, e.phase = .concluded (.escaped message) → e.item.throws = true
  | .holding _ | .counting _ | .starting _ | .checking | .taking | .leaving | .ending _ | .ended => True

/-- The item whose observer is about to throw the worker out of its loop. -/
def Activity.thrown : Activity → List Item
  | .worker _ (.executing ⟨item, .concluded (.escaped _)⟩) => [item]
  | _ => []

namespace State

/-- The item over which the move throws a worker out. -/
def thrownOver (s : State) : Move → List Item
  | .step t _ => ((s.activity? t).map Activity.thrown).getD []
  | _ => []

/-- A sequence of regular moves, with all that has been left behind at its end and the items over which
    workers were thrown out. -/
def course (s : State) (notes : List Note) (fatal : List Item) :
    List Move → Option (State × List Note × List Item)
  | [] => some (s, notes, fatal)
  | move :: rest =>
    if move.isRegular then
      (s.move move).bind fun (s', new) => s'.course (notes ++ new) (fatal ++ s.thrownOver move) rest
    else none

/-- Why worker `id` may be out of its loop: the queue is shut down, the worker is asked to stop, or the
    observer of an item that it ran has thrown it out. -/
def MayBeOut (s : State) (fatal : List Item) (id : Nat) : Prop :=
  s.monitor.contents.running = false ∨ (∃ w ∈ s.workers, w.id = id ∧ w.stop = true) ∨
    ∃ item ∈ fatal, item.runBy = some id

/-- What is true of every pool, whatever its items do. -/
structure Manned (s : State) (notes : List Note) (fatal : List Item) : Prop where
  placed : s.Placed
  asking : s.Asking
  guarded : s.guarded = true
  hosted : ∀ t e, s.activity? t ≠ some (.execution e)
  told : ∀ t id p, s.activity? t = some (.worker id p) → p.Told id
  thrown : ∀ item ∈ fatal, item.throws = true
  executed : s.executed = (Fate.counted.met (Note.fates notes)).length
  handed : (↑(Fate.handedOut.met (Note.fates notes)) : Multiset TaskId) =
    ↑(Fate.counted.met (Note.fates notes)) + s.gather Activity.held + ↑(fatal.map (·.id))
  out : ∀ t id p, s.activity? t = some (.worker id p) → p.isOut = true → s.MayBeOut fatal id

variable {s s' s₁ : State} {t u : ThreadId} {id : Nat} {p q : WorkerPoint} {item : Item}
  {notes new notes' : List Note} {fatal fatal' : List Item} {said : List (Fate × TaskId)}
  {moves : List Move}

/-- A property that every regular move keeps holds at the end of a course. -/
theorem course_keeps {P : State → List Note → List Item → Prop}
    (hmove : ∀ s notes fatal move s' new, P s notes fatal → move.isRegular = true →
      s.move move = some (s', new) → P s' (notes ++ new) (fatal ++ s.thrownOver move))
    (h : P s notes fatal) (hcourse : s.course notes fatal moves = some (s', notes', fatal')) :
    P s' notes' fatal' := by
  induction moves generalizing s notes fatal with
  | nil =>
      obtain ⟨rfl, hrest⟩ := Prod.mk.inj (Option.some.inj hcourse)
      obtain ⟨rfl, rfl⟩ := Prod.mk.inj hrest
      exact h
  | cons move rest ih =>
      simp only [course] at hcourse
      split at hcourse
      · rename_i hregular
        obtain ⟨⟨s₁, new⟩, hstep, hrest⟩ := Option.bind_eq_some_iff.mp hcourse
        exact ih (hmove s notes fatal move s₁ new h hregular hstep) hrest
      · exact nomatch hcourse

/-! ## The threads after a step -/

/-- What holds of every thread after a step: of those that stay where they are, of the one that moves,
    and of a worker's thread that begins. -/
theorem Stepped.forall_threads {P : ThreadId → Activity → Prop} (hs : s.Placed)
    (h : s.Stepped t s' said)
    (hstays : ∀ u c, s.activity? u = some c → s'.activity? u = some c → P u c)
    (hworks : ∀ id p q s₁, s.activity? t = some (.worker id p) → s.Works t id p s₁ q said →
      s'.activity? t = some (.worker id q) → P t (.worker id q))
    (hmoves : ∀ b, b.worker? = none → (∀ e, b ≠ .execution e) → P t b)
    (hbegins : ∀ u id task, P u (.worker id (.starting task))) :
    ∀ u c, s'.activity? u = some c → P u c := by
  -- workers and submissions move only themselves
  have hframe : ∀ {s₁ a b}, s.Frame s₁ → s.activity? t = some a → P t b →
      (∀ u c, s.activity? u = some c → (s₁.place t b).activity? u = some c → P u c) →
      ∀ u c, (s₁.place t b).activity? u = some c → P u c := by
    intro s₁ a b frame here hb hstays u c hu
    have hu' := hu
    rw [activity?_place (frame.activity? ▸ here)] at hu
    by_cases hut : u = t
    · subst hut
      rw [Function.update_self] at hu
      rw [← Option.some.inj hu]
      exact hb
    · rw [Function.update_of_ne hut, frame.activity?] at hu
      exact hstays u c hu hu'
  cases h with
  | works here step =>
      refine hframe step.frame here (hworks _ _ _ _ here step ?_) hstays
      rw [activity?_place (step.frame.activity? ▸ here), Function.update_self]
  | submits here step =>
      refine hframe step.frame here (hmoves _ step.worker? ?_) hstays
      cases step <;> exact fun _ h => nomatch h
  | orders here step =>
      intro u c hu
      have hu' := hu
      rw [activity?_place (step.placed hs here).2] at hu
      by_cases hut : u = t
      · subst hut
        rw [Function.update_self] at hu
        rw [← Option.some.inj hu]
        refine hmoves _ step.worker? ?_
        cases step <;> exact fun _ h => nomatch h
      · rw [Function.update_of_ne hut] at hu
        rcases step.others hs u with heq | ⟨-, id, task, hnew⟩ | ⟨-, hgone⟩
        · exact hstays u c (heq ▸ hu) hu'
        · rw [Option.some.inj (hu.symm.trans hnew)]
          exact hbegins u id task
        · exact nomatch hu.symm.trans hgone

/-- A thread that is not the one that moves, nor a worker's that has ended, stays where it is. -/
theorem Stepped.activity?_of_ne (hs : s.Placed) (h : s.Stepped t s' said) {c : Activity}
    (hu : s.activity? u = some c) (hut : u ≠ t) (hended : ∀ id, c ≠ .worker id .ended) :
    s'.activity? u = some c := by
  cases h with
  | works here step =>
      rw [activity?_place (step.frame.activity? ▸ here), Function.update_of_ne hut,
        step.frame.activity?]
      exact hu
  | submits here step =>
      rw [activity?_place (step.frame.activity? ▸ here), Function.update_of_ne hut,
        step.frame.activity?]
      exact hu
  | orders here step =>
      rw [activity?_place (step.placed hs here).2, Function.update_of_ne hut]
      rcases step.others hs u with heq | ⟨hnone, -⟩ | ⟨⟨id, hend⟩, -⟩
      · exact heq.trans hu
      · exact nomatch hnone.symm.trans hu
      · exact absurd (Option.some.inj (hu.symm.trans hend)) (hended id)

theorem Stepped.guarded (h : s.Stepped t s' said) : s'.guarded = s.guarded := by
  cases h with
  | works here step => exact step.frame.guarded
  | submits here step => exact step.frame.guarded
  | orders here step => exact step.guarded

/-- No step opens a queue that is shut down. -/
theorem Stepped.stays_closed (h : s.Stepped t s' said)
    (hclosed : s.monitor.contents.running = false) : s'.monitor.contents.running = false := by
  cases h with
  | works here step => exact step.frame.opened.trans hclosed
  | submits here step => exact step.frame.opened.trans hclosed
  | orders here step => exact step.stays_closed hclosed

/-! ## Why a worker is out of its loop -/

/-- Who has been asked to stop stays so, or is no longer a worker. -/
theorem Stepped.stays_asked (hs : s.Placed) (h : s.Stepped t s' said) {w : Worker}
    (hw : w ∈ s.workers) (hstop : w.stop = true) :
    (∃ v ∈ s'.workers, v.id = w.id ∧ v.stop = true) ∨ ∀ v ∈ s'.workers, v.id ≠ w.id := by
  have hframe : ∀ {s₁ b}, s.Frame s₁ →
      ∃ v ∈ (s₁.place t b).workers, v.id = w.id ∧ v.stop = true := by
    intro s₁ b frame
    obtain ⟨f, hworkers, hf⟩ := frame.workers
    refine ⟨f w, ?_, (hf w).1, (hf w).2.2.trans hstop⟩
    show f w ∈ s₁.workers
    rw [hworkers]
    exact List.mem_map_of_mem hw
  cases h with
  | works here step => exact Or.inl (hframe step.frame)
  | submits here step => exact Or.inl (hframe step.frame)
  | orders here step =>
      cases step with
      | hires left => exact Or.inl ⟨w, List.mem_append_left _ hw, rfl, hstop⟩
      | growsBy left size => exact Or.inl ⟨w, List.mem_append_left _ hw, rfl, hstop⟩
      | outgrows left message => exact Or.inl ⟨w, List.mem_append_left _ hw, rfl, hstop⟩
      | dismisses id left failure =>
          refine Or.inl ⟨_, List.mem_map_of_mem hw, ?_, ?_⟩
          · split <;> rfl
          · split
            · rfl
            · exact hstop
      | joins failure first rest hfirst gone =>
          -- the numbers of workers differ, so no other one bears the number of the first
          have hnodup := hs.enrolled
          rw [hfirst, List.map_cons, List.nodup_cons] at hnodup
          rw [hfirst] at hw
          rcases List.mem_cons.mp hw with rfl | hrest
          · refine Or.inr fun v hv heq => hnodup.1 ?_
            rw [← heq]
            exact List.mem_map_of_mem hv
          · exact Or.inl ⟨w, hrest, rfl, hstop⟩
      | _ => exact Or.inl ⟨w, hw, rfl, hstop⟩

/-- A worker that may be out may be so later, as long as its thread is there. -/
theorem MayBeOut.stepped (hs : s.Placed) (hstep : s.Stepped t s' said)
    (hu : s'.activity? u = some (.worker id p)) (h : s.MayBeOut fatal id) (more : List Item) :
    s'.MayBeOut (fatal ++ more) id := by
  rcases h with hclosed | ⟨w, hw, rfl, hstop⟩ | ⟨item, hitem, hrun⟩
  · exact Or.inl (hstep.stays_closed hclosed)
  · refine Or.inr (Or.inl ?_)
    rcases hstep.stays_asked hs hw hstop with hstays | hnone
    · exact hstays
    · obtain ⟨v, hv, hid, -⟩ := (hs.stepped hstep).known u w.id p hu
      exact absurd hid (hnone v hv)
  · exact Or.inr (Or.inr ⟨item, List.mem_append_left _ hitem, hrun⟩)

/-- A step that takes a worker out of its loop has one of the three reasons. -/
theorem Works.mayBeOut (step : s.Works t id p s₁ q said) (hp : p.Told id)
    (hin : p.isOut = true → s.MayBeOut fatal id) (hq : q.isOut = true) :
    s.MayBeOut (fatal ++ (Activity.worker id p).thrown) id := by
  have hbefore : s.MayBeOut fatal id → s.MayBeOut (fatal ++ (Activity.worker id p).thrown) id := by
    rintro (hclosed | hstop | ⟨item, hitem, hrun⟩)
    · exact Or.inl hclosed
    · exact Or.inr (Or.inl hstop)
    · exact Or.inr (Or.inr ⟨item, List.mem_append_left _ hitem, hrun⟩)
  cases step with
  | quits stop =>
      obtain ⟨w, hfind, hstop⟩ := (Option.any_eq_true _ _).mp stop
      obtain ⟨hw, hid⟩ := Keyed.mem_of_find? (f := Worker.id) hfind
      exact Or.inr (Or.inl ⟨w, hw, hid, hstop⟩)
  | sentAway monitor answered =>
      rcases answered.take with ⟨item, heq, -⟩ | ⟨-, hclosed, -⟩
      · exact nomatch heq
      · exact Or.inl hclosed
  | escapes item message =>
      exact Or.inr (Or.inr ⟨item, List.mem_append_right _ (List.mem_singleton_self item), hp.1⟩)
  | leaves => exact hbefore (hin rfl)
  | ends escaped => exact hbefore (hin rfl)
  | _ => exact nomatch hq

/-- An execution escapes only from an observer that panics. -/
theorem Executes.throws {phase phase' : Phase} {message : String}
    (h : s.Executes t item phase s₁ phase' said) (hescaped : phase' = .concluded (.escaped message)) :
    item.throws = true := by
  cases h with
  | proceeds stepped =>
      cases stepped with
      | tells outcome ended told =>
          cases hescaped
          exact Execution.throws_of_escaped told.symm
      | _ => exact nomatch hescaped
  | _ => exact nomatch hescaped

theorem Works.told (step : s.Works t id p s₁ q said) (hp : p.Told id) : q.Told id := by
  cases step with
  | stamps item => exact ⟨rfl, fun _ h => nomatch h⟩
  | executes item step => exact ⟨hp.1, fun message => step.throws⟩
  | _ => exact trivial

/-! ## The account of items -/

/-- An item that was handed to a worker is with it, or counted, or its observer throws the worker out. -/
theorem Works.account (hs : s.Placed) (here : s.activity? t = some (.worker id p))
    (step : s.Works t id p s₁ q said) :
    (↑(Activity.worker id p).held + ↑(Fate.handedOut.met said) : Multiset TaskId) =
        ↑(Fate.counted.met said) + ↑(Activity.worker id q).held +
          ↑((Activity.worker id p).thrown.map (·.id)) ∧
      s₁.executed = s.executed + (Fate.counted.met said).length := by
  by_cases hescaped : ∃ item message, p = .executing ⟨item, .concluded (.escaped message)⟩
  · obtain ⟨item, message, rfl⟩ := hescaped
    -- the only step from here is the one that throws the worker out
    cases step with
    | escapes => exact ⟨add_comm _ _, rfl⟩
    | executes item step =>
        cases step with
        | proceeds stepped => exact nomatch stepped
  · have hcalm : ∀ item message, p ≠ .executing ⟨item, .concluded (.escaped message)⟩ :=
      fun item message heq => hescaped ⟨item, message, heq⟩
    have hnone : (Activity.worker id p).thrown = [] := by
      simp only [Activity.thrown]
      split
      · rename_i item message heq
        cases heq
        exact absurd rfl (hcalm item message)
      · rfl
    have hentry := step.entry hs here hcalm
    refine ⟨?_, hentry.executed⟩
    rw [hentry.held, hnone]
    exact (add_zero _).symm

/-- The account of one thread that moves is the account of all. -/
theorem account_place {a b : Activity} {thrown : Multiset TaskId} (hd : (s₁.threads.map (·.id)).Nodup)
    (here : s₁.activity? t = some a) (hgather : s₁.gather Activity.held = s.gather Activity.held)
    (h : (↑a.held + ↑(Fate.handedOut.met said) : Multiset TaskId) =
      ↑(Fate.counted.met said) + ↑b.held + thrown) :
    s.gather Activity.held + ↑(Fate.handedOut.met said) =
      ↑(Fate.counted.met said) + (s₁.place t b).gather Activity.held + thrown := by
  have hplace := gather_place (f := Activity.held) (b := b) hd here
  rw [hgather] at hplace
  refine add_right_cancel (b := (↑a.held : Multiset TaskId)) ?_
  calc s.gather Activity.held + ↑(Fate.handedOut.met said) + ↑a.held
      = s.gather Activity.held + (↑a.held + ↑(Fate.handedOut.met said)) := by abel
    _ = s.gather Activity.held + (↑(Fate.counted.met said) + ↑b.held + thrown) := by rw [h]
    _ = ↑(Fate.counted.met said) + (s.gather Activity.held + ↑b.held) + thrown := by abel
    _ = ↑(Fate.counted.met said) + ((s₁.place t b).gather Activity.held + ↑a.held) + thrown := by
        rw [hplace]
    _ = ↑(Fate.counted.met said) + (s₁.place t b).gather Activity.held + thrown + ↑a.held := by abel

theorem Stepped.account (hs : s.Placed) (h : s.Stepped t s' said) (luck : Luck) :
    s.gather Activity.held + ↑(Fate.handedOut.met said) =
        ↑(Fate.counted.met said) + s'.gather Activity.held +
          ↑((s.thrownOver (.step t luck)).map (·.id)) ∧
      s'.executed = s.executed + (Fate.counted.met said).length := by
  have hgather : ∀ {s₁}, s.Frame s₁ → s₁.gather Activity.held = s.gather Activity.held := by
    intro s₁ frame
    simp only [State.gather]
    rw [frame.threads]
  simp only [thrownOver]
  cases h with
  | works here step =>
      obtain ⟨hheld, hexecuted⟩ := step.account hs here
      rw [here]
      have here₁ := step.frame.activity? ▸ here
      exact ⟨account_place (step.frame.placed hs).distinct here₁ (hgather step.frame) hheld, hexecuted⟩
  | submits here step =>
      have hentry := step.entry
      rw [here]
      have here₁ := step.frame.activity? ▸ here
      refine ⟨account_place (step.frame.placed hs).distinct here₁ (hgather step.frame) ?_,
        hentry.executed⟩
      rw [hentry.held]
      exact (add_zero _).symm
  | orders here step =>
      have hentry := step.entry
      obtain ⟨hs₁, here₁⟩ := step.placed hs here
      rw [here]
      refine ⟨account_place hs₁.distinct here₁ (step.gather hs (fun _ _ => rfl) fun _ => rfl) ?_,
        hentry.executed⟩
      rw [hentry.held]
      exact (add_zero _).symm

/-! ## What every move keeps -/

theorem thrownOver_of_activity {a : Activity} (here : s.activity? t = some a) (luck : Luck) :
    s.thrownOver (.step t luck) = a.thrown := by
  simp only [thrownOver]
  rw [here]
  rfl

theorem Manned.stepped_of_step (h : s.Manned notes fatal) {luck : Luck} (hlock : luck.lock = true)
    (hwait : luck.wait = true) (hstep : s.step t luck = some (s', new)) :
    s.Stepped t s' (Note.fates new) :=
  State.stepped_of_step h.placed h.asking h.guarded hlock hwait (h.hosted t) hstep

/-- Nobody comes to execute an item outside a worker. -/
theorem Manned.hosted_next (h : s.Manned notes fatal) (hstep : s.Stepped t s' said) (e : Execution) :
    s'.activity? u ≠ some (.execution e) := by
  intro hu
  refine hstep.forall_threads (P := fun _ c => ∀ e, c ≠ .execution e) h.placed ?_ ?_ ?_ ?_ u _ hu e rfl
  · intro u c hu _ e heq
    exact h.hosted u e (heq ▸ hu)
  · exact fun _ _ _ _ _ _ _ _ heq => nomatch heq
  · exact fun _ _ hb => hb
  · exact fun _ _ _ _ heq => nomatch heq

theorem Manned.told_next (h : s.Manned notes fatal) (hstep : s.Stepped t s' said)
    (hu : s'.activity? u = some (.worker id p)) : p.Told id := by
  refine hstep.forall_threads (P := fun _ c => ∀ id p, c = .worker id p → p.Told id) h.placed
    ?_ ?_ ?_ ?_ u _ hu id p rfl
  · rintro u c hu - id p rfl
    exact h.told u id p hu
  · rintro id p q s₁ here step - id' p' heq
    cases heq
    exact step.told (h.told t id p here)
  · rintro b hb - id p rfl
    exact nomatch hb
  · rintro u id task id' p heq
    cases heq
    exact trivial

/-- A worker is thrown out over an item whose observer panics. -/
theorem Manned.throws (h : s.Manned notes fatal) {luck : Luck}
    (hitem : item ∈ s.thrownOver (.step t luck)) : item.throws = true := by
  simp only [thrownOver] at hitem
  cases here : s.activity? t with
  | none =>
      rw [here] at hitem
      exact nomatch hitem
  | some a =>
      rw [here] at hitem
      simp only [Option.map_some, Option.getD_some, Activity.thrown] at hitem
      split at hitem
      · rename_i id thrown message
        rw [List.mem_singleton.mp hitem]
        exact (h.told t id _ here).2 message rfl
      · exact nomatch hitem

/-- Whoever is out of its loop after a step has a reason for it. -/
theorem Manned.out_next (h : s.Manned notes fatal) (hstep : s.Stepped t s' said) (luck : Luck)
    (hu : s'.activity? u = some (.worker id p)) (hp : p.isOut = true) :
    s'.MayBeOut (fatal ++ s.thrownOver (.step t luck)) id := by
  refine hstep.forall_threads (P := fun _ c => ∀ id p, c = .worker id p → p.isOut = true →
    s'.MayBeOut (fatal ++ s.thrownOver (.step t luck)) id) h.placed ?_ ?_ ?_ ?_ u _ hu id p rfl hp
  · rintro u c hu hu' id p rfl hp
    exact (h.out u id p hu hp).stepped h.placed hstep hu' _
  · rintro id p q s₁ here step here' id' q' heq hq
    cases heq
    have hleaves := step.mayBeOut (h.told t id p here) (h.out t id p here) hq
    rw [← thrownOver_of_activity here luck] at hleaves
    rw [← List.append_nil (fatal ++ _)]
    exact hleaves.stepped h.placed hstep here' []
  · rintro b hb - id p rfl
    exact nomatch hb
  · rintro u id task id' p heq hp
    cases heq
    exact nomatch hp

theorem Manned.handed_next (h : s.Manned notes fatal) (hstep : s.Stepped t s' (Note.fates new))
    (luck : Luck) :
    (↑(Fate.handedOut.met (Note.fates (notes ++ new))) : Multiset TaskId) =
      ↑(Fate.counted.met (Note.fates (notes ++ new))) + s'.gather Activity.held +
        ↑((fatal ++ s.thrownOver (.step t luck)).map (·.id)) := by
  have hheld := (hstep.account h.placed luck).1
  rw [Note.fates_append, Fate.met_append, Fate.met_append, List.map_append, ← Multiset.coe_add,
    ← Multiset.coe_add, ← Multiset.coe_add, h.handed]
  calc ↑(Fate.counted.met (Note.fates notes)) + s.gather Activity.held + ↑(fatal.map (·.id)) +
        ↑(Fate.handedOut.met (Note.fates new))
      = ↑(Fate.counted.met (Note.fates notes)) + ↑(fatal.map (·.id)) +
          (s.gather Activity.held + ↑(Fate.handedOut.met (Note.fates new))) := by abel
    _ = _ := by
        rw [hheld]
        abel

/-- **A STEP LEAVES A MANNED POOL**. -/
theorem Manned.step (h : s.Manned notes fatal) {luck : Luck} (hlock : luck.lock = true)
    (hwait : luck.wait = true) (hstep : s.step t luck = some (s', new)) :
    s'.Manned (notes ++ new) (fatal ++ s.thrownOver (.step t luck)) := by
  have hstepped := h.stepped_of_step hlock hwait hstep
  refine ⟨h.placed.stepped hstepped, h.asking.stepped h.placed hstepped,
    hstepped.guarded.trans h.guarded, fun _ => h.hosted_next hstepped,
    fun _ _ _ => h.told_next hstepped, ?_, ?_, h.handed_next hstepped luck,
    fun _ _ _ => h.out_next hstepped luck⟩
  · intro item hitem
    rcases List.mem_append.mp hitem with hold | hnew
    · exact h.thrown item hold
    · exact h.throws hnew
  · rw [(hstepped.account h.placed luck).2, h.executed, Note.fates_append, Fate.met_append,
      List.length_append]

/-- A thread that is no worker's, and has nothing to do with the queue yet, begins. -/
theorem Manned.launch (h : s.Manned notes fatal) {a : Activity} (hrole : a.worker? = none)
    (hasks : a.asks = none) (hheld : a.held = []) (hhosted : ∀ e, a ≠ .execution e) :
    (s.launch a).Manned notes fatal := by
  have hothers : ∀ {u id p}, (s.launch a).activity? u = some (.worker id p) →
      s.activity? u = some (.worker id p) := by
    intro u id p hu
    rcases launch_cases h.placed hu with hu | ⟨-, rfl⟩
    · exact hu
    · exact nomatch hrole
  refine ⟨h.placed.launch hrole, h.asking.launch h.placed hasks, h.guarded, ?_,
    fun u id p hu => h.told u id p (hothers hu), h.thrown, h.executed, ?_,
    fun u id p hu => h.out u id p (hothers hu)⟩
  · intro u e hu
    rcases launch_cases h.placed hu with hu | ⟨-, heq⟩
    · exact h.hosted u e hu
    · exact hhosted e heq.symm
  · rw [gather_launch, hheld, Multiset.coe_nil, add_zero]
    exact h.handed

/-- A change of the registry, or of the queue's monitor that leaves the contents and what is asked. -/
theorem Manned.of_eq (h : s.Manned notes fatal) (monitor : Queue.Monitor Item)
    (registry : Work.Registry) (hasked : monitor.asked = s.monitor.asked)
    (hcontents : monitor.contents = s.monitor.contents) (hsound : monitor.Sound) :
    State.Manned { s with monitor, registry } notes fatal := by
  refine ⟨⟨h.placed.distinct, h.placed.numbered, h.placed.enrolled, h.placed.recent,
    h.placed.staffed, h.placed.known⟩, ⟨?_, hsound⟩, h.guarded, h.hosted, h.told, h.thrown,
    h.executed, h.handed, ?_⟩
  · show ∀ u, monitor.asked u = _
    rw [hasked]
    exact h.asking.asked
  · intro u id p hu hp
    rcases h.out u id p hu hp with hclosed | hreason
    · exact Or.inl ((congrArg _ hcontents).trans hclosed)
    · exact Or.inr hreason

/-- **EVERY REGULAR MOVE KEEPS A POOL MANNED**. -/
theorem Manned.move (h : s.Manned notes fatal) {move : Move} (hregular : move.isRegular = true)
    (hmove : s.move move = some (s', new)) :
    s'.Manned (notes ++ new) (fatal ++ s.thrownOver move) := by
  -- only a step says anything, and only a step can throw a worker out
  have hquiet : s'.Manned notes fatal → new = [] → s.thrownOver move = [] →
      s'.Manned (notes ++ new) (fatal ++ s.thrownOver move) := by
    intro hkeeps hnew hnone
    rw [hnew, hnone, List.append_nil, List.append_nil]
    exact hkeeps
  cases move with
  | step t luck =>
      obtain ⟨hlock, hwait⟩ := Bool.and_eq_true_iff.mp hregular
      exact h.step hlock hwait hmove
  | wakeUp t =>
      obtain ⟨monitor, hwake, heq⟩ := Option.map_eq_some_iff.mp hmove
      obtain ⟨rfl, rfl⟩ := Prod.mk.inj heq
      obtain ⟨hasked, hcontents⟩ := Queue.Monitor.asked_wakeUp hwake
      exact hquiet (h.of_eq monitor s.registry hasked hcontents (h.asking.sound.wakeUp hwake)) rfl rfl
  | request request => exact nomatch hregular
  | make job =>
      obtain ⟨rfl, rfl⟩ := Prod.mk.inj (Option.some.inj hmove)
      exact hquiet (h.of_eq s.monitor (s.registry.make job).2 rfl rfl h.asking.sound) rfl rfl
  | submit item =>
      obtain ⟨rfl, rfl⟩ := Prod.mk.inj (Option.some.inj hmove)
      exact hquiet (h.launch rfl rfl rfl fun _ heq => nomatch heq) rfl rfl
  | execute item => exact nomatch hregular
  | order order =>
      obtain ⟨rfl, rfl⟩ := Prod.mk.inj (Option.some.inj hmove)
      exact hquiet (h.launch rfl rfl rfl fun _ heq => nomatch heq) rfl rfl
  | openGate gate =>
      obtain ⟨rfl, rfl⟩ := Prod.mk.inj (Option.some.inj hmove)
      exact hquiet (h.of_eq s.monitor (s.registry.openGate gate) rfl rfl h.asking.sound) rfl rfl

theorem Manned.course (h : s.Manned notes fatal)
    (hcourse : s.course notes fatal moves = some (s', notes', fatal')) : s'.Manned notes' fatal' :=
  course_keeps (fun _ _ _ _ _ _ h hregular hmove => h.move hregular hmove) h hcourse

theorem manned_create {name : String} {size : UInt64} {faults faults' : Sync.Faults}
    {arithmetic : Arithmetic} {made : List Note}
    (h : create name size faults arithmetic = (made, faults', .ok s)) : s.Manned [] [] := by
  obtain ⟨hplaced, hasking, hbooks, hcalm, -⟩ := sane_create h
  obtain ⟨queueName, mutexName, rfl⟩ := create_eq h
  exact ⟨hplaced, hasking, hcalm.guarded, fun _ _ h => (nomatch h), fun _ _ _ h => (nomatch h),
    fun _ h => (nomatch h), hbooks.executed, rfl, fun _ _ _ h => (nomatch h)⟩

end State

end PooledServer.Pool
