import PooledServer.Proofs.Pool.Careers

/-!
# When a worker cannot be made

    A start that cannot make one of its workers gives up: it closes the queue, asks the workers that it
    has made to stop and joins them.  They have never had an item, so none of them is in the way, and
    every step of theirs or of the start's own lowers what is left to be done (`State.ahead`); that is
    why the start returns.  The pool is then shut for good.

    A growth of a running pool that cannot make one of its workers just returns, and what it has made
    before stays.

    With these the consistency of a pool is stated in one, `State.Consistent`. -/

namespace PooledServer.Pool

open Work (Item Execution Phase Note Fate TaskId)

/-! ## What is left to be done -/

/-- The steps that a worker without an item has before it once the queue is shut down, the last of them
    its joining. -/
def WorkerPoint.ahead : WorkerPoint → Nat
  | .starting _ => 6
  | .checking => 5
  | .taking => 4
  | .leaving => 3
  | .ending _ => 2
  | .ended => 1
  | .holding _ | .executing _ | .counting _ => 0

/-- The same for every thread; the order's thread has its workers to dismiss. -/
def Activity.ahead : Activity → Nat
  | .worker _ p => p.ahead
  | .order (.dismissing left _) => left.length + 2
  | .order (.joining _) => 1
  | _ => 0

namespace State

def ahead (s : State) : Nat := (s.threads.map fun th => th.activity.ahead).sum

variable {s s' s₁ : State} {t u : ThreadId} {luck : Luck} {a b : Activity} {notes : List Note}
  {said : List (Fate × TaskId)} {annals annals' : Annals} {move : Move} {moves : List Move}
  {e : PoolError}

theorem ahead_place (hd : (s.threads.map (·.id)).Nodup) (here : s.activity? t = some a) :
    (s.place t b).ahead + a.ahead = s.ahead + b.ahead :=
  Keyed.sum_map_at (f := Thread.id) (g := fun th => { th with activity := b }) hd
    (mem_threads_of_activity? here) fun th => th.activity.ahead

theorem ahead_dropFirst (hd : (s.threads.map (·.id)).Nodup) {w : Worker} (rest : List Worker)
    (here : s.activity? w.thread = some a) : (s.dropFirst w rest).ahead + a.ahead = s.ahead :=
  Keyed.sum_filter_ne (f := Thread.id) hd (mem_threads_of_activity? here) fun th => th.activity.ahead

/-- At a queue that is shut down a worker without an item is on its way out. -/
theorem Works.ahead_lt {id : Nat} {p q : WorkerPoint} (step : s.Works t id p s₁ q said)
    (hclosed : s.monitor.contents.running = false) (hp : (Activity.worker id p).held = []) :
    q.ahead < p.ahead := by
  cases step with
  | starts task => exact Nat.lt_succ_self 5
  | quits stop => exact Nat.lt_add_of_pos_right (n := 3) (Nat.succ_pos 1)
  | comes monitor called => exact Nat.lt_succ_self 4
  | waits monitor waited =>
      obtain ⟨c, hc⟩ := waited.reason
      cases hclosed.symm.trans hc.running
  | takes monitor item answered =>
      rcases answered.take with ⟨item', -, -, hopen, -⟩ | ⟨h, -⟩
      · cases hclosed.symm.trans hopen
      · cases h
  | sentAway monitor answered => exact Nat.lt_succ_self 3
  | leaves => exact Nat.lt_succ_self 2
  | ends escaped => exact Nat.lt_succ_self 1
  | stamps | executes | returns | escapes | counts => cases hp

/-- Such a worker is never stuck. -/
theorem Asking.canGo_of_unworked (h : s.Asking) (hclosed : s.monitor.contents.running = false)
    {id : Nat} {p : WorkerPoint} (here : s.activity? t = some (.worker id p))
    (hp : (Activity.worker id p).held = []) (hended : p ≠ .ended) : s.CanGo t := by
  cases p with
  | taking =>
      exact h.canGo_of_turn here (fun _ heq => nomatch heq)
        (turn_isSome_of_asked h (h.asked_eq here) (Or.inr hclosed))
  | starting | checking | leaving | ending => exact h.canGo_of_worker here rfl
  | holding | executing | counting => cases hp
  | ended => exact absurd rfl hended

/-! ## A start that fails -/

/-- Thread `t` sends the workers away after a start that failed with `e`, or has returned. -/
def TidiesUp (s : State) (t : ThreadId) (e : PoolError) : Prop :=
  (∃ left, s.activity? t = some (.order (.dismissing left (some e)))) ∨
    s.activity? t = some (.order (.joining (some e))) ∨
    s.activity? t = some (.finished (.ordered (.error e))) ∧ s.Shut

/-- Thread `t` carries out a start that has failed with `e`, or has returned. -/
def FailsWith (s : State) (t : ThreadId) (e : PoolError) : Prop :=
  s.activity? t = some (.order (.closing (some e))) ∨ s.TidiesUp t e

theorem TidiesUp.proceeds (h : s.Tended) (ht : s.TidiesUp t e) (hp : s.Proceeds move s') :
    s'.TidiesUp t e := by
  rcases ht with ⟨left, here⟩ | here | ⟨here, hshut⟩
  · rcases hp.follow h here rfl with ⟨hstays, -⟩ | ⟨luck, p, s₁, b, heq, -, -, -, step, hb⟩
    · exact Or.inl ⟨left, hstays⟩
    · cases heq
      cases step with
      | carriesOn plain step =>
          cases step with
          | dismisses id left => exact Or.inl ⟨left, hb⟩
          | dismissed => exact Or.inr (Or.inl hb)
  · rcases hp.follow h here rfl with ⟨hstays, -⟩ | ⟨luck, p, s₁, b, heq, rfl, -, -, step, hb⟩
    · exact Or.inr (Or.inl hstays)
    · cases heq
      cases step with
      | carriesOn plain step =>
          cases step with
          | joins failure w rest first gone => exact Or.inr (Or.inl hb)
          | joined failure nobody =>
              exact Or.inr (Or.inr ⟨hb, h.situated.fits t _ here, nobody⟩)
  · rcases hp.follow h here rfl with ⟨hstays, -⟩ | ⟨luck, p, s₁, b, heq, -⟩
    · exact Or.inr (Or.inr ⟨hstays, hshut.proceeds h hp⟩)
    · cases heq

theorem FailsWith.proceeds (h : s.Tended) (hf : s.FailsWith t e) (hp : s.Proceeds move s') :
    s'.FailsWith t e := by
  rcases hf with here | ht
  · rcases hp.follow h here rfl with ⟨hstays, -⟩ | ⟨luck, p, s₁, b, heq, -, -, -, step, hb⟩
    · exact Or.inl hstays
    · cases heq
      cases step with
      | carriesOn plain step =>
          cases step with
          | closes failure monitor answer answered => exact Or.inr (Or.inl ⟨_, hb⟩)
  · exact Or.inr (ht.proceeds h hp)

/-- A step is no order. -/
theorem not_order_of_step (h : ∀ order, Move.order order ∉ moves) :
    ∀ order, Move.order order ∉ Move.step t luck :: moves :=
  fun order hmem => h order ((List.mem_cons.mp hmem).resolve_left fun heq => nomatch heq)

/-- A thread that can go is good for a move of a career. -/
theorem exists_move_of_canGo (h : s.Tended) (hgo : s.CanGo t)
    (hroomy : ∀ p, s.activity? t = some (.order p) → s.overflows (s.goodLuck t) p = false) :
    ∃ s' said, s.Stepped t s' said ∧ s.Proceeds (.step t (s.goodLuck t)) s' ∧ s'.Tended ∧
      ∀ annals rest, s.career annals (.step t (s.goodLuck t) :: rest) =
        s'.career (s.record annals (.step t (s.goodLuck t))) rest := by
  obtain ⟨notes, fatal, hmanned⟩ := h.manned
  obtain ⟨⟨s', new⟩, hstep⟩ := Option.isSome_iff_exists.mp hgo
  have hallows : s.allows (.step t (s.goodLuck t)) = true := by
    refine Bool.and_eq_true_iff.mpr ⟨rfl, ?_⟩
    simp only
    split
    · rename_i p here
      rw [hroomy p here]
      rfl
    · rfl
  obtain ⟨hproceeds, hnext⟩ := proceeds_of_move h hallows hstep
  refine ⟨s', _, hmanned.stepped_of_step rfl rfl hstep, hproceeds, h.proceeds hproceeds hnext, ?_⟩
  intro annals rest
  simp only [career]
  rw [if_pos hallows]
  simp only [State.move]
  rw [hstep]
  rfl

/-- **WHOEVER HAS SOMETHING TO DO** at a queue that is shut down lowers what is left to be done. -/
theorem Stepped.ahead_lt (hs : s.Placed) (hclosed : s.monitor.contents.running = false)
    (hunworked : s.Unworked) (here : s.activity? t = some a) (ha : 0 < a.ahead)
    (hstep : s.Stepped t s' said) : s'.ahead < s.ahead := by
  cases hstep with
  | @works id p q s₁ said there step =>
      have hplace := ahead_place (b := .worker id q) (step.frame.placed hs).distinct
        (step.frame.activity? ▸ there)
      have hsame : s₁.ahead = s.ahead := by
        simp only [State.ahead]
        rw [step.frame.threads]
      have hlt := step.ahead_lt hclosed (hunworked _ _ there)
      simp only [Activity.ahead] at hplace
      omega
  | submits there step =>
      cases Option.some.inj (here.symm.trans there)
      cases ha
  | @orders p b s₁ there step =>
      cases Option.some.inj (here.symm.trans there)
      obtain ⟨hs₁, there₁⟩ := step.placed hs there
      have hplace := ahead_place (b := b) hs₁.distinct there₁
      cases step with
      | dismisses id left failure =>
          have hsame : (s.updateWorker id fun w => { w with stop := true }).ahead = s.ahead := rfl
          simp only [Activity.ahead, List.length_cons] at hplace
          omega
      | dismissed failure =>
          simp only [Activity.ahead, List.length_nil] at hplace
          omega
      | joins failure w rest first gone =>
          -- the worker that is joined is the first, and it has ended
          obtain ⟨q, hq⟩ := hs.staffed w (first ▸ List.mem_cons_self ..)
          have hdrop := ahead_dropFirst hs.distinct rest hq
          have hended : q = .ended := by
            simp only [isOver] at gone
            rw [hq] at gone
            cases q with
            | ended => rfl
            | _ => cases gone
          subst hended
          simp only [Activity.ahead, WorkerPoint.ahead] at hplace hdrop
          omega
      | joined failure nobody =>
          simp only [Activity.ahead] at hplace
          omega
      | _ => cases ha

/-- Until the start has returned somebody has something to do, and is not stuck. -/
theorem TidiesUp.exists_canGo (h : s.Tended) (ht : s.TidiesUp t e)
    (hnot : s.activity? t ≠ some (.finished (.ordered (.error e)))) :
    s.monitor.contents.running = false ∧ s.Unworked ∧
      ∃ u a, s.activity? u = some a ∧ 0 < a.ahead ∧ s.CanGo u ∧
        ∀ p, a = .order p → p.isStaffing = false := by
  rcases ht with ⟨left, here⟩ | here | ⟨here, -⟩
  · refine ⟨(h.situated.fits t _ here).2.1, h.crewed t _ here, t, _, here, Nat.succ_pos _,
      h.asking.canGo_of_order here rfl, ?_⟩
    rintro p heq
    cases heq
    rfl
  · have hclosed := (h.situated.fits t _ here).2.1
    have hunworked : s.Unworked := h.crewed t _ here
    refine ⟨hclosed, hunworked, ?_⟩
    by_cases hover : ∀ w rest, s.workers = w :: rest → s.isOver w.thread = true
    · refine ⟨t, _, here, Nat.succ_pos _, canGo_of_joining here hover, ?_⟩
      rintro p heq
      cases heq
      rfl
    · simp only [not_forall] at hover
      obtain ⟨w, rest, hw, hover⟩ := hover
      obtain ⟨q, hq⟩ := h.placed.staffed w (hw ▸ List.mem_cons_self ..)
      have hended : q ≠ .ended := by
        rintro rfl
        exact hover (isOver_of_ended hq)
      have hheld := hunworked _ _ hq
      refine ⟨w.thread, _, hq, ?_, h.asking.canGo_of_unworked hclosed hq hheld hended,
        fun _ heq => nomatch heq⟩
      cases q with
      | holding | executing | counting => cases hheld
      | _ => exact Nat.succ_pos _
  · exact absurd here hnot

/-- **A START THAT FAILS CAN RETURN** from wherever it has come to: what is left to be done runs out. -/
theorem TidiesUp.exists_career (h : s.Tended) (ht : s.TidiesUp t e) (annals : Annals) :
    ∃ moves s' annals', s.career annals moves = some (s', annals') ∧
      (∀ order, Move.order order ∉ moves) ∧
      s'.activity? t = some (.finished (.ordered (.error e))) := by
  induction hn : s.ahead using Nat.strong_induction_on generalizing s annals with
  | h n ih =>
      by_cases hnot : s.activity? t = some (.finished (.ordered (.error e)))
      · exact ⟨[], s, annals, rfl, fun _ => List.not_mem_nil, hnot⟩
      · obtain ⟨hclosed, hunworked, u, a, here, ha, hgo, hplain⟩ := ht.exists_canGo h hnot
        obtain ⟨s₁, said, hstep, hproceeds, hs₁, hcareer⟩ := exists_move_of_canGo h hgo fun p hp =>
          overflows_of_plain (hplain p (Option.some.inj (here.symm.trans hp)))
        have hlt := hstep.ahead_lt h.placed hclosed hunworked here ha
        obtain ⟨moves, s', annals', hrest, hsteps, hreturned⟩ :=
          ih _ (hn ▸ hlt) hs₁ (ht.proceeds h hproceeds) (s.record annals _) rfl
        exact ⟨_ :: moves, s', annals', (hcareer annals moves).trans hrest,
          not_order_of_step hsteps, hreturned⟩

theorem FailsWith.exists_career (h : s.Tended) (hf : s.FailsWith t e) (annals : Annals) :
    ∃ moves s' annals', s.career annals moves = some (s', annals') ∧
      (∀ order, Move.order order ∉ moves) ∧
      s'.activity? t = some (.finished (.ordered (.error e))) := by
  rcases hf with here | ht
  · -- closing is one step
    obtain ⟨s₁, said, hstep, hproceeds, hs₁, hcareer⟩ :=
      exists_move_of_canGo h (h.asking.canGo_of_order here rfl) fun p hp => by
        cases Option.some.inj (here.symm.trans hp)
        rfl
    have ht₁ : s₁.TidiesUp t e := by
      cases hproceeds with
      | background alone aside unordered => exact absurd here (aside _ _ rfl _)
      | staffs there roomy step =>
          cases Option.some.inj (here.symm.trans there)
          cases step with
          | carriesOn plain step =>
              have there₁ := (step.placed h.placed there).2
              cases step with
              | closes failure monitor answer answered =>
                  refine Or.inl ⟨s.workers.map (·.id), ?_⟩
                  rw [activity?_place there₁, Function.update_self]
    obtain ⟨moves, s', annals', hrest, hsteps, hreturned⟩ :=
      ht₁.exists_career hs₁ (s.record annals _)
    exact ⟨_ :: moves, s', annals', (hcareer annals moves).trans hrest, not_order_of_step hsteps,
      hreturned⟩
  · exact ht.exists_career h annals

/-- Thread `t` has returned the error `e` and the pool is shut for good, or it can still come to that. -/
structure ComesBack (s : State) (annals : Annals) (t : ThreadId) (e : PoolError) : Prop where
  outcome : ∀ result, s.activity? t = some (.finished result) →
    result = .ordered (.error e) ∧ s.ShutForGood annals
  returns : ∃ moves s' annals', s.career annals moves = some (s', annals') ∧
    s'.activity? t = some (.finished (.ordered (.error e)))

theorem FailsWith.comesBack (h : s.Tended) (hf : s.FailsWith t e) (annals : Annals) :
    s.ComesBack annals t e := by
  obtain ⟨moves, s', annals', hcareer, -, hreturned⟩ := hf.exists_career h annals
  refine ⟨fun result hresult => ?_, moves, s', annals', hcareer, hreturned⟩
  rcases hf with hclosing | ⟨left, hdismissing⟩ | hjoining | ⟨hreturned, hshut⟩
  · cases Option.some.inj (hresult.symm.trans hclosing)
  · cases Option.some.inj (hresult.symm.trans hdismissing)
  · cases Option.some.inj (hresult.symm.trans hjoining)
  · cases Option.some.inj (hresult.symm.trans hreturned)
    exact ⟨rfl, hshut.forGood h annals⟩

/-! ## A growth -/

/-- Thread `t` makes the workers of a growth by `count` of the pool `s₀`, or has made them, all of them
    or some; those that it has `added` are of the crew and are counted. -/
structure Growing (s₀ : State) (annals₀ : Annals) (t : ThreadId) (count : Nat) (s : State)
    (annals : Annals) (added : List (Nat × ThreadId)) : Prop where
  welcomes : s.Open
  crew : s.crew = s₀.crew ++ added
  size : s.size.toNat = s₀.size.toNat + added.length
  joined : annals.joined = annals₀.joined
  alone : ∀ u p, s.activity? u = some (.order p) → u = t
  place : (s.activity? t = some (.order (.begun (.grow count))) ∧ added = []) ∨
    (∃ left, s.activity? t = some (.order (.growing left)) ∧ added.length + left = count) ∨
    (s.activity? t = some (.finished (.ordered (.ok ()))) ∧ added.length = count) ∨
    ∃ e, s.activity? t = some (.finished (.ordered (.error e))) ∧ added.length < count

theorem joined_enter (s : State) (annals : Annals) (luck : Luck) (left : Nat) :
    (s.enter annals luck (.growing left)).joined = annals.joined := by
  cases left with
  | zero => rfl
  | succ left =>
      simp only [enter]
      split <;> rfl

/-- **A GROWTH KEEPS COUNT** of what it has made. -/
theorem Growing.proceeds {s₀ : State} {annals₀ : Annals} {count : Nat} {added : List (Nat × ThreadId)}
    (h : s.Tended) (hg : Growing s₀ annals₀ t count s annals added) (hp : s.Proceeds move s')
    (hnot : ∀ order, move ≠ .order order) :
    ∃ added', Growing s₀ annals₀ t count s' (s.record annals move) added' := by
  cases hp with
  | background alone aside unordered =>
      refine ⟨added, alone.steady.open hg.welcomes, alone.crew.trans hg.crew, ?_, ?_, ?_, ?_⟩
      · rw [alone.size]
        exact hg.size
      · rw [record_eq_self aside]
        exact hg.joined
      · exact fun u p hu => hg.alone u p (alone.orders u p hu)
      · rcases hg.place with ⟨here, hadded⟩ | ⟨left, here, hleft⟩ | ⟨here, hadded⟩ | ⟨e, here, hadded⟩
        · exact Or.inl ⟨alone.stays t _ here rfl, hadded⟩
        · exact Or.inr (Or.inl ⟨left, alone.stays t _ here rfl, hleft⟩)
        · exact Or.inr (Or.inr (Or.inl ⟨alone.stays t _ here rfl, hadded⟩))
        · exact Or.inr (Or.inr (Or.inr ⟨e, alone.stays t _ here rfl, hadded⟩))
  | begins order idle => exact absurd rfl (hnot order)
  | @staffs u luck p s₁ b there roomy step =>
      obtain rfl := hg.alone u p there
      have hself : (s₁.place u b).activity? u = some b := by
        rw [activity?_place (step.orders.placed h.placed there).2, Function.update_self]
      have halone : ∀ v q, (s₁.place u b).activity? v = some (.order q) → v = u := by
        intro v q hv
        by_contra hne
        exact h.situated.alone h.placed there step.orders hne hv
      simp only [record]
      rw [there]
      rcases hg.place with ⟨here, rfl⟩ | ⟨left, here, hleft⟩ | ⟨here, -⟩ | ⟨e, here, -⟩
      · cases Option.some.inj (there.symm.trans here)
        cases step with
        | grows count welcome =>
            exact ⟨[], hg.welcomes, hg.crew, hg.size, hg.joined, halone,
              Or.inr (Or.inl ⟨count, hself, Nat.zero_add _⟩)⟩
        | plans count size closed sum => cases closed.symm.trans hg.welcomes.1
        | overplans count message closed sum => cases closed.symm.trans hg.welcomes.1
        | carriesOn plain step => cases plain
      · cases Option.some.inj (there.symm.trans here)
        have hjoined := (s.joined_enter annals luck left).trans hg.joined
        cases step with
        | adds left size made sum =>
            refine ⟨added ++ [(s.nextWorker, s.nextThread)], hg.welcomes, ?_, ?_, hjoined, halone,
              Or.inr (Or.inl ⟨left, hself, ?_⟩)⟩
            · show s.enlarged.crew = _
              rw [crew_enlarged, hg.crew, List.append_assoc]
            · show size.toNat = _
              rw [Arithmetic.toNat_of_add_of_lt sum (grown_lt made roomy), hg.size, List.length_append]
              rfl
            · rw [List.length_append, List.length_singleton]
              omega
        | outgrows left message made sum =>
            exact absurd (grown_lt made roomy) (Nat.not_lt.mpr (Arithmetic.of_add_error sum).2)
        | stunted left e failed =>
            exact ⟨added, hg.welcomes, hg.crew, hg.size, hjoined, halone,
              Or.inr (Or.inr (Or.inr ⟨e, hself, by omega⟩))⟩
        | carriesOn plain step =>
            cases step with
            | grown =>
                exact ⟨added, hg.welcomes, hg.crew, hg.size, hjoined, halone,
                  Or.inr (Or.inr (Or.inl ⟨hself, hleft⟩))⟩
            | growsBy | outgrows | stunted => cases plain
      · cases Option.some.inj (there.symm.trans here)
      · cases Option.some.inj (there.symm.trans here)

/-- What is true of a growth by `count` of the pool `s₀`, which thread `t` carries out, when it has made
    the workers `added`: the pool runs and has them, and they are counted; the growth has a step until
    it has returned, and returns an error only if it could not make all of its workers. -/
structure Enlarges (s₀ : State) (annals₀ : Annals) (t : ThreadId) (count : Nat) (s : State)
    (annals : Annals) (added : List (Nat × ThreadId)) : Prop where
  running : s.running = true
  queue : s.monitor.contents.running = true
  crew : s.crew = s₀.crew ++ added
  started : annals.started = annals₀.started ++ added
  size : s.size.toNat = s₀.size.toNat + added.length
  outcome : ∀ result, s.activity? t = some (.finished result) →
    result = .ordered (.ok ()) ∧ added.length = count ∨
      ∃ e, result = .ordered (.error e) ∧ added.length < count
  onward : (∀ result, s.activity? t ≠ some (.finished result)) → s.CanGo t

theorem Growing.enlarges {s₀ : State} {annals₀ : Annals} {count : Nat}
    {added : List (Nat × ThreadId)} (h : s.Tended) (hg : Growing s₀ annals₀ t count s annals added)
    (hbefore : s₀.Recorded annals₀) (hnow : s.Recorded annals) :
    Enlarges s₀ annals₀ t count s annals added := by
  have hstarted : annals.started = annals₀.started ++ added := by
    rw [hnow.started, hg.joined, hg.crew, ← List.append_assoc, hbefore.started]
  refine ⟨hg.welcomes.1, hg.welcomes.2, hg.crew, hstarted, hg.size, ?_, ?_⟩
  · intro result hresult
    rcases hg.place with ⟨here, -⟩ | ⟨left, here, -⟩ | ⟨here, hadded⟩ | ⟨e, here, hadded⟩
    · cases Option.some.inj (hresult.symm.trans here)
    · cases Option.some.inj (hresult.symm.trans here)
    · cases Option.some.inj (hresult.symm.trans here)
      exact Or.inl ⟨rfl, hadded⟩
    · cases Option.some.inj (hresult.symm.trans here)
      exact Or.inr ⟨e, rfl, hadded⟩
  · intro hnot
    rcases hg.place with ⟨here, -⟩ | ⟨left, here, -⟩ | ⟨here, -⟩ | ⟨e, here, -⟩
    · exact h.asking.canGo_of_order here rfl
    · exact h.asking.canGo_of_order here rfl
    · exact absurd here (hnot _)
    · exact absurd here (hnot _)

/-! ## A consistent pool -/

/-- What is true of a pool at any time, whichever attempts to make a worker have failed.

    While it runs its queue is open and it has exactly as many workers as it is meant to have; while it
    does not run and no order is under way it has none, and all threads that it ever started have been
    joined.  Numbers are given once, and the threads of workers are those that were started and not
    joined.

    A start that cannot make a worker returns the error, and then the pool is shut for good.  A growth of
    a running pool leaves it running, with the workers that it has made; if it returns an error they are
    fewer than were asked for. -/
structure Consistent (s : State) (annals : Annals) : Prop where
  running : s.running = true → s.monitor.contents.running = true ∧
    s.workers.length = s.size.toNat ∧ 0 < s.workers.length
  stopped : s.isIdle = true → s.running = false → s.workers = [] ∧ annals.joined = annals.started
  numbers : annals.numbered.Nodup ∧ (annals.started.map (·.1)).Sublist annals.numbered
  threads : ∀ id t, (∃ p, s.activity? t = some (.worker id p)) ↔
    (id, t) ∈ annals.started ∧ (id, t) ∉ annals.joined
  failedStart : ∀ t left luck e, s.activity? t = some (.order (.hiring (left + 1))) →
    (s.hire luck).2.2 = .error e → (s.step t luck).isSome = true ∧
      ∀ moves s' annals', s.career annals (.step t luck :: moves) = some (s', annals') →
        s'.ComesBack annals' t e
  growth : s.isIdle = true → s.running = true → ∀ count moves s' annals',
    (s.order (.grow count)).career annals moves = some (s', annals') →
    (∀ order, Move.order order ∉ moves) →
      ∃ added, Enlarges s annals s.nextThread count s' annals' added

/-- While no order is under way a pool is open, or it has no workers. -/
theorem Tended.settled (h : s.Tended) (hidle : s.isIdle = true) : s.Settled :=
  h.situated.settled (not_order_of_isIdle hidle)

/-- A pool runs only while its queue does. -/
theorem Tended.open (h : s.Tended) (hrunning : s.running = true) : s.Open := by
  have hsettled : s.Settled → s.Open := by
    rintro (hopen | ⟨-, hfresh | hclosed⟩)
    · exact hopen
    · exact nomatch hrunning.symm.trans hfresh.1
    · exact nomatch hrunning.symm.trans hclosed.1
  by_cases horder : ∃ t p, s.activity? t = some (.order p)
  · obtain ⟨t, p, here⟩ := horder
    have hfits := h.situated.fits t p here
    cases p with
    | begun order => exact hsettled hfits
    | asking => exact hsettled (Or.inr hfits)
    | growing left => exact hfits
    | hiring | measuring | draining | dismissing | joining =>
        exact nomatch hrunning.symm.trans hfits.1
    | closing failure => cases failure <;> exact nomatch hrunning.symm.trans hfits.1
  · exact hsettled (h.situated.settled fun t p here => horder ⟨t, p, here⟩)

/-- An attempt that fails takes the start to where it closes the queue. -/
theorem Proceeds.failsWith (hp : s.Proceeds (.step t luck) s') (h : s.Tended) {left : Nat}
    (here : s.activity? t = some (.order (.hiring (left + 1))))
    (hfailed : (s.hire luck).2.2 = .error e) : s'.FailsWith t e := by
  cases hp with
  | background alone aside unordered => exact absurd here (aside _ _ rfl _)
  | staffs there roomy step =>
      cases Option.some.inj (here.symm.trans there)
      have there₁ := (step.orders.placed h.placed there).2
      cases step with
      | hires left made => cases made.symm.trans hfailed
      | givesUp left e' monitor failed called =>
          cases failed.symm.trans hfailed
          refine Or.inl ?_
          rw [activity?_place there₁, Function.update_self]
      | carriesOn plain step => cases plain

theorem Tended.failedStart (h : s.Tended) {left : Nat}
    (here : s.activity? t = some (.order (.hiring (left + 1)))) (hfailed : (s.hire luck).2.2 = .error e) :
    (s.step t luck).isSome = true ∧
      ∀ moves s' annals', s.career annals (.step t luck :: moves) = some (s', annals') →
        s'.ComesBack annals' t e := by
  constructor
  · simp only [step]
    rw [here]
    rcases s.hire_cases luck with ⟨made, hhire, -⟩ | ⟨made, e', hhire, -⟩
    · rw [hhire] at hfailed
      cases hfailed
    · simp only [orderStep]
      rw [hhire]
      exact Option.isSome_map.trans (ask_isSome (s := s.attempted) (h.asking.asked_eq here))
  · intro moves s' annals' hcareer
    simp only [State.career] at hcareer
    split at hcareer
    · rename_i hallows
      obtain ⟨⟨s₁, new⟩, hmove, hrest⟩ := Option.bind_eq_some_iff.mp hcareer
      obtain ⟨hproceeds, hmanned⟩ := proceeds_of_move h hallows hmove
      have hs₁ := h.proceeds hproceeds hmanned
      have hfails := hproceeds.failsWith h here hfailed
      obtain ⟨hs', hfails'⟩ := career_keeps (P := fun s₂ _ => s₂.FailsWith t e)
        (fun _ _ _ _ _ h hf hp => hf.proceeds h hp) hs₁ hfails hrest
      exact hfails'.comesBack hs' annals'
    · cases hcareer

theorem Tended.growth (h : s.Tended) (hrecorded : s.Recorded annals) (hidle : s.isIdle = true)
    (hrunning : s.running = true) {count : Nat}
    (hcareer : (s.order (.grow count)).career annals moves = some (s', annals'))
    (hnot : ∀ order, Move.order order ∉ moves) :
    ∃ added, Enlarges s annals s.nextThread count s' annals' added := by
  have hstart : Growing s annals s.nextThread count (s.order (.grow count)) annals [] := by
    refine ⟨h.open hrunning, (List.append_nil _).symm, rfl, rfl, ?_, Or.inl ⟨?_, rfl⟩⟩
    · intro u p hu
      rcases launch_cases h.placed hu with hu | ⟨heq, -⟩
      · exact absurd hu (not_order_of_isIdle hidle u p)
      · exact heq
    · simp only [State.order]
      rw [activity?_launch h.placed, Function.update_self]
  obtain ⟨hs', hrecorded', added, hgrowing⟩ := career_keeps
    (P := fun s₁ annals₁ => s₁.Recorded annals₁ ∧
      ∃ added, Growing s annals s.nextThread count s₁ annals₁ added)
    (fun s₁ annals₁ move s₂ hmem h₁ hboth hp =>
      ⟨hboth.1.proceeds hp, hboth.2.elim fun added hg => hg.proceeds h₁ hp fun order heq =>
        hnot order (heq ▸ hmem)⟩)
    (h.order hidle (.grow count)) ⟨⟨hrecorded.numbered, hrecorded.started, hrecorded.listed⟩, [], hstart⟩
    hcareer
  exact ⟨added, hgrowing.enlarges hs' hrecorded hrecorded'⟩

theorem Tended.consistent (h : s.Tended) (hrecorded : s.Recorded annals) : s.Consistent annals := by
  refine ⟨?_, ?_, ?_, hrecorded.threads h.placed, fun t left luck e => h.failedStart,
    fun hidle hrunning count moves s' annals' => h.growth hrecorded hidle hrunning⟩
  · intro hrunning
    have hlength := h.staffed.counted hrunning
    exact ⟨(h.open hrunning).2, hlength, hlength ▸ h.staffed.peopled⟩
  · intro hidle hstopped
    have hnobody : s.workers = [] := by
      rcases h.settled hidle with hopen | ⟨hnobody, -⟩
      · exact nomatch hstopped.symm.trans hopen.1
      · exact hnobody
    refine ⟨hnobody, ?_⟩
    rw [hrecorded.started]
    simp only [crew]
    rw [hnobody, List.map_nil, List.append_nil]
  · refine ⟨?_, hrecorded.listed⟩
    rw [hrecorded.numbered]
    exact List.nodup_range

/-- **A POOL IS CONSISTENT THROUGHOUT ITS CAREER**, whichever workers cannot be made. -/
theorem stays_consistent {name : String} {size : UInt64} {faults faults' : Sync.Faults}
    {arithmetic : Arithmetic} {made : List Note} {pool : State}
    (hcreate : create name size faults arithmetic = (made, faults', .ok pool))
    (hcareer : pool.career {} moves = some (s, annals)) : s.Consistent annals := by
  have hpool := tended_create hcreate
  have hnew : pool.Recorded {} := by
    obtain ⟨queueName, mutexName, rfl⟩ := create_eq hcreate
    exact ⟨rfl, rfl, List.Sublist.refl _⟩
  exact (hpool.career hcareer).consistent (hnew.career hpool hcareer)

/-- A new pool for two workers. -/
def pairPool : State := { lonePool with size := 2 }

/-- The second worker's thread cannot be started: the first worker, on its way to its first take, is sent
    away and joined. -/
def failedStart : List Move :=
  [.order .start, .step 0 {}, .step 0 {}, .step 0 {}, .step 0 { spawn := false }, .step 1 {}, .step 1 {},
    .step 0 {}, .step 0 {}, .step 0 {}, .step 1 {}, .step 1 {}, .step 1 {}, .step 0 {}, .step 0 {}]

/-- The pool is started and asked for three more workers; the thread of the second of them cannot be
    made. -/
def failedGrowth : List Move :=
  [.order .start, .step 0 {}, .step 0 {}, .step 0 {}, .step 0 {}, .step 0 {}, .order (.grow 3),
    .step 3 {}, .step 3 {}, .step 3 { create := some 11 }]

def afterFailedStart : State × Annals := (pairPool.career {} failedStart).getD (pairPool, {})

def afterFailedGrowth : State × Annals := (pairPool.career {} failedGrowth).getD (pairPool, {})

/-- A start and a growth that fail. -/
theorem stays_consistent_shorthanded :
    (pairPool.career {} failedStart = some afterFailedStart ∧ afterFailedStart.1.workers = [] ∧
      afterFailedStart.2.numbered = [0, 1] ∧ afterFailedStart.2.joined = [(0, 1)] ∧
      afterFailedStart.1.Consistent afterFailedStart.2) ∧
    pairPool.career {} failedGrowth = some afterFailedGrowth ∧ afterFailedGrowth.1.running = true ∧
      afterFailedGrowth.1.size = 3 ∧ afterFailedGrowth.2.numbered = [0, 1, 2, 3] ∧
      afterFailedGrowth.2.started = [(0, 1), (1, 2), (2, 4)] ∧
      afterFailedGrowth.1.Consistent afterFailedGrowth.2 := by
  have hcreate : create "pool" 2 [] = ((create "pool" 2 []).1, [], .ok pairPool) := rfl
  have hstart : pairPool.career {} failedStart = some afterFailedStart :=
    (Option.getD_of_ne_none (by decide) _).symm
  have hgrowth : pairPool.career {} failedGrowth = some afterFailedGrowth :=
    (Option.getD_of_ne_none (by decide) _).symm
  exact ⟨⟨hstart, by decide, by decide, by decide, stays_consistent hcreate hstart⟩, hgrowth,
    by decide, by decide, by decide, by decide, stays_consistent hcreate hgrowth⟩

end State

end PooledServer.Pool
