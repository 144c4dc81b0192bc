import PooledServer.Proofs.Pool.Staffing

/-!
# Careers of a pool

    A career is all that can happen to a pool of one owner: starts, growths and stops in any sequence,
    one at a time, while clients submit work and workers go about it; giving the pool up is one more
    stop.  Making a worker's thread or starting it may fail at any time; what the owner asks for stays
    within a 64-bit count.  The annals of a career keep every number that was given to a worker, every
    worker's thread that was started and every one that was joined.

    A career goes from one tended pool to the next, and what its annals say about the present crew is
    true (`State.Recorded`).  A pool that is shut stays so, and a start of such a pool finds the queue
    shut down. -/

namespace PooledServer.Pool

open Work (Item Execution Phase Note Fate TaskId)

/-- What has become of a pool's workers. -/
structure Annals where
  /-- The numbers that attempts to make a worker have used up. -/
  numbered : List Nat := []
  /-- The workers whose threads were started, with their threads. -/
  started : List (Nat × ThreadId) := []
  /-- The workers whose threads were joined. -/
  joined : List (Nat × ThreadId) := []

namespace State

/-- The annals after a step of an order that is at the given place: it may make a worker or join one. -/
def enter (s : State) (annals : Annals) (luck : Luck) : OrderPoint → Annals
  | .hiring (_ + 1) | .growing (_ + 1) =>
    let numbered := annals.numbered ++ [s.nextWorker]
    match (s.hire luck).2.2 with
    | .ok () => { annals with numbered, started := annals.started ++ [(s.nextWorker, s.nextThread)] }
    | .error _ => { annals with numbered }
  | .joining _ => { annals with joined := annals.joined ++ s.crew.take 1 }
  | _ => annals

/-- The annals after a move. -/
def record (s : State) (annals : Annals) : Move → Annals
  | .step t luck =>
    match s.activity? t with
    | some (.order p) => s.enter annals luck p
    | _ => annals
  | _ => annals

/-- The owner gives one order at a time. -/
def heeds (s : State) (move : Move) : Bool :=
  move.isRegular &&
    match move with
    | .order _ => s.isIdle
    | _ => true

/-- The owner gives one order at a time and keeps to numbers that can be counted. -/
def allows (s : State) (move : Move) : Bool :=
  move.isRegular &&
    match move with
    | .order _ => s.isIdle
    | .step t luck =>
      match s.activity? t with
      | some (.order p) => !s.overflows luck p
      | _ => true
    | _ => true

/-- A sequence of such moves, with the annals at its end. -/
def career (s : State) (annals : Annals) : List Move → Option (State × Annals)
  | [] => some (s, annals)
  | move :: rest =>
    if s.allows move then
      (s.move move).bind fun (s', _) => s'.career (s.record annals move) rest
    else none

variable {s s' s₁ : State} {t u : ThreadId} {luck : Luck} {p q : OrderPoint} {a b : Activity}
  {notes new : List Note} {annals annals' : Annals} {move : Move} {moves : List Move}

/-! ## From move to move -/

theorem heeds_of_allows (h : s.allows move = true) : s.heeds move = true := by
  obtain ⟨hregular, hrest⟩ := Bool.and_eq_true_iff.mp h
  refine Bool.and_eq_true_iff.mpr ⟨hregular, ?_⟩
  cases move with
  | order order => exact hrest
  | _ => rfl

theorem Manned.advances {fatal : List Item} (h : s.Manned notes fatal)
    (hheeds : s.heeds move = true) (hmove : s.move move = some (s', new)) : s.Advances move s' := by
  obtain ⟨hregular, hrest⟩ := Bool.and_eq_true_iff.mp hheeds
  cases move with
  | step t luck =>
      obtain ⟨hlock, hwait⟩ := Bool.and_eq_true_iff.mp hregular
      by_cases horder : ∃ p, s.activity? t = some (.order p)
      · obtain ⟨p, here⟩ := horder
        obtain ⟨s₁, b, rfl, step⟩ := staffs_of_step h.placed h.asking hlock hwait here hmove
        exact .staffs here step
      · have hnot : ∀ p, s.activity? t ≠ some (.order p) := fun p here => horder ⟨p, here⟩
        refine .background ((h.stepped_of_step hlock hwait hmove).background h.placed hnot) ?_
          fun _ heq => nomatch heq
        rintro t' luck' heq
        cases heq
        exact hnot
  | wakeUp t =>
      obtain ⟨monitor, hwake, heq⟩ := Option.map_eq_some_iff.mp hmove
      obtain ⟨rfl, -⟩ := Prod.mk.inj heq
      obtain ⟨hasked, hcontents⟩ := Queue.Monitor.asked_wakeUp hwake
      exact .background (background_of_eq monitor s.registry hasked hcontents)
        (fun _ _ heq => nomatch heq) fun _ heq => nomatch heq
  | make job =>
      obtain ⟨rfl, -⟩ := Prod.mk.inj (Option.some.inj hmove)
      exact .background (background_of_eq s.monitor (s.registry.make job).2 rfl rfl)
        (fun _ _ heq => nomatch heq) fun _ heq => nomatch heq
  | submit item =>
      obtain ⟨rfl, -⟩ := Prod.mk.inj (Option.some.inj hmove)
      exact .background (background_launch h.placed rfl fun _ heq => nomatch heq)
        (fun _ _ heq => nomatch heq) fun _ heq => nomatch heq
  | order order =>
      obtain ⟨rfl, -⟩ := Prod.mk.inj (Option.some.inj hmove)
      exact .begins order hrest
  | openGate gate =>
      obtain ⟨rfl, -⟩ := Prod.mk.inj (Option.some.inj hmove)
      exact .background (background_of_eq s.monitor (s.registry.openGate gate) rfl rfl)
        (fun _ _ heq => nomatch heq) fun _ heq => nomatch heq
  | request | execute => cases hregular

theorem proceeds_of_move (h : s.Tended) (hallows : s.allows move = true)
    (hmove : s.move move = some (s', new)) :
    s.Proceeds move s' ∧ ∃ notes fatal, s'.Manned notes fatal := by
  obtain ⟨notes, fatal, hmanned⟩ := h.manned
  obtain ⟨hregular, hrest⟩ := Bool.and_eq_true_iff.mp hallows
  refine ⟨?_, _, _, hmanned.move hregular hmove⟩
  cases hmanned.advances (heeds_of_allows hallows) hmove with
  | background alone aside unordered => exact .background alone aside unordered
  | begins order idle => exact .begins order idle
  | staffs here step =>
      refine .staffs here ?_ step
      simp only [here] at hrest
      simpa using hrest

/-- What every move of a career keeps holds at its end, and the pool is tended throughout. -/
theorem career_keeps {P : State → Annals → Prop}
    (hkeeps : ∀ s annals move s', move ∈ moves → s.Tended → P s annals → s.Proceeds move s' →
      P s' (s.record annals move))
    (h : s.Tended) (hstart : P s annals) (hcareer : s.career annals moves = some (s', annals')) :
    s'.Tended ∧ P s' annals' := by
  induction moves generalizing s annals with
  | nil =>
      obtain ⟨rfl, rfl⟩ := Prod.mk.inj (Option.some.inj hcareer)
      exact ⟨h, hstart⟩
  | cons move rest ih =>
      simp only [career] at hcareer
      split at hcareer
      · rename_i hallows
        obtain ⟨⟨s₁, new⟩, hmove, hrest⟩ := Option.bind_eq_some_iff.mp hcareer
        obtain ⟨hproceeds, hmanned⟩ := proceeds_of_move h hallows hmove
        refine ih (fun s annals move s' hmem => hkeeps s annals move s' (List.mem_cons_of_mem _ hmem))
          (h.proceeds hproceeds hmanned) ?_ hrest
        exact hkeeps s annals move s₁ (List.mem_cons_self ..) h hstart hproceeds
      · exact nomatch hcareer

theorem Tended.career (h : s.Tended) (hcareer : s.career annals moves = some (s', annals')) :
    s'.Tended :=
  (career_keeps (P := fun _ _ => True) (fun _ _ _ _ _ _ _ _ => trivial) h trivial hcareer).1

/-- A new pool is tended. -/
theorem tended_create {name : String} {size : UInt64} {faults faults' : Sync.Faults}
    {arithmetic : Arithmetic} {made : List Note}
    (h : create name size faults arithmetic = (made, faults', .ok s)) : s.Tended := by
  refine ⟨⟨_, _, manned_create h⟩, (sane_create h).orderly.situated, ?_, ?_⟩
  · have hsize : size ≠ 0 := by
      rintro rfl
      cases h
    obtain ⟨queueName, mutexName, rfl⟩ := create_eq h
    exact ⟨UInt64.pos_iff_ne_zero.mpr hsize, fun hr => nomatch hr⟩
  · obtain ⟨queueName, mutexName, rfl⟩ := create_eq h
    exact fun _ _ hu => nomatch hu

/-! ## What the annals say -/

/-- The annals are true of the present crew. -/
structure Recorded (s : State) (annals : Annals) : Prop where
  numbered : annals.numbered = List.range s.nextWorker
  started : annals.started = annals.joined ++ s.crew
  listed : (annals.started.map (·.1)).Sublist annals.numbered

/-- Only an order's steps are recorded. -/
theorem record_eq_self (hnot : ∀ t luck, move = .step t luck → ∀ p, s.activity? t ≠ some (.order p)) :
    s.record annals move = annals := by
  cases move with
  | step t luck =>
      have hnone := hnot t luck rfl
      simp only [record]
  | _ => rfl

/-- An attempt to make a worker is recorded with its outcome. -/
theorem enter_hire (h : s.Recorded annals) {left : Nat}
    (hp : p = .hiring (left + 1) ∨ p = .growing (left + 1)) :
    ((s.hire luck).2.2 = .ok () → s.enlarged.Recorded (s.enter annals luck p)) ∧
    ∀ e, (s.hire luck).2.2 = .error e → s.attempted.Recorded (s.enter annals luck p) := by
  have hnumbered : annals.numbered ++ [s.nextWorker] = List.range (s.nextWorker + 1) := by
    rw [List.range_succ, h.numbered]
  constructor
  · intro made
    have henter : s.enter annals luck p = ⟨annals.numbered ++ [s.nextWorker],
        annals.started ++ [(s.nextWorker, s.nextThread)], annals.joined⟩ := by
      rcases hp with rfl | rfl <;> simp only [enter, made]
    rw [henter]
    refine ⟨hnumbered, ?_, ?_⟩
    · rw [crew_enlarged, ← List.append_assoc, h.started]
    · rw [List.map_append]
      exact h.listed.append (List.Sublist.refl _)
  · intro e failed
    have henter : s.enter annals luck p =
        ⟨annals.numbered ++ [s.nextWorker], annals.started, annals.joined⟩ := by
      rcases hp with rfl | rfl <;> simp only [enter, failed]
    rw [henter]
    exact ⟨hnumbered, h.started, h.listed.trans (List.sublist_append_left _ _)⟩

/-- **THE ANNALS STAY TRUE**. -/
theorem Recorded.proceeds (h : s.Recorded annals) (hp : s.Proceeds move s') :
    s'.Recorded (s.record annals move) := by
  cases hp with
  | background alone aside unordered =>
      rw [record_eq_self aside]
      refine ⟨?_, ?_, h.listed⟩
      · rw [alone.nextWorker]
        exact h.numbered
      · rw [alone.crew]
        exact h.started
  | begins order idle => exact ⟨h.numbered, h.started, h.listed⟩
  | @staffs t luck p s₁ b here roomy step =>
      simp only [record]
      rw [here]
      have hplace : s₁.Recorded (s.enter annals luck p) →
          (s₁.place t b).Recorded (s.enter annals luck p) := fun h => ⟨h.numbered, h.started, h.listed⟩
      refine hplace ?_
      cases step with
      | grows | plans | overplans => exact ⟨h.numbered, h.started, h.listed⟩
      | hires left made => exact (enter_hire h (Or.inl rfl)).1 made
      | givesUp left e monitor failed called =>
          obtain ⟨hnumbered, hstarted, hlisted⟩ := (enter_hire h (Or.inl rfl)).2 e failed
          exact ⟨hnumbered, hstarted, hlisted⟩
      | adds left size made sum =>
          obtain ⟨hnumbered, hstarted, hlisted⟩ := (enter_hire h (Or.inr rfl)).1 made
          exact ⟨hnumbered, hstarted, hlisted⟩
      | outgrows left message made sum => exact (enter_hire h (Or.inr rfl)).1 made
      | stunted left e failed => exact (enter_hire h (Or.inr rfl)).2 e failed
      | carriesOn plain step =>
          cases step with
          | plans | growsBy | outgrows | hires | givesUp | stunted => cases plain
          | dismisses id left failure =>
              refine ⟨h.numbered, ?_, h.listed⟩
              refine h.started.trans (congrArg _ ?_)
              simp only [crew, updateWorker]
              rw [List.map_map]
              refine List.map_congr_left fun w _ => ?_
              simp only [Function.comp_apply]
              split <;> rfl
          | joins failure w rest first gone =>
              refine ⟨h.numbered, ?_, h.listed⟩
              show annals.started = annals.joined ++ s.crew.take 1 ++ rest.map _
              rw [h.started, List.append_assoc]
              simp only [crew]
              rw [first]
              rfl
          | joined failure nobody =>
              refine ⟨h.numbered, ?_, h.listed⟩
              show annals.started = annals.joined ++ s.crew.take 1 ++ s.crew
              rw [h.started]
              simp only [crew]
              rw [nobody, List.map_nil, List.take_nil, List.append_nil, List.append_nil]
          | _ => exact ⟨h.numbered, h.started, h.listed⟩

theorem Recorded.career (h : s.Tended) (hrecorded : s.Recorded annals)
    (hcareer : s.career annals moves = some (s', annals')) : s'.Recorded annals' :=
  (career_keeps (fun _ _ _ _ _ _ h hp => h.proceeds hp) h hrecorded hcareer).2

/-- Whoever was started and not joined is of the crew, and its thread is there. -/
theorem Recorded.threads (h : s.Recorded annals) (hs : s.Placed) (id : Nat) (t : ThreadId) :
    (∃ p, s.activity? t = some (.worker id p)) ↔
      (id, t) ∈ annals.started ∧ (id, t) ∉ annals.joined := by
  have hcrew : (∃ p, s.activity? t = some (.worker id p)) ↔ (id, t) ∈ s.crew := by
    constructor
    · rintro ⟨p, hp⟩
      obtain ⟨w, hw, rfl, rfl⟩ := hs.known t id p hp
      exact List.mem_map_of_mem hw
    · intro hmem
      obtain ⟨w, hw, heq⟩ := List.mem_map.mp hmem
      obtain ⟨rfl, rfl⟩ := Prod.mk.inj heq
      exact hs.staffed w hw
  -- numbers are given once, so who is joined is not of the crew
  have hnodup : (annals.joined ++ s.crew).Nodup := by
    rw [← h.started]
    refine List.Nodup.of_map _ (h.listed.nodup ?_)
    rw [h.numbered]
    exact List.nodup_range
  rw [hcrew, h.started]
  constructor
  · intro hmem
    exact ⟨List.mem_append_right _ hmem,
      fun hjoined => List.disjoint_of_nodup_append hnodup hjoined hmem⟩
  · rintro ⟨hmem, hnot⟩
    exact (List.mem_append.mp hmem).resolve_left hnot

/-! ## One thread of the owner -/

/-- A thread that only its own order moves on stays where it is, or takes a step of its order. -/
theorem Advances.follow (hsituated : s.Situated) (hs : s.Placed) (ha : s.Advances move s')
    (here : s.activity? t = some a) (hlasting : a.isLasting = true) :
    (s'.activity? t = some a ∧ ∀ p, a = .order p → s.Background s') ∨
      ∃ luck p s₁ b, a = .order p ∧ s' = s₁.place t b ∧ move = .step t luck ∧
        s.Staffs t luck p s₁ b ∧ s'.activity? t = some b := by
  cases ha with
  | background alone aside unordered =>
      exact Or.inl ⟨alone.stays t a here hlasting, fun _ _ => alone⟩
  | begins order idle =>
      refine Or.inl ⟨activity?_launch_of_some hs here, ?_⟩
      rintro p rfl
      exact absurd here (not_order_of_isIdle idle t p)
  | @staffs u luck p s₁ b there step =>
      have there₁ := (step.orders.placed hs there).2
      by_cases htu : t = u
      · subst htu
        cases Option.some.inj (here.symm.trans there)
        refine Or.inr ⟨luck, p, s₁, b, rfl, rfl, rfl, step, ?_⟩
        rw [activity?_place there₁, Function.update_self]
      · refine Or.inl ⟨?_, ?_⟩
        · rw [activity?_place there₁, Function.update_of_ne htu]
          rcases step.orders.others hs t with heq | ⟨hnone, -⟩ | ⟨⟨id, hended⟩, -⟩
          · exact heq.trans here
          · exact nomatch hnone.symm.trans here
          · cases Option.some.inj (hended.symm.trans here)
            cases hlasting
        -- one order at a time
        · rintro q rfl
          exact absurd (hsituated.one t u q p here there) htu

/-- The same in a career. -/
theorem Proceeds.follow (h : s.Tended) (hp : s.Proceeds move s') (here : s.activity? t = some a)
    (ha : a.isLasting = true) :
    (s'.activity? t = some a ∧ ∀ p, a = .order p → s.Background s') ∨
      ∃ luck p s₁ b, a = .order p ∧ s' = s₁.place t b ∧ move = .step t luck ∧
        s.overflows luck p = false ∧ s.Staffs t luck p s₁ b ∧ s'.activity? t = some b := by
  rcases hp.advances.follow h.situated h.placed here ha with
    hstays | ⟨luck, p, s₁, b, rfl, heq, rfl, step, hb⟩
  · exact Or.inl hstays
  · exact Or.inr ⟨luck, p, s₁, b, rfl, heq, rfl, hp.roomy here, step, hb⟩

/-! ## A pool that is shut -/

theorem Shut.proceeds (hshut : s.Shut) (h : s.Tended) (hp : s.Proceeds move s') : s'.Shut := by
  cases hp with
  | background alone aside unordered =>
      exact ⟨alone.steady.closed hshut.1, alone.steady.nobody hshut.2⟩
  | begins order idle => exact hshut
  | @staffs t luck p s₁ b here roomy step =>
      have hshut₁ : s₁.Shut := step.orders.shut (h.situated.fits t p here) hshut
      exact hshut₁

/-- A start of a pool that is shut is at one of these places. -/
def StartsLate (s : State) (t : ThreadId) : Prop :=
  s.activity? t = some (.order (.begun .start)) ∨ s.activity? t = some (.order .asking) ∨
    s.activity? t = some (.finished (.ordered (.error .queueShutDown)))

theorem StartsLate.proceeds (hlate : s.StartsLate t) (hshut : s.Shut) (h : s.Tended)
    (hp : s.Proceeds move s') : s'.StartsLate t := by
  rcases hlate with here | here | here
  · rcases hp.follow h here rfl with ⟨hstays, -⟩ | ⟨luck, p, s₁, b, heq, -, -, -, step, hb⟩
    · exact Or.inl hstays
    · cases heq
      cases step with
      | carriesOn plain step =>
          cases step with
          | startsNothing welcome => cases welcome.symm.trans hshut.1.1
          | inquires monitor closed called => exact Or.inr (Or.inl hb)
  · rcases hp.follow h here rfl with ⟨hstays, -⟩ | ⟨luck, p, s₁, b, heq, -, -, -, step, hb⟩
    · exact Or.inr (Or.inl hstays)
    · cases heq
      cases step with
      | carriesOn plain step =>
          cases step with
          | mayStart monitor answered =>
              cases (Queue.Answer.flag.inj answered.isRunning.1).trans hshut.1.2.1
          | mayNot monitor answered => exact Or.inr (Or.inr hb)
  · rcases hp.follow h here rfl with ⟨hstays, -⟩ | ⟨luck, p, s₁, b, heq, -⟩
    · exact Or.inr (Or.inr hstays)
    · cases heq

/-- What is true of a pool that is shut: it has no workers, refuses all work, and cannot be started. -/
structure Barred (s : State) (annals : Annals) : Prop where
  running : s.running = false
  queue : s.monitor.contents.running = false
  workers : s.workers = []
  refuses : ∀ t item luck, s.activity? t = some (.submission item false) →
    s.step t luck = some (s.place t (.finished (.submitted item false)), [.refused item.id])
  starts : s.isIdle = true → ∀ moves s' annals',
    (s.order .start).career annals moves = some (s', annals') →
      (∀ result, s'.activity? s.nextThread = some (.finished result) →
        result = .ordered (.error .queueShutDown)) ∧
      ((∀ result, s'.activity? s.nextThread ≠ some (.finished result)) → s'.CanGo s.nextThread)

theorem Tended.order (h : s.Tended) (hidle : s.isIdle = true) (order : Order) :
    (s.order order).Tended := by
  obtain ⟨notes, fatal, hmanned⟩ := h.manned
  exact h.proceeds (.begins order hidle)
    ⟨_, _, hmanned.launch rfl rfl rfl fun _ heq => nomatch heq⟩

theorem Shut.barred (hshut : s.Shut) (h : s.Tended) (annals : Annals) : s.Barred annals := by
  refine ⟨hshut.1.1, hshut.1.2.1, hshut.2, ?_, ?_⟩
  · intro t item luck here
    simp only [step]
    rw [here]
    simp only [hshut.1.1]
    rfl
  · intro hidle moves s' annals' hcareer
    have hlate : (s.order .start).StartsLate s.nextThread := by
      refine Or.inl ?_
      simp only [order]
      rw [activity?_launch h.placed, Function.update_self]
    obtain ⟨hs', hshut', hlate'⟩ := career_keeps
      (P := fun s₁ _ => s₁.Shut ∧ s₁.StartsLate s.nextThread)
      (fun s₁ _ _ _ _ h hboth hp => ⟨hboth.1.proceeds h hp, hboth.2.proceeds hboth.1 h hp⟩)
      (h.order hidle .start) ⟨hshut, hlate⟩ hcareer
    constructor
    · intro result hresult
      rcases hlate' with here | here | here
      · cases Option.some.inj (hresult.symm.trans here)
      · cases Option.some.inj (hresult.symm.trans here)
      · cases Option.some.inj (hresult.symm.trans here)
        rfl
    · intro hnot
      rcases hlate' with here | here | here
      · exact hs'.asking.canGo_of_order here rfl
      · exact hs'.asking.canGo_of_order here rfl
      · exact absurd here (hnot _)

/-- The pool is shut for good. -/
def ShutForGood (s : State) (annals : Annals) : Prop :=
  ∀ moves s' annals', s.career annals moves = some (s', annals') → s'.Barred annals'

theorem Shut.forGood (hshut : s.Shut) (h : s.Tended) (annals : Annals) : s.ShutForGood annals := by
  intro moves s' annals' hcareer
  obtain ⟨hs', hshut'⟩ := career_keeps (P := fun s₁ _ => s₁.Shut)
    (fun _ _ _ _ _ h hshut hp => hshut.proceeds h hp) h hshut hcareer
  exact hshut'.barred hs' annals'

end State

end PooledServer.Pool
