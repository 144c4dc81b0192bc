import PooledServer.Proofs.Queue.Turn

/-!
# No wake-up is lost

    An addition signals only when the queue was empty, so a burst of items wakes one taker.  That is
    enough because every take that leaves items behind passes the signal on, whether the taker was the
    one that was woken or one that came by and was faster.

    `Monitor.Attentive` is the invariant behind it: while items are queued, a blocked taker implies that
    another one has been signalled and is on its way to the lock.  The same invariant says that nobody
    waits at a closed queue, and that who waits for the queue to drain waits at a queue with items. -/

namespace PooledServer.Queue

variable {α : Type}

/-! ## What the ends of a turn mean for those who wait -/

/-- The condition that a request may have to wait for. -/
def Request.awaits : Request α → Option Condition
  | take true => some .notEmpty
  | shutDownWhenDrained | waitUntilEmpty => some .drained
  | _ => none

theorem Request.awaits_eq_notEmpty_iff {r : Request α} :
    r.awaits = some .notEmpty ↔ r = .take true := by
  cases r with
  | take block => cases block <;> simp [awaits]
  | _ => simp [awaits]

theorem Request.Waits.awaits_eq {c : Contents α} {r : Request α} {q : Condition}
    (h : r.Waits c q) : r.awaits = some q := by
  cases h <;> rfl

theorem Request.Waits.running {c : Contents α} {r : Request α} {q : Condition}
    (h : r.Waits c q) : c.running = true := by
  cases h <;> assumption

/-- Takers wait at an empty queue, all others at one with items. -/
theorem Request.Waits.items_eq_nil_iff {c : Contents α} {r : Request α} {q : Condition}
    (h : r.Waits c q) : c.items = [] ↔ q = .notEmpty := by
  cases h with
  | take hr hi => exact iff_of_true hi rfl
  | drain hr hi => exact iff_of_false hi (fun h => nomatch h)
  | untilEmpty hr hi => exact iff_of_false hi (fun h => nomatch h)

namespace Request.Leaves

variable {wait : Bool} {c contents : Contents α} {r : Request α} {answer : Answer α}
  {sent : List Signal}

/-- The flag changes only at a shutdown, which signals everybody. -/
theorem running_eq (h : r.Leaves wait c contents answer sent) :
    contents.running = c.running ∨ contents.running = false ∧ sent = closingSignals := by
  cases h with
  | closed | drained | drainFailed => exact Or.inr ⟨rfl, rfl⟩
  | _ => exact Or.inl rfl

/-- The take that empties the queue signals everybody who waits for that. -/
theorem all_drained_mem (h : r.Leaves wait c contents answer sent) (hi : contents.items = [])
    (hc : c.items ≠ []) : .all .drained ∈ sent := by
  cases h with
  | added item hr => exact absurd hi (List.append_ne_nil_of_right_ne_nil _ (List.cons_ne_nil _ _))
  | tookLast => exact List.mem_singleton.mpr rfl
  | tookFirst => exact nomatch hi
  | _ => exact absurd hi hc

/-- A turn that leaves items in an open queue passes a signal on, unless there were items before and
    the thread was not a blocking taker. -/
theorem passes_on (h : r.Leaves wait c contents answer sent) (hi : contents.items ≠ [])
    (hr : contents.running = true) :
    sent = [.one .notEmpty] ∨ sent = [] ∧ c.items ≠ [] ∧ r.awaits ≠ some .notEmpty := by
  cases h with
  | added item hr =>
      by_cases hc : c.items = []
      · rw [hc]
        exact Or.inl rfl
      · refine Or.inr ⟨?_, hc, fun h => nomatch h⟩
        rw [if_neg (by simpa using hc)]
  | rejected item hr' => exact absurd (hr'.symm.trans hr) Bool.false_ne_true
  | tookLast => exact absurd rfl hi
  | tookFirst => exact Or.inl rfl
  | foundEmpty hr' hi' => exact absurd hi' hi
  | foundClosed block hr' => exact absurd (hr'.symm.trans hr) Bool.false_ne_true
  | takeFailed hr' hi' => exact absurd hi' hi
  | closed | drained | drainFailed => exact nomatch hr
  | closedBefore | sawEnd | measured | told | drainedBefore | waitFailed =>
      exact Or.inr ⟨rfl, hi, fun h => nomatch h⟩

end Request.Leaves

/-! ## The invariant -/

/-- A blocking taker that a signal has woken and that is on its way back to the lock. -/
def Caller.IsComing (c : Caller α) : Prop :=
  c.request = .take true ∧ c.stage = .woken true

/-- Whoever waits has a reason to wait, and items bring a taker. -/
structure Monitor.Attentive (m : Monitor α) : Prop where
  distinct : (m.callers.map (·.thread)).Nodup
  placed : ∀ c ∈ m.callers, ∀ q, c.stage = .waiting q → c.request.awaits = some q
  atOpen : ∀ c ∈ m.callers, ∀ q, c.stage = .waiting q → m.contents.running = true
  atItems : ∀ c ∈ m.callers, c.stage = .waiting .drained → m.contents.items ≠ []
  served : m.contents.items ≠ [] → ∀ c ∈ m.callers, c.stage = .waiting .notEmpty →
    ∃ d ∈ m.callers, d.IsComing

namespace Monitor

/-- A thread is inside at most once. -/
theorem Attentive.eq_of_thread_eq {m : Monitor α} (hm : m.Attentive) {c d : Caller α}
    (hc : c ∈ m.callers) (hd : d ∈ m.callers) (h : c.thread = d.thread) : c = d :=
  List.inj_on_of_nodup_map hm.distinct hc hd h

/-- Who is inside is found under its number. -/
theorem Attentive.caller?_of_mem {m : Monitor α} (hm : m.Attentive) {c : Caller α}
    (hc : c ∈ m.callers) : m.caller? c.thread = some c :=
  Keyed.find?_of_mem (f := Caller.thread) hm.distinct hc

theorem nodup_others {m : Monitor α} (hm : m.Attentive) (t : ThreadId) :
    ((m.others t).map (·.thread)).Nodup :=
  hm.distinct.sublist (List.filter_sublist.map _)

/-- A new queue is attentive: nobody is inside. -/
theorem attentive_new (mutex : Sync.Mutex) : ({ mutex } : Monitor α).Attentive :=
  ⟨List.nodup_nil, fun _ h => (nomatch h), fun _ h => (nomatch h), fun _ h => (nomatch h),
    fun _ _ h => (nomatch h)⟩

/-- A caller that is turned away leaves nobody behind who counted on it. -/
theorem Attentive.turnedAway {m : Monitor α} (hm : m.Attentive) {c : Caller α} (hcm : c ∈ m.callers)
    (hs : c.stage = .entering) : Attentive { m with callers := m.others c.thread } := by
  refine ⟨nodup_others hm c.thread, ?_, ?_, ?_, ?_⟩
  · exact fun d hd => hm.placed d (mem_others.mp hd).1
  · exact fun d hd => hm.atOpen d (mem_others.mp hd).1
  · exact fun d hd => hm.atItems d (mem_others.mp hd).1
  · intro hi d hd hw
    obtain ⟨e, he, hcoming⟩ := hm.served hi d (mem_others.mp hd).1 hw
    refine ⟨e, mem_others.mpr ⟨he, ?_⟩, hcoming⟩
    -- a caller that has been signalled gets the lock, so it is not the one that was turned away
    intro het
    rw [hm.eq_of_thread_eq he hcm het] at hcoming
    exact nomatch hs.symm.trans hcoming.2

/-- A taker begins to wait only when nothing is queued, so nobody need be on its way. -/
theorem Attentive.waits {m : Monitor α} (hm : m.Attentive) {c : Caller α} (hcm : c ∈ m.callers)
    (mutex : Sync.Mutex) {q : Condition} (hq : c.request.Waits m.contents q) :
    Attentive ⟨m.contents, mutex, m.callers.map (Caller.waitAs c.thread q)⟩ := by
  -- the caller that begins to wait is `c`, all others stand where they stood
  have hback : ∀ d ∈ m.callers.map (Caller.waitAs c.thread q),
      d = { c with stage := .waiting q } ∨ d ∈ m.callers ∧ d.thread ≠ c.thread := by
    intro d hd
    obtain ⟨b, hb, rfl⟩ := List.mem_map.mp hd
    simp only [Caller.waitAs]
    by_cases hbt : b.thread = c.thread
    · rw [if_pos hbt, hm.eq_of_thread_eq hb hcm hbt]
      exact Or.inl rfl
    · rw [if_neg hbt]
      exact Or.inr ⟨hb, hbt⟩
  refine ⟨Keyed.nodup_map (Caller.waitAs_thread _ q) hm.distinct, ?_, ?_, ?_, ?_⟩
  · intro d hd p hw
    rcases hback d hd with rfl | ⟨hd, -⟩
    · cases hw
      exact hq.awaits_eq
    · exact hm.placed d hd p hw
  · exact fun _ _ _ _ => hq.running
  · intro d hd hw
    rcases hback d hd with rfl | ⟨hd, -⟩
    · cases hw
      exact fun hi => by cases hq.items_eq_nil_iff.mp hi
    · exact hm.atItems d hd hw
  · intro hi d hd hw
    rcases hback d hd with rfl | ⟨hd, -⟩
    · cases hw
      exact absurd (hq.items_eq_nil_iff.mpr rfl) hi
    · obtain ⟨e, he, hcoming⟩ := hm.served hi d hd hw
      refine ⟨e, List.mem_map.mpr ⟨e, he, ?_⟩, hcoming⟩
      simp only [Caller.waitAs]
      refine if_neg fun het => hi ?_
      rw [hm.eq_of_thread_eq he hcm het] at hcoming
      have hsame : some q = some .notEmpty :=
        hq.awaits_eq.symm.trans (Request.awaits_eq_notEmpty_iff.mpr hcoming.1)
      exact hq.items_eq_nil_iff.mpr (Option.some.inj hsame)

/-- A caller that leaves items behind has passed the signal on. -/
theorem Attentive.leaves {m : Monitor α} (hm : m.Attentive) {c : Caller α} (hcm : c ∈ m.callers)
    (mutex : Sync.Mutex) {wait : Bool} {chosen : Option ThreadId} {contents : Contents α}
    {answer : Answer α} {sent : List Signal} {callers : List (Caller α)}
    (hl : c.request.Leaves wait m.contents contents answer sent)
    (hsent : signals chosen (m.others c.thread) sent = some callers) :
    Attentive ⟨contents, mutex, callers⟩ := by
  obtain ⟨f, rfl, hf⟩ := signals_eq_map hsent
  -- who waits afterwards is another thread that has waited all along
  have hback : ∀ d ∈ (m.others c.thread).map f, ∀ q, d.stage = .waiting q →
      d ∈ m.others c.thread := by
    intro d hd q hw
    obtain ⟨b, hb, rfl⟩ := List.mem_map.mp hd
    rw [(hf b).waiting hw]
    exact hb
  have hopen : ∀ d ∈ (m.others c.thread).map f, ∀ q, d.stage = .waiting q →
      contents.running = true := by
    intro d hd q hw
    rcases hl.running_eq with heq | ⟨-, hclosing⟩
    · rw [heq]
      exact hm.atOpen d (mem_others.mp (hback d hd q hw)).1 q hw
    · refine absurd hw (not_waiting_of_all ?_ hsent d hd)
      rw [hclosing]
      cases q <;> simp [closingSignals]
  refine ⟨Keyed.nodup_map (fun b => (hf b).thread_eq) (nodup_others hm _), ?_, hopen, ?_, ?_⟩
  · intro d hd q hw
    exact hm.placed d (mem_others.mp (hback d hd q hw)).1 q hw
  · intro d hd hw hi
    have hitems := hm.atItems d (mem_others.mp (hback d hd _ hw)).1 hw
    exact not_waiting_of_all (hl.all_drained_mem hi hitems) hsent d hd hw
  · intro hi d hd hw
    have hd' : d ∈ m.others c.thread := hback d hd _ hw
    rcases hl.passes_on hi (hopen d hd _ hw) with hone | ⟨hnone, hitems, hno⟩
    · rw [hone] at hsent
      obtain ⟨e, he, hew, hmem⟩ := roused_of_one hsent hd' hw
      exact ⟨_, hmem, Request.awaits_eq_notEmpty_iff.mp
        (hm.placed e (mem_others.mp he).1 _ hew), rfl⟩
    -- nothing was sent: whoever was on its way still is, for it is not the one that leaves
    · obtain ⟨e, he, hcoming⟩ := hm.served hitems d (mem_others.mp hd').1 hw
      have het : e.thread ≠ c.thread := by
        intro het
        rw [hm.eq_of_thread_eq he hcm het] at hcoming
        exact hno (Request.awaits_eq_notEmpty_iff.mpr hcoming.1)
      rw [hnone] at hsent
      refine ⟨e, ?_, hcoming⟩
      rw [← Option.some.inj hsent]
      exact mem_others.mpr ⟨he, het⟩

/-- A turn keeps the monitor attentive. -/
theorem Attentive.stepped {m m' : Monitor α} (hm : m.Attentive) {t : ThreadId} {luck : Luck}
    {shown : Shown α} (h : m.Stepped t luck m' shown) : m'.Attentive := by
  cases h with
  | turnedAway c hc hs hl =>
      obtain ⟨hcm, rfl⟩ := mem_of_caller? hc
      exact hm.turnedAway hcm hs
  | waits c hc hs mutex free q h =>
      obtain ⟨hcm, rfl⟩ := mem_of_caller? hc
      exact hm.waits hcm mutex (Request.waits_of_outcome h).2
  | leaves c hc hs mutex free contents answer sent reports callers h hsent =>
      obtain ⟨hcm, rfl⟩ := mem_of_caller? hc
      exact hm.leaves hcm mutex (Request.leaves_of_outcome h) hsent

/-- A call keeps the monitor attentive: the newcomer stands at the door. -/
theorem Attentive.call {m m' : Monitor α} (hm : m.Attentive) {t : ThreadId} {r : Request α}
    (h : m.call t r = some m') : m'.Attentive := by
  simp only [Monitor.call] at h
  split at h
  · exact nomatch h
  · rename_i hnone
    rw [← Option.some.inj h]
    -- the newcomer is at the door and waits for nothing
    have hback : ∀ d ∈ m.callers ++ [(⟨t, r, .entering⟩ : Caller α)], ∀ q, d.stage = .waiting q →
        d ∈ m.callers := by
      intro d hd q hw
      rcases List.mem_append.mp hd with hd | hd
      · exact hd
      · rw [List.mem_singleton.mp hd] at hw
        exact nomatch hw
    refine ⟨?_, ?_, ?_, ?_, ?_⟩
    · exact Keyed.nodup_concat (f := Caller.thread) hm.distinct fun c hc =>
        caller?_eq_none_iff.mp hnone c hc
    · exact fun d hd q hw => hm.placed d (hback d hd q hw) q hw
    · exact fun d hd q hw => hm.atOpen d (hback d hd q hw) q hw
    · exact fun d hd hw => hm.atItems d (hback d hd _ hw) hw
    · intro hi d hd hw
      obtain ⟨e, he, hcoming⟩ := hm.served hi d (hback d hd _ hw) hw
      exact ⟨e, List.mem_append_left _ he, hcoming⟩

/-- A spurious wake-up takes one waiter away, which was not signalled. -/
theorem Attentive.wakeUp {m m' : Monitor α} (hm : m.Attentive) {t : ThreadId}
    (h : m.wakeUp t = some m') : m'.Attentive := by
  simp only [Monitor.wakeUp] at h
  split at h
  · rename_i u r q hc
    obtain ⟨hcm, rfl⟩ := mem_of_caller? hc
    rw [← Option.some.inj h]
    have hthread : ∀ b : Caller α,
        (if b.thread = u then { b with stage := .woken false } else b).thread = b.thread := by
      intro b
      split <;> rfl
    -- who waits afterwards has not been woken, so it has waited all along
    have hback : ∀ d ∈ m.callers.map fun b : Caller α =>
        if b.thread = u then { b with stage := .woken false } else b,
        ∀ p, d.stage = .waiting p → d ∈ m.callers := by
      intro d hd p hw
      obtain ⟨b, hb, rfl⟩ := List.mem_map.mp hd
      by_cases hbu : b.thread = u
      · rw [if_pos hbu] at hw
        exact nomatch hw
      · rw [if_neg hbu]
        exact hb
    refine ⟨Keyed.nodup_map hthread hm.distinct, ?_, ?_, ?_, ?_⟩
    · exact fun d hd p hw => hm.placed d (hback d hd p hw) p hw
    · exact fun d hd p hw => hm.atOpen d (hback d hd p hw) p hw
    · exact fun d hd hw => hm.atItems d (hback d hd _ hw) hw
    · intro hi d hd hw
      obtain ⟨e, he, hcoming⟩ := hm.served hi d (hback d hd _ hw) hw
      refine ⟨e, List.mem_map.mpr ⟨e, he, if_neg ?_⟩, hcoming⟩
      intro heu
      rw [hm.eq_of_thread_eq he hcm heu] at hcoming
      exact nomatch hcoming.2
  · exact nomatch h

/-- Every move keeps the monitor attentive. -/
theorem Attentive.move {m m' : Monitor α} {move : Move α} {shown : Shown α} (hm : m.Attentive)
    (h : m.move move = some (m', shown)) : m'.Attentive := by
  cases move with
  | call t r =>
      obtain ⟨m₁, hcall, heq⟩ := Option.map_eq_some_iff.mp h
      rw [← (Prod.mk.inj heq).1]
      exact hm.call hcall
  | turn t luck => exact hm.stepped (stepped_of_step h)
  | wakeUp t =>
      obtain ⟨m₁, hwake, heq⟩ := Option.map_eq_some_iff.mp h
      rw [← (Prod.mk.inj heq).1]
      exact hm.wakeUp hwake

/-- Every state of a queue is attentive. -/
theorem attentive_of_run {mutex : Sync.Mutex} {moves : List (Move α)} {m : Monitor α}
    {shown : List (Shown α)} (h : ({ mutex } : Monitor α).run moves = some (m, shown)) :
    m.Attentive :=
  run_keeps (fun _ _ _ _ hm hmove => hm.move hmove) (attentive_new mutex) h

/-- **NO LOST WAKE-UP**: whatever threads do at a new queue, it never comes to a state where the queue is
    open and holds items, a taker is blocked, and no taker that was signalled is on its way back to the
    lock; nor to one where the queue is closed and a thread is still blocked without a signal. -/
theorem no_wakeup_lost {mutex : Sync.Mutex} {moves : List (Move α)} {m : Monitor α}
    {shown : List (Shown α)} (h : ({ mutex } : Monitor α).run moves = some (m, shown)) :
    (¬ (m.contents.running = true ∧ m.contents.items ≠ [] ∧
      (∃ c ∈ m.callers, (∃ block, c.request = .take block) ∧ c.stage = .waiting .notEmpty) ∧
      ¬ ∃ d ∈ m.callers, (∃ block, d.request = .take block) ∧ d.stage = .woken true)) ∧
    ¬ (m.contents.running = false ∧ ∃ c ∈ m.callers, ∃ q, c.stage = .waiting q) := by
  have hm : m.Attentive := attentive_of_run h
  constructor
  · rintro ⟨-, hi, ⟨c, hc, -, hw⟩, hnone⟩
    obtain ⟨d, hd, hrequest, hstage⟩ := hm.served hi c hc hw
    exact hnone ⟨d, hd, ⟨true, hrequest⟩, hstage⟩
  · rintro ⟨hr, c, hc, q, hw⟩
    rw [hm.atOpen c hc q hw] at hr
    exact Bool.noConfusion hr

/-- Two takers wait and two items arrive: the first addition wakes one taker, the second nobody. -/
theorem no_wakeup_lost_burst : ∃ (m : Monitor Nat) (shown : List (Shown Nat)),
    ({ mutex := { name := "q-lock" } } : Monitor Nat).run
      [.call 0 (.take true), .turn 0 {}, .call 1 (.take true), .turn 1 {},
        .call 2 (.add 7), .turn 2 { chosen := some 0 }, .call 2 (.add 8), .turn 2 {}]
      = some (m, shown) ∧
    m.contents = { items := [7, 8] } ∧ ⟨1, .take true, .waiting .notEmpty⟩ ∈ m.callers ∧
    ∃ d ∈ m.callers, (∃ block, d.request = .take block) ∧ d.stage = .woken true := by
  have hsome : (({ mutex := { name := "q-lock" } } : Monitor Nat).run
      [.call 0 (.take true), .turn 0 {}, .call 1 (.take true), .turn 1 {},
        .call 2 (.add 7), .turn 2 { chosen := some 0 }, .call 2 (.add 8), .turn 2 {}]).isSome := by
    decide
  have hrun := (Option.some_get hsome).symm
  refine ⟨_, _, hrun, by decide, by decide, ?_⟩
  by_contra hnone
  exact (no_wakeup_lost hrun).1
    ⟨by decide, by decide, ⟨⟨1, .take true, .waiting .notEmpty⟩, by decide, ⟨true, rfl⟩, rfl⟩, hnone⟩

end Monitor

end PooledServer.Queue
