import PooledServer.Queue.Monitor
import PooledServer.Proofs.Keyed

/-!
# What a turn at the queue can do

    A turn under the lock ends in one of three ways: the lock failed and the thread was turned away, the
    thread gave the lock up to wait, or it left with an answer.  `Monitor.Stepped` says so once, with all
    that each end does to the queue and to the other threads, and every invariant of a monitor is read
    off it.

    Signals only ever rouse waiters: they change neither who is inside nor what anybody asked for. -/

namespace PooledServer.Queue

variable {α : Type}

/-! ## Signals -/

/-- `d` is the caller `c`, perhaps roused by a signal from its wait. -/
def Caller.Roused (c d : Caller α) : Prop :=
  d = c ∨ ∃ q, c.stage = .waiting q ∧ d = { c with stage := .woken true }

theorem Caller.Roused.thread_eq {c d : Caller α} (h : c.Roused d) : d.thread = c.thread := by
  rcases h with rfl | ⟨q, _, rfl⟩ <;> rfl

theorem Caller.Roused.request_eq {c d : Caller α} (h : c.Roused d) : d.request = c.request := by
  rcases h with rfl | ⟨q, _, rfl⟩ <;> rfl

/-- Who waits after a signal has waited before it. -/
theorem Caller.Roused.waiting {c d : Caller α} (h : c.Roused d) {q : Condition}
    (hd : d.stage = .waiting q) : d = c := by
  rcases h with rfl | ⟨p, _, rfl⟩
  · rfl
  · exact nomatch hd

theorem Caller.Roused.trans {c d e : Caller α} (h : c.Roused d) (k : d.Roused e) : c.Roused e := by
  rcases h with rfl | ⟨q, hq, rfl⟩
  · exact k
  · rcases k with rfl | ⟨p, hp, _⟩
    · exact Or.inr ⟨q, hq, rfl⟩
    · exact nomatch hp

theorem Caller.waitsOn_iff (c : Caller α) (q : Condition) :
    c.waitsOn q = true ↔ c.stage = .waiting q := by
  simp only [Caller.waitsOn]
  exact beq_iff_eq

theorem Caller.roused_wakeIf (q : Condition) (c : Caller α) : c.Roused (c.wakeIf q) := by
  simp only [Caller.wakeIf]
  by_cases h : c.waitsOn q = true
  · rw [if_pos h]
    exact Or.inr ⟨q, (c.waitsOn_iff q).mp h, rfl⟩
  · rw [if_neg h]
    exact Or.inl rfl

/-- One signal maps the callers, each to itself or to itself roused. -/
theorem signal_eq_map {chosen : Option ThreadId} {callers callers' : List (Caller α)} {s : Signal}
    (h : signal chosen callers s = some callers') :
    ∃ f : Caller α → Caller α, callers' = callers.map f ∧ ∀ c : Caller α, c.Roused (f c) := by
  cases s with
  | all q =>
      exact ⟨Caller.wakeIf q, (Option.some.inj h).symm, Caller.roused_wakeIf q⟩
  | one q =>
      simp only [signal] at h
      -- without a waiter the signal is lost, else it goes to the waiter that was chosen
      split at h
      · cases chosen with
        | none => exact nomatch h
        | some t =>
            simp only at h
            split at h
            · refine ⟨_, (Option.some.inj h).symm, ?_⟩
              intro c
              split
              · exact Caller.roused_wakeIf q c
              · exact Or.inl rfl
            · exact nomatch h
      · exact ⟨id, by rw [List.map_id]; exact (Option.some.inj h).symm, fun c => Or.inl rfl⟩

/-- The same for several signals in a row. -/
theorem signals_eq_map {chosen : Option ThreadId} {sent : List Signal} :
    ∀ {callers callers' : List (Caller α)}, signals chosen callers sent = some callers' →
      ∃ f : Caller α → Caller α, callers' = callers.map f ∧ ∀ c : Caller α, c.Roused (f c) := by
  -- the first signal changes the callers for the later ones, so these stay general
  induction sent with
  | nil =>
      intro callers callers' h
      exact ⟨id, by rw [List.map_id]; exact (Option.some.inj h).symm, fun c => Or.inl rfl⟩
  | cons s rest ih =>
      intro callers callers' h
      obtain ⟨between, hs, hrest⟩ := Option.bind_eq_some_iff.mp h
      obtain ⟨f, rfl, hf⟩ := signal_eq_map hs
      obtain ⟨g, rfl, hg⟩ := ih hrest
      exact ⟨g ∘ f, List.map_map, fun c => (hf c).trans (hg (f c))⟩

/-- After a signal to all, nobody waits on its condition, whatever signals follow. -/
theorem not_waiting_of_all {chosen : Option ThreadId} {q : Condition} {sent : List Signal}
    (hq : Signal.all q ∈ sent) :
    ∀ {callers callers' : List (Caller α)}, signals chosen callers sent = some callers' →
      ∀ c ∈ callers', c.stage ≠ .waiting q := by
  induction sent with
  | nil => exact nomatch hq
  | cons s rest ih =>
      intro callers callers' h c hc hw
      obtain ⟨between, hs, hrest⟩ := Option.bind_eq_some_iff.mp h
      rcases List.mem_cons.mp hq with rfl | hmem
      -- later signals wake callers and make none wait, so `d` would have waited already
      · obtain ⟨g, rfl, hg⟩ := signals_eq_map hrest
        obtain ⟨d, hd, rfl⟩ := List.mem_map.mp hc
        rw [(hg d).waiting hw] at hw
        rw [← Option.some.inj hs] at hd
        obtain ⟨b, _, rfl⟩ := List.mem_map.mp hd
        simp only [Caller.wakeIf] at hw
        split at hw
        · exact nomatch hw
        · rename_i hn
          exact hn ((b.waitsOn_iff q).mpr hw)
      · exact ih hmem hrest c hc hw

/-- A signal to one rouses a waiter if there is one. -/
theorem roused_of_one {chosen : Option ThreadId} {q : Condition} {callers callers' : List (Caller α)}
    (h : signals chosen callers [.one q] = some callers')
    {c : Caller α} (hc : c ∈ callers) (hw : c.stage = .waiting q) :
    ∃ d ∈ callers, d.stage = .waiting q ∧ { d with stage := .woken true } ∈ callers' := by
  obtain ⟨callers'', h, hnil⟩ := Option.bind_eq_some_iff.mp h
  cases Option.some.inj hnil
  -- the signal is not lost, for `c` waits; it may still go to another waiter
  have hany : (callers.any fun d => d.waitsOn q) = true :=
    List.any_eq_true.mpr ⟨c, hc, (c.waitsOn_iff q).mpr hw⟩
  simp only [signal, hany, if_true] at h
  cases chosen with
  | none => exact nomatch h
  | some t =>
      simp only at h
      split at h
      · rename_i hchosen
        obtain ⟨d, hd, hdt⟩ := List.any_eq_true.mp hchosen
        simp only [Bool.and_eq_true, beq_iff_eq] at hdt
        refine ⟨d, hd, (d.waitsOn_iff q).mp hdt.2, ?_⟩
        rw [← Option.some.inj h]
        refine List.mem_map.mpr ⟨d, hd, ?_⟩
        rw [if_pos hdt.1, Caller.wakeIf, if_pos hdt.2]
      · exact nomatch h

/-! ## Who is inside -/

namespace Monitor

theorem mem_of_caller? {m : Monitor α} {t : ThreadId} {c : Caller α} (h : m.caller? t = some c) :
    c ∈ m.callers ∧ c.thread = t :=
  Keyed.mem_of_find? (f := Caller.thread) h

theorem mem_others {m : Monitor α} {t : ThreadId} {c : Caller α} :
    c ∈ m.others t ↔ c ∈ m.callers ∧ c.thread ≠ t := by
  simp only [others]
  rw [List.mem_filter]
  exact and_congr_right fun _ => bne_iff_ne

theorem caller?_eq_none_iff {m : Monitor α} {t : ThreadId} :
    m.caller? t = none ↔ ∀ c ∈ m.callers, c.thread ≠ t := by
  simp only [caller?]
  rw [List.find?_eq_none]
  exact forall₂_congr fun c _ => by simp

end Monitor

/-! ## The three ends of a turn -/

/-- The end of a turn when `wait` tells whether waiting works. -/
def Request.outcome (wait : Bool) (c : Contents α) (r : Request α) : Turn α :=
  match r.turn c with
  | .wait q => if wait then .wait q else r.waitFailure c
  | end_ => end_

/-- A request that waits, and what it waits for. -/
inductive Request.Waits (c : Contents α) : Request α → Condition → Prop where
  | take (hr : c.running = true) (hi : c.items = []) : Waits c (.take true) .notEmpty
  | drain (hr : c.running = true) (hi : c.items ≠ []) : Waits c .shutDownWhenDrained .drained
  | untilEmpty (hr : c.running = true) (hi : c.items ≠ []) : Waits c .waitUntilEmpty .drained

/-- A request that is answered: the queue left behind, the answer and the signals sent. -/
inductive Request.Leaves (wait : Bool) (c : Contents α) :
    Request α → Contents α → Answer α → List Signal → Prop where
  | added (item : α) (hr : c.running = true) :
      Leaves wait c (.add item) { c with items := c.items ++ [item] } .added
        (if c.items.isEmpty then [.one .notEmpty] else [])
  | rejected (item : α) (hr : c.running = false) : Leaves wait c (.add item) c (.rejected item) []
  | tookLast (block : Bool) (item : α) (hr : c.running = true) (hi : c.items = [item]) :
      Leaves wait c (.take block) { c with items := [] } (.taken item) [.all .drained]
  | tookFirst (block : Bool) (item next : α) (rest : List α) (hr : c.running = true)
      (hi : c.items = item :: next :: rest) :
      Leaves wait c (.take block) { c with items := next :: rest } (.taken item) [.one .notEmpty]
  | foundEmpty (hr : c.running = true) (hi : c.items = []) : Leaves wait c (.take false) c .empty []
  | foundClosed (block : Bool) (hr : c.running = false) :
      Leaves wait c (.take block) c .notRunning []
  | takeFailed (hr : c.running = true) (hi : c.items = []) (hw : wait = false) :
      Leaves wait c (.take true) c .notRunning []
  | closed (hr : c.running = true) :
      Leaves wait c .shutDown { c with running := false } (.flag true) closingSignals
  | drained (hr : c.running = true) (hi : c.items = []) :
      Leaves wait c .shutDownWhenDrained { c with running := false } (.flag true) closingSignals
  | drainFailed (hr : c.running = true) (hi : c.items ≠ []) (hw : wait = false) :
      Leaves wait c .shutDownWhenDrained { c with running := false } (.flag true) closingSignals
  | closedBefore (hr : c.running = false) : Leaves wait c .shutDown c (.flag false) []
  | drainedBefore (hr : c.running = false) : Leaves wait c .shutDownWhenDrained c (.flag false) []
  | sawEnd (h : c.items = [] ∨ c.running = false) :
      Leaves wait c .waitUntilEmpty c (.flag c.items.isEmpty) []
  | waitFailed (hr : c.running = true) (hi : c.items ≠ []) (hw : wait = false) :
      Leaves wait c .waitUntilEmpty c (.flag false) []
  | measured : Leaves wait c .size c (.count c.items.length) []
  | told : Leaves wait c .isRunning c (.flag c.running) []

/-- Only three requests wait, each with a reason. -/
theorem Request.waits_of_outcome {wait : Bool} {c : Contents α} {r : Request α} {q : Condition}
    (h : r.outcome wait c = .wait q) : wait = true ∧ r.Waits c q := by
  -- the match of `Request.turn` is on both fields, so both are opened
  obtain ⟨items, running⟩ := c
  cases r with
  | add item => cases running <;> cases h
  | take block =>
      match running, items, block, wait with
      | true, [], true, true => cases h; exact ⟨rfl, .take rfl rfl⟩
      | true, [], true, false => cases h
      | true, [], false, _ => cases h
      | true, [_], block, _ => cases block <;> cases h
      | true, _ :: _ :: _, block, _ => cases block <;> cases h
      | false, _, _, _ => cases h
  | shutDown => cases running <;> cases h
  | shutDownWhenDrained =>
      match running, items, wait with
      | true, _ :: _, true => cases h; exact ⟨rfl, .drain rfl (List.cons_ne_nil _ _)⟩
      | true, _ :: _, false => cases h
      | true, [], _ => cases h
      | false, _, _ => cases h
  | waitUntilEmpty =>
      match running, items, wait with
      | true, _ :: _, true => cases h; exact ⟨rfl, .untilEmpty rfl (List.cons_ne_nil _ _)⟩
      | true, _ :: _, false => cases h
      | true, [], _ => cases h
      | false, _, _ => cases h
  | size => cases h
  | isRunning => cases h

/-- What a request leaves is one of the cases above. -/
theorem Request.leaves_of_outcome {wait : Bool} {c contents : Contents α} {r : Request α}
    {answer : Answer α} {sent : List Signal} {reports : List (Report α)}
    (h : r.outcome wait c = .leave contents answer sent reports) :
    r.Leaves wait c contents answer sent := by
  obtain ⟨items, running⟩ := c
  cases r with
  | add item =>
      cases running with
      | true => cases h; exact .added item rfl
      | false => cases h; exact .rejected item rfl
  | take block =>
      cases running with
      | true =>
          match items, block, wait with
          | [], true, true => cases h
          | [], true, false => cases h; exact .takeFailed rfl rfl rfl
          | [], false, _ => cases h; exact .foundEmpty rfl rfl
          | [item], block, _ => cases block <;> cases h <;> exact .tookLast _ item rfl rfl
          | item :: next :: rest, block, _ =>
              cases block <;> cases h <;> exact .tookFirst _ item next rest rfl rfl
      | false => cases h; exact .foundClosed block rfl
  | shutDown =>
      cases running with
      | true => cases h; exact .closed rfl
      | false => cases h; exact .closedBefore rfl
  | shutDownWhenDrained =>
      match running, items, wait with
      | false, _, _ => cases h; exact .drainedBefore rfl
      | true, [], _ => cases h; exact .drained rfl rfl
      | true, _ :: _, true => cases h
      | true, _ :: _, false => cases h; exact .drainFailed rfl (List.cons_ne_nil _ _) rfl
  | waitUntilEmpty =>
      match running, items, wait with
      | false, _, _ => cases h; exact .sawEnd (Or.inr rfl)
      | true, [], _ => cases h; exact .sawEnd (Or.inl rfl)
      | true, _ :: _, true => cases h
      | true, _ :: _, false => cases h; exact .waitFailed rfl (List.cons_ne_nil _ _) rfl
  | size => cases h; exact .measured
  | isRunning => cases h; exact .told

/-- The caller after thread `t` has begun to wait on `q`. -/
def Caller.waitAs (t : ThreadId) (q : Condition) (c : Caller α) : Caller α :=
  if c.thread = t then { c with stage := .waiting q } else c

theorem Caller.waitAs_thread (t : ThreadId) (q : Condition) (c : Caller α) :
    (c.waitAs t q).thread = c.thread := by
  simp only [Caller.waitAs]
  split <;> rfl

theorem Caller.waitAs_request (t : ThreadId) (q : Condition) (c : Caller α) :
    (c.waitAs t q).request = c.request := by
  simp only [Caller.waitAs]
  split <;> rfl

/-- What one turn of thread `t` can do to a monitor whose lock is free. -/
inductive Monitor.Stepped (m : Monitor α) (t : ThreadId) (luck : Luck) :
    Monitor α → Shown α → Prop where
  | turnedAway (c : Caller α) (hc : m.caller? t = some c) (hs : c.stage = .entering)
      (hl : luck.lock = false) :
      Stepped m t luck { m with callers := m.others t }
        ⟨some ⟨t, c.request, c.request.lockFailure.1⟩, c.request.lockFailure.2⟩
  | waits (c : Caller α) (hc : m.caller? t = some c) (hs : ∀ q, c.stage ≠ .waiting q)
      (mutex : Sync.Mutex) (free : mutex.holder = none) (q : Condition)
      (h : c.request.outcome luck.wait m.contents = .wait q) :
      Stepped m t luck ⟨m.contents, mutex, m.callers.map (Caller.waitAs t q)⟩ {}
  | leaves (c : Caller α) (hc : m.caller? t = some c) (hs : ∀ q, c.stage ≠ .waiting q)
      (mutex : Sync.Mutex) (free : mutex.holder = none)
      (contents : Contents α) (answer : Answer α) (sent : List Signal) (reports : List (Report α))
      (callers : List (Caller α))
      (h : c.request.outcome luck.wait m.contents = .leave contents answer sent reports)
      (hsent : signals luck.chosen (m.others t) sent = some callers) :
      Stepped m t luck ⟨contents, mutex, callers⟩ ⟨some ⟨t, c.request, answer⟩, reports⟩

namespace Monitor

/-- A thread that holds the lock gives it back at the end of its turn. -/
theorem leave_eq_some {m m' : Monitor α} {luck : Luck} {c : Caller α} {contents : Contents α}
    {answer : Answer α} {sent : List Signal} {reports : List (Report α)} {shown : Shown α}
    (h : m.leave luck c contents answer sent reports = some (m', shown)) :
    ∃ mutex callers, mutex.holder = none ∧
      signals luck.chosen (m.others c.thread) sent = some callers ∧
      m' = ⟨contents, mutex, callers⟩ ∧ shown = ⟨some ⟨c.thread, c.request, answer⟩, reports⟩ := by
  simp only [leave] at h
  split at h
  · rename_i callers mutex hsent hunlock
    obtain ⟨rfl, rfl⟩ := Prod.mk.inj (Option.some.inj h)
    refine ⟨mutex, callers, ?_, hsent, rfl, rfl⟩
    simp only [Sync.Mutex.unlock] at hunlock
    split at hunlock
    · rw [← Option.some.inj hunlock]
    · exact nomatch hunlock
  · exact nomatch h

/-- A turn under the lock waits or leaves, as the request says. -/
theorem turn_stepped {m m' : Monitor α} {t : ThreadId} {luck : Luck} {c : Caller α}
    {mutex : Sync.Mutex} {shown : Shown α} (hc : m.caller? t = some c)
    (hs : ∀ q, c.stage ≠ .waiting q)
    (h : ({ m with mutex } : Monitor α).turn luck c = some (m', shown)) :
    m.Stepped t luck m' shown := by
  obtain rfl : c.thread = t := (mem_of_caller? hc).2
  simp only [turn] at h
  split at h
  · rename_i contents answer sent reports hturn
    obtain ⟨mutex, callers, free, hsent, rfl, rfl⟩ := leave_eq_some h
    refine .leaves c hc hs mutex free contents answer sent reports callers ?_ hsent
    -- an outcome that is no wait is the turn's own
    simp only [Request.outcome]
    rw [hturn]
  · rename_i q hturn
    split at h
    · rename_i hwait
      split at h
      · rename_i mutex' hrelease
        obtain ⟨rfl, rfl⟩ := Prod.mk.inj (Option.some.inj h)
        refine .waits c hc hs mutex' ?_ q ?_
        · simp only [Sync.Mutex.release] at hrelease
          split at hrelease
          · rw [← Option.some.inj hrelease]
          · exact nomatch hrelease
        · simp only [Request.outcome]
          rw [hturn]
          exact if_pos hwait
      · exact nomatch h
    · rename_i hwait
      split at h
      -- the wait itself has failed, and the request makes the best of it
      · rename_i contents answer sent reports hfail
        obtain ⟨mutex, callers, free, hsent, rfl, rfl⟩ := leave_eq_some h
        refine .leaves c hc hs mutex free contents answer sent reports callers ?_ hsent
        simp only [Request.outcome]
        rw [hturn]
        exact (if_neg hwait).trans hfail
      · exact nomatch h

/-- Every step of a thread is one of the three ends. -/
theorem stepped_of_step {m m' : Monitor α} {t : ThreadId} {luck : Luck} {shown : Shown α}
    (h : m.step t luck = some (m', shown)) : m.Stepped t luck m' shown := by
  simp only [step] at h
  split at h
  · exact nomatch h
  · rename_i c hc
    split at h
    · exact nomatch h
    · rename_i hs
      split at h
      · split at h
        · exact turn_stepped hc (fun q hq => nomatch hs.symm.trans hq) h
        · exact nomatch h
        · exact nomatch h
      · rename_i hl
        obtain ⟨rfl, rfl⟩ := Prod.mk.inj (Option.some.inj h)
        exact .turnedAway c hc hs (Bool.eq_false_iff.mpr hl)
    · rename_i signalled hs
      split at h
      · exact turn_stepped hc (fun q hq => nomatch hs.symm.trans hq) h
      · exact nomatch h

/-! ## Runs -/

/-- What every move keeps, every run keeps. -/
theorem run_keeps {P : Monitor α → Prop}
    (hmove : ∀ m m' move shown, P m → m.move move = some (m', shown) → P m')
    {m m' : Monitor α} {moves : List (Move α)} {shown : List (Shown α)}
    (hm : P m) (h : m.run moves = some (m', shown)) : P m' := by
  induction moves generalizing m shown with
  | nil =>
      obtain ⟨rfl, _⟩ := Prod.mk.inj (Option.some.inj h)
      exact hm
  | cons move rest ih =>
      obtain ⟨⟨m₁, s⟩, h₁, h₂⟩ := Option.bind_eq_some_iff.mp h
      obtain ⟨⟨m₂, later⟩, h₃, h₄⟩ := Option.map_eq_some_iff.mp h₂
      obtain ⟨rfl, _⟩ := Prod.mk.inj h₄
      exact ih (hmove m m₁ move s hm h₁) h₃

end Monitor

end PooledServer.Queue
