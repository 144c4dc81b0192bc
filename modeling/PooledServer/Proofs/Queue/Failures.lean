import PooledServer.Proofs.Queue.Closing

/-!
# Primitives that fail

    A thread inside an operation can be failed by the lock at the door, or by a wait in any of its turns.
    A wait fails before it gives the lock up, so the thread finds the queue as its turn has found it,
    whatever others have done since it came.

    Either way the turn can be had, answers its thread and moves no item.  It leaves the queue alone and
    refuses, unless it was a drainer's wait that has failed: a drainer looks no further and closes the
    queue as it stands (`Monitor.failures_move_nothing`). -/

namespace PooledServer.Queue

variable {α : Type}

/-- The primitive that fails. -/
inductive Failure where
  | lock
  | wait
  deriving DecidableEq, Repr

/-- The turn of caller `c` at `m` meets a failure. -/
inductive Monitor.Fails (m : Monitor α) (c : Caller α) (luck : Luck) : Failure → Prop where
  | lock (hs : c.stage = .entering) (hl : luck.lock = false) : Fails m c luck .lock
  /-- The thread has the lock, for the first time or after a wait, and the queue makes it wait. -/
  | wait (hs : c.stage = .entering ∧ luck.lock = true ∨ ∃ signalled, c.stage = .woken signalled)
      (q : Condition) (h : c.request.turn m.contents = .wait q) (hw : luck.wait = false) :
      Fails m c luck .wait

/-- What a request that has met a failure leaves and answers. -/
inductive Request.FailsWith (c : Contents α) : Failure → Request α → Contents α → Answer α → Prop where
  | refused (f : Failure) (r : Request α) (answer : Answer α) (h : Refused r answer)
      (hr : ¬ (f = .wait ∧ r = .shutDownWhenDrained)) : FailsWith c f r c answer
  | gaveUp (hr : c.running = true) :
      FailsWith c .wait .shutDownWhenDrained { c with running := false } (.flag true)

namespace Request

/-! ## The two failures of a request -/

/-- At the door every request is refused. -/
theorem failsWith_lockFailure (c : Contents α) (r : Request α) :
    r.FailsWith c .lock c r.lockFailure.1 :=
  .refused .lock r _ r.refused_lockFailure fun h => nomatch h.1

/-- Who would wait has a reason, whether or not waiting works. -/
theorem waits_of_turn {c : Contents α} {r : Request α} {q : Condition} (h : r.turn c = .wait q) :
    r.Waits c q := by
  have houtcome : r.outcome true c = .wait q := by
    simp only [outcome]
    rw [h]
    rfl
  exact (waits_of_outcome houtcome).2

/-- A wait that fails ends the turn with an answer, and wakes everybody or nobody. -/
theorem Waits.waitFailure {c : Contents α} {r : Request α} {q : Condition} (h : r.Waits c q) :
    ∃ contents answer sent reports, r.waitFailure c = .leave contents answer sent reports ∧
      (∀ s ∈ sent, ∃ q, s = .all q) ∧ r.FailsWith c .wait contents answer := by
  cases h with
  | take hr hi =>
      exact ⟨c, .notRunning, [], _, rfl, fun s hs => (nomatch hs),
        .refused _ _ _ (.take true) fun h => nomatch h.2⟩
  | drain hr hi =>
      refine ⟨_, .flag true, closingSignals, _, rfl, ?_, .gaveUp hr⟩
      intro s hs
      rcases List.mem_cons.mp hs with rfl | hs
      · exact ⟨_, rfl⟩
      · exact ⟨_, List.mem_singleton.mp hs⟩
  | untilEmpty hr hi =>
      exact ⟨c, .flag false, [], _, rfl, fun s hs => (nomatch hs),
        .refused _ _ _ (.waitUntilEmpty false) fun h => nomatch h.2⟩

namespace FailsWith

variable {c contents : Contents α} {f : Failure} {r : Request α} {answer : Answer α}

theorem items_eq (h : r.FailsWith c f contents answer) : contents.items = c.items := by
  cases h <;> rfl

theorem handsBack (h : r.FailsWith c f contents answer) {item : α} (hr : r = .add item) :
    answer = .rejected item := by
  subst hr
  cases h with
  | refused f r answer hrefused hother =>
      cases hrefused
      rfl

/-- A failure neither takes an item in nor hands one out. -/
theorem moves_nothing (h : r.FailsWith c f contents answer) (t : ThreadId)
    (reports : List (Report α)) :
    accepted [⟨some ⟨t, r, answer⟩, reports⟩] = [] ∧
      handedOut [⟨some ⟨t, r, answer⟩, reports⟩] = [] := by
  cases h with
  | refused f r answer hrefused hother => cases hrefused <;> exact ⟨rfl, rfl⟩
  | gaveUp hr => exact ⟨rfl, rfl⟩

end FailsWith

end Request

/-! ## The turn that meets a failure -/

namespace Monitor

variable {m m' : Monitor α} {t : ThreadId} {c : Caller α} {luck : Luck} {f : Failure}
  {moves : List (Move α)} {shown : List (Shown α)}

/-- What a failed turn leaves behind and shows. -/
structure Failed (m : Monitor α) (c : Caller α) (f : Failure) (m' : Monitor α) (s : Shown α)
    (answer : Answer α) : Prop where
  reply : s.reply = some ⟨c.thread, c.request, answer⟩
  failsWith : c.request.FailsWith m.contents f m'.contents answer
  free : m'.mutex.holder = none
  asked : m'.asked = Function.update m.asked c.thread none

/-- A holder of the lock that would have to wait, and cannot, has its turn all the same. -/
theorem turn_failed (mutex : Sync.Mutex) (held : mutex.holder = some c.thread) {q : Condition}
    (hturn : c.request.turn m.contents = .wait q) (hw : luck.wait = false) :
    ∃ m' s answer, ({ m with mutex } : Monitor α).turn luck c = some (m', s) ∧
      m.Failed c .wait m' s answer := by
  obtain ⟨contents, answer, sent, reports, hfails, hall, hwith⟩ :=
    (Request.waits_of_turn hturn).waitFailure
  have hsome : (signals luck.chosen (m.others c.thread) sent).isSome :=
    signals_isSome_of_all hall _
  obtain ⟨callers, hsent⟩ := Option.isSome_iff_exists.mp hsome
  refine ⟨⟨contents, { mutex with holder := none, noted := false }, callers⟩,
    ⟨some ⟨c.thread, c.request, answer⟩, reports⟩, answer, ?_, rfl, hwith, rfl, ?_⟩
  · simp only [turn]
    rw [hturn]
    simp only
    rw [if_neg (by rw [hw]; exact Bool.false_ne_true), hfails]
    simp only [leave]
    rw [show ({ m with mutex } : Monitor α).others c.thread = m.others c.thread from rfl, hsent,
      Sync.Mutex.unlock, if_pos held]
  · -- signals rouse the others and change no request
    obtain ⟨g, rfl, hg⟩ := signals_eq_map hsent
    rw [← asked_others m c.thread contents mutex]
    exact asked_map (m := ⟨contents, mutex, m.others c.thread⟩) (fun d => (hg d).thread_eq)
      (fun d => (hg d).request_eq) _ _

/-- A turn that meets a failure can be had, and this is its end. -/
theorem Fails.step (h : m.Fails c luck f) (free : m.mutex.holder = none)
    (hc : m.caller? c.thread = some c) :
    ∃ m' s answer, m.step c.thread luck = some (m', s) ∧ m.Failed c f m' s answer := by
  cases h with
  | lock hs hl =>
      refine ⟨{ m with callers := m.others c.thread },
        ⟨some ⟨c.thread, c.request, c.request.lockFailure.1⟩, c.request.lockFailure.2⟩, _, ?_,
        rfl, c.request.failsWith_lockFailure _, free, asked_others m c.thread _ _⟩
      simp only [Monitor.step]
      rw [hc]
      simp only
      rw [hs]
      simp only
      rw [if_neg (by rw [hl]; exact Bool.false_ne_true)]
  | wait hs q hturn hw =>
      -- whichever way the lock is taken, the turn under it is the same
      rcases hs with ⟨hs, hl⟩ | ⟨signalled, hs⟩
      · obtain ⟨m', s, answer, hstep, hfailed⟩ :=
          turn_failed { m.mutex with holder := some c.thread, noted := true } rfl hturn hw
        refine ⟨m', s, answer, ?_, hfailed⟩
        simp only [Monitor.step]
        rw [hc]
        simp only
        rw [hs]
        simp only
        rw [if_pos hl, Sync.Mutex.lock, free]
        exact hstep
      · obtain ⟨m', s, answer, hstep, hfailed⟩ :=
          turn_failed { m.mutex with holder := some c.thread } rfl hturn hw
        refine ⟨m', s, answer, ?_, hfailed⟩
        simp only [Monitor.step]
        rw [hc]
        simp only
        rw [hs]
        simp only
        rw [Sync.Mutex.retake, free]
        exact hstep

/-- **FAILURES MOVE NOTHING**, in every state that a new queue can come to and for every thread inside.
    If the lock or a wait fails in its turn, the turn ends there, with an answer: the items are those of
    the moment of the failure, none is taken in or handed out, an item that was offered is handed back,
    the lock is free, and nobody else's request is touched.  The rest of the queue is as it was too and
    the answer refuses, except after a drainer's wait: that closes the queue, which was open, with its
    items in it, and answers yes. -/
theorem failures_move_nothing {mutex : Sync.Mutex} (hfree : mutex.holder = none)
    (h : ({ mutex } : Monitor α).run moves = some (m, shown)) (hc : m.caller? t = some c)
    (hfails : m.Fails c luck f) :
    ∃ m' s answer, m.step t luck = some (m', s) ∧ s.reply = some ⟨t, c.request, answer⟩ ∧
      m'.contents.items = m.contents.items ∧ accepted [s] = [] ∧ handedOut [s] = [] ∧
      (∀ item, c.request = .add item → answer = .rejected item) ∧
      m'.mutex.holder = none ∧ m'.asked = Function.update m.asked t none ∧
      (¬ (f = .wait ∧ c.request = .shutDownWhenDrained) →
        m'.contents = m.contents ∧ Refused c.request answer) ∧
      (f = .wait ∧ c.request = .shutDownWhenDrained →
        m.contents.running = true ∧ m'.contents = { m.contents with running := false } ∧
          answer = .flag true) := by
  have free : m.mutex.holder = none :=
    run_keeps (P := fun m => m.mutex.holder = none) (fun _ _ _ _ hm hmove => holder_eq_none hm hmove)
      hfree h
  obtain rfl : c.thread = t := (mem_of_caller? hc).2
  obtain ⟨m', s, answer, hstep, hfailed⟩ := hfails.step free hc
  obtain ⟨reply, reports⟩ := s
  obtain rfl : reply = _ := hfailed.reply
  have hwith := hfailed.failsWith
  obtain ⟨haccepted, hhandedOut⟩ := hwith.moves_nothing c.thread reports
  refine ⟨m', _, answer, hstep, rfl, hwith.items_eq, haccepted, hhandedOut,
    fun item hadd => hwith.handsBack hadd, hfailed.free, hfailed.asked, ?_, ?_⟩
  · intro hother
    generalize m'.contents = after, c.request = r at hwith hother
    cases hwith with
    | refused f r answer hrefused _ => exact ⟨rfl, hrefused⟩
    | gaveUp hr => exact absurd ⟨rfl, rfl⟩ hother
  · intro hdrainer
    generalize m'.contents = after, c.request = r at hwith hdrainer
    cases hwith with
    | refused f r answer hrefused hother => exact absurd hdrainer hother
    | gaveUp hr => exact ⟨hr, rfl, rfl⟩

/-- Two items are queued and a drainer waits for both to be taken.  It wakes up after the first has been
    taken, while a third is being offered. -/
def halfDrained : List (Move Nat) :=
  [.call 0 (.add 7), .turn 0 {}, .call 0 (.add 8), .turn 0 {}, .call 1 .shutDownWhenDrained,
    .turn 1 {}, .call 2 (.take true), .turn 2 {}, .wakeUp 1, .call 0 (.add 9)]

/-- The queue after these moves, with what they have shown. -/
def afterHalfDrained : Monitor Nat × List (Shown Nat) :=
  (({ mutex := { name := "q-lock" } } : Monitor Nat).run halfDrained).getD
    ({ mutex := { name := "q-lock" } }, [])

theorem failures_move_nothing_half_drained :
    ({ mutex := { name := "q-lock" } } : Monitor Nat).run halfDrained =
      some (afterHalfDrained.1, afterHalfDrained.2) ∧
    afterHalfDrained.1.contents = { items := [8], running := true } ∧
    (∃ m' s, afterHalfDrained.1.step 1 { wait := false } = some (m', s) ∧
      s.reply = some ⟨1, .shutDownWhenDrained, .flag true⟩ ∧
      m'.contents = { items := [8], running := false } ∧ m'.mutex.holder = none) ∧
    ∃ m' s, afterHalfDrained.1.step 0 { lock := false } = some (m', s) ∧
      s.reply = some ⟨0, .add 9, .rejected 9⟩ ∧ m'.contents = { items := [8], running := true } := by
  have hrun : ({ mutex := { name := "q-lock" } } : Monitor Nat).run halfDrained =
      some (afterHalfDrained.1, afterHalfDrained.2) := by
    decide
  have hcontents : afterHalfDrained.1.contents = { items := [8], running := true } := by decide
  have hdrain : afterHalfDrained.1.Fails ⟨1, .shutDownWhenDrained, .woken false⟩ { wait := false }
      .wait :=
    .wait (Or.inr ⟨false, rfl⟩) .drained (by decide) rfl
  have hadd : afterHalfDrained.1.Fails ⟨0, .add 9, .entering⟩ { lock := false } .lock :=
    .lock rfl rfl
  obtain ⟨m₁, s₁, answer₁, hstep₁, hreply₁, -, -, -, -, hfree₁, -, -, hdrainer⟩ :=
    failures_move_nothing (t := 1) rfl hrun (by decide) hdrain
  obtain ⟨m₂, s₂, answer₂, hstep₂, hreply₂, -, -, -, hback, -, -, hothers, -⟩ :=
    failures_move_nothing (t := 0) rfl hrun (by decide) hadd
  obtain ⟨-, hclosed, rfl⟩ := hdrainer ⟨rfl, rfl⟩
  obtain rfl := hback 9 rfl
  rw [hcontents] at hclosed hothers
  exact ⟨hrun, hcontents, ⟨m₁, s₁, hstep₁, hreply₁, hclosed, hfree₁⟩, m₂, s₂, hstep₂, hreply₂,
    (hothers fun h => nomatch h.1).1⟩

end Monitor

end PooledServer.Queue
