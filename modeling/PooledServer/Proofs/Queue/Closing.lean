import PooledServer.Proofs.Queue.Draining
import PooledServer.Proofs.Queue.Requests

/-!
# A queue is closed once

    Two requests close a queue, and one of them may have waited in the middle of its operation.  Which of
    them has closed it is no matter of who came first: it is the one whose turn finds the flag set and
    leaves it cleared, and that turn answers yes (`Monitor.Stepped.closing`).  The flag is never set again,
    so in a whole run the yes answers and the flag add up to one (`Monitor.run_closings`).

    From then on the queue refuses.  A thread that came before the flag was cleared is no exception:
    nobody waits at a closed queue, and a turn at it always answers (`Monitor.closes_once`). -/

namespace PooledServer.Queue

variable {α : Type}

/-- The reply tells a closing request that it has closed the queue. -/
def Reply.hasClosed (reply : Reply α) : Bool :=
  match reply.request, reply.answer with
  | .shutDown, .flag closed | .shutDownWhenDrained, .flag closed => closed
  | _, _ => false

/-- The requests that have closed the queue. -/
def closings (shown : List (Shown α)) : List (Reply α) :=
  (shown.filterMap (·.reply)).filter (·.hasClosed)

/-- The answers that a closed queue gives. -/
inductive Refused : Request α → Answer α → Prop where
  | add (item : α) : Refused (.add item) (.rejected item)
  | take (block : Bool) : Refused (.take block) .notRunning
  | shutDown : Refused .shutDown (.flag false)
  | shutDownWhenDrained : Refused .shutDownWhenDrained (.flag false)
  | waitUntilEmpty (empty : Bool) : Refused .waitUntilEmpty (.flag empty)
  | size (count : Nat) : Refused .size (.count count)
  | isRunning : Refused .isRunning (.flag false)

theorem closings_cons (s : Shown α) (later : List (Shown α)) :
    closings (s :: later) = closings [s] ++ closings later := by
  simp only [closings]
  rw [← List.filter_append, ← List.filterMap_append]
  rfl

theorem closings_of_reply {s : Shown α} {reply : Reply α} (h : s.reply = some reply) :
    closings [s] = [reply].filter (·.hasClosed) := by
  simp only [closings]
  rw [List.filterMap_cons_some h, List.filterMap_nil]

namespace Request

/-- A request that is turned away at the lock is answered as at a closed queue. -/
theorem refused_lockFailure (r : Request α) : Refused r r.lockFailure.1 := by
  cases r <;> constructor

namespace Leaves

variable {wait : Bool} {c contents : Contents α} {r : Request α} {answer : Answer α}
  {sent : List Signal}

/-- The turn that clears the flag is the one that is answered yes, and no turn sets it. -/
theorem closing (h : r.Leaves wait c contents answer sent) (t : ThreadId) :
    ([(⟨t, r, answer⟩ : Reply α)].filter (·.hasClosed)).length + contents.running.toNat
      = c.running.toNat := by
  cases h with
  | closed hr | drained hr hi | drainFailed hr hi hw =>
      rw [hr]
      rfl
  | _ => exact Nat.zero_add _

theorem refused (h : r.Leaves wait c contents answer sent) (hclosed : c.running = false) :
    Refused r answer := by
  have hopen : c.running ≠ true := hclosed ▸ Bool.false_ne_true
  cases h with
  | added item hr => exact absurd hr hopen
  | tookLast block item hr hi => exact absurd hr hopen
  | tookFirst block item next rest hr hi => exact absurd hr hopen
  | foundEmpty hr hi => exact absurd hr hopen
  | closed hr => exact absurd hr hopen
  | drained hr hi => exact absurd hr hopen
  | drainFailed hr hi hw => exact absurd hr hopen
  | told =>
      rw [hclosed]
      exact .isRunning
  | _ => constructor

end Leaves

end Request

namespace Monitor

variable {m m' : Monitor α} {t : ThreadId} {luck : Luck} {s : Shown α} {moves : List (Move α)}
  {shown : List (Shown α)}

/-- A move is a turn, or it shows nothing and leaves the queue alone. -/
theorem turn_or_silent {move : Move α} (h : m.move move = some (m', s)) :
    (∃ t luck, m.Stepped t luck m' s) ∨ s = {} ∧ m'.contents = m.contents := by
  cases move with
  | call t request =>
      obtain ⟨m₁, hcall, heq⟩ := Option.map_eq_some_iff.mp h
      obtain ⟨rfl, rfl⟩ := Prod.mk.inj heq
      exact Or.inr ⟨rfl, (asked_call hcall).2⟩
  | turn t luck => exact Or.inl ⟨t, luck, stepped_of_step h⟩
  | wakeUp t =>
      obtain ⟨m₁, hwake, heq⟩ := Option.map_eq_some_iff.mp h
      obtain ⟨rfl, rfl⟩ := Prod.mk.inj heq
      exact Or.inr ⟨rfl, (asked_wakeUp hwake).2⟩

/-! ## The turn that closes -/

/-- A turn clears the flag exactly if it answers a closing request with yes. -/
theorem Stepped.closing (h : m.Stepped t luck m' s) :
    (closings [s]).length + m'.contents.running.toNat = m.contents.running.toNat := by
  cases h with
  | turnedAway c hc hs hl =>
      rw [closings_of_reply rfl]
      cases c.request <;> exact Nat.zero_add _
  | waits c hc hs mutex free q h => exact Nat.zero_add _
  | leaves c hc hs mutex free contents answer sent reports callers h hsent =>
      rw [closings_of_reply rfl]
      exact (Request.leaves_of_outcome h).closing t

theorem move_closings {move : Move α} (h : m.move move = some (m', s)) :
    (closings [s]).length + m'.contents.running.toNat = m.contents.running.toNat := by
  rcases turn_or_silent h with ⟨t, luck, hstepped⟩ | ⟨rfl, hcontents⟩
  · exact hstepped.closing
  · rw [hcontents]
    exact Nat.zero_add _

/-- In a run the yes answers and the flag that is left add up to the flag at its start. -/
theorem run_closings (h : m.run moves = some (m', shown)) :
    (closings shown).length + m'.contents.running.toNat = m.contents.running.toNat := by
  induction moves generalizing m shown with
  | nil =>
      obtain ⟨rfl, rfl⟩ := Prod.mk.inj (Option.some.inj h)
      exact Nat.zero_add _
  | cons move rest ih =>
      obtain ⟨⟨m₁, s⟩, h₁, h₂⟩ := Option.bind_eq_some_iff.mp h
      obtain ⟨⟨m₂, later⟩, h₃, h₄⟩ := Option.map_eq_some_iff.mp h₂
      obtain ⟨rfl, rfl⟩ := Prod.mk.inj h₄
      rw [closings_cons, List.length_append, Nat.add_assoc, ih h₃]
      exact move_closings h₁

/-- A reply that has closed the queue is the answer to the move that clears the flag. -/
theorem hasClosed_iff {move : Move α} (h : m.move move = some (m', s)) :
    (∃ reply, s.reply = some reply ∧ reply.hasClosed = true) ↔
      m.contents.running = true ∧ m'.contents.running = false := by
  have hmove := move_closings h
  constructor
  · rintro ⟨reply, hreply, hclosed⟩
    rw [closings_of_reply hreply, List.filter_cons_of_pos hclosed] at hmove
    -- one answer of yes leaves nothing for the flag
    cases hbefore : m.contents.running <;> cases hafter : m'.contents.running <;>
      simp [hbefore, hafter] at hmove ⊢
  · rintro ⟨hbefore, hafter⟩
    rw [hbefore, hafter] at hmove
    cases hreply : s.reply with
    | none =>
        simp only [closings] at hmove
        rw [List.filterMap_cons_none hreply] at hmove
        exact nomatch hmove
    | some reply =>
        refine ⟨reply, rfl, ?_⟩
        rw [closings_of_reply hreply] at hmove
        by_contra hno
        rw [List.filter_cons_of_neg hno] at hmove
        exact nomatch hmove

/-! ## A closed queue refuses -/

/-- A turn at a closed queue answers its thread, and refuses. -/
theorem Stepped.refused (h : m.Stepped t luck m' s) (hclosed : m.contents.running = false) :
    ∃ c answer, m.caller? t = some c ∧ s.reply = some ⟨t, c.request, answer⟩ ∧
      Refused c.request answer := by
  cases h with
  | turnedAway c hc hs hl => exact ⟨c, _, hc, rfl, c.request.refused_lockFailure⟩
  | waits c hc hs mutex free q h =>
      have hopen := (Request.waits_of_outcome h).2.running
      exact absurd (hclosed.symm.trans hopen) Bool.false_ne_true
  | leaves c hc hs mutex free contents answer sent reports callers h hsent =>
      exact ⟨c, answer, hc, rfl, (Request.leaves_of_outcome h).refused hclosed⟩

/-- Every answer that is given at a closed queue refuses. -/
theorem run_refused (h : m.run moves = some (m', shown)) (hclosed : m.contents.running = false) :
    ∀ s ∈ shown, ∀ reply, s.reply = some reply → Refused reply.request reply.answer := by
  induction moves generalizing m shown with
  | nil =>
      obtain ⟨-, rfl⟩ := Prod.mk.inj (Option.some.inj h)
      exact fun s hs => nomatch hs
  | cons move rest ih =>
      obtain ⟨⟨m₁, s₁⟩, h₁, h₂⟩ := Option.bind_eq_some_iff.mp h
      obtain ⟨⟨m₂, later⟩, h₃, h₄⟩ := Option.map_eq_some_iff.mp h₂
      obtain ⟨rfl, rfl⟩ := Prod.mk.inj h₄
      intro s hs reply hreply
      rcases List.mem_cons.mp hs with rfl | hlater
      · rcases turn_or_silent h₁ with ⟨t, luck, hstepped⟩ | ⟨rfl, -⟩
        · obtain ⟨c, answer, -, hanswer, hrefused⟩ := hstepped.refused hclosed
          obtain rfl := Option.some.inj (hanswer.symm.trans hreply)
          exact hrefused
        · exact nomatch hreply
      · have hstays : m₁.contents.running = false := by rw [(move_of_closed h₁ hclosed).1, hclosed]
        exact ih h₃ hstays s hlater reply hreply

/-- **A QUEUE IS CLOSED ONCE AND FOR ALL**, under any interleaving and whatever the primitives do.  At
    most one closing request of a run is answered yes: none while the queue is open, exactly one when it
    is closed, and the move that answers so is the move that clears the flag.  At a closed queue nothing
    changes its contents any more, and every answer refuses: items are handed back, takes are told that
    the queue does not run even if it holds items, and closing requests are told no.  Nobody who is
    inside, however early he came, is left waiting there: he can have his turn, and any turn of his
    answers him. -/
theorem closes_once {mutex : Sync.Mutex} (free : mutex.holder = none)
    (h : ({ mutex } : Monitor α).run moves = some (m, shown)) :
    (closings shown = [] ∧ m.contents.running = true ∨
      (∃ reply, closings shown = [reply]) ∧ m.contents.running = false) ∧
    (∀ move m' s, m.move move = some (m', s) →
      ((∃ reply, s.reply = some reply ∧ reply.hasClosed = true) ↔
        m.contents.running = true ∧ m'.contents.running = false)) ∧
    (m.contents.running = false →
      (∀ later last shown', m.run later = some (last, shown') →
        last.contents = m.contents ∧ closings shown' = [] ∧
        ∀ s ∈ shown', ∀ reply, s.reply = some reply → Refused reply.request reply.answer) ∧
      ∀ c ∈ m.callers,
        (m.step c.thread (m.goodLuck c.thread)).isSome ∧
        ∀ luck m' s, m.step c.thread luck = some (m', s) →
          ∃ answer, s.reply = some ⟨c.thread, c.request, answer⟩ ∧ Refused c.request answer) := by
  have hattentive : m.Attentive := attentive_of_run h
  have hfree : m.mutex.holder = none :=
    run_keeps (P := fun m => m.mutex.holder = none) (fun _ _ _ _ hm hmove => holder_eq_none hm hmove)
      free h
  refine ⟨?_, fun move m' s hmove => hasClosed_iff hmove, fun hclosed => ⟨?_, ?_⟩⟩
  · have hrun : (closings shown).length + m.contents.running.toNat = 1 := run_closings h
    cases hrunning : m.contents.running with
    | true =>
        rw [hrunning] at hrun
        exact Or.inl ⟨List.eq_nil_of_length_eq_zero (Nat.succ.inj hrun), rfl⟩
    | false =>
        rw [hrunning] at hrun
        exact Or.inr ⟨List.length_eq_one_iff.mp hrun, rfl⟩
  · intro later last shown' hlater
    obtain ⟨hcontents, -, -⟩ := run_of_closed hlater hclosed
    refine ⟨hcontents, ?_, run_refused hlater hclosed⟩
    have hrun := run_closings hlater
    rw [hcontents, hclosed] at hrun
    exact List.eq_nil_of_length_eq_zero hrun
  · intro c hc
    have hcaller := hattentive.caller?_of_mem hc
    refine ⟨step_isSome hfree hcaller ?_, ?_⟩
    · -- a wait would need the queue to be open
      intro q hq
      exact absurd (hclosed.symm.trans (hattentive.atOpen c hc q hq)) Bool.false_ne_true
    · intro luck m' s hstep
      obtain ⟨d, answer, hd, hreply, hrefused⟩ := (stepped_of_step hstep).refused hclosed
      obtain rfl := Option.some.inj (hcaller.symm.trans hd)
      exact ⟨answer, hreply, hrefused⟩

/-- A taker waits, an item is added for it, and before it has the lock back a drainer comes to wait and
    another thread shuts the queue down. -/
def overtaken : List (Move Nat) :=
  [.call 3 (.take true), .turn 3 {}, .call 0 (.add 7), .turn 0 { chosen := some 3 },
    .call 1 .shutDownWhenDrained, .turn 1 {}, .call 2 .shutDown, .turn 2 {}]

/-- The queue after these moves, with what they have shown. -/
def afterOvertaking : Monitor Nat × List (Shown Nat) :=
  (({ mutex := { name := "q-lock" } } : Monitor Nat).run overtaken).getD
    ({ mutex := { name := "q-lock" } }, [])

/-- The taker, the drainer and a late addition after that. -/
def latecomers : List (Move Nat) :=
  [.turn 3 {}, .call 0 (.add 8), .turn 1 {}, .turn 0 {}]

theorem closes_once_overtaken :
    ({ mutex := { name := "q-lock" } } : Monitor Nat).run overtaken =
      some (afterOvertaking.1, afterOvertaking.2) ∧
    closings afterOvertaking.2 = [⟨2, .shutDown, .flag true⟩] ∧
    (afterOvertaking.1.step 1 (afterOvertaking.1.goodLuck 1)).isSome ∧
    ∃ last shown', afterOvertaking.1.run latecomers = some (last, shown') ∧
      last.contents = { items := [7], running := false } ∧
      shown'.filterMap (·.reply) =
        [⟨3, .take true, .notRunning⟩, ⟨1, .shutDownWhenDrained, .flag false⟩,
          ⟨0, .add 8, .rejected 8⟩] := by
  have hrun : ({ mutex := { name := "q-lock" } } : Monitor Nat).run overtaken =
      some (afterOvertaking.1, afterOvertaking.2) := by
    decide
  have hlater : (afterOvertaking.1.run latecomers).isSome := by decide
  obtain ⟨-, -, hfinal⟩ := closes_once rfl hrun
  obtain ⟨hstays, hturns⟩ := hfinal (by decide)
  have hcontents := (hstays _ _ _ (Option.some_get hlater).symm).1
  have hdrainer := (hturns ⟨1, .shutDownWhenDrained, .woken true⟩ (by decide)).1
  exact ⟨hrun, by decide, hdrainer, _, _, (Option.some_get hlater).symm,
    hcontents.trans (by decide), by decide⟩

end Monitor

end PooledServer.Queue
