import PooledServer.Proofs.Queue.Order
import PooledServer.Proofs.Queue.Wakeup

/-!
# Closing a queue that drains

    A drainer looks at the queue again whenever it has the lock back, and closes it in the same turn in
    which it finds it empty, so items that were accepted between the signal and that turn are waited for
    too.  Whoever else waits for the queue to drain is told the truth in the turn that answers it, and
    nobody waits for that at a queue that is empty or closed (`Monitor.draining_closes`).

    A closed queue stays as it is: it takes nothing in and hands nothing out. -/

namespace PooledServer.Queue

variable {α : Type}

/-! ## What a closed queue does -/

/-- Closed contents are left alone, and the answer moves no item. -/
theorem Request.Leaves.of_closed {wait : Bool} {c contents : Contents α} {r : Request α}
    {answer : Answer α} {sent : List Signal} (h : r.Leaves wait c contents answer sent)
    (hclosed : c.running = false) (t : ThreadId) (reports : List (Report α)) :
    contents = c ∧ accepted [⟨some ⟨t, r, answer⟩, reports⟩] = [] ∧
      handedOut [⟨some ⟨t, r, answer⟩, reports⟩] = [] := by
  have hopen : c.running ≠ true := hclosed ▸ Bool.false_ne_true
  cases h with
  | added item hr => exact absurd hr hopen
  | tookLast block item hr hi => exact absurd hr hopen
  | tookFirst block item next rest hr hi => exact absurd hr hopen
  | foundEmpty hr hi => exact absurd hr hopen
  | takeFailed hr hi hw => exact absurd hr hopen
  | closed hr => exact absurd hr hopen
  | drained hr hi => exact absurd hr hopen
  | drainFailed hr hi hw => exact absurd hr hopen
  | waitFailed hr hi hw => exact absurd hr hopen
  | _ => exact ⟨rfl, rfl, rfl⟩

namespace Monitor

variable {m m' : Monitor α} {t : ThreadId} {luck : Luck} {s : Shown α} {moves : List (Move α)}
  {shown : List (Shown α)}

theorem Stepped.of_closed (h : m.Stepped t luck m' s) (hclosed : m.contents.running = false) :
    m'.contents = m.contents ∧ accepted [s] = [] ∧ handedOut [s] = [] := by
  cases h with
  | turnedAway c hc hs hl =>
      cases c.request <;> exact ⟨rfl, rfl, rfl⟩
  | waits c hc hs mutex free q h => exact ⟨rfl, rfl, rfl⟩
  | leaves c hc hs mutex free contents answer sent reports callers h hsent =>
      exact (Request.leaves_of_outcome h).of_closed hclosed t reports

/-- No move opens a closed queue, or moves an item of it. -/
theorem move_of_closed {move : Move α} (h : m.move move = some (m', s))
    (hclosed : m.contents.running = false) :
    m'.contents = m.contents ∧ accepted [s] = [] ∧ handedOut [s] = [] := by
  cases move with
  | call t request =>
      obtain ⟨m₁, hcall, heq⟩ := Option.map_eq_some_iff.mp h
      obtain ⟨rfl, rfl⟩ := Prod.mk.inj heq
      simp only [call] at hcall
      split at hcall
      · cases hcall
      · rw [← Option.some.inj hcall]
        exact ⟨rfl, rfl, rfl⟩
  | turn t luck => exact (stepped_of_step h).of_closed hclosed
  | wakeUp t =>
      obtain ⟨m₁, hwake, heq⟩ := Option.map_eq_some_iff.mp h
      obtain ⟨rfl, rfl⟩ := Prod.mk.inj heq
      simp only [wakeUp] at hwake
      split at hwake
      · rw [← Option.some.inj hwake]
        exact ⟨rfl, rfl, rfl⟩
      · cases hwake

/-- **A CLOSED QUEUE STAYS AS IT IS**: it accepts nothing and hands nothing out. -/
theorem run_of_closed (h : m.run moves = some (m', shown)) (hclosed : m.contents.running = false) :
    m'.contents = m.contents ∧ accepted shown = [] ∧ handedOut shown = [] := by
  induction moves generalizing m shown with
  | nil =>
      obtain ⟨rfl, rfl⟩ := Prod.mk.inj (Option.some.inj h)
      exact ⟨rfl, rfl, rfl⟩
  | cons move rest ih =>
      obtain ⟨⟨m₁, s⟩, h₁, h₂⟩ := Option.bind_eq_some_iff.mp h
      obtain ⟨⟨m₂, later⟩, h₃, h₄⟩ := Option.map_eq_some_iff.mp h₂
      obtain ⟨rfl, rfl⟩ := Prod.mk.inj h₄
      obtain ⟨hcontents, haccepted, hhandedOut⟩ := move_of_closed h₁ hclosed
      obtain ⟨hcontents', haccepted', hhandedOut'⟩ := ih h₃ (hcontents ▸ hclosed)
      refine ⟨hcontents'.trans hcontents, ?_, ?_⟩
      · rw [accepted_cons, haccepted, haccepted']
        rfl
      · rw [handedOut_cons, hhandedOut, hhandedOut']
        rfl

/-! ## What waiting for the end is answered -/

/-- What a step answers is what the request leaves, unless the lock has failed. -/
theorem Stepped.reply {u : ThreadId} {r : Request α} {answer : Answer α}
    (h : m.Stepped t luck m' s) (hreply : s.reply = some ⟨u, r, answer⟩) :
    answer = r.lockFailure.1 ∧ m'.contents = m.contents ∨
      ∃ sent, r.Leaves luck.wait m.contents m'.contents answer sent := by
  cases h with
  | turnedAway c hc hs hl =>
      obtain ⟨-, rfl, rfl⟩ := Reply.mk.inj (Option.some.inj hreply)
      exact Or.inl ⟨rfl, rfl⟩
  | waits c hc hs mutex free q h => exact nomatch hreply
  | leaves c hc hs mutex free contents answer' sent reports callers h hsent =>
      obtain ⟨-, rfl, rfl⟩ := Reply.mk.inj (Option.some.inj hreply)
      exact Or.inr ⟨sent, Request.leaves_of_outcome h⟩

/-- A drainer that has closed the queue found it open and empty. -/
theorem Stepped.drained {u : ThreadId} (h : m.Stepped t luck m' s) (hwait : luck.wait = true)
    (hreply : s.reply = some ⟨u, .shutDownWhenDrained, .flag true⟩) :
    m.contents = { items := [], running := true } ∧
      m'.contents = { items := [], running := false } := by
  rcases h.reply hreply with ⟨hfailed, -⟩ | ⟨sent, hleaves⟩
  · exact nomatch hfailed
  · generalize hafter : m'.contents = after at hleaves
    generalize hbefore : m.contents = before at hleaves
    obtain ⟨items, running⟩ := before
    cases hleaves with
    | drained hr hi =>
        obtain rfl : running = true := hr
        obtain rfl : items = [] := hi
        exact ⟨rfl, rfl⟩
    | drainFailed hr hi hw => exact absurd (hw.symm.trans hwait) Bool.false_ne_true

/-- Whoever is told that the queue is empty finds it so. -/
theorem Stepped.sawEmpty {u : ThreadId} (h : m.Stepped t luck m' s)
    (hreply : s.reply = some ⟨u, .waitUntilEmpty, .flag true⟩) :
    m.contents.items = [] ∧ m'.contents = m.contents := by
  rcases h.reply hreply with ⟨hfailed, -⟩ | ⟨sent, hleaves⟩
  · exact nomatch hfailed
  · generalize hafter : m'.contents = after at hleaves
    generalize hanswer : Answer.flag true = answer at hleaves
    cases hleaves with
    | sawEnd hend =>
        injection hanswer with hempty
        exact ⟨List.isEmpty_iff.mp hempty.symm, rfl⟩
    | waitFailed hr hi hw => exact nomatch hanswer

/-- **A QUEUE THAT DRAINS IS CLOSED WHEN IT IS EMPTY**, under any interleaving.  With waits that work, a
    drainer that is answered yes has closed the queue in a turn in which it was open and held no item;
    all that was accepted before has been handed out, and nothing is accepted or handed out later.
    Whoever waited for the queue to drain and is answered yes leaves it empty.  Nobody is blocked on that
    without a signal while the queue is empty or closed. -/
theorem draining_closes {mutex : Sync.Mutex} (h : ({ mutex } : Monitor α).run moves = some (m, shown)) :
    (∀ t luck m' s, luck.wait = true → m.step t luck = some (m', s) →
      (∀ u, s.reply = some ⟨u, .shutDownWhenDrained, .flag true⟩ →
        m.contents = { items := [], running := true } ∧
        m'.contents = { items := [], running := false } ∧
        accepted shown = handedOut shown ∧
        ∀ later last shown', m'.run later = some (last, shown') →
          last.contents = m'.contents ∧ accepted shown' = [] ∧ handedOut shown' = []) ∧
      ∀ u, s.reply = some ⟨u, .waitUntilEmpty, .flag true⟩ →
        m.contents.items = [] ∧ m'.contents = m.contents) ∧
    ∀ c ∈ m.callers, c.stage = .waiting .drained →
      m.contents.items ≠ [] ∧ m.contents.running = true := by
  have hattentive : m.Attentive := attentive_of_run h
  refine ⟨?_, fun c hc hw => ⟨hattentive.atItems c hc hw, hattentive.atOpen c hc _ hw⟩⟩
  intro t luck m' s hwait hstep
  have hstepped := stepped_of_step hstep
  refine ⟨?_, fun u hreply => hstepped.sawEmpty hreply⟩
  intro u hreply
  obtain ⟨hbefore, hafter⟩ := hstepped.drained hwait hreply
  refine ⟨hbefore, hafter, ?_, ?_⟩
  · have hbalance := run_balance h
    rwa [hbefore, List.append_nil] at hbalance
  · intro later last shown' hlater
    exact run_of_closed hlater (by rw [hafter])

/-- A drainer and an observer wait for an item to be taken.  Before the drainer has the lock back another
    item is accepted, so it waits again, until that is taken too. -/
def refilled : List (Move Nat) :=
  [.call 0 (.add 7), .turn 0 {}, .call 1 .shutDownWhenDrained, .turn 1 {}, .call 2 .waitUntilEmpty,
    .turn 2 {}, .call 3 (.take false), .turn 3 {}, .call 0 (.add 8), .turn 0 {}, .turn 1 {},
    .call 3 (.take true), .turn 3 {}]

/-- The queue after these moves, with what they have shown. -/
def afterRefill : Monitor Nat × List (Shown Nat) :=
  (({ mutex := { name := "q-lock" } } : Monitor Nat).run refilled).getD
    ({ mutex := { name := "q-lock" } }, [])

theorem draining_closes_refilled :
    ({ mutex := { name := "q-lock" } } : Monitor Nat).run refilled =
      some (afterRefill.1, afterRefill.2) ∧
    accepted afterRefill.2 = [7, 8] ∧
    (∃ m' s, afterRefill.1.step 1 {} = some (m', s) ∧
      s.reply = some ⟨1, .shutDownWhenDrained, .flag true⟩ ∧
      accepted afterRefill.2 = handedOut afterRefill.2 ∧
      m'.contents = { items := [], running := false }) ∧
    ∀ c ∈ afterRefill.1.callers, c.stage = .waiting .drained → afterRefill.1.contents.items ≠ [] := by
  have hrun : ({ mutex := { name := "q-lock" } } : Monitor Nat).run refilled =
      some (afterRefill.1, afterRefill.2) := by
    decide
  have hcloses : (afterRefill.1.step 1 {}).isSome := by decide
  have hstep := (Option.some_get hcloses).symm
  obtain ⟨hturns, hblocked⟩ := draining_closes hrun
  obtain ⟨-, hafter, hall, -⟩ := (hturns 1 {} _ _ rfl hstep).1 1 (by decide)
  exact ⟨hrun, by decide, ⟨_, _, hstep, by decide, hall, hafter⟩, fun c hc hw => (hblocked c hc hw).1⟩

end Monitor

end PooledServer.Queue
