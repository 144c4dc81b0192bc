import PooledServer.Proofs.Queue.Turn

/-!
# First in, first out

    Whatever threads do at a queue, the items that were accepted, in the order of their acceptance, are
    the items that were handed out, in the order of the takes, followed by the items still queued.

    One reply keeps the balance: what it accepts goes to the end of the queue and what it hands out
    comes from the front.  The balance of a run is the sum of those of its replies. -/

namespace PooledServer.Queue

variable {α : Type}

/-! ## The balance of one step -/

theorem accepted_cons (s : Shown α) (later : List (Shown α)) :
    accepted (s :: later) = accepted [s] ++ accepted later :=
  List.filterMap_append (l := [s])

theorem handedOut_cons (s : Shown α) (later : List (Shown α)) :
    handedOut (s :: later) = handedOut [s] ++ handedOut later :=
  List.filterMap_append (l := [s])

/-- What an answer accepts goes to the end of the queue, and what it hands out comes from the front. -/
theorem Request.Leaves.balance {wait : Bool} {c contents : Contents α} {r : Request α}
    {answer : Answer α} {sent : List Signal} (h : r.Leaves wait c contents answer sent)
    (t : ThreadId) (reports : List (Report α)) :
    c.items ++ accepted [⟨some ⟨t, r, answer⟩, reports⟩]
      = handedOut [⟨some ⟨t, r, answer⟩, reports⟩] ++ contents.items := by
  cases h with
  | added item hr => rfl
  | tookLast block item hr hi =>
      rw [hi]
      rfl
  | tookFirst block item next rest hr hi =>
      rw [hi]
      exact List.append_nil _
  | _ => exact List.append_nil _

/-- A request that is turned away at the lock moves no item. -/
theorem Request.lockFailure_balance (r : Request α) (items : List α) (t : ThreadId)
    (reports : List (Report α)) :
    items ++ accepted [⟨some ⟨t, r, r.lockFailure.1⟩, reports⟩]
      = handedOut [⟨some ⟨t, r, r.lockFailure.1⟩, reports⟩] ++ items := by
  cases r <;> exact List.append_nil _

namespace Monitor

/-- A step keeps the balance. -/
theorem Stepped.balance {m m' : Monitor α} {t : ThreadId} {luck : Luck} {shown : Shown α}
    (h : m.Stepped t luck m' shown) :
    m.contents.items ++ accepted [shown] = handedOut [shown] ++ m'.contents.items := by
  cases h with
  | turnedAway c hc hs hl => exact c.request.lockFailure_balance _ t _
  | waits c hc hs mutex free q h => exact List.append_nil _
  | leaves c hc hs mutex free contents answer sent reports callers h hsent =>
      exact (Request.leaves_of_outcome h).balance t reports

/-- Any move keeps the balance: calls and spurious wake-ups move no item. -/
theorem move_balance {m m' : Monitor α} {move : Move α} {shown : Shown α}
    (h : m.move move = some (m', shown)) :
    m.contents.items ++ accepted [shown] = handedOut [shown] ++ m'.contents.items := by
  cases move with
  | call t request =>
      obtain ⟨m₁, hcall, heq⟩ := Option.map_eq_some_iff.mp h
      obtain ⟨rfl, rfl⟩ := Prod.mk.inj heq
      simp only [call] at hcall
      split at hcall
      · exact nomatch hcall
      · rw [← Option.some.inj hcall]
        exact List.append_nil _
  | turn t luck => exact (stepped_of_step h).balance
  | wakeUp t =>
      obtain ⟨m₁, hwake, heq⟩ := Option.map_eq_some_iff.mp h
      obtain ⟨rfl, rfl⟩ := Prod.mk.inj heq
      simp only [wakeUp] at hwake
      split at hwake
      · rw [← Option.some.inj hwake]
        exact List.append_nil _
      · exact nomatch hwake

/-- The balance of a run, from whatever the queue holds at its start. -/
theorem run_balance {moves : List (Move α)} :
    ∀ {m m' : Monitor α} {shown : List (Shown α)}, m.run moves = some (m', shown) →
      m.contents.items ++ accepted shown = handedOut shown ++ m'.contents.items := by
  -- from the front, with the queue general: a run goes on from whatever the first move leaves
  induction moves with
  | nil =>
      intro m m' shown h
      obtain ⟨rfl, rfl⟩ := Prod.mk.inj (Option.some.inj h)
      exact List.append_nil _
  | cons move rest ih =>
      intro m m' shown h
      obtain ⟨⟨m₁, s⟩, h₁, h₂⟩ := Option.bind_eq_some_iff.mp h
      obtain ⟨⟨m₂, later⟩, h₃, h₄⟩ := Option.map_eq_some_iff.mp h₂
      obtain ⟨rfl, rfl⟩ := Prod.mk.inj h₄
      calc m.contents.items ++ accepted (s :: later)
          = (m.contents.items ++ accepted [s]) ++ accepted later := by
            rw [accepted_cons s later, List.append_assoc]
        _ = (handedOut [s] ++ m₁.contents.items) ++ accepted later := by rw [move_balance h₁]
        _ = handedOut [s] ++ (handedOut later ++ m₂.contents.items) := by
            rw [List.append_assoc, ih h₃]
        _ = handedOut (s :: later) ++ m₂.contents.items := by
            rw [handedOut_cons s later, List.append_assoc]

/-! ## Rejected items -/

/-- A step that answers an addition either accepts the item or hands it back. -/
theorem Stepped.add_answer {m m' : Monitor α} {t u : ThreadId} {luck : Luck} {shown : Shown α}
    {item : α} {answer : Answer α} (h : m.Stepped t luck m' shown)
    (hr : shown.reply = some ⟨u, .add item, answer⟩) : answer = .added ∨ answer = .rejected item := by
  cases h with
  | turnedAway c hc hs hl =>
      obtain ⟨-, hreq, rfl⟩ := Reply.mk.inj (Option.some.inj hr)
      rw [hreq]
      exact Or.inr rfl
  | waits c hc hs mutex free q h => exact nomatch hr
  | leaves c hc hs mutex free contents answer' sent reports callers h hsent =>
      obtain ⟨-, hreq, rfl⟩ := Reply.mk.inj (Option.some.inj hr)
      rw [hreq] at h
      cases Request.leaves_of_outcome h with
      | added => exact Or.inl rfl
      | rejected => exact Or.inr rfl

/-- Throughout a run, every answered addition has been accepted or handed back. -/
theorem run_add_answers {moves : List (Move α)} :
    ∀ {m m' : Monitor α} {shown : List (Shown α)}, m.run moves = some (m', shown) →
      ∀ s ∈ shown, ∀ t item answer, s.reply = some ⟨t, .add item, answer⟩ →
        answer = .added ∨ answer = .rejected item := by
  induction moves with
  | nil =>
      intro m m' shown h s hs
      obtain ⟨-, rfl⟩ := Prod.mk.inj (Option.some.inj h)
      exact nomatch hs
  | cons move rest ih =>
      intro m m' shown h s hs t item answer hr
      obtain ⟨⟨m₁, s₁⟩, h₁, h₂⟩ := Option.bind_eq_some_iff.mp h
      obtain ⟨⟨m₂, later⟩, h₃, h₄⟩ := Option.map_eq_some_iff.mp h₂
      obtain ⟨rfl, rfl⟩ := Prod.mk.inj h₄
      rcases List.mem_cons.mp hs with rfl | hmem
      -- only turns answer
      · cases move with
        | call u request =>
            obtain ⟨_, _, heq⟩ := Option.map_eq_some_iff.mp h₁
            rw [← (Prod.mk.inj heq).2] at hr
            exact nomatch hr
        | turn u luck => exact (stepped_of_step h₁).add_answer hr
        | wakeUp u =>
            obtain ⟨_, _, heq⟩ := Option.map_eq_some_iff.mp h₁
            rw [← (Prod.mk.inj heq).2] at hr
            exact nomatch hr
      · exact ih h₃ s hmem t item answer hr

end Monitor

/-- An accepted item is one that some reply has accepted. -/
theorem mem_accepted {shown : List (Shown α)} {item : α} (h : item ∈ accepted shown) :
    ∃ s ∈ shown, ∃ t, s.reply = some ⟨t, .add item, .added⟩ := by
  obtain ⟨s, hs, hm⟩ := List.mem_filterMap.mp h
  split at hm
  · rename_i t x hreply
    exact ⟨s, hs, t, by rw [hreply, Option.some.inj hm]⟩
  · exact nomatch hm

/-- **FIRST IN, FIRST OUT**: in every state that a new queue can come to, under any interleaving, the
    accepted items in order of acceptance are those handed out in order of the takes followed by those
    still queued.  An addition is answered by accepting the item or by handing that same item back,
    and an item that was only ever handed back is not queued and has gone to nobody. -/
theorem Monitor.run_fifo {mutex : Sync.Mutex} {moves : List (Move α)} {m : Monitor α}
    {shown : List (Shown α)} (h : ({ mutex } : Monitor α).run moves = some (m, shown)) :
    accepted shown = handedOut shown ++ m.contents.items ∧
    (∀ s ∈ shown, ∀ t item answer, s.reply = some ⟨t, .add item, answer⟩ →
      answer = .added ∨ answer = .rejected item) ∧
    ∀ item, (∀ s ∈ shown, ∀ t answer, s.reply = some ⟨t, .add item, answer⟩ →
      answer = .rejected item) → item ∉ m.contents.items ∧ item ∉ handedOut shown := by
  have hbalance : accepted shown = handedOut shown ++ m.contents.items := run_balance h
  refine ⟨hbalance, run_add_answers h, ?_⟩
  intro item hrejected
  -- whatever was queued or handed out has been accepted
  have hnot : item ∉ accepted shown := by
    intro hmem
    obtain ⟨s, hs, t, hreply⟩ := mem_accepted hmem
    exact nomatch hrejected s hs t .added hreply
  rw [hbalance, List.mem_append, not_or] at hnot
  exact hnot.symm

/-- A taker waits, two items arrive, it takes the first, and a third comes after the shutdown. -/
def burst : List (Move Nat) :=
  [.call 0 (.take true), .turn 0 {}, .call 1 (.add 7), .turn 1 { chosen := some 0 },
    .call 2 (.add 8), .turn 2 {}, .turn 0 {}, .call 1 .shutDown, .turn 1 {},
    .call 2 (.add 9), .turn 2 {}]

theorem Monitor.run_fifo_burst :
    ∃ (m : Monitor Nat) (shown : List (Shown Nat)),
      ({ mutex := { name := "q-lock" } } : Monitor Nat).run burst = some (m, shown) ∧
      (accepted shown, handedOut shown, m.contents.items) = ([7, 8], [7], [8]) ∧
      accepted shown = handedOut shown ++ m.contents.items ∧ 9 ∉ m.contents.items := by
  have hsome : (({ mutex := { name := "q-lock" } } : Monitor Nat).run burst).isSome := by decide
  have hrun := (Option.some_get hsome).symm
  refine ⟨_, _, hrun, by decide, (run_fifo hrun).1, by decide⟩

end PooledServer.Queue
