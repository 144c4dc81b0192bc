import PooledServer.Proofs.Queue.Turn

/-!
# Turns that can be had

    Between moves nobody holds the lock, so a thread inside that does not wait can have its turn: with
    primitives that work, and with a waiter chosen for the signal that the turn may send. -/

namespace PooledServer.Queue

variable {α : Type}

namespace Request.Leaves

/-- A turn signals everybody, or one taker, or nobody. -/
theorem sent_eq {wait : Bool} {c contents : Contents α} {r : Request α} {answer : Answer α}
    {sent : List Signal} (h : r.Leaves wait c contents answer sent) :
    (∀ s ∈ sent, ∃ q, s = .all q) ∨ sent = [.one .notEmpty] := by
  cases h with
  | added item hr =>
      split
      · exact Or.inr rfl
      · exact Or.inl fun s hs => (nomatch hs)
  | tookLast => exact Or.inl fun s hs => ⟨.drained, List.mem_singleton.mp hs⟩
  | tookFirst => exact Or.inr rfl
  | closed | drained | drainFailed =>
      refine Or.inl fun s hs => ?_
      rcases List.mem_cons.mp hs with rfl | hs
      · exact ⟨_, rfl⟩
      · exact ⟨_, List.mem_singleton.mp hs⟩
  | _ => exact Or.inl fun s hs => (nomatch hs)

end Request.Leaves

/-- Signals to all need nobody to be chosen. -/
theorem signals_isSome_of_all {chosen : Option ThreadId} {sent : List Signal}
    (h : ∀ s ∈ sent, ∃ q, s = .all q) (callers : List (Caller α)) :
    (signals chosen callers sent).isSome := by
  induction sent generalizing callers with
  | nil => rfl
  | cons s rest ih =>
      obtain ⟨q, rfl⟩ := h s (List.mem_cons_self ..)
      exact ih (fun s hs => h s (List.mem_cons_of_mem _ hs)) _

/-- The waiter that has been inside longest may always be chosen. -/
theorem signals_one_isSome (q : Condition) (callers : List (Caller α)) :
    (signals ((callers.find? (·.waitsOn q)).map (·.thread)) callers [.one q]).isSome := by
  simp only [signals]
  simp only [signal]
  split
  · rename_i hany
    obtain ⟨c, hc, hw⟩ := List.any_eq_true.mp hany
    cases hfind : callers.find? (·.waitsOn q) with
    | none => exact absurd hw (by simpa using List.find?_eq_none.mp hfind c hc)
    | some d =>
        -- whoever is found is a waiter, as the signal asks
        have hd : (callers.any fun e => e.thread == d.thread && e.waitsOn q) = true := by
          refine List.any_eq_true.mpr ⟨d, List.mem_of_find?_eq_some hfind, ?_⟩
          rw [beq_self_eq_true, Bool.true_and]
          exact List.find?_some (p := fun e : Caller α => e.waitsOn q) hfind
        simp only [Option.map_some, hd, if_true]
        rfl
  · rfl

namespace Monitor

/-- The luck of thread `t` when every primitive works. -/
def goodLuck (m : Monitor α) (t : ThreadId) : Luck where
  chosen := ((m.others t).find? (·.waitsOn .notEmpty)).map (·.thread)

/-- The holder of the lock can always end its turn. -/
theorem turn_isSome {m : Monitor α} {c : Caller α} (held : m.mutex.holder = some c.thread) :
    (m.turn (m.goodLuck c.thread) c).isSome := by
  simp only [turn]
  split
  · rename_i contents answer sent reports hturn
    have houtcome : c.request.outcome true m.contents = .leave contents answer sent reports := by
      simp only [Request.outcome]
      rw [hturn]
    have hl : c.request.Leaves true m.contents contents answer sent :=
      Request.leaves_of_outcome houtcome
    -- at most one signal needs somebody to be chosen, and it goes to the first taker
    have hsent : (signals (m.goodLuck c.thread).chosen (m.others c.thread) sent).isSome := by
      rcases hl.sent_eq with hall | hone
      · exact signals_isSome_of_all hall _
      · rw [hone]
        exact signals_one_isSome .notEmpty _
    obtain ⟨callers, hcallers⟩ := Option.isSome_iff_exists.mp hsent
    simp only [leave]
    rw [hcallers, Sync.Mutex.unlock, if_pos held]
    rfl
  · rename_i q hturn
    rw [Sync.Mutex.release, if_pos held]
    rfl

/-- A thread inside that does not wait can have its turn. -/
theorem step_isSome {m : Monitor α} (free : m.mutex.holder = none) {t : ThreadId} {c : Caller α}
    (hc : m.caller? t = some c) (hs : ∀ q, c.stage ≠ .waiting q) :
    (m.step t (m.goodLuck t)).isSome := by
  obtain rfl : c.thread = t := (mem_of_caller? hc).2
  simp only [step]
  rw [hc]
  simp only
  split
  · rename_i q hw
    exact absurd hw (hs q)
  · rw [if_pos (show (m.goodLuck c.thread).lock = true from rfl), Sync.Mutex.lock, free]
    exact turn_isSome (m := { m with mutex := _ }) rfl
  · rw [Sync.Mutex.retake, free]
    exact turn_isSome (m := { m with mutex := _ }) rfl

/-- Nobody holds the lock between moves. -/
theorem holder_eq_none {m m' : Monitor α} {move : Move α} {shown : Shown α}
    (free : m.mutex.holder = none) (h : m.move move = some (m', shown)) :
    m'.mutex.holder = none := by
  cases move with
  | call t r =>
      obtain ⟨m₁, hcall, heq⟩ := Option.map_eq_some_iff.mp h
      rw [← (Prod.mk.inj heq).1]
      simp only [call] at hcall
      split at hcall
      · exact nomatch hcall
      · rw [← Option.some.inj hcall]
        exact free
  | turn t luck =>
      cases stepped_of_step h with
      | turnedAway c hc hs hl => exact free
      | waits c hc hs mutex free' q h => exact free'
      | leaves c hc hs mutex free' contents answer sent reports callers h hsent => exact free'
  | wakeUp t =>
      obtain ⟨m₁, hwake, heq⟩ := Option.map_eq_some_iff.mp h
      rw [← (Prod.mk.inj heq).1]
      simp only [wakeUp] at hwake
      split at hwake
      · rw [← Option.some.inj hwake]
        exact free
      · exact nomatch hwake

end Monitor

end PooledServer.Queue
