import PooledServer.Proofs.Pool.Rounds
import PooledServer.Proofs.Pool.Loops

/-!
# What the steps of a pool tell

    Events happen where items are executed, and nowhere else: neither the queue nor a submission nor an
    order of the pool's owner tells any (`events_of_turn`, `events_of_submission`, `events_of_order`).

    A worker among other workers takes the steps of its loop, with what each leaves behind
    (`acts_of_workerStep`). -/

namespace PooledServer.Pool

open Work (Item Note Phase Execution TaskId)

namespace State

variable {s s' : State} {t : ThreadId} {id : Nat} {p : WorkerPoint} {luck : Luck} {notes : List Note}

/-! ## Nothing is told -/

theorem events_queueNotes (name : String) (reports : List (Queue.Report Item)) :
    Note.events (queueNotes name reports) = [] := by
  refine List.filterMap_eq_nil_iff.mpr fun n hn => ?_
  obtain ⟨r, -, rfl⟩ := List.mem_map.mp hn
  rfl

theorem events_replyNotes (reply : Queue.Reply Item) : Note.events (replyNotes reply) = [] := by
  simp only [replyNotes]
  split <;> rfl

theorem events_of_turn {answer : Option (Queue.Answer Item)}
    (h : s.turn t luck = some (s', answer, notes)) : Note.events notes = [] := by
  obtain ⟨⟨monitor, shown⟩, -, heq⟩ := Option.map_eq_some_iff.mp h
  obtain ⟨-, hrest⟩ := Prod.mk.inj heq
  obtain ⟨-, rfl⟩ := Prod.mk.inj hrest
  rw [Note.events_append, events_queueNotes, List.nil_append]
  cases shown.reply with
  | none => rfl
  | some reply => exact events_replyNotes reply

/-- A submission tells nothing. -/
theorem events_of_submission {item : Item} {inQueue : Bool}
    (here : s.activity? t = some (.submission item inQueue))
    (h : s.step t luck = some (s', notes)) : Note.events notes = [] := by
  simp only [step] at h
  rw [here] at h
  cases inQueue with
  | false =>
      simp only at h
      split at h
      · obtain ⟨s₁, -, heq⟩ := Option.map_eq_some_iff.mp h
        obtain ⟨-, rfl⟩ := Prod.mk.inj heq
        rfl
      · cases h
        rfl
  | true =>
      obtain ⟨⟨s₁, answer, notes₁⟩, hturn, heq⟩ := Option.map_eq_some_iff.mp h
      have hnone := events_of_turn hturn
      cases answer <;> cases heq <;> exact hnone

/-- Making a worker tells nothing. -/
theorem events_of_hire (s : State) (luck : Luck) : Note.events (s.hire luck).2.1 = [] := by
  simp only [hire]
  split
  · rfl
  · split <;> rfl

/-- What follows a thread's question is its own note, if any. -/
theorem notes_of_ask {r : Queue.Request Item} {a : Activity} {later : List Note}
    (h : (s.ask t r a).map (·, later) = some (s', notes)) : notes = later := by
  obtain ⟨s₁, -, heq⟩ := Option.map_eq_some_iff.mp h
  exact (Prod.mk.inj heq).2.symm

/-- Nor does an order. -/
theorem events_of_order {p : OrderPoint} (here : s.activity? t = some (.order p))
    (h : s.step t luck = some (s', notes)) : Note.events notes = [] := by
  simp only [step] at h
  rw [here] at h
  cases p with
  | begun order =>
      cases order with
      | start =>
          simp only [orderStep] at h
          split at h
          · cases h
            rfl
          · rw [notes_of_ask (s := s) h]
            rfl
      | grow count =>
          simp only [orderStep] at h
          split at h
          · cases h
            rfl
          · split at h <;> cases h <;> rfl
      | stop measures =>
          simp only [orderStep] at h
          split at h
          · cases h
            rfl
          · split at h <;> rw [notes_of_ask h] <;> rfl
  | asking =>
      obtain ⟨⟨s₁, answer, notes₁⟩, hturn, heq⟩ := Option.map_eq_some_iff.mp h
      have hnone := events_of_turn hturn
      dsimp only at heq
      split at heq <;> cases heq <;> exact hnone
  | hiring left =>
      cases left with
      | zero =>
          cases h
          rfl
      | succ left =>
          have hnone := events_of_hire s luck
          simp only [orderStep] at h
          split at h <;> rename_i s₁ made hhire <;> rw [hhire] at hnone
          · cases h
            exact hnone
          · rw [notes_of_ask h, Note.events_append, hnone]
            rfl
  | growing left =>
      cases left with
      | zero =>
          cases h
          rfl
      | succ left =>
          have hnone := events_of_hire s luck
          simp only [orderStep] at h
          split at h <;> rename_i s₁ made hhire <;> rw [hhire] at hnone
          · split at h <;> cases h <;> exact hnone
          · cases h
            exact hnone
  | measuring =>
      obtain ⟨⟨s₁, answer, notes₁⟩, hturn, hrest⟩ := Option.bind_eq_some_iff.mp h
      have hnone := events_of_turn hturn
      cases answer with
      | none =>
          cases hrest
          exact hnone
      | some answer =>
          rw [notes_of_ask hrest, Note.events_append, hnone]
          rfl
  | draining =>
      obtain ⟨⟨s₁, answer, notes₁⟩, hturn, hrest⟩ := Option.bind_eq_some_iff.mp h
      have hnone := events_of_turn hturn
      cases answer with
      | none =>
          cases hrest
          exact hnone
      | some answer =>
          rw [notes_of_ask hrest]
          exact hnone
  | closing failure =>
      obtain ⟨⟨s₁, answer, notes₁⟩, hturn, heq⟩ := Option.map_eq_some_iff.mp h
      have hnone := events_of_turn hturn
      cases answer <;> cases heq <;> exact hnone
  | dismissing left failure =>
      cases left <;> cases h <;> rfl
  | joining failure =>
      simp only [orderStep] at h
      split at h
      · cases failure <;> cases h <;> rfl
      · split at h
        · cases h
          cases luck.join <;> rfl
        · cases h

/-! ## The steps of a worker among others -/

theorem activity?_place_self {a b : Activity} (here : s.activity? t = some a) :
    (s.place t b).activity? t = some b := by
  rw [activity?_place here, Function.update_self]

/-- The worker has its turn at the queue. -/
theorem acts_of_taking (hlock : luck.lock = true) (hwait : luck.wait = true)
    (here : s.activity? t = some (.worker id .taking)) (hasked : s.monitor.asked t = some (.take true))
    (h : s.workerStep t luck id .taking = some (s', notes)) :
    ∃ q, s'.activity? t = some (.worker id q) ∧ WorkerPoint.Acts id .taking (Note.deeds notes) q := by
  obtain ⟨⟨s₁, answer, notes₁⟩, hturn, heq⟩ := Option.map_eq_some_iff.mp h
  obtain ⟨r, monitor, rfl, hcases⟩ := turn_deeds hlock hwait hturn
  rcases hcases with ⟨-, rfl, hnotes⟩ | ⟨a, hanswered, rfl, hnotes⟩
  · obtain ⟨rfl, rfl⟩ := Prod.mk.inj heq
    rw [hnotes]
    exact ⟨.taking, here, .waits⟩
  · obtain rfl := Option.some.inj (hanswered.asked_self.symm.trans hasked)
    have here' : State.activity? { s with monitor } t = some (.worker id .taking) := here
    rcases hanswered.take with ⟨item, rfl, -⟩ | ⟨rfl, -⟩
    · obtain ⟨rfl, rfl⟩ := Prod.mk.inj heq
      rw [hnotes]
      exact ⟨.holding item, activity?_place_self here', .takes item⟩
    · obtain ⟨rfl, rfl⟩ := Prod.mk.inj heq
      rw [hnotes]
      exact ⟨.leaving, activity?_place_self here', .sentAway⟩

/-- The worker goes on with its item. -/
theorem acts_of_executing (hlock : luck.lock = true) (hwait : luck.wait = true) {e : Execution}
    (here : s.activity? t = some (.worker id (.executing e)))
    (hasked : s.monitor.asked t = phaseAsks e.phase)
    (h : s.workerStep t luck id (.executing e) = some (s', notes)) :
    ∃ q, s'.activity? t = some (.worker id q) ∧
      WorkerPoint.Acts id (.executing e) (Note.deeds notes) q := by
  obtain ⟨item, phase⟩ := e
  have hstep : s.executionStep t luck ⟨item, phase⟩ (fun e => .worker id (.executing e)) =
      some (s', notes) → ∃ q, s'.activity? t = some (.worker id q) ∧
        WorkerPoint.Acts id (.executing ⟨item, phase⟩) (Note.deeds notes) q := by
    intro h
    obtain ⟨count, phase', monitor, registry, rfl, hacts, -, -⟩ :=
      acts_of_executionStep hlock hwait hasked h
    exact ⟨_, activity?_place_self (s := { s with monitor, registry }) here, .executes item hacts⟩
  -- only the end of an execution is the worker's own step
  cases phase with
  | concluded ended =>
      cases ended with
      | returned outcome =>
          cases outcome with
          | completed =>
              cases h
              exact ⟨_, activity?_place_self here, .returns item _⟩
          | panicked message =>
              cases h
              exact ⟨_, activity?_place_self here, .returns item _⟩
      | escaped message =>
          cases h
          exact ⟨_, activity?_place_self here, .escapes item message⟩
  | ready => exact hstep h
  | acting count rest => exact hstep h
  | offering count child inQueue rest => exact hstep h
  | ran outcome => exact hstep h
  | hooked outcome => exact hstep h

/-- **A WORKER'S STEP** is one of its loop, whoever else is there. -/
theorem acts_of_workerStep (hlock : luck.lock = true) (hwait : luck.wait = true)
    (here : s.activity? t = some (.worker id p)) (hasked : s.monitor.asked t = p.asks)
    (h : s.workerStep t luck id p = some (s', notes)) :
    ∃ q, s'.activity? t = some (.worker id q) ∧ p.Acts id (Note.deeds notes) q := by
  cases p with
  | starting task =>
      cases h
      exact ⟨.checking, activity?_place_self (s := s.updateWorker id _) here, .starts task⟩
  | checking =>
      simp only [workerStep] at h
      split at h
      · cases h
        exact ⟨.leaving, activity?_place_self here, .quits⟩
      · obtain ⟨s₁, hask, heq⟩ := Option.map_eq_some_iff.mp h
        obtain ⟨rfl, rfl⟩ := Prod.mk.inj heq
        obtain ⟨monitor, -, rfl⟩ := ask_cases hask
        exact ⟨.taking, activity?_place_self (s := { s with monitor }) here, .comes⟩
  | taking => exact acts_of_taking hlock hwait here hasked h
  | holding item =>
      cases h
      exact ⟨_, activity?_place_self here, .stamps item⟩
  | executing e => exact acts_of_executing hlock hwait here hasked h
  | counting task =>
      cases h
      exact ⟨.checking, activity?_place_self (s := s.updateWorker id _) here, .counts task⟩
  | leaving =>
      cases h
      exact ⟨_, activity?_place_self here, .leaves⟩
  | ending escaped =>
      cases h
      refine ⟨.ended, activity?_place_self (s := s.updateWorker id _) here, ?_⟩
      cases escaped <;> exact .ends _
  | ended => cases h

end State

end PooledServer.Pool
