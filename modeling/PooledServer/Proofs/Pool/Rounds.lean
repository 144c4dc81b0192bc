import PooledServer.Proofs.Pool.Steps
import PooledServer.Proofs.Work.Traces

/-!
# The rounds of a worker

    A worker goes round: it takes an item, stamps it, executes it to its end and counts it.
    `WorkerPoint.Acts` has the steps of the loop with what each leaves behind, whatever queue it stands
    at.  `WorkerPoint.Doing` says for every place in the loop what has been left since the last item was
    counted.

    So all that a worker has ever done is a list of whole rounds, one after the other, and the round that
    is on (`WorkerPoint.Account`).  The panic of an observer ends the last round before its item is
    counted, and with it the loop. -/

namespace PooledServer.Pool

open Work (Item Note Phase TaskId)

/-- The item as worker `id` executes it. -/
def stamped (item : Item) (id : Nat) : Item := { item with runBy := some id }

/-- An item that a worker has executed: the number of the run, and what the task has submitted. -/
structure Round where
  item : Item
  count : Nat
  offers : List (Item × Bool)
  made : offers.map (·.1.job.tag) = Work.submissions item.job.actions

namespace Round

/-- What a worker leaves behind when it takes the item, stamps it and executes it. -/
def executed (r : Round) (id : Nat) : List Note :=
  .handedOut r.item.id :: (stamped r.item id).trace (fun _ => []) r.count r.offers

/-- The whole round. -/
def notes (r : Round) (id : Nat) : List Note :=
  r.executed id ++ [.counted id r.item.id]

end Round

namespace WorkerPoint

/-! ## The loop -/

/-- The steps of the loop of worker `id`, with what each leaves behind. -/
inductive Acts (id : Nat) : WorkerPoint → List Note → WorkerPoint → Prop where
  | starts (task : TaskId) : Acts id (.starting task) [] .checking
  | quits : Acts id .checking [] .leaving
  | comes : Acts id .checking [] .taking
  | waits : Acts id .taking [] .taking
  | takes (item : Item) : Acts id .taking [.handedOut item.id] (.holding item)
  | sentAway : Acts id .taking [] .leaving
  | stamps (item : Item) : Acts id (.holding item) [] (.executing { item := stamped item id })
  | executes (item : Item) {count : Nat} {phase phase' : Phase} {new : List Note}
      (acts : item.Acts (fun _ => []) count phase new phase') :
      Acts id (.executing ⟨item, phase⟩) new (.executing ⟨item, phase'⟩)
  | returns (item : Item) (outcome : Work.Outcome) :
      Acts id (.executing ⟨item, .concluded (.returned outcome)⟩) [] (.counting item.id)
  | escapes (item : Item) (message : String) :
      Acts id (.executing ⟨item, .concluded (.escaped message)⟩) [] (.ending (some message))
  | counts (task : TaskId) : Acts id (.counting task) [.counted id task] .checking
  | leaves : Acts id .leaving [] (.ending none)
  | ends (escaped : Option String) : Acts id (.ending escaped) [] .ended

/-- Between two rounds, or before the first or after the last. -/
def isBetween : WorkerPoint → Bool
  | .starting _ | .checking | .taking | .leaving | .ending none | .ended => true
  | .holding _ | .executing _ | .counting _ | .ending (some _) => false

/-- What worker `id` has left behind in the round that is on. -/
inductive Doing (id : Nat) : WorkerPoint → List Note → Prop where
  | between {p : WorkerPoint} (h : p.isBetween = true) : Doing id p []
  | holding (item : Item) : Doing id (.holding item) [.handedOut item.id]
  | executing (item : Item) {count : Nat} {phase : Phase} {notes : List Note}
      (left : (stamped item id).Left (fun _ => []) count phase notes) :
      Doing id (.executing ⟨stamped item id, phase⟩) (.handedOut item.id :: notes)
  | counting (r : Round) : Doing id (.counting r.item.id) (r.executed id)
  | thrownOut (r : Round) (throws : r.item.throws = true) (message : String) :
      Doing id (.ending (some message)) (r.executed id)
  | gone (r : Round) (throws : r.item.throws = true) : Doing id .ended (r.executed id)

/-- The step counts an item. -/
def countsNow : WorkerPoint → Bool
  | .counting _ => true
  | _ => false

variable {id : Nat} {p q : WorkerPoint} {notes new : List Note}

/-- A concluded execution has left a whole trace. -/
theorem exists_round {item : Item} {count : Nat} {ended : Work.Ended}
    (h : (stamped item id).Left (fun _ => []) count (.concluded ended) notes) :
    ended = (stamped item id).ended ((stamped item id).outcome count) ∧
      ∃ r : Round, r.item = item ∧ .handedOut item.id :: notes = r.executed id := by
  obtain ⟨hended, offers, hoffers, rfl⟩ := h.trace
  exact ⟨hended, ⟨item, count, offers, hoffers⟩, rfl, rfl⟩

/-- **A STEP GOES ON WITH THE ROUND** that is on, or it is the last of a round. -/
theorem Doing.acts (h : p.Doing id notes) (k : p.Acts id new q) :
    (p.countsNow = false ∧ q.Doing id (notes ++ new)) ∨
    p.countsNow = true ∧ q.Doing id [] ∧ ∃ r : Round, notes ++ new = r.notes id := by
  cases k with
  | starts | quits | comes | waits | sentAway | leaves =>
      cases h with
      | between => exact Or.inl ⟨rfl, .between rfl⟩
  | takes item =>
      cases h with
      | between => exact Or.inl ⟨rfl, .holding item⟩
  | stamps item =>
      cases h with
      | between h => cases h
      | holding =>
          have hleft : (stamped item id).Left (fun _ => []) 0 .ready [] := .ready
          exact Or.inl ⟨rfl, .executing item hleft⟩
  | executes item acts =>
      cases h with
      | between h => cases h
      | executing item left =>
          obtain ⟨count, left', acts'⟩ := left.exists_count acts
          exact Or.inl ⟨rfl, .executing item (left'.acts acts')⟩
  | returns item outcome =>
      cases h with
      | between h => cases h
      | executing item left =>
          obtain ⟨-, r, rfl, hnotes⟩ := exists_round left
          rw [hnotes, List.append_nil]
          exact Or.inl ⟨rfl, .counting r⟩
  | escapes item message =>
      cases h with
      | between h => cases h
      | executing item left =>
          obtain ⟨hended, r, rfl, hnotes⟩ := exists_round left
          rw [hnotes, List.append_nil]
          have hescaped : (Work.Execution.conclude (stamped r.item id) _).1 = .escaped message :=
            (congrArg Prod.fst (Work.Execution.conclude_eq _ _)).trans hended.symm
          have hthrows := Work.Execution.throws_of_escaped hescaped
          exact Or.inl ⟨rfl, .thrownOut r hthrows message⟩
  | counts task =>
      cases h with
      | between h => cases h
      | counting r => exact Or.inr ⟨rfl, .between rfl, r, rfl⟩
  | ends escaped =>
      rw [List.append_nil]
      cases h with
      | between h => exact Or.inl ⟨rfl, .between rfl⟩
      | thrownOut r throws => exact Or.inl ⟨rfl, .gone r throws⟩

/-! ## All rounds -/

/-- What worker `id` has done at all, when it has counted `executed` items. -/
def Account (id : Nat) (p : WorkerPoint) (deeds : List Note) (executed : Nat) : Prop :=
  ∃ (rounds : List Round) (rest : List Note), deeds = rounds.flatMap (·.notes id) ++ rest ∧
    p.Doing id rest ∧ executed = rounds.length

/-- Every step keeps the account. -/
theorem Account.acts {deeds : List Note} {executed : Nat} (h : p.Account id deeds executed)
    (k : p.Acts id new q) : q.Account id (deeds ++ new) (executed + p.countsNow.toNat) := by
  obtain ⟨rounds, rest, rfl, hdoing, rfl⟩ := h
  rcases hdoing.acts k with ⟨hgoes, hnext⟩ | ⟨hcounts, hnext, r, hround⟩
  · refine ⟨rounds, rest ++ new, List.append_assoc .., hnext, ?_⟩
    rw [hgoes]
    rfl
  · refine ⟨rounds ++ [r], [], ?_, hnext, ?_⟩
    · rw [List.append_assoc, hround, List.append_nil, List.flatMap_append, List.flatMap_singleton]
    · rw [hcounts, List.length_append]
      rfl

/-! ## Taking items -/

/-- The items that were handed out, as the notes say. -/
def taken (notes : List Note) : List TaskId := Work.Fate.handedOut.met (Note.fates notes)

theorem taken_append (notes later : List Note) : taken (notes ++ later) = taken notes ++ taken later := by
  simp only [taken, Note.fates_append, Work.Fate.met_append]

/-- The worker has passed its look at the stop flag and waits for its item. -/
def isTaking : WorkerPoint → Bool
  | .taking => true
  | _ => false

/-- The worker's next step reads neither its stop flag nor the queue. -/
def isApart : WorkerPoint → Bool
  | .checking | .taking => false
  | _ => true

theorem ne_of_isApart (h : p.isApart = true) : p ≠ .checking ∧ p ≠ .taking := by
  constructor
  · rintro rfl
    cases h
  · rintro rfl
    cases h

/-- Only a step out of a take gets an item, and it gets one. -/
theorem Acts.taken (k : p.Acts id new q) :
    taken new = [] ∨ ∃ item, p = .taking ∧ q = .holding item ∧ taken new = [item.id] := by
  cases k with
  | takes item => exact Or.inr ⟨item, rfl, rfl, rfl⟩
  | executes item acts => exact Or.inl acts.handedOut_eq_nil
  | _ => exact Or.inl rfl

/-- Whoever does not go into a take anew gets no more items than the one it may be waiting for. -/
theorem Acts.taken_le (k : p.Acts id new q) (hnot : p = .checking → q ≠ .taking) :
    (WorkerPoint.taken new).length + q.isTaking.toNat ≤ p.isTaking.toNat := by
  cases k with
  | comes => exact absurd rfl (hnot rfl)
  | executes item acts =>
      rw [show WorkerPoint.taken new = [] from acts.handedOut_eq_nil]
      exact Nat.le_refl _
  | sentAway => exact Nat.zero_le _
  | _ => exact Nat.le_refl _

end WorkerPoint

end PooledServer.Pool
