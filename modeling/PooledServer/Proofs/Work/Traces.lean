import PooledServer.Proofs.Work.Stages

/-!
# What an execution leaves behind

    Executing an item leaves a trace: the task begins, the work that it submits is answered, a closure
    destroys what it holds, the hook sees the outcome, the observer is told, and an owned task is
    destroyed.  `Item.trace` writes this down for a whole execution.

    `Item.Acts` has the steps of the machine with what each leaves behind, for an execution alone and for
    one at a queue alike.  `Item.Left` says for every phase what has been left so far.  A step extends the
    one by the other (`Item.Left.acts`), so an execution that is concluded has left its trace. -/

namespace PooledServer.Work

/-! ## The parts of a trace -/

namespace Item

variable (item : Item)

/-- What comes of work that a task submits: the answer of the queue, the end of an item that is refused,
    and the answer that the task gets. -/
def answered (accepted : Bool) : List Note :=
  (if accepted then [.accepted item.id] else .refused item.id :: item.discard) ++
    [.event (.submitted item.job.tag accepted)]

/-- A closure destroys what it holds when its run ends. -/
def released : List Note :=
  match item.job.ownership with
  | .closure => [.event (.dropped item.job.tag)]
  | .owned | .shared => []

/-- The observer is told the outcome, with the number of the item and its worker. -/
def told (outcome : Outcome) : List Note :=
  match item.job.observer with
  | none => []
  | some o => [.event (.notified item.job.tag item.id o.keepsWorker item.runBy outcome)]

/-- An owned task is destroyed with its item. -/
def destroyed : List Note :=
  match item.job.ownership with
  | .owned => [.event (.dropped item.job.tag)]
  | .closure | .shared => []

/-- The outcome of the run number `count`. -/
def outcome (count : Nat) : Outcome := item.job.ending.outcome count

/-- The run number `count`, in which each of the items in `offers` was submitted and answered. -/
def work (count : Nat) (offers : List (Item × Bool)) : List Note :=
  item.begin count ++ offers.flatMap (fun o => o.1.answered o.2) ++ item.released

/-- What follows when the hook has seen the outcome. -/
def farewell (outcome : Outcome) : List Note := item.told outcome ++ item.destroyed

/-- All that an execution leaves behind. -/
def trace (hook : Outcome → List Note) (count : Nat) (offers : List (Item × Bool)) : List Note :=
  item.work count offers ++ hook (item.outcome count) ++ item.farewell (item.outcome count)

/-- How an execution with the given outcome ends: only a panic of the observer escapes. -/
def ended (outcome : Outcome) : Ended :=
  match item.job.observer.bind (·.panic) with
  | none => .returned outcome
  | some message => .escaped message

end Item

/-- The names of the jobs that some actions submit, in order. -/
def submissions : List Action → List Tag
  | [] => []
  | .pass _ :: rest => submissions rest
  | .submit job :: rest => job.tag :: submissions rest

/-- Concluding is telling the observer and destroying the item. -/
theorem Execution.conclude_eq (item : Item) (outcome : Outcome) :
    conclude item outcome = (item.ended outcome, item.farewell outcome) := by
  simp only [conclude, Item.ended, Item.farewell, Item.told, Item.destroyed]
  cases ho : item.job.observer with
  | none => rfl
  | some o =>
      obtain ⟨keepsWorker, panic⟩ := o
      cases panic <;> rfl

/-- An item of a job bears the job's name. -/
theorem Registry.make_tag (r : Registry) (job : Job) : (r.make job).1.job.tag = job.tag := by
  obtain ⟨tag, ownership, observer, actions, ending⟩ := job
  cases ownership with
  | shared =>
      simp only [make]
      split <;> rfl
  | closure => rfl
  | owned => rfl

/-! ## Steps and what they leave -/

/-- The steps of an execution, in the run number `count`, with what each leaves behind. -/
inductive Item.Acts (hook : Outcome → List Note) (item : Item) (count : Nat) :
    Phase → List Note → Phase → Prop where
  | begins : Acts hook item count .ready (item.begin count) (.acting count item.job.actions)
  | passes (gate : String) (rest : List Action) :
      Acts hook item count (.acting count (.pass gate :: rest)) [] (.acting count rest)
  | makes (job : Job) (child : Item) (rest : List Action) (named : child.job.tag = job.tag) :
      Acts hook item count (.acting count (.submit job :: rest)) [] (.offering count child false rest)
  | asks (child : Item) (rest : List Action) :
      Acts hook item count (.offering count child false rest) [] (.offering count child true rest)
  | hears (child : Item) (inQueue : Bool) (rest : List Action) (accepted : Bool) :
      Acts hook item count (.offering count child inQueue rest) (child.answered accepted)
        (.acting count rest)
  | ends : Acts hook item count (.acting count []) item.released (.ran (item.outcome count))
  | hooks (outcome : Outcome) : Acts hook item count (.ran outcome) (hook outcome) (.hooked outcome)
  | tells (outcome : Outcome) :
      Acts hook item count (.hooked outcome) (item.farewell outcome) (.concluded (item.ended outcome))

/-- What the hook adds to the step from a phase. -/
def Phase.hookNotes (hook : Outcome → List Note) : Phase → List Note
  | .ran outcome => hook outcome
  | _ => []

/-- A step that needs no queue is one of these, if the hook is called in it. -/
theorem Execution.acts (hook : Outcome → List Note) {r r' : Registry} {e e' : Execution}
    {notes : List Note} (h : e.step r = some (r', e', notes)) :
    ∃ count phase, e' = { e with phase } ∧
      e.item.Acts hook count e.phase (e.phase.hookNotes hook ++ notes) phase := by
  obtain ⟨item, phase⟩ := e
  cases phase with
  | ready =>
      simp only [step] at h
      split at h
      · split at h
        · split at h
          · cases h
          · cases h
            exact ⟨_, _, rfl, .begins⟩
        · cases h
      · cases h
        exact ⟨_, _, rfl, .begins⟩
      · cases h
        exact ⟨_, _, rfl, .begins⟩
  | acting count rest =>
      cases rest with
      | nil =>
          have hends : item.Acts hook count (.acting count []) item.released
              (.ran (item.outcome count)) := .ends
          simp only [Item.released] at hends
          simp only [step, endRun] at h
          refine ⟨count, .ran (item.outcome count), ?_⟩
          split at h <;> rename_i hown <;> rw [hown] at hends <;> cases h <;> exact ⟨rfl, hends⟩
      | cons action rest =>
          cases action with
          | pass gate =>
              simp only [step] at h
              split at h
              · cases h
                exact ⟨count, _, rfl, .passes gate rest⟩
              · cases h
          | submit job =>
              cases h
              exact ⟨count, _, rfl, .makes job _ rest (r.make_tag job)⟩
  | offering count child inQueue rest => cases h
  | ran outcome =>
      cases h
      refine ⟨0, _, rfl, ?_⟩
      rw [List.append_nil]
      exact .hooks outcome
  | hooked outcome =>
      have hend : step r ⟨item, .hooked outcome⟩ =
          some (r, ⟨item, .concluded (conclude item outcome).1⟩, (conclude item outcome).2) := rfl
      rw [hend, conclude_eq] at h
      cases h
      exact ⟨0, _, rfl, .tells outcome⟩
  | concluded ended => cases h

/-- What a step leaves is no record of the log, if the hook writes none. -/
theorem Item.Acts.deeds {item : Item} {count : Nat} {phase phase' : Phase} {new : List Note}
    (h : item.Acts (fun _ => []) count phase new phase') : Note.deeds new = new := by
  cases h with
  | hears child inQueue rest accepted =>
      simp only [Item.answered, Item.discard]
      cases accepted <;> cases child.job.ownership <;> rfl
  | ends =>
      simp only [Item.released]
      split <;> rfl
  | tells outcome =>
      simp only [Item.farewell, Item.told, Item.destroyed]
      cases item.job.observer <;> cases item.job.ownership <;> rfl
  | begins | passes | makes | asks | hooks => rfl

/-- Executing an item hands out none. -/
theorem Item.Acts.handedOut_eq_nil {item : Item} {count : Nat} {phase phase' : Phase}
    {new : List Note} (h : item.Acts (fun _ => []) count phase new phase') :
    Fate.handedOut.met (Note.fates new) = [] := by
  cases h with
  | hears child inQueue rest accepted =>
      simp only [Item.answered, Item.discard]
      cases accepted <;> cases child.job.ownership <;> rfl
  | ends =>
      simp only [Item.released]
      split <;> rfl
  | tells outcome =>
      simp only [Item.farewell, Item.told, Item.destroyed]
      cases item.job.observer <;> cases item.job.ownership <;> rfl
  | begins | passes | makes | asks | hooks => rfl

/-! ## What has been left so far -/

/-- What an execution, in the run number `count`, has left behind when it has come to a phase.  The
    `offers` are what its task has submitted, in order. -/
inductive Item.Left (hook : Outcome → List Note) (item : Item) (count : Nat) :
    Phase → List Note → Prop where
  | ready : Left hook item count .ready []
  | acting (rest : List Action) (offers : List (Item × Bool))
      (made : offers.map (·.1.job.tag) ++ submissions rest = submissions item.job.actions) :
      Left hook item count (.acting count rest)
        (item.begin count ++ offers.flatMap fun o => o.1.answered o.2)
  | offering (child : Item) (inQueue : Bool) (rest : List Action) (offers : List (Item × Bool))
      (made : offers.map (·.1.job.tag) ++ child.job.tag :: submissions rest
        = submissions item.job.actions) :
      Left hook item count (.offering count child inQueue rest)
        (item.begin count ++ offers.flatMap fun o => o.1.answered o.2)
  | ran (offers : List (Item × Bool))
      (made : offers.map (·.1.job.tag) = submissions item.job.actions) :
      Left hook item count (.ran (item.outcome count)) (item.work count offers)
  | hooked (offers : List (Item × Bool))
      (made : offers.map (·.1.job.tag) = submissions item.job.actions) :
      Left hook item count (.hooked (item.outcome count))
        (item.work count offers ++ hook (item.outcome count))
  | concluded (offers : List (Item × Bool))
      (made : offers.map (·.1.job.tag) = submissions item.job.actions) :
      Left hook item count (.concluded (item.ended (item.outcome count)))
        (item.trace hook count offers)

namespace Item

variable {hook : Outcome → List Note} {item : Item} {count : Nat} {phase phase' : Phase}
  {notes new : List Note}

/-- **WHAT HAS BEEN LEFT GROWS BY WHAT A STEP LEAVES.** -/
theorem Left.acts (h : item.Left hook count phase notes) (k : item.Acts hook count phase new phase') :
    item.Left hook count phase' (notes ++ new) := by
  cases k with
  | begins =>
      cases h with
      | ready =>
          have hleft : item.Left hook count (.acting count item.job.actions) _ :=
            .acting item.job.actions [] rfl
          simpa using hleft
  | passes gate rest =>
      cases h with
      | acting _ offers made =>
          rw [List.append_nil]
          exact .acting rest offers made
  | makes job child rest named =>
      cases h with
      | acting _ offers made =>
          rw [List.append_nil]
          exact .offering child false rest offers (named ▸ made)
  | asks child rest =>
      cases h with
      | offering _ _ _ offers made =>
          rw [List.append_nil]
          exact .offering child true rest offers made
  | hears child inQueue rest accepted =>
      cases h with
      | offering _ _ _ offers made =>
          -- the child joins the offers with its answer
          have hleft : item.Left hook count (.acting count rest) _ :=
            .acting rest (offers ++ [(child, accepted)]) (by simpa using made)
          simpa using hleft
  | ends =>
      cases h with
      | acting _ offers made => exact .ran offers (by simpa [submissions] using made)
  | hooks outcome =>
      cases h with
      | ran offers made => exact .hooked offers made
  | tells outcome =>
      cases h with
      | hooked offers made => exact .concluded offers made

/-- A step after the first has the number of the run that is on. -/
theorem Left.acts_count {count' : Nat} (h : item.Left hook count phase notes)
    (k : item.Acts hook count' phase new phase') (hbegun : phase ≠ .ready) :
    item.Acts hook count phase new phase' := by
  cases k with
  | begins => exact absurd rfl hbegun
  | passes gate rest =>
      cases h with
      | acting => exact .passes gate rest
  | makes job child rest named =>
      cases h with
      | acting => exact .makes job child rest named
  | asks child rest =>
      cases h with
      | offering => exact .asks child rest
  | hears child inQueue rest accepted =>
      cases h with
      | offering => exact .hears child inQueue rest accepted
  | ends =>
      cases h with
      | acting => exact .ends
  | hooks outcome => exact .hooks outcome
  | tells outcome => exact .tells outcome

/-- A step that is seen from outside has the number of the run that is on, or begins the run. -/
theorem Left.exists_count {count' : Nat} (h : item.Left hook count phase notes)
    (k : item.Acts hook count' phase new phase') :
    ∃ c, item.Left hook c phase notes ∧ item.Acts hook c phase new phase' := by
  by_cases hbegun : phase = .ready
  · subst hbegun
    cases h with
    | ready => exact ⟨count', .ready, k⟩
  · exact ⟨count, h, h.acts_count k hbegun⟩

/-- A concluded execution has left its trace. -/
theorem Left.trace {ended : Ended} (h : item.Left hook count (.concluded ended) notes) :
    ended = item.ended (item.outcome count) ∧
      ∃ offers, offers.map (·.1.job.tag) = submissions item.job.actions ∧
        notes = item.trace hook count offers := by
  cases h with
  | concluded offers made => exact ⟨rfl, offers, made, rfl⟩

end Item

end PooledServer.Work
