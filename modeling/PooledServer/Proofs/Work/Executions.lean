import PooledServer.Proofs.Work.Traces
import PooledServer.Work.Thread

/-!
# Items executed one after the other

    Where there is no queue, an item is executed to its end by one call, and the next call finds the shared
    tasks as the last one has left them: run once more, and free again, also after a panic.  So of any
    sequence of items each leaves exactly its trace, in the run that is its turn
    (`executed_one_by_one`).

    That an execution comes to its end is shown by a measure: `Phase.toGo` counts the steps that are left,
    and there are fewer of them than `execute` allows for. -/

namespace PooledServer.Work

/-! ## What is counted -/

/-- The payload of the panic in the run number `count`, if there is one. -/
def Ending.payload? (count : Nat) : Ending → Option Payload
  | returns => none
  | panics p => some p
  | panicsOnce p => if count = 1 then some p else none

/-- The outcome is a panic exactly if the task panics, and then it has the text of the payload. -/
theorem Ending.outcome_eq_panicked_iff (e : Ending) (count : Nat) (text : String) :
    e.outcome count = .panicked text ↔ ∃ p, e.payload? count = some p ∧ p.message = text := by
  cases e with
  | returns => simp [outcome, payload?]
  | panics p => simp [outcome, payload?]
  | panicsOnce p =>
      by_cases h : count = 1
      · simp [outcome, payload?, h]
      · simp [outcome, payload?, h]

namespace Note

/-- A task begins to run. -/
def isRun : Note → Bool
  | .event (.run ..) => true
  | _ => false

/-- An observer is told. -/
def isTelling : Note → Bool
  | .event (.notified ..) => true
  | _ => false

/-- The task `tag` is destroyed. -/
def destroys (tag : Tag) : Note → Bool
  | .event (.dropped t) => decide (t = tag)
  | _ => false

end Note

namespace Registry

/-- How often the shared task `tag` has run. -/
def runsOf (r : Registry) (tag : Tag) : Nat :=
  ((r.shared? tag).map (·.runs)).getD 0

/-- No shared task is being run. -/
def Idle (r : Registry) : Prop := ∀ s ∈ r.shared, s.busy = false

/-- The item can be executed to its end: its task is there, and no gate stops it. -/
def Readies (r : Registry) (item : Item) : Prop :=
  r.knows item.job = true ∧ ∀ gate, Action.pass gate ∈ item.job.actions → gate ∈ r.openGates

theorem tag_of_shared? {r : Registry} {tag : Tag} {s : SharedTask} (h : r.shared? tag = some s) :
    s.job.tag = tag := by
  have htag := List.find?_some h
  exact of_decide_eq_true htag

theorem shared?_update (r : Registry) (tag : Tag) {f : SharedTask → SharedTask}
    (hf : ∀ s, (f s).job = s.job) (t : Tag) :
    (r.update tag f).shared? t = (r.shared? t).map fun s => if s.job.tag = tag then f s else s := by
  simp only [shared?, update]
  rw [List.find?_map]
  congr 2
  funext s
  show decide ((if s.job.tag = tag then f s else s).job.tag = t) = decide (s.job.tag = t)
  split
  · rw [hf]
  · rfl

/-- A new item brings at most a task that has not run. -/
theorem shared?_make (r : Registry) (job : Job) (t : Tag) :
    (r.make job).2.shared? t = r.shared? t ∨
      r.shared? t = none ∧ ∃ s, (r.make job).2.shared? t = some s ∧ s.runs = 0 := by
  obtain ⟨tag, ownership, observer, actions, ending⟩ := job
  cases ownership with
  | closure => exact Or.inl rfl
  | owned => exact Or.inl rfl
  | shared =>
      simp only [make]
      split
      · exact Or.inl rfl
      · simp only [shared?]
        rw [List.find?_append]
        cases hfound : r.shared.find? fun s => decide (s.job.tag = t) with
        | some s => exact Or.inl rfl
        | none =>
            rw [Option.none_or, List.find?_singleton]
            split
            · exact Or.inr ⟨rfl, _, rfl, rfl⟩
            · exact Or.inl rfl

theorem runsOf_make (r : Registry) (job : Job) (t : Tag) : (r.make job).2.runsOf t = r.runsOf t := by
  simp only [runsOf]
  rcases r.shared?_make job t with h | ⟨hnone, s, hs, hruns⟩
  · rw [h]
  · rw [hnone, hs, Option.map_some, hruns]
    rfl

theorem knows_make (r : Registry) (job : Job) {known : Job} (h : r.knows known = true) :
    (r.make job).2.knows known = true := by
  simp only [knows] at h ⊢
  rcases r.shared?_make job known.tag with hsame | ⟨-, s, hs, -⟩
  · rw [hsame]
    exact h
  · rw [hs, Option.isSome_some, Bool.or_true]

theorem openGates_make (r : Registry) (job : Job) : (r.make job).2.openGates = r.openGates := by
  obtain ⟨tag, ownership, observer, actions, ending⟩ := job
  cases ownership with
  | shared =>
      simp only [make]
      split <;> rfl
  | closure => rfl
  | owned => rfl

end Registry

/-! ## What is counted in a trace -/

namespace Item

variable (item : Item)

/-- The item runs the shared task `tag`. -/
def runsShared (tag : Tag) : Bool :=
  item.job.ownership == .shared && decide (item.job.tag = tag)

/-- The number of the run that the item is about to make. -/
def number (r : Registry) : Nat :=
  if item.job.ownership = .shared then r.runsOf item.job.tag + 1 else 1

/-- In a trace the task runs once, before the hook; an observer is told once, after it; and what the item
    owns is destroyed once, on the one side or the other. -/
structure Once (count : Nat) (offers : List (Item × Bool)) : Prop where
  ran : (item.work count offers).filter Note.isRun = [.event (.run item.job.tag count)]
  not_rerun : ∀ outcome, (item.farewell outcome).filter Note.isRun = []
  untold : (item.work count offers).filter Note.isTelling = []
  told : ∀ outcome, (item.farewell outcome).filter Note.isTelling = item.told outcome
  released : (∀ o ∈ offers, o.1.job.tag ≠ item.job.tag) →
    (item.work count offers).filter (Note.destroys item.job.tag) = item.released
  destroyed : ∀ outcome,
    (item.farewell outcome).filter (Note.destroys item.job.tag) = item.destroyed

/-- Notes that come of offers have none of a kind that no answer has. -/
theorem filter_offers {p : Note → Bool} {offers : List (Item × Bool)}
    (h : ∀ o ∈ offers, (o.1.answered o.2).filter p = []) :
    (offers.flatMap fun o => o.1.answered o.2).filter p = [] := by
  refine List.filter_eq_nil_iff.mpr fun n hn => ?_
  obtain ⟨o, ho, hn⟩ := List.mem_flatMap.mp hn
  exact List.filter_eq_nil_iff.mp (h o ho) n hn

theorem once (count : Nat) (offers : List (Item × Bool)) : item.Once count offers := by
  have hrun : ∀ o ∈ offers, (o.1.answered o.2).filter Note.isRun = [] := by
    rintro ⟨child, accepted⟩ -
    simp only [answered, discard]
    cases accepted <;> cases child.job.ownership <;> rfl
  have htell : ∀ o ∈ offers, (o.1.answered o.2).filter Note.isTelling = [] := by
    rintro ⟨child, accepted⟩ -
    simp only [answered, discard]
    cases accepted <;> cases child.job.ownership <;> rfl
  refine ⟨?_, fun outcome => ?_, ?_, fun outcome => ?_, fun happart => ?_, fun outcome => ?_⟩
  · rw [work, List.filter_append, List.filter_append, filter_offers hrun, Item.released]
    cases item.job.ownership <;> rfl
  · rw [farewell, Item.told, Item.destroyed]
    cases item.job.observer <;> cases item.job.ownership <;> rfl
  · rw [work, List.filter_append, List.filter_append, filter_offers htell, Item.released]
    cases item.job.ownership <;> rfl
  · rw [farewell, Item.told, Item.destroyed]
    cases item.job.observer <;> cases item.job.ownership <;> rfl
  · have hdrop : ∀ o ∈ offers, (o.1.answered o.2).filter (Note.destroys item.job.tag) = [] := by
      rintro ⟨child, accepted⟩ ho
      have hne : decide (child.job.tag = item.job.tag) = false := decide_eq_false (happart _ ho)
      simp only [answered, discard]
      cases accepted <;> cases child.job.ownership <;> simp [Note.destroys, hne]
    rw [work, List.filter_append, List.filter_append, filter_offers hdrop, Item.released]
    cases item.job.ownership <;> simp [Item.begin, Note.destroys]
  · rw [farewell, Item.told, Item.destroyed]
    cases item.job.observer <;> cases item.job.ownership <;> simp [Note.destroys]

end Item

/-! ## An execution that goes on -/

namespace Phase

/-- The execution has begun. -/
def hasBegun : Phase → Bool
  | .ready => false
  | _ => true

/-- The number of the run that is on. -/
def count? : Phase → Option Nat
  | .acting count _ | .offering count _ _ _ => some count
  | _ => none

/-- What the task is still to do. -/
def ahead (item : Item) : Phase → List Action
  | .ready => item.job.actions
  | .acting _ rest | .offering _ _ _ rest => rest
  | _ => []

/-- A bound on the steps that are left where there is no queue. -/
def toGo (item : Item) : Phase → Nat
  | .ready => Job.weights item.job.actions + 4
  | .acting _ rest => Job.weights rest + 3
  | .offering _ _ _ rest => Job.weights rest + 4
  | .ran _ => 2
  | .hooked _ => 1
  | .concluded _ => 0

end Phase

/-- What an execution that began with the shared tasks of `r₀` has done to them. -/
structure Item.During (item : Item) (r₀ r : Registry) (phase : Phase) : Prop where
  knows : ∀ job, r₀.knows job = true → r.knows job = true
  openGates : r.openGates = r₀.openGates
  runs : ∀ tag, r.runsOf tag = r₀.runsOf tag + (phase.hasBegun && item.runsShared tag).toNat
  busy : ∀ s ∈ r.shared, s.busy = true → item.Inside phase s.job.tag
  count : ∀ count, phase.count? = some count → count = item.number r₀

theorem Item.during_ready (item : Item) {r : Registry} (hidle : r.Idle) : item.During r r .ready where
  knows _ h := h
  openGates := rfl
  runs _ := rfl
  busy s hs hbusy := absurd ((hidle s hs).symm.trans hbusy) Bool.false_ne_true
  count _ h := nomatch h

namespace Item.Stepped

variable {item : Item} {r r' : Registry} {phase phase' : Phase} {said : List (Fate × TaskId)}

/-- A step without a queue leaves less to do, and nothing that was not to be done before. -/
theorem toGo_lt (h : item.Stepped r phase r' phase' said) :
    phase'.toGo item < phase.toGo item ∧ ∀ action ∈ phase'.ahead item, action ∈ phase.ahead item := by
  cases h with
  | begins own => exact ⟨Nat.lt_succ_self _, fun _ h => h⟩
  | enters task own found free => exact ⟨Nat.lt_succ_self _, fun _ h => h⟩
  | ends count outcome own => exact ⟨Nat.lt_succ_self _, fun _ h => nomatch h⟩
  | exits count outcome own => exact ⟨Nat.lt_succ_self _, fun _ h => nomatch h⟩
  | passes count gate rest opened =>
      refine ⟨?_, fun _ h => List.mem_cons_of_mem _ h⟩
      simp only [Phase.toGo, Job.weights]
      omega
  | makes count job rest =>
      refine ⟨?_, fun _ h => List.mem_cons_of_mem _ h⟩
      -- a job that is submitted weighs at least as much as the step that offers it
      have hweight : 1 ≤ job.weight := by
        obtain ⟨tag, ownership, observer, actions, ending⟩ := job
        simp only [Job.weight]
        omega
      simp only [Phase.toGo, Job.weights]
      omega
  | hooks outcome => exact ⟨Nat.lt_succ_self _, fun _ h => nomatch h⟩
  | tells outcome ended told => exact ⟨Nat.lt_succ_self _, fun _ h => nomatch h⟩

/-- What a step does to the gates and to the tasks that are known. -/
theorem keeps (h : item.Stepped r phase r' phase' said) :
    (∀ job, r.knows job = true → r'.knows job = true) ∧ r'.openGates = r.openGates := by
  cases h with
  | enters task own found free =>
      have hprecedes := r.precedes_update item.job.tag
        (f := fun s => { s with runs := task.runs + 1, busy := true }) fun _ => rfl
      exact ⟨hprecedes.knows, rfl⟩
  | exits count outcome own =>
      have hprecedes := r.precedes_update item.job.tag
        (f := fun s => { s with busy := false }) fun _ => rfl
      exact ⟨hprecedes.knows, rfl⟩
  | makes count job rest => exact ⟨fun _ h => r.knows_make job h, r.openGates_make job⟩
  | begins | ends | passes | hooks | tells => exact ⟨fun _ h => h, rfl⟩

/-- Only the step that begins a shared task counts a run. -/
theorem runsOf_eq (h : item.Stepped r phase r' phase' said) (tag : Tag) :
    r'.runsOf tag =
      r.runsOf tag + (!phase.hasBegun && phase'.hasBegun && item.runsShared tag).toNat := by
  cases h with
  | begins own =>
      have hnot : item.runsShared tag = false := by simp [Item.runsShared, own]
      rw [hnot, Bool.and_false]
      rfl
  | enters task own found free =>
      have hupdate := r.shared?_update item.job.tag
        (f := fun s => { s with runs := task.runs + 1, busy := true }) (fun _ => rfl) tag
      simp only [Registry.runsOf]
      rw [hupdate]
      by_cases htag : item.job.tag = tag
      · subst htag
        have hshared : item.runsShared item.job.tag = true := by simp [Item.runsShared, own]
        rw [found, Option.map_some, if_pos (Registry.tag_of_shared? found), hshared]
        rfl
      · have hnot : item.runsShared tag = false := by simp [Item.runsShared, htag]
        rw [hnot, Bool.and_false, Option.map_map]
        cases hs : r.shared? tag with
        | none => rfl
        | some s =>
            have hne : s.job.tag ≠ item.job.tag :=
              fun h => htag (h.symm.trans (Registry.tag_of_shared? hs))
            simp [hne]
  | exits count outcome own =>
      have hupdate := r.shared?_update item.job.tag
        (f := fun s => { s with busy := false }) (fun _ => rfl) tag
      simp only [Registry.runsOf]
      rw [hupdate, Option.map_map]
      cases hs : r.shared? tag with
      | none => rfl
      | some s =>
          show (if s.job.tag = item.job.tag then _ else s).runs = s.runs
          split <;> rfl
  | makes count job rest => exact r.runsOf_make job tag
  | ends | passes | hooks | tells => rfl

/-- A step begins the run that is the item's turn, or goes on with the run that is on. -/
theorem count_eq (h : item.Stepped r phase r' phase' said) {count : Nat}
    (hcount : phase'.count? = some count) :
    phase.count? = some count ∨ phase = .ready ∧ count = item.number r := by
  cases h with
  | begins own =>
      obtain rfl := Option.some.inj hcount
      exact Or.inr ⟨rfl, by rw [Item.number, if_neg own]⟩
  | enters task own found free =>
      obtain rfl := Option.some.inj hcount
      refine Or.inr ⟨rfl, ?_⟩
      rw [Item.number, if_pos own, Registry.runsOf, found]
      rfl
  | passes => exact Or.inl hcount
  | makes => exact Or.inl hcount
  | ends | exits | hooks | tells => exact nomatch hcount

theorem hasBegun (h : item.Stepped r phase r' phase' said) : phase'.hasBegun = true := by
  cases h <;> rfl

end Item.Stepped

namespace Item.During

variable {item : Item} {r₀ r r' : Registry} {phase phase' : Phase} {said : List (Fate × TaskId)}

theorem number_eq (h : item.During r₀ r .ready) : item.number r = item.number r₀ := by
  have hruns := h.runs item.job.tag
  rw [show Phase.ready.hasBegun = false from rfl, Bool.false_and] at hruns
  simp only [number]
  rw [hruns]
  rfl

/-- Every step keeps the account of the shared tasks. -/
theorem stepped (h : item.During r₀ r phase) (k : item.Stepped r phase r' phase' said) :
    item.During r₀ r' phase' where
  knows job hjob := k.keeps.1 job (h.knows job hjob)
  openGates := k.keeps.2.trans h.openGates
  runs tag := by
    rw [k.runsOf_eq, h.runs, k.hasBegun]
    cases phase.hasBegun <;> simp
  busy s hs hbusy := by
    -- a task that somebody else runs would have been busy at the beginning
    rcases k.busy hs hbusy with hinside | ⟨⟨s₀, hs₀, hbusy₀, htag⟩, hnot⟩
    · exact hinside
    · exact absurd (htag ▸ h.busy s₀ hs₀ hbusy₀) hnot
  count count hcount := by
    rcases k.count_eq hcount with hsame | ⟨rfl, hfirst⟩
    · exact h.count count hsame
    · exact hfirst.trans h.number_eq

/-- An answer of the queue concerns no shared task. -/
theorem answered {count : Nat} {child : Item} {inQueue : Bool} {rest : List Action}
    (h : item.During r₀ r (.offering count child inQueue rest)) :
    item.During r₀ r (.acting count rest) where
  knows := h.knows
  openGates := h.openGates
  runs := h.runs
  busy s hs hbusy := (h.busy s hs hbusy).imp_right (.imp_right fun _ => rfl)
  count := h.count

end Item.During

namespace Execution

variable {item : Item} {r₀ r r' : Registry} {phase : Phase} {notes : List Note}

/-- A step where there is no queue is a step of the execution, or the refusal of what it offers. -/
theorem stepAlone_cases {e e' : Execution} (h : e.stepAlone r = some (r', e', notes)) :
    e.step r = some (r', e', notes) ∨
      ∃ count child inQueue rest, e.phase = .offering count child inQueue rest ∧ r' = r ∧
        e' = { e with phase := .acting count rest } ∧ notes = child.answered false := by
  obtain ⟨item, phase⟩ := e
  cases phase with
  | offering count child inQueue rest =>
      cases h
      exact Or.inr ⟨count, child, inQueue, rest, rfl, rfl, rfl, rfl⟩
  | ready | acting | ran | hooked | concluded => exact Or.inl h

/-- An execution that is not over can go on, if its task is there and its gates are open. -/
theorem stepAlone_isSome (h : item.During r₀ r phase) (hknown : r₀.knows item.job = true)
    (hopen : ∀ gate, Action.pass gate ∈ phase.ahead item → gate ∈ r₀.openGates)
    (hover : ∀ ended, phase ≠ .concluded ended) : (stepAlone r ⟨item, phase⟩).isSome = true := by
  have hstep (hoffer : ∀ count child inQueue rest, phase ≠ .offering count child inQueue rest) :
      (step r ⟨item, phase⟩).isSome = true := by
    refine step_isSome_of_knows (h.knows _ hknown) hover hoffer ?_ ?_
    · rintro ⟨count, gate, rest, heq, hclosed⟩
      obtain rfl : phase = .acting count (.pass gate :: rest) := heq
      rw [h.openGates] at hclosed
      exact hclosed (hopen gate (List.mem_cons_self ..))
    · rintro ⟨heq, s, hs, hbusy, -⟩
      obtain rfl : phase = .ready := heq
      exact nomatch (h.busy s hs hbusy).2.2
  cases phase with
  | offering count child inQueue rest => rfl
  | ready | acting | ran | hooked | concluded => exact hstep fun _ _ _ _ h => nomatch h

/-- One step where there is no queue: it leaves what it should, less is left to do, and the shared tasks
    are accounted for. -/
theorem stepAlone_goes (hook : Outcome → List Note) {e' : Execution}
    (hstep : stepAlone r ⟨item, phase⟩ = some (r', e', notes)) (h : item.During r₀ r phase)
    {left : List Note} (hleft : item.Left hook (item.number r₀) phase left) :
    ∃ phase', e' = ⟨item, phase'⟩ ∧ item.During r₀ r' phase' ∧
      item.Left hook (item.number r₀) phase' (left ++ (phase.hookNotes hook ++ notes)) ∧
      phase'.toGo item < phase.toGo item ∧
      ∀ action ∈ phase'.ahead item, action ∈ phase.ahead item := by
  rcases stepAlone_cases hstep with hown | ⟨count, child, inQueue, rest, hphase, rfl, rfl, rfl⟩
  · obtain ⟨phase', rfl, hstepped⟩ := stepped hown
    obtain ⟨count, phase'', heq, hacts⟩ := acts hook hown
    obtain ⟨-, rfl⟩ := Execution.mk.inj heq
    have hduring := h.stepped hstepped
    refine ⟨_, rfl, hduring, hleft.acts ?_, hstepped.toGo_lt⟩
    -- the first step has the number that is the item's turn, a later one that of the run
    cases hphase : phase with
    | ready =>
        subst hphase
        cases hacts with
        | begins =>
            rw [hduring.count _ rfl]
            exact .begins
    | acting | offering | ran | hooked | concluded =>
        rw [hphase] at hleft hacts
        exact hleft.acts_count hacts nofun
  · simp only at hphase
    subst hphase
    refine ⟨_, rfl, h.answered, ?_, Nat.lt_succ_self _, fun _ h => h⟩
    obtain rfl := h.count _ rfl
    exact hleft.acts (.hears child inQueue rest false)

/-- **AN EXECUTION COMES TO ITS END** where there is no queue, within the steps that its measure tells,
    and has left its trace then. -/
theorem steps_end (hook : Outcome → List Note) (hknown : r₀.knows item.job = true) (fuel : Nat) :
    ∀ {r : Registry} {phase : Phase} {left : List Note},
      item.During r₀ r phase → item.Left hook (item.number r₀) phase left →
      (∀ gate, Action.pass gate ∈ phase.ahead item → gate ∈ r₀.openGates) → phase.toGo item ≤ fuel →
      ∃ r' ended notes, steps hook r ⟨item, phase⟩ fuel = (r', ⟨item, .concluded ended⟩, notes) ∧
        item.During r₀ r' (.concluded ended) ∧
        item.Left hook (item.number r₀) (.concluded ended) (left ++ notes) := by
  -- the measure sinks with every step, so the fuel lasts
  induction fuel with
  | zero =>
      intro r phase left h hleft hopen hfuel
      cases phase with
      | concluded ended => exact ⟨r, ended, [], rfl, h, by rwa [List.append_nil]⟩
      | ready | acting | offering | ran | hooked =>
          exact absurd hfuel (by simp only [Phase.toGo]; omega)
  | succ fuel ih =>
      intro r phase left h hleft hopen hfuel
      by_cases hover : ∃ ended, phase = .concluded ended
      · obtain ⟨ended, rfl⟩ := hover
        exact ⟨r, ended, [], rfl, h, by rwa [List.append_nil]⟩
      · have hsome := stepAlone_isSome h hknown hopen fun ended hended => hover ⟨ended, hended⟩
        obtain ⟨⟨r₁, e₁, notes⟩, hstep⟩ := Option.isSome_iff_exists.mp hsome
        obtain ⟨phase₁, rfl, h₁, hleft₁, hless, hahead⟩ := stepAlone_goes hook hstep h hleft
        obtain ⟨r', ended, later, hsteps, hend, hall⟩ :=
          ih h₁ hleft₁ (fun gate hgate => hopen gate (hahead _ hgate)) (by omega)
        refine ⟨r', ended, phase.hookNotes hook ++ notes ++ later, ?_, hend, ?_⟩
        · simp only [steps]
          rw [hstep]
          simp only
          rw [hsteps]
          rfl
        · rwa [List.append_assoc] at hall

end Execution

/-! ## One item after the other -/

/-- Executes items one after the other: how each has ended, and what it has left behind. -/
def executeAll (hook : Outcome → List Note) (r : Registry) :
    List Item → Registry × List (Option Ended × List Note)
  | [] => (r, [])
  | item :: rest =>
    let (r, ended, notes) := execute hook r item
    let (r, later) := executeAll hook r rest
    (r, (ended, notes) :: later)

/-- An item is executed in the run that is its turn, leaves its trace, and leaves the shared tasks free. -/
theorem execute_eq (hook : Outcome → List Note) {r : Registry} {item : Item} (hidle : r.Idle)
    (hready : r.Readies item) :
    ∃ r' offers, offers.map (·.1.job.tag) = submissions item.job.actions ∧
      execute hook r item =
        (r', some (item.ended (item.outcome (item.number r))), item.trace hook (item.number r) offers) ∧
      r'.Idle ∧ (∀ other, r.Readies other → r'.Readies other) ∧
      ∀ tag, r'.runsOf tag = r.runsOf tag + (item.runsShared tag).toNat := by
  have hfuel : Phase.ready.toGo item ≤ item.steps := by
    obtain ⟨id, ⟨tag, ownership, observer, actions, ending⟩, runBy⟩ := item
    simp only [Phase.toGo, Item.steps, Job.weight, Job.actions]
    omega
  obtain ⟨r', ended, notes, hsteps, hend, hleft⟩ :=
    Execution.steps_end hook hready.1 item.steps (item.during_ready hidle) .ready hready.2 hfuel
  obtain ⟨rfl, offers, hoffers, rfl⟩ := hleft.trace
  refine ⟨r', offers, hoffers, ?_, ?_, ?_, hend.runs⟩
  · simp only [execute]
    rw [hsteps]
    rfl
  · intro s hs
    -- an execution that is over is inside no task
    by_contra hbusy
    exact nomatch (hend.busy s hs (Bool.not_eq_false _ ▸ hbusy)).2.2
  · rintro other ⟨hknown, hopen⟩
    exact ⟨hend.knows _ hknown, hend.openGates ▸ hopen⟩

/-- **EVERY ITEM LEAVES ITS TRACE**, whatever items are executed one after the other, over shared tasks or
    their own, with any observer, worker, hook and ending.  Each is executed to its end.  Its task runs
    once, in the run that is its turn; then the hook sees the outcome, which is a panic exactly if the task
    has panicked, with the text of the payload; then the observer, if there is one, is told once.  What
    ends is the execution, with the outcome, unless the observer panics.  A closure is destroyed once
    before the hook, an owned task once after the observer was told, a shared task not at all: it runs
    again for the next item that refers to it. -/
theorem executed_one_by_one (hook : Outcome → List Note) {r : Registry} {items : List Item}
    (hidle : r.Idle) (hready : ∀ item ∈ items, r.Readies item) :
    (executeAll hook r items).2.length = items.length ∧
    (executeAll hook r items).1.Idle ∧
    ∀ before item after, items = before ++ item :: after →
      ∃ count offers,
        (count = if item.job.ownership = .shared then
          r.runsOf item.job.tag + before.countP (·.runsShared item.job.tag) + 1 else 1) ∧
        offers.map (·.1.job.tag) = submissions item.job.actions ∧
        (executeAll hook r items).2[before.length]? =
          some (some (item.ended (item.outcome count)),
            item.work count offers ++ hook (item.outcome count) ++
              item.farewell (item.outcome count)) ∧
        item.Once count offers ∧
        ∀ text, item.outcome count = .panicked text ↔
          ∃ p, item.job.ending.payload? count = some p ∧ p.message = text := by
  induction items generalizing r with
  | nil => exact ⟨rfl, hidle, fun before item after h => by simp at h⟩
  | cons first rest ih =>
      obtain ⟨r₁, offers, hoffers, hfirst, hidle₁, hready₁, hruns⟩ :=
        execute_eq hook hidle (hready first (List.mem_cons_self ..))
      obtain ⟨hlength, hlast, hrest⟩ := ih hidle₁ fun item hitem =>
        hready₁ item (hready item (List.mem_cons_of_mem _ hitem))
      simp only [executeAll]
      rw [hfirst]
      refine ⟨congrArg Nat.succ hlength, hlast, ?_⟩
      intro before item after hsplit
      cases before with
      | nil =>
          obtain ⟨rfl, -⟩ := List.cons.inj hsplit
          exact ⟨_, offers, by rw [Item.number]; rfl, hoffers, rfl, first.once _ offers,
            first.job.ending.outcome_eq_panicked_iff _⟩
      | cons other before =>
          obtain ⟨hother, htail⟩ := List.cons.inj hsplit
          obtain rfl : first = other := hother
          obtain ⟨count, offers', hcount, hrest'⟩ := hrest before item after htail
          refine ⟨count, offers', ?_, hrest'⟩
          -- the first item has run once, if it runs the same task
          rw [hcount, hruns, List.countP_cons]
          split
          · cases first.runsShared item.job.tag
            · rfl
            · simp only [Bool.toNat_true, if_true]
              omega
          · rfl

/-- A shared task that panics in its first run. -/
def workshop : Registry where
  shared := [{ job := .mk (.named "flaky") .shared none [] (.panicsOnce (.text "boom")) }]

/-- Two items of that task, the first with an observer that panics, and between them an owned task. -/
def batch : List Item :=
  let flaky := Job.mk (.named "flaky") .shared
  [⟨1, flaky (some { panic := some "watcher" }) [] (.panicsOnce (.text "boom")), some 3⟩,
    ⟨2, .mk (.named "tally") .owned (some { panic := some "watcher" }) [] .returns, some 3⟩,
    ⟨3, flaky (some {}) [] (.panicsOnce (.text "boom")), some 4⟩]

theorem executed_one_by_one_batch :
    workshop.Idle ∧ (∀ item ∈ batch, workshop.Readies item) ∧
    (executeAll (fun o => [.event (.afterRun o)]) workshop batch).2[2]? =
      some (some (.returned .completed),
        [.begun 3 (some 4), .event (.run (.named "flaky") 2), .event (.afterRun .completed),
          .event (.notified (.named "flaky") 3 true (some 4) .completed)]) := by
  have hidle : workshop.Idle := by
    intro s hs
    rw [List.mem_singleton.mp hs]
  have hready : ∀ item ∈ batch, workshop.Readies item := by
    intro item hitem
    simp only [batch, List.mem_cons, List.not_mem_nil, or_false] at hitem
    rcases hitem with rfl | rfl | rfl <;> exact ⟨by decide, fun gate h => nomatch h⟩
  obtain ⟨-, -, hitems⟩ := executed_one_by_one (fun o => [.event (.afterRun o)]) hidle hready
  obtain ⟨count, offers, hcount, hoffers, hends, -⟩ :=
    hitems [batch[0], batch[1]] batch[2] [] rfl
  -- the last item is the second of its task and submits nothing
  obtain rfl : count = 2 := hcount.trans (by decide)
  obtain rfl : offers = [] := List.map_eq_nil_iff.mp hoffers
  exact ⟨hidle, hready, hends.trans (by decide)⟩

end PooledServer.Work
