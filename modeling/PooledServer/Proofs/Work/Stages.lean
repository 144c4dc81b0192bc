import Mathlib
import PooledServer.Proofs.Work.Fates
import PooledServer.Work.Execution

/-!
# How an execution proceeds

    An execution goes through the actions of its task and then through the hook and the observer.
    `Execution.Stepped` lists its steps, with what each does to the shared tasks and says about the item.

    A job is calm if its observer does not panic, nor the observer of any job that it submits.  The
    execution of a calm job always returns. -/

namespace PooledServer.Work

/-! ## Calm jobs -/

mutual

/-- No observer panics, neither the job's own nor that of a job which it submits. -/
def Job.isCalm : Job → Bool
  | .mk _ _ observer actions _ => observer.all (·.panic.isNone) && Job.areCalm actions

/-- The same for the jobs that some actions submit. -/
def Job.areCalm : List Action → Bool
  | [] => true
  | .pass _ :: rest => Job.areCalm rest
  | .submit job :: rest => job.isCalm && Job.areCalm rest

end

theorem Job.areCalm_actions {job : Job} (h : job.isCalm = true) : Job.areCalm job.actions = true := by
  obtain ⟨tag, ownership, observer, actions, ending⟩ := job
  exact (Bool.and_eq_true_iff.mp h).2

theorem Job.observer_calm {job : Job} (h : job.isCalm = true) {o : Observer}
    (ho : job.observer = some o) : o.panic = none := by
  obtain ⟨tag, ownership, observer, actions, ending⟩ := job
  have hall := (Bool.and_eq_true_iff.mp h).1
  rw [show observer = some o from ho] at hall
  exact Option.isNone_iff_eq_none.mp hall

/-! ## Shared tasks -/

namespace Registry

/-- A shared job belongs to a task that is known. -/
def knows (r : Registry) (job : Job) : Bool :=
  job.ownership != .shared || (r.shared? job.tag).isSome

/-- The item can be executed, and its execution returns. -/
def fits (r : Registry) (item : Item) : Bool :=
  item.job.isCalm && r.knows item.job

/-- Every shared task is calm. -/
def Calm (r : Registry) : Prop := ∀ s ∈ r.shared, s.job.isCalm = true

/-- `r'` has come after `r`: no task is forgotten and no number is given twice. -/
structure Precedes (r r' : Registry) : Prop where
  knows : ∀ job, r.knows job = true → r'.knows job = true
  nextId : r.nextId ≤ r'.nextId
  calm : r.Calm → r'.Calm

theorem Precedes.refl (r : Registry) : r.Precedes r :=
  ⟨fun _ h => h, Nat.le_refl _, fun h => h⟩

theorem Precedes.fits {r r' : Registry} (h : r.Precedes r') {item : Item} (hi : r.fits item = true) :
    r'.fits item = true := by
  obtain ⟨hcalm, hknown⟩ := Bool.and_eq_true_iff.mp hi
  exact Bool.and_eq_true_iff.mpr ⟨hcalm, h.knows item.job hknown⟩

/-- Changing a shared task, but not its job, forgets nothing. -/
theorem precedes_update (r : Registry) (tag : Tag) {f : SharedTask → SharedTask}
    (hf : ∀ s, (f s).job = s.job) : r.Precedes (r.update tag f) := by
  have hjob : ∀ s : SharedTask, (if s.job.tag = tag then f s else s).job = s.job := by
    intro s
    split
    · exact hf s
    · rfl
  have hshared : ∀ t, ((r.update tag f).shared? t).isSome = (r.shared? t).isSome := by
    intro t
    simp only [shared?, update]
    rw [List.find?_map, Option.isSome_map]
    congr 2
    funext s
    show decide _ = decide _
    rw [hjob]
  refine ⟨?_, Nat.le_refl _, ?_⟩
  · intro job h
    simp only [knows] at h ⊢
    rw [hshared]
    exact h
  · intro h s hs
    obtain ⟨s₀, hs₀, rfl⟩ := List.mem_map.mp hs
    rw [hjob]
    exact h s₀ hs₀

theorem precedes_openGate (r : Registry) (gate : String) : r.Precedes (r.openGate gate) :=
  ⟨fun _ h => h, Nat.le_refl _, fun h => h⟩

theorem precedes_skipId (r : Registry) : r.Precedes r.skipId.2 :=
  ⟨fun _ h => h, Nat.le_succ _, fun h => h⟩

/-- A new item takes the next number. -/
theorem make_id (r : Registry) (job : Job) :
    (r.make job).1.id = r.nextId ∧ (r.make job).2.nextId = r.nextId + 1 := by
  obtain ⟨tag, ownership, observer, actions, ending⟩ := job
  cases ownership with
  | shared =>
      simp only [make]
      split <;> exact ⟨rfl, rfl⟩
  | closure => exact ⟨rfl, rfl⟩
  | owned => exact ⟨rfl, rfl⟩

/-- A new item of a calm job can be executed, and making it forgets nothing. -/
theorem make_fits (r : Registry) (job : Job) (hcalm : job.isCalm = true) (hr : r.Calm) :
    r.Precedes (r.make job).2 ∧ (r.make job).2.fits (r.make job).1 = true := by
  -- a new number alone changes nothing that anybody relies on
  have hnext : ∀ r₀ : Registry, r₀.shared = r.shared → r₀.nextId = r.nextId + 1 → r.Precedes r₀ := by
    intro r₀ hs hn
    refine ⟨?_, hn ▸ Nat.le_succ _, ?_⟩
    · intro j hj
      simp only [knows, shared?] at hj ⊢
      rw [hs]
      exact hj
    · intro h s hmem
      exact h s (hs ▸ hmem)
  obtain ⟨tag, ownership, observer, actions, ending⟩ := job
  cases ownership with
  | closure => exact ⟨hnext _ rfl rfl, Bool.and_eq_true_iff.mpr ⟨hcalm, rfl⟩⟩
  | owned => exact ⟨hnext _ rfl rfl, Bool.and_eq_true_iff.mpr ⟨hcalm, rfl⟩⟩
  | shared =>
      simp only [make]
      split
      · rename_i s hs
        refine ⟨hnext _ rfl rfl, Bool.and_eq_true_iff.mpr ⟨?_, ?_⟩⟩
        -- a shared job brings its task only the first time; later the known one is run again
        · have hactions := Job.areCalm_actions (hr s (List.mem_of_find?_eq_some hs))
          exact Bool.and_eq_true_iff.mpr ⟨(Bool.and_eq_true_iff.mp hcalm).1, hactions⟩
        · exact Bool.or_eq_true_iff.mpr (Or.inr (Option.isSome_iff_exists.mpr ⟨s, hs⟩))
      · rename_i hs
        refine ⟨⟨?_, Nat.le_succ _, ?_⟩, Bool.and_eq_true_iff.mpr ⟨hcalm, ?_⟩⟩
        · intro j hj
          simp only [knows, shared?] at hj ⊢
          rw [List.find?_append, Option.isSome_or, ← Bool.or_assoc, hj, Bool.true_or]
        · intro h s hmem
          rcases List.mem_append.mp hmem with hold | hnew
          · exact h s hold
          · rw [List.mem_singleton.mp hnew]
            exact hcalm
        · simp only [knows, shared?]
          rw [List.find?_append, Option.isSome_or, List.find?_singleton, if_pos]
          · simp
          · exact decide_eq_true rfl

/-- A new task is not busy. -/
theorem busy_of_make (r : Registry) (job : Job) {s : SharedTask} (hs : s ∈ (r.make job).2.shared)
    (hbusy : s.busy = true) : ∃ s₀ ∈ r.shared, s₀.busy = true ∧ s₀.job.tag = s.job.tag := by
  obtain ⟨tag, ownership, observer, actions, ending⟩ := job
  cases ownership with
  | closure => exact ⟨s, hs, hbusy, rfl⟩
  | owned => exact ⟨s, hs, hbusy, rfl⟩
  | shared =>
      simp only [make] at hs
      split at hs
      · exact ⟨s, hs, hbusy, rfl⟩
      · rcases List.mem_append.mp hs with hold | hnew
        · exact ⟨s, hold, hbusy, rfl⟩
        · rw [List.mem_singleton.mp hnew] at hbusy
          exact nomatch hbusy

end Registry

/-! ## Steps -/

/-- The task has begun and has not ended. -/
def Phase.isInside : Phase → Bool
  | .acting .. | .offering .. => true
  | .ready | .ran _ | .hooked _ | .concluded _ => false

/-- The item runs the shared task `tag`. -/
def Item.Inside (item : Item) (phase : Phase) (tag : Tag) : Prop :=
  item.job.ownership = .shared ∧ item.job.tag = tag ∧ phase.isInside = true

/-- The steps of an execution that need no queue: the shared tasks and the phase, before and after, and
    what is said about items. -/
inductive Item.Stepped (item : Item) (r : Registry) :
    Phase → Registry → Phase → List (Fate × TaskId) → Prop
  | begins (own : item.job.ownership ≠ .shared) :
      Stepped item r .ready r (.acting 1 item.job.actions) [(.begun, item.id)]
  | enters (task : SharedTask) (own : item.job.ownership = .shared)
      (found : r.shared? item.job.tag = some task) (free : task.busy = false) :
      Stepped item r .ready
        (r.update item.job.tag fun s => { s with runs := task.runs + 1, busy := true })
        (.acting (task.runs + 1) item.job.actions) [(.begun, item.id)]
  | ends (count : Nat) (outcome : Outcome) (own : item.job.ownership ≠ .shared) :
      Stepped item r (.acting count []) r (.ran outcome) []
  | exits (count : Nat) (outcome : Outcome) (own : item.job.ownership = .shared) :
      Stepped item r (.acting count [])
        (r.update item.job.tag fun s => { s with busy := false }) (.ran outcome) []
  | passes (count : Nat) (gate : String) (rest : List Action) (opened : gate ∈ r.openGates) :
      Stepped item r (.acting count (.pass gate :: rest)) r (.acting count rest) []
  | makes (count : Nat) (job : Job) (rest : List Action) :
      Stepped item r (.acting count (.submit job :: rest)) (r.make job).2
        (.offering count (r.make job).1 false rest) []
  | hooks (outcome : Outcome) : Stepped item r (.ran outcome) r (.hooked outcome) []
  | tells (outcome : Outcome) (ended : Ended)
      (told : ended = (Execution.conclude item outcome).1) :
      Stepped item r (.hooked outcome) r (.concluded ended) []

theorem Execution.conclude_calm {item : Item} (h : item.job.isCalm = true) (outcome : Outcome) :
    (conclude item outcome).1 = .returned outcome := by
  simp only [conclude]
  cases ho : item.job.observer with
  | none => rfl
  | some o => simp only [Job.observer_calm h ho]

/-- The observer of the item panics. -/
def Item.throws (item : Item) : Bool := item.job.observer.any (·.panic.isSome)

theorem Execution.throws_of_escaped {item : Item} {outcome : Outcome} {message : String}
    (h : (conclude item outcome).1 = .escaped message) : item.throws = true := by
  simp only [conclude] at h
  simp only [Item.throws]
  cases ho : item.job.observer with
  | none =>
      rw [ho] at h
      exact nomatch h
  | some o =>
      rw [ho] at h
      cases hp : o.panic with
      | none =>
          simp only [hp] at h
          exact nomatch h
      | some text =>
          rw [Option.any_some, hp]
          rfl

theorem Execution.fates_conclude (item : Item) (outcome : Outcome) :
    Note.fates (conclude item outcome).2 = [] := by
  simp only [conclude]
  cases item.job.observer with
  | none => cases item.job.ownership <;> rfl
  | some o =>
      obtain ⟨keepsWorker, panic⟩ := o
      cases item.job.ownership <;> cases panic <;> rfl

/-- Telling the task what has become of its child says nothing about the child's lot. -/
theorem Execution.fates_offered (e : Execution) (count : Nat) (child : Item) (rest : List Action)
    (accepted : Bool) : Note.fates (e.offered count child rest accepted).2 = [] := by
  simp only [offered]
  rw [Note.fates_append]
  cases accepted with
  | true => rfl
  | false =>
      rw [if_neg Bool.false_ne_true, child.fates_discard]
      rfl

/-- Every step is one of these. -/
theorem Execution.stepped {r r' : Registry} {e e' : Execution} {notes : List Note}
    (h : e.step r = some (r', e', notes)) :
    ∃ phase, e' = { e with phase } ∧ e.item.Stepped r e.phase r' phase (Note.fates notes) := by
  obtain ⟨item, phase⟩ := e
  cases phase with
  | ready =>
      simp only [step] at h
      split at h
      · rename_i hown
        split at h
        · rename_i task hfound
          split at h
          · exact nomatch h
          · rename_i hbusy
            cases h
            exact ⟨_, rfl, .enters task hown hfound (Bool.not_eq_true _ ▸ hbusy)⟩
        · exact nomatch h
      · rename_i hown
        cases h
        exact ⟨_, rfl, .begins (by rw [hown]; exact nofun)⟩
      · rename_i hown
        cases h
        exact ⟨_, rfl, .begins (by rw [hown]; exact nofun)⟩
  | acting count rest =>
      cases rest with
      | nil =>
          simp only [step, endRun] at h
          split at h
          · rename_i hown
            cases h
            exact ⟨_, rfl, .ends count _ (by rw [hown]; exact nofun)⟩
          · rename_i hown
            cases h
            exact ⟨_, rfl, .ends count _ (by rw [hown]; exact nofun)⟩
          · rename_i hown
            cases h
            exact ⟨_, rfl, .exits count _ hown⟩
      | cons action rest =>
          cases action with
          | pass gate =>
              simp only [step] at h
              split at h
              · rename_i hopen
                cases h
                exact ⟨_, rfl, .passes count gate rest (List.contains_iff_mem.mp hopen)⟩
              · exact nomatch h
          | submit job =>
              cases h
              exact ⟨_, rfl, .makes count job rest⟩
  | offering count child inQueue rest => exact nomatch h
  | ran outcome =>
      cases h
      exact ⟨_, rfl, .hooks outcome⟩
  | hooked outcome =>
      -- stated with `conclude` folded, for its notes are long and say nothing about items
      have hend : step r ⟨item, .hooked outcome⟩ =
          some (r, ⟨item, .concluded (conclude item outcome).1⟩, (conclude item outcome).2) := rfl
      rw [hend] at h
      obtain ⟨rfl, hrest⟩ := Prod.mk.inj (Option.some.inj h)
      obtain ⟨rfl, rfl⟩ := Prod.mk.inj hrest
      refine ⟨_, rfl, ?_⟩
      rw [fates_conclude]
      exact .tells outcome _ rfl
  | concluded ended => exact nomatch h

/-! ## What steps preserve -/

/-- What is still to be done is calm, and nothing has escaped. -/
def Phase.Fit (r : Registry) : Phase → Prop
  | .ready | .ran _ | .hooked _ => True
  | .acting _ rest => Job.areCalm rest = true
  | .offering _ child _ rest => r.fits child = true ∧ Job.areCalm rest = true
  | .concluded ended => ∃ outcome, ended = .returned outcome

theorem Phase.Fit.mono {r r' : Registry} (h : r.Precedes r') {phase : Phase} (hp : phase.Fit r) :
    phase.Fit r' := by
  cases phase with
  | offering count child inQueue rest => exact ⟨h.fits hp.1, hp.2⟩
  | ready | ran | hooked | acting | concluded => exact hp

/-- **A FIT EXECUTION STAYS FIT**, and its step forgets no task. -/
theorem Item.Stepped.fit {item : Item} {r r' : Registry} {phase phase' : Phase}
    {said : List (Fate × TaskId)} (h : item.Stepped r phase r' phase' said)
    (hitem : r.fits item = true) (hphase : phase.Fit r) (hr : r.Calm) :
    r.Precedes r' ∧ phase'.Fit r' := by
  have hcalm : item.job.isCalm = true := (Bool.and_eq_true_iff.mp hitem).1
  cases h with
  | begins own => exact ⟨.refl r, Job.areCalm_actions hcalm⟩
  | enters task own found free =>
      exact ⟨r.precedes_update _ fun _ => rfl, Job.areCalm_actions hcalm⟩
  | ends count outcome own => exact ⟨.refl r, trivial⟩
  | exits count outcome own => exact ⟨r.precedes_update _ fun _ => rfl, trivial⟩
  | passes count gate rest opened => exact ⟨.refl r, hphase⟩
  | makes count job rest =>
      obtain ⟨hjob, hrest⟩ := Bool.and_eq_true_iff.mp hphase
      obtain ⟨hprecedes, hchild⟩ := r.make_fits job hjob hr
      exact ⟨hprecedes, hchild, hrest⟩
  | hooks outcome => exact ⟨.refl r, trivial⟩
  | tells outcome ended told =>
      exact ⟨.refl r, outcome, told.trans (Execution.conclude_calm hcalm outcome)⟩

/-- A shared task that is busy after a step either is run by the item itself, or was busy before and is
    not the item's. -/
theorem Item.Stepped.busy {item : Item} {r r' : Registry} {phase phase' : Phase}
    {said : List (Fate × TaskId)} (h : item.Stepped r phase r' phase' said)
    {s : SharedTask} (hs : s ∈ r'.shared) (hbusy : s.busy = true) :
    item.Inside phase' s.job.tag ∨
      (∃ s₀ ∈ r.shared, s₀.busy = true ∧ s₀.job.tag = s.job.tag) ∧ ¬ item.Inside phase s.job.tag := by
  cases h with
  | begins own => exact Or.inr ⟨⟨s, hs, hbusy, rfl⟩, fun hin => own hin.1⟩
  | enters task own found free =>
      obtain ⟨s₀, hs₀, rfl⟩ := List.mem_map.mp hs
      -- the item has just begun its own task; any other task was busy before
      by_cases htag : s₀.job.tag = item.job.tag
      · rw [if_pos htag]
        exact Or.inl ⟨own, htag.symm, rfl⟩
      · rw [if_neg htag] at hbusy ⊢
        exact Or.inr ⟨⟨s₀, hs₀, hbusy, rfl⟩, fun hin => nomatch hin.2.2⟩
  | ends count outcome own => exact Or.inr ⟨⟨s, hs, hbusy, rfl⟩, fun hin => own hin.1⟩
  | exits count outcome own =>
      obtain ⟨s₀, hs₀, rfl⟩ := List.mem_map.mp hs
      by_cases htag : s₀.job.tag = item.job.tag
      · rw [if_pos htag] at hbusy
        exact nomatch hbusy
      · rw [if_neg htag] at hbusy ⊢
        exact Or.inr ⟨⟨s₀, hs₀, hbusy, rfl⟩, fun hin => htag hin.2.1.symm⟩
  | passes count gate rest opened =>
      by_cases hin : item.Inside (.acting count (.pass gate :: rest)) s.job.tag
      · exact Or.inl ⟨hin.1, hin.2.1, rfl⟩
      · exact Or.inr ⟨⟨s, hs, hbusy, rfl⟩, hin⟩
  | makes count job rest =>
      by_cases hin : item.Inside (.acting count (.submit job :: rest)) s.job.tag
      · exact Or.inl ⟨hin.1, hin.2.1, rfl⟩
      · exact Or.inr ⟨r.busy_of_make job hs hbusy, hin⟩
  | hooks outcome => exact Or.inr ⟨⟨s, hs, hbusy, rfl⟩, fun hin => nomatch hin.2.2⟩
  | tells outcome ended told => exact Or.inr ⟨⟨s, hs, hbusy, rfl⟩, fun hin => nomatch hin.2.2⟩

/-! ## When there is a step -/

/-- The task of the execution stands at a closed gate. -/
def Execution.IsBlocked (r : Registry) (e : Execution) : Prop :=
  ∃ count gate rest, e.phase = .acting count (.pass gate :: rest) ∧ gate ∉ r.openGates

/-- The execution waits until another one has ended its run of the same shared task. -/
def Execution.AwaitsTask (r : Registry) (e : Execution) : Prop :=
  e.phase = .ready ∧ ∃ s ∈ r.shared, s.busy = true ∧ s.job.tag = e.item.job.tag

/-- An execution that is neither over nor at the queue can go on, unless its task is blocked or in use. -/
theorem Execution.step_isSome_of_knows {r : Registry} {e : Execution}
    (hknown : r.knows e.item.job = true)
    (hover : ∀ ended, e.phase ≠ .concluded ended)
    (hoffer : ∀ count child inQueue rest, e.phase ≠ .offering count child inQueue rest)
    (hblocked : ¬ e.IsBlocked r) (hawaits : ¬ e.AwaitsTask r) : (e.step r).isSome = true := by
  obtain ⟨item, phase⟩ := e
  cases phase with
  | ready =>
      simp only [Registry.knows] at hknown
      simp only [step]
      split
      · rename_i hown
        rw [hown] at hknown
        obtain ⟨s, hs⟩ := Option.isSome_iff_exists.mp (Bool.false_or _ ▸ hknown)
        simp only [hs]
        -- a busy task would be waited for
        have hfree : ¬ s.busy = true := by
          intro hbusy
          have htag := List.find?_some hs
          exact hawaits ⟨rfl, s, List.mem_of_find?_eq_some hs, hbusy, of_decide_eq_true htag⟩
        rw [if_neg hfree]
        rfl
      · rfl
      · rfl
  | acting count rest =>
      cases rest with
      | nil => rfl
      | cons action rest =>
          cases action with
          | pass gate =>
              simp only [step]
              by_cases hopen : gate ∈ r.openGates
              · rw [if_pos (List.contains_iff_mem.mpr hopen)]
                rfl
              · exact absurd ⟨count, gate, rest, rfl, hopen⟩ hblocked
          | submit job => rfl
  | offering count child inQueue rest => exact absurd rfl (hoffer count child inQueue rest)
  | ran outcome => rfl
  | hooked outcome => rfl
  | concluded ended => exact absurd rfl (hover ended)

/-- The same for an item that fits. -/
theorem Execution.step_isSome {r : Registry} {e : Execution} (hitem : r.fits e.item = true)
    (hover : ∀ ended, e.phase ≠ .concluded ended)
    (hoffer : ∀ count child inQueue rest, e.phase ≠ .offering count child inQueue rest)
    (hblocked : ¬ e.IsBlocked r) (hawaits : ¬ e.AwaitsTask r) : (e.step r).isSome = true :=
  step_isSome_of_knows (Bool.and_eq_true_iff.mp hitem).2 hover hoffer hblocked hawaits

end PooledServer.Work
