import PooledServer.Pool.Step
import PooledServer.Proofs.Pool.Threads
import PooledServer.Proofs.Queue.Requests
import PooledServer.Proofs.Work.Stages

/-!
# The steps of a pool's threads

    With a lock and waits that work, a worker's thread has thirteen kinds of steps, a submission four
    and an order twenty-five.  `State.Works`, `State.Submits` and `State.Orders` list them, each with the
    pool that it leaves and the place where the thread goes; `State.Executes` does so for the part of a
    worker's steps that concerns the item in its hands.  What holds of all runs is read off these lists.

    The steps are stated for threads that have asked the queue for what their place says, which is true
    of every thread of a pool. -/

namespace PooledServer.Pool

open Work (Item Execution Phase Note Fate TaskId)

/-! ## What threads ask of the queue -/

/-- What an execution has asked the queue for. -/
def phaseAsks : Phase → Option (Queue.Request Item)
  | .offering _ child true _ => some (.add child)
  | .offering _ _ false _ | .ready | .acting .. | .ran _ | .hooked _ | .concluded _ => none

def WorkerPoint.asks : WorkerPoint → Option (Queue.Request Item)
  | .taking => some (.take true)
  | .executing e => phaseAsks e.phase
  | .starting _ | .checking | .holding _ | .counting _ | .leaving | .ending _ | .ended => none

def OrderPoint.asks : OrderPoint → Option (Queue.Request Item)
  | .asking => some .isRunning
  | .measuring => some .size
  | .draining => some .shutDownWhenDrained
  | .closing _ => some .shutDown
  | .begun _ | .hiring _ | .growing _ | .dismissing .. | .joining _ => none

/-- What a thread has asked the queue for, as its place says. -/
def Activity.asks : Activity → Option (Queue.Request Item)
  | .worker _ p => p.asks
  | .submission item true => some (.add item)
  | .order p => p.asks
  | .execution e => phaseAsks e.phase
  | .submission _ false | .request | .finished _ => none

namespace State

variable {s s' : State} {t : ThreadId} {luck : Luck} {notes notes' : List Note}

/-- Every thread has asked the queue for what its place says, and the queue is sound. -/
structure Asking (s : State) : Prop where
  asked : ∀ t, s.monitor.asked t = (s.activity? t).bind Activity.asks
  sound : s.monitor.Sound

theorem deeds_queueNotes (name : String) (reports : List (Queue.Report Item)) :
    Note.deeds (queueNotes name reports) = [] := by
  refine List.filter_eq_nil_iff.mpr fun n hn => ?_
  obtain ⟨r, -, rfl⟩ := List.mem_map.mp hn
  exact Bool.false_ne_true

theorem deeds_replyNotes (reply : Queue.Reply Item) :
    Note.deeds (replyNotes reply) = replyNotes reply := by
  simp only [replyNotes]
  split <;> rfl

/-- A thread that asks. -/
theorem ask_cases {r : Queue.Request Item} {a : Activity} (h : s.ask t r a = some s') :
    ∃ monitor, s.monitor.call t r = some monitor ∧ s' = { s with monitor }.place t a := by
  obtain ⟨monitor, hcall, rfl⟩ := Option.map_eq_some_iff.mp h
  exact ⟨monitor, hcall, rfl⟩

/-- A thread at the queue waits or is answered, and apart from the log that is all. -/
theorem turn_deeds (hlock : luck.lock = true) (hwait : luck.wait = true)
    {answer : Option (Queue.Answer Item)} (h : s.turn t luck = some (s', answer, notes)) :
    ∃ r monitor, s' = { s with monitor } ∧
      ((s.monitor.Waited t r monitor ∧ answer = none ∧ Note.deeds notes = []) ∨
        ∃ a, s.monitor.Answered t r monitor a ∧ answer = some a ∧
          Note.deeds notes = replyNotes ⟨t, r, a⟩) := by
  obtain ⟨⟨monitor, shown⟩, hstep, heq⟩ := Option.map_eq_some_iff.mp h
  obtain ⟨rfl, hrest⟩ := Prod.mk.inj heq
  obtain ⟨rfl, rfl⟩ := Prod.mk.inj hrest
  obtain ⟨r, hturn⟩ := Queue.Monitor.waited_or_answered hlock hwait hstep
  refine ⟨r, monitor, rfl, ?_⟩
  rcases hturn with ⟨hwaited, rfl⟩ | ⟨a, reports, hanswered, rfl⟩
  · refine Or.inl ⟨hwaited, rfl, ?_⟩
    rw [Note.deeds_append, deeds_queueNotes]
    rfl
  · refine Or.inr ⟨a, hanswered, rfl, ?_⟩
    rw [Note.deeds_append, deeds_queueNotes]
    exact deeds_replyNotes _

/-- The same with what is said about items. -/
theorem turn_cases (hlock : luck.lock = true) (hwait : luck.wait = true)
    {answer : Option (Queue.Answer Item)} (h : s.turn t luck = some (s', answer, notes)) :
    ∃ r monitor, s' = { s with monitor } ∧
      ((s.monitor.Waited t r monitor ∧ answer = none ∧ Note.fates notes = []) ∨
        ∃ a, s.monitor.Answered t r monitor a ∧ answer = some a ∧
          Note.fates notes = Note.fates (replyNotes ⟨t, r, a⟩)) := by
  obtain ⟨r, monitor, hs', hturn⟩ := turn_deeds hlock hwait h
  rw [← Note.fates_deeds notes]
  refine ⟨r, monitor, hs', hturn.imp ?_ ?_⟩
  · rintro ⟨hwaited, ha, hnotes⟩
    exact ⟨hwaited, ha, by rw [hnotes]; rfl⟩
  · rintro ⟨a, hanswered, ha, hnotes⟩
    exact ⟨a, hanswered, ha, by rw [hnotes]⟩

/-- The same for a thread whose request is known. -/
theorem turn_cases_of_asked (hlock : luck.lock = true) (hwait : luck.wait = true)
    {r : Queue.Request Item} (hasked : s.monitor.asked t = some r)
    {answer : Option (Queue.Answer Item)} (h : s.turn t luck = some (s', answer, notes)) :
    ∃ monitor, s' = { s with monitor } ∧
      ((s.monitor.Waited t r monitor ∧ answer = none ∧ Note.fates notes = []) ∨
        ∃ a, s.monitor.Answered t r monitor a ∧ answer = some a ∧
          Note.fates notes = Note.fates (replyNotes ⟨t, r, a⟩)) := by
  obtain ⟨r', monitor, hs', hturn⟩ := turn_cases hlock hwait h
  -- a thread asks for one thing at a time
  have hr : r' = r := by
    rcases hturn with ⟨hwaited, -⟩ | ⟨a, hanswered, -⟩
    · exact Option.some.inj (hwaited.asked_self.symm.trans hasked)
    · exact Option.some.inj (hanswered.asked_self.symm.trans hasked)
  subst hr
  exact ⟨monitor, hs', hturn⟩

/-- A thread that has not asked has no turn. -/
theorem turn_eq_none (hlock : luck.lock = true) (hwait : luck.wait = true)
    (hasked : s.monitor.asked t = none) : s.turn t luck = none := by
  cases h : s.turn t luck with
  | none => rfl
  | some result =>
      obtain ⟨s', answer, notes⟩ := result
      obtain ⟨r, monitor, -, ⟨hwaited, -⟩ | ⟨a, hanswered, -⟩⟩ := turn_cases hlock hwait h
      · exact nomatch hasked.symm.trans hwaited.asked_self
      · exact nomatch hasked.symm.trans hanswered.asked_self

/-- A request that never waits is answered at once. -/
theorem turn_answered (hlock : luck.lock = true) (hwait : luck.wait = true)
    {r : Queue.Request Item} (hasked : s.monitor.asked t = some r)
    (hnever : ∀ contents q, ¬r.Waits contents q)
    {answer : Option (Queue.Answer Item)} (h : s.turn t luck = some (s', answer, notes)) :
    ∃ monitor a, s' = { s with monitor } ∧ s.monitor.Answered t r monitor a ∧ answer = some a ∧
      Note.fates notes = Note.fates (replyNotes ⟨t, r, a⟩) := by
  obtain ⟨monitor, hs', ⟨hwaited, -⟩ | ⟨a, hanswered, ha, hnotes⟩⟩ :=
    turn_cases_of_asked hlock hwait hasked h
  · obtain ⟨q, hq⟩ := hwaited.reason
    exact absurd hq (hnever _ q)
  · exact ⟨monitor, a, hs', hanswered, ha, hnotes⟩

/-- An addition is answered at once: the item is accepted, or it is handed back. -/
theorem turn_add (hlock : luck.lock = true) (hwait : luck.wait = true) {item : Item}
    (hasked : s.monitor.asked t = some (.add item))
    {answer : Option (Queue.Answer Item)} (h : s.turn t luck = some (s', answer, notes)) :
    ∃ monitor, s' = { s with monitor } ∧
      ((s.monitor.Answered t (.add item) monitor .added ∧ answer = some .added ∧
        Note.fates notes = [(.accepted, item.id)]) ∨
      (s.monitor.Answered t (.add item) monitor (.rejected item) ∧ answer = some (.rejected item) ∧
        Note.fates notes = [(.refused, item.id)])) := by
  obtain ⟨monitor, a, hs', hanswered, ha, hnotes⟩ :=
    turn_answered hlock hwait hasked (fun _ _ h => nomatch h) h
  refine ⟨monitor, hs', ?_⟩
  rcases hanswered.add with ⟨rfl, -⟩ | ⟨rfl, -⟩
  · exact Or.inl ⟨hanswered, ha, hnotes⟩
  · exact Or.inr ⟨hanswered, ha, hnotes⟩

/-- The answers about the queue itself say nothing about items. -/
theorem fates_of_closing {m m' : Queue.Monitor Item} {r : Queue.Request Item}
    {a : Queue.Answer Item} (h : m.Answered t r m' a) (hadd : ∀ item, r ≠ .add item)
    (htake : ∀ wait, r ≠ .take wait) : Note.fates (replyNotes ⟨t, r, a⟩) = [] := by
  obtain ⟨sent, hleaves⟩ := h.leaves
  cases r with
  | add item => exact absurd rfl (hadd item)
  | take wait => exact absurd rfl (htake wait)
  | _ =>
      generalize m'.contents = contents at hleaves
      cases hleaves <;> rfl

/-! ## Executions -/

/-- The steps of an execution on thread `t`: the pool and the phase that each leaves, and what it says
    about items. -/
inductive Executes (s : State) (t : ThreadId) (item : Item) :
    Phase → State → Phase → List (Fate × TaskId) → Prop
  | proceeds {phase phase' : Phase} {registry : Work.Registry} {said : List (Fate × TaskId)}
      (stepped : item.Stepped s.registry phase registry phase' said) :
      Executes s t item phase { s with registry } phase' said
  | barred (count : Nat) (child : Item) (rest : List Work.Action) (closed : s.running = false) :
      Executes s t item (.offering count child false rest) s (.acting count rest)
        [(.refused, child.id)]
  | offers (count : Nat) (child : Item) (rest : List Work.Action) (monitor : Queue.Monitor Item)
      (welcome : s.running = true) (called : s.monitor.call t (.add child) = some monitor) :
      Executes s t item (.offering count child false rest) { s with monitor }
        (.offering count child true rest) []
  | accepted (count : Nat) (child : Item) (rest : List Work.Action) (monitor : Queue.Monitor Item)
      (answered : s.monitor.Answered t (.add child) monitor .added) :
      Executes s t item (.offering count child true rest) { s with monitor } (.acting count rest)
        [(.accepted, child.id)]
  | refused (count : Nat) (child : Item) (rest : List Work.Action) (monitor : Queue.Monitor Item)
      (answered : s.monitor.Answered t (.add child) monitor (.rejected child)) :
      Executes s t item (.offering count child true rest) { s with monitor } (.acting count rest)
        [(.refused, child.id)]

theorem executes_of_executionStep (hlock : luck.lock = true) (hwait : luck.wait = true)
    (hguarded : s.guarded = true) {e : Execution} (hasked : s.monitor.asked t = phaseAsks e.phase)
    {here : Execution → Activity} (h : s.executionStep t luck e here = some (s', notes)) :
    ∃ s₁ phase, s' = s₁.place t (here { e with phase }) ∧
      s.Executes t e.item e.phase s₁ phase (Note.fates notes) := by
  -- all phases but `offering` are left to the execution itself
  have hproceeds : ∀ {s' notes},
      (e.step s.registry).map (fun r =>
        ({ s with registry := r.1 }.place t (here r.2.1), r.2.2)) = some (s', notes) →
      ∃ s₁ phase, s' = s₁.place t (here { e with phase }) ∧
        s.Executes t e.item e.phase s₁ phase (Note.fates notes) := by
    intro s' notes h
    obtain ⟨⟨registry, e', notes'⟩, hstep, heq⟩ := Option.map_eq_some_iff.mp h
    obtain ⟨rfl, rfl⟩ := Prod.mk.inj heq
    obtain ⟨phase, rfl, hstepped⟩ := Execution.stepped hstep
    exact ⟨_, phase, rfl, .proceeds hstepped⟩
  obtain ⟨item, phase⟩ := e
  cases phase with
  | offering count child inQueue rest =>
      cases inQueue with
      | false =>
          -- the pool's flag is read before the queue is asked
          simp only [executionStep, hguarded, Bool.true_and] at h
          split at h
          · rename_i hclosed
            cases h
            refine ⟨s, _, rfl, ?_⟩
            rw [Note.fates_cons, Execution.fates_offered]
            exact .barred count child rest (by simpa using hclosed)
          · rename_i hopen
            obtain ⟨s₁, hask, heq⟩ := Option.map_eq_some_iff.mp h
            obtain ⟨rfl, rfl⟩ := Prod.mk.inj heq
            obtain ⟨monitor, hcall, rfl⟩ := ask_cases hask
            exact ⟨_, _, rfl, .offers count child rest monitor (by simpa using hopen) hcall⟩
      | true =>
          obtain ⟨⟨s₁, answer, notes₁⟩, hturn, heq⟩ := Option.map_eq_some_iff.mp h
          obtain ⟨monitor, rfl, hcases⟩ := turn_add hlock hwait hasked hturn
          rcases hcases with ⟨hanswered, rfl, hnotes⟩ | ⟨hanswered, rfl, hnotes⟩
          · obtain ⟨rfl, rfl⟩ := Prod.mk.inj heq
            refine ⟨_, _, rfl, ?_⟩
            simpa [hnotes, Note.fate] using Executes.accepted count child rest monitor hanswered
          · obtain ⟨rfl, rfl⟩ := Prod.mk.inj heq
            refine ⟨_, _, rfl, ?_⟩
            simpa [hnotes, Note.fate, child.fates_discard] using
              Executes.refused count child rest monitor hanswered
  | ready => exact hproceeds h
  | acting count rest => exact hproceeds h
  | ran outcome => exact hproceeds h
  | hooked outcome => exact hproceeds h
  | concluded ended => exact hproceeds h

/-! ## Workers -/

/-- The steps of worker `id` on thread `t`. -/
inductive Works (s : State) (t : ThreadId) (id : Nat) :
    WorkerPoint → State → WorkerPoint → List (Fate × TaskId) → Prop
  | starts (task : TaskId) :
      Works s t id (.starting task) (s.updateWorker id fun w => { w with alive := true }) .checking []
  | quits (stop : (s.worker? id).any (·.stop) = true) : Works s t id .checking s .leaving []
  | comes (monitor : Queue.Monitor Item) (called : s.monitor.call t (.take true) = some monitor) :
      Works s t id .checking { s with monitor } .taking []
  | waits (monitor : Queue.Monitor Item) (waited : s.monitor.Waited t (.take true) monitor) :
      Works s t id .taking { s with monitor } .taking []
  | takes (monitor : Queue.Monitor Item) (item : Item)
      (answered : s.monitor.Answered t (.take true) monitor (.taken item)) :
      Works s t id .taking { s with monitor } (.holding item) [(.handedOut, item.id)]
  | sentAway (monitor : Queue.Monitor Item)
      (answered : s.monitor.Answered t (.take true) monitor .notRunning) :
      Works s t id .taking { s with monitor } .leaving []
  | stamps (item : Item) :
      Works s t id (.holding item) s (.executing { item := { item with runBy := some id } }) []
  | executes (item : Item) {phase phase' : Phase} {s₁ : State} {said : List (Fate × TaskId)}
      (step : s.Executes t item phase s₁ phase' said) :
      Works s t id (.executing ⟨item, phase⟩) s₁ (.executing ⟨item, phase'⟩) said
  | returns (item : Item) (outcome : Work.Outcome) :
      Works s t id (.executing ⟨item, .concluded (.returned outcome)⟩) s (.counting item.id) []
  | escapes (item : Item) (message : String) :
      Works s t id (.executing ⟨item, .concluded (.escaped message)⟩) s (.ending (some message)) []
  | counts (task : TaskId) :
      Works s t id (.counting task)
        (s.updateWorker id fun w => { w with executed := w.executed + 1 }) .checking
        [(.counted, task)]
  | leaves : Works s t id .leaving s (.ending none) []
  | ends (escaped : Option String) :
      Works s t id (.ending escaped) (s.updateWorker id fun w => { w with alive := false }) .ended []

theorem works_of_taking (hs : s.Placed) (hlock : luck.lock = true) (hwait : luck.wait = true)
    {id : Nat} (hactivity : s.activity? t = some (.worker id .taking))
    (hasked : s.monitor.asked t = some (.take true))
    (h : s.workerStep t luck id .taking = some (s', notes)) :
    ∃ s₁ q, s' = s₁.place t (.worker id q) ∧ s.Works t id .taking s₁ q (Note.fates notes) := by
  obtain ⟨⟨s₁, answer, notes₁⟩, hturn, heq⟩ := Option.map_eq_some_iff.mp h
  obtain ⟨monitor, rfl, ⟨hwaited, rfl, hnotes⟩ | ⟨a, hanswered, rfl, hnotes⟩⟩ :=
    turn_cases_of_asked hlock hwait hasked hturn
  · obtain ⟨rfl, rfl⟩ := Prod.mk.inj heq
    -- a worker that goes on waiting is put back at its place
    refine ⟨{ s with monitor }, .taking,
      (place_self (s := { s with monitor }) hs.distinct hactivity).symm, ?_⟩
    rw [hnotes]
    exact .waits monitor hwaited
  · rcases hanswered.take with ⟨item, rfl, -⟩ | ⟨rfl, -⟩
    · obtain ⟨rfl, rfl⟩ := Prod.mk.inj heq
      refine ⟨_, _, rfl, ?_⟩
      rw [hnotes]
      exact .takes monitor item hanswered
    · obtain ⟨rfl, rfl⟩ := Prod.mk.inj heq
      refine ⟨_, _, rfl, ?_⟩
      rw [hnotes]
      exact .sentAway monitor hanswered

theorem works_of_executing (hlock : luck.lock = true) (hwait : luck.wait = true)
    (hguarded : s.guarded = true) {id : Nat} {e : Execution}
    (hasked : s.monitor.asked t = phaseAsks e.phase)
    (h : s.workerStep t luck id (.executing e) = some (s', notes)) :
    ∃ s₁ q, s' = s₁.place t (.worker id q) ∧
      s.Works t id (.executing e) s₁ q (Note.fates notes) := by
  obtain ⟨item, phase⟩ := e
  have hstep : s.executionStep t luck ⟨item, phase⟩ (fun e => .worker id (.executing e)) =
      some (s', notes) → ∃ s₁ q, s' = s₁.place t (.worker id q) ∧
        s.Works t id (.executing ⟨item, phase⟩) s₁ q (Note.fates notes) := by
    intro h
    obtain ⟨s₁, phase', rfl, hexecutes⟩ := executes_of_executionStep hlock hwait hguarded hasked h
    exact ⟨s₁, _, rfl, .executes item hexecutes⟩
  -- only the end of an execution is the worker's own step
  cases phase with
  | concluded ended =>
      cases ended with
      | returned outcome =>
          cases outcome with
          | completed =>
              cases h
              exact ⟨_, _, rfl, .returns item _⟩
          | panicked message =>
              cases h
              exact ⟨_, _, rfl, .returns item _⟩
      | escaped message =>
          cases h
          exact ⟨_, _, rfl, .escapes item message⟩
  | ready => exact hstep h
  | acting count rest => exact hstep h
  | offering count child inQueue rest => exact hstep h
  | ran outcome => exact hstep h
  | hooked outcome => exact hstep h

theorem works_of_workerStep (hs : s.Placed) (hlock : luck.lock = true) (hwait : luck.wait = true)
    (hguarded : s.guarded = true) {id : Nat} {p : WorkerPoint}
    (hactivity : s.activity? t = some (.worker id p)) (hasked : s.monitor.asked t = p.asks)
    (h : s.workerStep t luck id p = some (s', notes)) :
    ∃ s₁ q, s' = s₁.place t (.worker id q) ∧ s.Works t id p s₁ q (Note.fates notes) := by
  cases p with
  | starting task =>
      cases h
      exact ⟨_, _, rfl, .starts task⟩
  | checking =>
      simp only [workerStep] at h
      split at h
      · rename_i hstop
        cases h
        exact ⟨_, _, rfl, .quits hstop⟩
      · obtain ⟨s₁, hask, heq⟩ := Option.map_eq_some_iff.mp h
        obtain ⟨rfl, rfl⟩ := Prod.mk.inj heq
        obtain ⟨monitor, hcall, rfl⟩ := ask_cases hask
        exact ⟨_, _, rfl, .comes monitor hcall⟩
  | taking => exact works_of_taking hs hlock hwait hactivity hasked h
  | holding item =>
      cases h
      exact ⟨_, _, rfl, .stamps item⟩
  | executing e => exact works_of_executing hlock hwait hguarded hasked h
  | counting task =>
      cases h
      exact ⟨_, _, rfl, .counts task⟩
  | leaving =>
      cases h
      exact ⟨_, _, rfl, .leaves⟩
  | ending escaped =>
      cases h
      refine ⟨_, _, rfl, ?_⟩
      cases escaped <;> exact .ends _
  | ended => exact nomatch h

/-! ## Submissions -/

/-- The steps of thread `t`, which submits an item. -/
inductive Submits (s : State) (t : ThreadId) (item : Item) :
    Bool → State → Activity → List (Fate × TaskId) → Prop
  | barred (closed : s.running = false) :
      Submits s t item false s (.finished (.submitted item false)) [(.refused, item.id)]
  | comes (monitor : Queue.Monitor Item) (welcome : s.running = true)
      (called : s.monitor.call t (.add item) = some monitor) :
      Submits s t item false { s with monitor } (.submission item true) []
  | accepted (monitor : Queue.Monitor Item)
      (answered : s.monitor.Answered t (.add item) monitor .added) :
      Submits s t item true { s with monitor } (.finished (.submitted item true))
        [(.accepted, item.id)]
  | refused (monitor : Queue.Monitor Item)
      (answered : s.monitor.Answered t (.add item) monitor (.rejected item)) :
      Submits s t item true { s with monitor } (.finished (.submitted item false))
        [(.refused, item.id)]

theorem submits_of_step (hlock : luck.lock = true) (hwait : luck.wait = true) {item : Item}
    {inQueue : Bool} (hactivity : s.activity? t = some (.submission item inQueue))
    (hasked : s.monitor.asked t = (Activity.submission item inQueue).asks)
    (h : s.step t luck = some (s', notes)) :
    ∃ s₁ b, s' = s₁.place t b ∧ s.Submits t item inQueue s₁ b (Note.fates notes) := by
  simp only [step] at h
  rw [hactivity] at h
  cases inQueue with
  | false =>
      simp only at h
      split at h
      · rename_i hwelcome
        obtain ⟨s₁, hask, heq⟩ := Option.map_eq_some_iff.mp h
        obtain ⟨rfl, rfl⟩ := Prod.mk.inj heq
        obtain ⟨monitor, hcall, rfl⟩ := ask_cases hask
        exact ⟨_, _, rfl, .comes monitor hwelcome hcall⟩
      · rename_i hclosed
        cases h
        exact ⟨_, _, rfl, .barred (by simpa using hclosed)⟩
  | true =>
      obtain ⟨⟨s₁, answer, notes₁⟩, hturn, heq⟩ := Option.map_eq_some_iff.mp h
      obtain ⟨monitor, rfl, hcases⟩ := turn_add hlock hwait hasked hturn
      rcases hcases with ⟨hanswered, rfl, hnotes⟩ | ⟨hanswered, rfl, hnotes⟩
      · obtain ⟨rfl, rfl⟩ := Prod.mk.inj heq
        refine ⟨_, _, rfl, ?_⟩
        rw [hnotes]
        exact .accepted monitor hanswered
      · obtain ⟨rfl, rfl⟩ := Prod.mk.inj heq
        refine ⟨_, _, rfl, ?_⟩
        rw [hnotes]
        exact .refused monitor hanswered

/-! ## Orders -/

/-- The steps of thread `t`, which carries out an order.  They say nothing about items. -/
inductive Orders (s : State) (t : ThreadId) : OrderPoint → State → Activity → Prop
  | startsNothing (welcome : s.running = true) :
      Orders s t (.begun .start) s (.finished (.ordered (.ok ())))
  | inquires (monitor : Queue.Monitor Item) (closed : s.running = false)
      (called : s.monitor.call t .isRunning = some monitor) :
      Orders s t (.begun .start) { s with monitor } (.order .asking)
  | grows (count : Nat) (welcome : s.running = true) :
      Orders s t (.begun (.grow count)) s (.order (.growing count))
  | plans (count : Nat) (size : UInt64) (closed : s.running = false) :
      Orders s t (.begun (.grow count)) { s with size } (.finished (.ordered (.ok ())))
  | overplans (count : Nat) (message : String) (closed : s.running = false) :
      Orders s t (.begun (.grow count)) s (.finished (.panicked message))
  | stopsNothing (measures : Bool) (closed : s.running = false) (nobody : s.workers = []) :
      Orders s t (.begun (.stop measures)) s (.finished (.ordered (.ok ())))
  | measures (measures : Bool) (monitor : Queue.Monitor Item)
      (due : s.running = true ∨ s.workers ≠ [])
      (called : s.monitor.call t .size = some monitor) :
      Orders s t (.begun (.stop measures)) { s with running := false, monitor } (.order .measuring)
  | drains (measures : Bool) (monitor : Queue.Monitor Item)
      (due : s.running = true ∨ s.workers ≠ [])
      (called : s.monitor.call t .shutDownWhenDrained = some monitor) :
      Orders s t (.begun (.stop measures)) { s with running := false, monitor } (.order .draining)
  | mayStart (monitor : Queue.Monitor Item)
      (answered : s.monitor.Answered t .isRunning monitor (.flag true)) :
      Orders s t .asking { s with monitor } (.order (.hiring s.size.toNat))
  | mayNot (monitor : Queue.Monitor Item)
      (answered : s.monitor.Answered t .isRunning monitor (.flag false)) :
      Orders s t .asking { s with monitor } (.finished (.ordered (.error .queueShutDown)))
  | opens : Orders s t (.hiring 0) { s with running := true } (.finished (.ordered (.ok ())))
  | hires (left : Nat) : Orders s t (.hiring (left + 1)) s.enlarged (.order (.hiring left))
  | givesUp (left : Nat) (failure : PoolError) (monitor : Queue.Monitor Item)
      (called : s.monitor.call t .shutDown = some monitor) :
      Orders s t (.hiring (left + 1)) { s.attempted with monitor } (.order (.closing (some failure)))
  | grown : Orders s t (.growing 0) s (.finished (.ordered (.ok ())))
  | growsBy (left : Nat) (size : UInt64) :
      Orders s t (.growing (left + 1)) { s.enlarged with size } (.order (.growing left))
  | outgrows (left : Nat) (message : String) :
      Orders s t (.growing (left + 1)) s.enlarged (.finished (.panicked message))
  | stunted (left : Nat) (failure : PoolError) :
      Orders s t (.growing (left + 1)) s.attempted (.finished (.ordered (.error failure)))
  | measured (between monitor : Queue.Monitor Item) (count : Nat)
      (answered : s.monitor.Answered t .size between (.count count))
      (called : between.call t .shutDownWhenDrained = some monitor) :
      Orders s t .measuring { s with monitor } (.order .draining)
  | waits (monitor : Queue.Monitor Item)
      (waited : s.monitor.Waited t .shutDownWhenDrained monitor) :
      Orders s t .draining { s with monitor } (.order .draining)
  | drained (between monitor : Queue.Monitor Item) (answer : Queue.Answer Item)
      (answered : s.monitor.Answered t .shutDownWhenDrained between answer)
      (called : between.call t .shutDown = some monitor) :
      Orders s t .draining { s with monitor } (.order (.closing none))
  | closes (failure : Option PoolError) (monitor : Queue.Monitor Item) (answer : Queue.Answer Item)
      (answered : s.monitor.Answered t .shutDown monitor answer) :
      Orders s t (.closing failure) { s with monitor }
        (.order (.dismissing (s.workers.map (·.id)) failure))
  | dismisses (id : Nat) (left : List Nat) (failure : Option PoolError) :
      Orders s t (.dismissing (id :: left) failure)
        (s.updateWorker id fun w => { w with stop := true }) (.order (.dismissing left failure))
  | dismissed (failure : Option PoolError) :
      Orders s t (.dismissing [] failure) s (.order (.joining failure))
  | joins (failure : Option PoolError) (w : Worker) (rest : List Worker)
      (first : s.workers = w :: rest) (gone : s.isOver w.thread = true) :
      Orders s t (.joining failure) (s.dropFirst w rest) (.order (.joining failure))
  | joined (failure : Option PoolError) (nobody : s.workers = []) :
      Orders s t (.joining failure) s
        (.finished (.ordered (match failure with | some e => .error e | none => .ok ())))

/-- An attempt to hire either enlarges the pool or fails. -/
theorem hire_cases (s : State) (luck : Luck) :
    (∃ notes, s.hire luck = (s.enlarged, notes, .ok ()) ∧ Note.fates notes = []) ∨
    ∃ notes e, s.hire luck = (s.attempted, notes, .error e) ∧ Note.fates notes = [] := by
  simp only [hire]
  cases luck.create with
  | some errno => exact Or.inr ⟨_, _, rfl, rfl⟩
  | none =>
      cases luck.spawn with
      | true => exact Or.inl ⟨_, rfl, rfl⟩
      | false => exact Or.inr ⟨_, _, rfl, rfl⟩

/-- A thread that asks, on its way to another place of its order. -/
theorem orders_of_ask {p q : OrderPoint} {r : Queue.Request Item} {s₀ : State}
    (h : (s₀.ask t r (.order q)).map (·, notes) = some (s', notes'))
    (hnext : ∀ monitor, s₀.monitor.call t r = some monitor →
      s.Orders t p { s₀ with monitor } (.order q)) :
    notes' = notes ∧ ∃ s₁ b, s' = s₁.place t b ∧ s.Orders t p s₁ b := by
  obtain ⟨s₁, hask, heq⟩ := Option.map_eq_some_iff.mp h
  obtain ⟨rfl, rfl⟩ := Prod.mk.inj heq
  obtain ⟨monitor, hcall, rfl⟩ := ask_cases hask
  exact ⟨rfl, _, _, rfl, hnext monitor hcall⟩

/-- What is to be shown of a step of an order: it is listed, and says nothing about items. -/
def Ordered (s : State) (t : ThreadId) (p : OrderPoint) (s' : State) (notes : List Note) : Prop :=
  Note.fates notes = [] ∧ ∃ s₁ b, s' = s₁.place t b ∧ s.Orders t p s₁ b

theorem ordered_of_begun {order : Order} (h : s.orderStep t luck (.begun order) = some (s', notes)) :
    s.Ordered t (.begun order) s' notes := by
  cases order with
  | start =>
      simp only [orderStep] at h
      split at h
      · rename_i hwelcome
        cases h
        exact ⟨rfl, _, _, rfl, .startsNothing hwelcome⟩
      · rename_i hclosed
        obtain ⟨rfl, hstep⟩ := orders_of_ask (s := s) h fun monitor hcall =>
          .inquires monitor (by simpa using hclosed) hcall
        exact ⟨rfl, hstep⟩
  | grow count =>
      simp only [orderStep] at h
      split at h
      · rename_i hwelcome
        cases h
        exact ⟨rfl, _, _, rfl, .grows count hwelcome⟩
      · rename_i hstopped
        have hclosed : s.running = false := by simpa using hstopped
        split at h
        · cases h
          exact ⟨rfl, _, _, rfl, .plans count _ hclosed⟩
        · cases h
          exact ⟨rfl, _, _, rfl, .overplans count _ hclosed⟩
  | stop measures =>
      simp only [orderStep] at h
      split at h
      · rename_i hnothing
        cases h
        have hboth : s.running = false ∧ s.workers = [] := by simpa using hnothing
        exact ⟨rfl, _, _, rfl, .stopsNothing measures hboth.1 hboth.2⟩
      · rename_i hsomething
        have hdue : s.running = true ∨ s.workers ≠ [] := by
          cases hr : s.running with
          | true => exact Or.inl rfl
          | false => exact Or.inr (by simpa [hr] using hsomething)
        split at h
        · obtain ⟨rfl, hstep⟩ := orders_of_ask (s := s) h fun monitor hcall =>
            .measures measures monitor hdue hcall
          exact ⟨rfl, hstep⟩
        · obtain ⟨rfl, hstep⟩ := orders_of_ask (s := s) h fun monitor hcall =>
            .drains measures monitor hdue hcall
          exact ⟨rfl, hstep⟩

theorem ordered_of_asking (hlock : luck.lock = true) (hwait : luck.wait = true)
    (hasked : s.monitor.asked t = some .isRunning)
    (h : s.orderStep t luck .asking = some (s', notes)) : s.Ordered t .asking s' notes := by
  obtain ⟨⟨s₁, answer, notes₁⟩, hturn, heq⟩ := Option.map_eq_some_iff.mp h
  obtain ⟨monitor, a, rfl, hanswered, rfl, hnotes⟩ :=
    turn_answered hlock hwait hasked (fun _ _ h => nomatch h) hturn
  obtain ⟨rfl, -⟩ := hanswered.isRunning
  cases hrunning : s.monitor.contents.running with
  | true =>
      rw [hrunning] at hanswered heq hnotes
      obtain ⟨rfl, rfl⟩ := Prod.mk.inj heq
      exact ⟨hnotes, _, _, rfl, .mayStart monitor hanswered⟩
  | false =>
      rw [hrunning] at hanswered heq hnotes
      obtain ⟨rfl, rfl⟩ := Prod.mk.inj heq
      exact ⟨hnotes, _, _, rfl, .mayNot monitor hanswered⟩

theorem ordered_of_hiring {left : Nat} (h : s.orderStep t luck (.hiring left) = some (s', notes)) :
    s.Ordered t (.hiring left) s' notes := by
  cases left with
  | zero =>
      cases h
      exact ⟨rfl, _, _, rfl, .opens⟩
  | succ left =>
      simp only [orderStep] at h
      rcases s.hire_cases luck with ⟨notes₁, hhire, hnotes⟩ | ⟨notes₁, e, hhire, hnotes⟩
      · rw [hhire] at h
        cases h
        exact ⟨hnotes, _, _, rfl, .hires left⟩
      · rw [hhire] at h
        obtain ⟨rfl, hstep⟩ := orders_of_ask (s := s) h fun monitor hcall =>
          .givesUp left e monitor hcall
        refine ⟨?_, hstep⟩
        rw [Note.fates_append, hnotes]
        rfl

theorem ordered_of_growing {left : Nat} (h : s.orderStep t luck (.growing left) = some (s', notes)) :
    s.Ordered t (.growing left) s' notes := by
  cases left with
  | zero =>
      cases h
      exact ⟨rfl, _, _, rfl, .grown⟩
  | succ left =>
      simp only [orderStep] at h
      rcases s.hire_cases luck with ⟨notes₁, hhire, hnotes⟩ | ⟨notes₁, e, hhire, hnotes⟩
      · rw [hhire] at h
        simp only at h
        split at h
        · cases h
          exact ⟨hnotes, _, _, rfl, .growsBy left _⟩
        · cases h
          exact ⟨hnotes, _, _, rfl, .outgrows left _⟩
      · rw [hhire] at h
        cases h
        exact ⟨hnotes, _, _, rfl, .stunted left e⟩

theorem ordered_of_measuring (hlock : luck.lock = true) (hwait : luck.wait = true)
    (hasked : s.monitor.asked t = some .size)
    (h : s.orderStep t luck .measuring = some (s', notes)) : s.Ordered t .measuring s' notes := by
  obtain ⟨⟨s₁, answer, notes₁⟩, hturn, hrest⟩ := Option.bind_eq_some_iff.mp h
  obtain ⟨between, a, rfl, hanswered, rfl, hnotes⟩ :=
    turn_answered hlock hwait hasked (fun _ _ h => nomatch h) hturn
  obtain ⟨⟨n, rfl⟩, -⟩ := hanswered.size
  obtain ⟨rfl, hstep⟩ := orders_of_ask (s := s) hrest fun monitor hcall =>
    .measured between monitor n hanswered hcall
  refine ⟨?_, hstep⟩
  rw [Note.fates_append, hnotes]
  rfl

theorem ordered_of_draining (hs : s.Placed) (hlock : luck.lock = true) (hwait : luck.wait = true)
    (hactivity : s.activity? t = some (.order .draining))
    (hasked : s.monitor.asked t = some .shutDownWhenDrained)
    (h : s.orderStep t luck .draining = some (s', notes)) : s.Ordered t .draining s' notes := by
  obtain ⟨⟨s₁, answer, notes₁⟩, hturn, hrest⟩ := Option.bind_eq_some_iff.mp h
  obtain ⟨between, rfl, ⟨hwaited, rfl, hnotes⟩ | ⟨a, hanswered, rfl, hnotes⟩⟩ :=
    turn_cases_of_asked hlock hwait hasked hturn
  · obtain ⟨rfl, rfl⟩ := Prod.mk.inj (Option.some.inj hrest)
    exact ⟨hnotes, _, _,
      (place_self (s := { s with monitor := between }) hs.distinct hactivity).symm,
      .waits between hwaited⟩
  · obtain ⟨rfl, hstep⟩ := orders_of_ask (s := s) hrest fun monitor hcall =>
      .drained between monitor a hanswered hcall
    refine ⟨?_, hstep⟩
    rw [hnotes]
    exact fates_of_closing hanswered (fun _ h => nomatch h) (fun _ h => nomatch h)

theorem ordered_of_closing (hlock : luck.lock = true) (hwait : luck.wait = true)
    {failure : Option PoolError} (hasked : s.monitor.asked t = some .shutDown)
    (h : s.orderStep t luck (.closing failure) = some (s', notes)) :
    s.Ordered t (.closing failure) s' notes := by
  obtain ⟨⟨s₁, answer, notes₁⟩, hturn, heq⟩ := Option.map_eq_some_iff.mp h
  obtain ⟨monitor, a, rfl, hanswered, rfl, hnotes⟩ :=
    turn_answered hlock hwait hasked (fun _ _ h => nomatch h) hturn
  obtain ⟨rfl, rfl⟩ := Prod.mk.inj heq
  refine ⟨?_, _, _, rfl, .closes failure monitor a hanswered⟩
  rw [hnotes]
  exact fates_of_closing hanswered (fun _ h => nomatch h) (fun _ h => nomatch h)

theorem ordered_of_joining (hs : s.Placed) {failure : Option PoolError}
    (hactivity : s.activity? t = some (.order (.joining failure)))
    (h : s.orderStep t luck (.joining failure) = some (s', notes)) :
    s.Ordered t (.joining failure) s' notes := by
  simp only [orderStep] at h
  split at h
  · rename_i hnobody
    cases failure with
    | none =>
        cases h
        exact ⟨rfl, _, _, rfl, .joined none hnobody⟩
    | some e =>
        cases h
        exact ⟨rfl, _, _, rfl, .joined (some e) hnobody⟩
  · rename_i w rest hfirst
    split at h
    · rename_i hover
      cases h
      obtain ⟨p, hp⟩ := hs.staffed w (hfirst ▸ List.mem_cons_self ..)
      -- the thread that is joined is a worker's
      have hne : t ≠ w.thread := by
        rintro rfl
        exact nomatch hactivity.symm.trans hp
      have hstays : (s.dropFirst w rest).activity? t = some (.order (.joining failure)) := by
        rw [activity?_dropFirst, Function.update_of_ne hne]
        exact hactivity
      refine ⟨by cases luck.join <;> rfl, _, _, (place_self ?_ hstays).symm,
        .joins failure w rest hfirst hover⟩
      exact (hs.dropFirst hfirst).distinct
    · exact nomatch h

theorem ordered_of_orderStep (hs : s.Placed) (hlock : luck.lock = true) (hwait : luck.wait = true)
    {p : OrderPoint} (hactivity : s.activity? t = some (.order p))
    (hasked : s.monitor.asked t = p.asks) (h : s.orderStep t luck p = some (s', notes)) :
    s.Ordered t p s' notes := by
  cases p with
  | begun order => exact ordered_of_begun h
  | asking => exact ordered_of_asking hlock hwait hasked h
  | hiring left => exact ordered_of_hiring h
  | growing left => exact ordered_of_growing h
  | measuring => exact ordered_of_measuring hlock hwait hasked h
  | draining => exact ordered_of_draining hs hlock hwait hactivity hasked h
  | closing failure => exact ordered_of_closing hlock hwait hasked h
  | dismissing left failure =>
      cases left with
      | nil =>
          cases h
          exact ⟨rfl, _, _, rfl, .dismissed failure⟩
      | cons id left =>
          cases h
          exact ⟨rfl, _, _, rfl, .dismisses id left failure⟩
  | joining failure => exact ordered_of_joining hs hactivity h

/-! ## All threads -/

/-- The steps of thread `t`, whatever it does. -/
inductive Stepped (s : State) (t : ThreadId) : State → List (Fate × TaskId) → Prop
  | works {id : Nat} {p q : WorkerPoint} {s₁ : State} {said : List (Fate × TaskId)}
      (here : s.activity? t = some (.worker id p)) (step : s.Works t id p s₁ q said) :
      Stepped s t (s₁.place t (.worker id q)) said
  | submits {item : Item} {inQueue : Bool} {b : Activity} {s₁ : State} {said : List (Fate × TaskId)}
      (here : s.activity? t = some (.submission item inQueue))
      (step : s.Submits t item inQueue s₁ b said) : Stepped s t (s₁.place t b) said
  | orders {p : OrderPoint} {b : Activity} {s₁ : State} (here : s.activity? t = some (.order p))
      (step : s.Orders t p s₁ b) : Stepped s t (s₁.place t b) []

/-- **EVERY STEP IS ONE OF THOSE LISTED**, unless a thread executes an item without a worker. -/
theorem stepped_of_step (hs : s.Placed) (hq : s.Asking) (hguarded : s.guarded = true)
    (hlock : luck.lock = true) (hwait : luck.wait = true)
    (hnone : ∀ e, s.activity? t ≠ some (.execution e)) (h : s.step t luck = some (s', notes)) :
    s.Stepped t s' (Note.fates notes) := by
  cases hactivity : s.activity? t with
  | none =>
      simp only [step] at h
      rw [hactivity] at h
      exact nomatch h
  | some a =>
      have hasked : s.monitor.asked t = a.asks := by
        rw [hq.asked, hactivity]
        rfl
      cases a with
      | worker id p =>
          simp only [step] at h
          rw [hactivity] at h
          obtain ⟨s₁, q, rfl, hworks⟩ :=
            works_of_workerStep hs hlock hwait hguarded hactivity hasked h
          exact .works hactivity hworks
      | request =>
          simp only [step] at h
          rw [hactivity] at h
          -- in such a run nobody asks for itself at the queue, so this thread has no turn
          simp only [turn_eq_none hlock hwait hasked] at h
          exact nomatch h
      | submission item inQueue =>
          obtain ⟨s₁, b, rfl, hsubmits⟩ := submits_of_step hlock hwait hactivity hasked h
          exact .submits hactivity hsubmits
      | execution e => exact absurd hactivity (hnone e)
      | order p =>
          simp only [step] at h
          rw [hactivity] at h
          obtain ⟨hnotes, s₁, b, rfl, horders⟩ :=
            ordered_of_orderStep hs hlock hwait hactivity hasked h
          rw [hnotes]
          exact .orders hactivity horders
      | finished result =>
          simp only [step] at h
          rw [hactivity] at h
          exact nomatch h

end State

end PooledServer.Pool
