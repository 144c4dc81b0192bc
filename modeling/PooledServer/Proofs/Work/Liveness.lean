import PooledServer.Work.Thread
import PooledServer.Proofs.Work.Executions

/-!
# When a thread is alive

    The flag of a thread follows its routine.  It is raised in the routine's first step and lowered in
    the hook, between the end of the task and the observer; nobody else writes it.  So the routine goes
    through three stretches, with the flag down, up and down again (`Routine.stretch`), and never back:
    a panic of the task ends in its outcome and meets the hook, and a panic of the observer comes after.

    Starting uses up the item, and joining the handle that a start has left, so either can succeed once
    (`Carrier.alive_while_running`). -/

namespace PooledServer.Work

/-! ## The routine in three stretches -/

/-- The event comes from inside a task. -/
def Event.isTasks : Event → Bool
  | .run .. | .submitted .. => true
  | .afterRun _ | .notified .. | .dropped _ => false

/-- An observer is invoked. -/
def Event.isObservers : Event → Bool
  | .notified .. => true
  | .run .. | .submitted .. | .afterRun _ | .dropped _ => false

/-- The hook has been called. -/
def Phase.isHooked : Phase → Bool
  | .hooked _ | .concluded _ => true
  | .ready | .acting .. | .offering .. | .ran _ => false

theorem Phase.isHooked_of_isInside {phase : Phase} (h : phase.isInside = true) :
    phase.isHooked = false := by
  cases phase <;> first | rfl | exact nomatch h

/-- Before the routine begins, from there to the hook, and after. -/
def Routine.stretch : Routine → Nat
  | .unstarted _ | .lost | .beginning _ => 0
  | .executing e => if e.phase.isHooked then 2 else 1
  | .ended _ => 2

theorem Routine.stretch_eq_one {routine : Routine} :
    routine.stretch = 1 ↔ ∃ e, routine = .executing e ∧ e.phase.isHooked = false := by
  cases routine with
  | executing e =>
      cases h : e.phase.isHooked with
      | true => simp [stretch, h]
      | false => simp [stretch, h]
  | unstarted | lost | beginning | ended => simp [stretch]

namespace Item

variable {item : Item} {event : Event}

/-! Each part of a trace that destroys makes one kind of event seen, if any. -/

theorem event_of_discard (h : .event event ∈ item.discard) : event = .dropped item.job.tag := by
  simp only [discard] at h
  cases hown : item.job.ownership <;> simp_all

theorem event_of_released (h : .event event ∈ item.released) : event = .dropped item.job.tag := by
  simp only [released] at h
  cases hown : item.job.ownership <;> simp_all

theorem event_of_destroyed (h : .event event ∈ item.destroyed) : event = .dropped item.job.tag := by
  simp only [destroyed] at h
  cases hown : item.job.ownership <;> simp_all

/-- Of work that a task submits, its refusal may destroy it, and the task hears the answer. -/
theorem event_of_answered {accepted : Bool} (h : .event event ∈ item.answered accepted) :
    event = .dropped item.job.tag ∨ event = .submitted item.job.tag accepted := by
  rcases List.mem_append.mp h with hfate | hheard
  · cases accepted with
    | true => exact absurd hfate (by simp)
    | false => exact Or.inl (event_of_discard (by simpa using hfate))
  · exact Or.inr (by simpa using hheard)

theorem isTasks_of_told {outcome : Outcome} (h : .event event ∈ item.told outcome) :
    event.isTasks = false := by
  simp only [told] at h
  cases hobserver : item.job.observer with
  | none => simp [hobserver] at h
  | some o =>
      simp only [hobserver, List.mem_singleton, Note.event.injEq] at h
      rw [h]
      rfl

end Item

namespace Item.Acts

variable {item : Item} {count : Nat} {phase phase' : Phase} {notes : List Note} {event : Event}

/-- Only the hook leads to where it has been called. -/
theorem isHooked_eq {hook : Outcome → List Note} (h : item.Acts hook count phase notes phase')
    (hran : ∀ outcome, phase ≠ .ran outcome) : phase'.isHooked = phase.isHooked := by
  cases h with
  | hooks outcome => exact absurd rfl (hran outcome)
  | begins | passes | makes | asks | hears | ends | tells => rfl

/-- What a task makes seen comes before the hook, and the observer after. -/
theorem isHooked_of_event (h : item.Acts (fun _ => []) count phase notes phase')
    (hevent : .event event ∈ notes) :
    (event.isTasks = true → phase.isHooked = false) ∧
      (event.isObservers = true → phase.isHooked = true) := by
  cases h with
  | begins =>
      obtain rfl : event = .run item.job.tag count := by simpa [Item.begin] using hevent
      exact ⟨fun _ => rfl, fun h => absurd h Bool.false_ne_true⟩
  | passes | makes | asks | hooks => exact absurd hevent (by simp)
  | hears child inQueue rest accepted =>
      refine ⟨fun _ => rfl, fun h => ?_⟩
      rcases Item.event_of_answered hevent with rfl | rfl <;> exact absurd h Bool.false_ne_true
  | ends =>
      obtain rfl := Item.event_of_released hevent
      exact ⟨fun _ => rfl, fun h => absurd h Bool.false_ne_true⟩
  | tells outcome =>
      refine ⟨fun h => ?_, fun _ => rfl⟩
      rcases List.mem_append.mp hevent with htold | hdestroyed
      · rw [Item.isTasks_of_told htold] at h
        exact absurd h Bool.false_ne_true
      · obtain rfl := Item.event_of_destroyed hdestroyed
        exact absurd h Bool.false_ne_true

end Item.Acts

/-! ## Moves -/

namespace Carrier

namespace Shown

/-- What the move leaves behind. -/
def notes : Shown → List Note
  | started _ notes | stepped notes => notes
  | joined _ => []

/-- A start has succeeded. -/
def hasStarted : Shown → Bool
  | started (.ok _) _ => true
  | _ => false

/-- A join has succeeded. -/
def hasJoined : Shown → Bool
  | joined result => result
  | _ => false

end Shown

variable {c c' : Carrier} {r r' : Registry} {notes : List Note}

/-- What one step of the routine does to the thread, and what it leaves behind. -/
inductive Stepped (c : Carrier) : Carrier → List Note → Prop where
  | begins (item : Item) (hr : c.routine = .beginning item) (record : Log.Record) :
      Stepped c { c with routine := .executing { item }, alive := true } [.log record]
  | acts (item : Item) (phase phase' : Phase) (count : Nat) (notes : List Note)
      (hr : c.routine = .executing ⟨item, phase⟩) (hran : ∀ outcome, phase ≠ .ran outcome)
      (hacts : item.Acts (fun _ => []) count phase notes phase') :
      Stepped c { c with routine := .executing ⟨item, phase'⟩ } notes
  | lowers (item : Item) (outcome : Outcome) (notes : List Note)
      (hr : c.routine = .executing ⟨item, .ran outcome⟩) (hnotes : ∀ event, .event event ∉ notes) :
      Stepped c { c with routine := .executing ⟨item, .hooked outcome⟩, alive := false } notes
  | ends (item : Item) (ended : Ended) (hr : c.routine = .executing ⟨item, .concluded ended⟩) :
      Stepped c { c with routine := .ended ended } []

theorem stepped (h : c.step r = some (r', c', notes)) : c.Stepped c' notes := by
  simp only [step] at h
  split at h
  · exact nomatch h
  · exact nomatch h
  · exact nomatch h
  · rename_i item hr
    cases h
    exact .begins item hr _
  · rename_i e hr
    obtain ⟨item, phase⟩ := e
    simp only at h
    split at h
    · rename_i ended
      cases h
      exact .ends item ended hr
    · rename_i outcome
      cases h
      refine .lowers item outcome _ hr ?_
      cases outcome with
      | completed => exact fun event hevent => nomatch hevent
      | panicked message => exact fun event hevent => by simp at hevent
    · rename_i hconcluded hran
      obtain ⟨⟨r₁, e₁, notes₁⟩, hstep, heq⟩ := Option.map_eq_some_iff.mp h
      cases heq
      have hphase : ∀ outcome, phase ≠ .ran outcome := fun outcome => hran outcome
      rcases Execution.stepAlone_cases hstep with
        hown | ⟨count, child, inQueue, rest, rfl, rfl, rfl, rfl⟩
      · obtain ⟨count, phase', rfl, hacts⟩ := Execution.acts (fun _ => []) hown
        have hnone : phase.hookNotes (fun _ => []) = [] := by cases phase <;> rfl
        rw [hnone, List.nil_append] at hacts
        exact .acts item phase phase' count _ hr hphase hacts
      · exact .acts item _ _ count _ hr hphase (.hears child inQueue rest false)

/-- What one move does to the thread, and what comes of it. -/
inductive Moved (c : Carrier) : Carrier → Shown → Prop where
  | starts (item : Item) (hr : c.routine = .unstarted item) :
      Moved c { c with routine := .beginning item, joinable := true } (.started (.ok ()) [])
  | isRefused (item : Item) (hr : c.routine = .unstarted item) (reason : String) :
      Moved c { c with routine := .lost } (.started (.error (.spawnFailed c.name reason)) item.discard)
  | startsAgain (hr : ∀ item, c.routine ≠ .unstarted item) :
      Moved c c (.started (.error .alreadyStarted) [])
  | steps (c' : Carrier) (notes : List Note) (h : c.Stepped c' notes) : Moved c c' (.stepped notes)
  | joins (hj : c.joinable = true) (ended : Ended) (hr : c.routine = .ended ended) (result : Bool) :
      Moved c { c with joinable := false } (.joined result)
  | joinsAgain (hj : c.joinable = false) : Moved c c (.joined false)

variable {m : Move} {s : Shown}

theorem moved (h : c.move m = some (c', s)) : c.Moved c' s := by
  cases m with
  | start refusal =>
      simp only [move, start] at h
      split at h
      · rename_i item hr
        cases refusal with
        | none =>
            cases h
            exact .starts item hr
        | some reason =>
            cases h
            exact .isRefused item hr reason
      · rename_i hr
        cases h
        exact .startsAgain hr
  | step r =>
      obtain ⟨⟨r', c₁, notes⟩, hstep, heq⟩ := Option.map_eq_some_iff.mp h
      obtain ⟨rfl, rfl⟩ := Prod.mk.inj heq
      exact .steps _ notes (stepped hstep)
  | join =>
      obtain ⟨⟨result, c₁⟩, hjoin, heq⟩ := Option.map_eq_some_iff.mp h
      cases heq
      simp only [join] at hjoin
      split at hjoin
      · rename_i hj
        split at hjoin
        · rename_i ended hr
          cases hjoin
          exact .joins hj ended hr _
        · exact nomatch hjoin
      · rename_i hj
        cases hjoin
        exact .joinsAgain (Bool.not_eq_true _ ▸ hj)

/-! ## What every move keeps -/

/-- The flag is up in the middle stretch of the routine. -/
def Truthful (c : Carrier) : Prop := c.alive = true ↔ c.routine.stretch = 1

theorem Truthful.alive_eq (hc : c.Truthful) {e : Execution} (hr : c.routine = .executing e) :
    c.alive = !e.phase.isHooked := by
  have hiff : c.alive = true ↔ e.phase.isHooked = false := by
    refine (hc.trans Routine.stretch_eq_one).trans ⟨?_, fun h => ⟨e, hr, h⟩⟩
    rintro ⟨e', hr', h⟩
    obtain rfl := Routine.executing.inj (hr.symm.trans hr')
    exact h
  rw [Bool.eq_iff_iff, Bool.not_eq_true']
  exact hiff

theorem Truthful.of_eq (hc : c.Truthful) (halive : c'.alive = c.alive)
    (hsame : c'.routine.stretch = c.routine.stretch) :
    c'.Truthful ∧ c.routine.stretch ≤ c'.routine.stretch := by
  refine ⟨?_, Nat.le_of_eq hsame.symm⟩
  simp only [Truthful]
  rw [halive, hsame]
  exact hc

theorem Stepped.truthful (h : c.Stepped c' notes) (hc : c.Truthful) :
    c'.Truthful ∧ c.routine.stretch ≤ c'.routine.stretch := by
  cases h with
  | begins item hr record =>
      rw [hr]
      exact ⟨iff_of_true rfl rfl, Nat.zero_le 1⟩
  | acts item phase phase' count notes hr hran hacts =>
      refine hc.of_eq rfl ?_
      rw [hr]
      simp only [Routine.stretch]
      rw [hacts.isHooked_eq hran]
  | lowers item outcome notes hr hnotes =>
      rw [hr]
      exact ⟨iff_of_false Bool.false_ne_true (Nat.succ_ne_self 1), Nat.le_succ 1⟩
  | ends item ended hr =>
      refine hc.of_eq rfl ?_
      rw [hr]
      rfl

/-- A move keeps the flag truthful, and does not lead back. -/
theorem Moved.truthful (h : c.Moved c' s) (hc : c.Truthful) :
    c'.Truthful ∧ c.routine.stretch ≤ c'.routine.stretch := by
  cases h with
  | starts item hr | isRefused item hr =>
      refine hc.of_eq rfl ?_
      rw [hr]
      rfl
  | startsAgain hr => exact hc.of_eq rfl rfl
  | steps c' notes h => exact h.truthful hc
  | joins | joinsAgain => exact hc.of_eq rfl rfl

/-- What comes from a task comes while the flag is up, and an observer is invoked when it is down. -/
theorem Moved.alive_of_event (h : c.Moved c' s) (hc : c.Truthful) {event : Event}
    (hevent : .event event ∈ s.notes) :
    (event.isTasks = true → c.alive = true ∧ c'.alive = true) ∧
      (event.isObservers = true → c.alive = false ∧ c'.alive = false) := by
  cases h with
  | starts | startsAgain | joins | joinsAgain => exact absurd hevent (by simp [Shown.notes])
  | isRefused item hr reason =>
      -- the task of a lost item is destroyed, and nothing else happens
      obtain rfl := Item.event_of_discard hevent
      exact ⟨fun h => absurd h Bool.false_ne_true, fun h => absurd h Bool.false_ne_true⟩
  | steps c' notes h =>
      cases h with
      | begins item hr record => exact absurd hevent (by simp [Shown.notes])
      | acts item phase phase' count notes hr hran hacts =>
          obtain ⟨htasks, hobservers⟩ := hacts.isHooked_of_event hevent
          have halive := hc.alive_eq hr
          refine ⟨fun h => ?_, fun h => ?_⟩
          · rw [htasks h] at halive
            exact ⟨halive, halive⟩
          · rw [hobservers h] at halive
            exact ⟨halive, halive⟩
      | lowers item outcome notes hr hnotes => exact absurd hevent (hnotes event)
      | ends item ended hr => exact absurd hevent (by simp [Shown.notes])

/-! ## What can be done once -/

/-- How often the thread can still be started. -/
def startsLeft (c : Carrier) : Nat := if c.routine matches .unstarted _ then 1 else 0

/-- How often joining can still succeed. -/
def joinsLeft (c : Carrier) : Nat := c.startsLeft + c.joinable.toNat

theorem Moved.left (h : c.Moved c' s) :
    c'.startsLeft + [s].countP Shown.hasStarted ≤ c.startsLeft ∧
      c'.joinsLeft + [s].countP Shown.hasJoined ≤ c.joinsLeft := by
  simp only [joinsLeft, startsLeft]
  cases h with
  | starts item hr | isRefused item hr =>
      rw [hr]
      simp [Shown.hasStarted, Shown.hasJoined]
  | startsAgain hr => exact ⟨Nat.le_refl _, Nat.le_refl _⟩
  | steps c' notes h =>
      -- the routine of a thread that can be started makes no step
      cases h with
      | begins item hr | acts item phase phase' count notes hr | lowers item outcome notes hr
      | ends item ended hr =>
          rw [hr]
          exact ⟨Nat.le_refl _, Nat.le_refl _⟩
  | joins hj ended hr result =>
      rw [hr, hj]
      cases result <;> simp [Shown.hasStarted, Shown.hasJoined]
  | joinsAgain hj => exact ⟨Nat.le_refl _, Nat.le_refl _⟩

/-! ## Runs -/

/-- Runs keep what moves keep. -/
theorem run_keeps_alive {moves : List Move} {shown : List Shown} (hc : c.Truthful)
    (h : c.run moves = some (c', shown)) :
    c'.Truthful ∧ c.routine.stretch ≤ c'.routine.stretch ∧
      c'.startsLeft + shown.countP Shown.hasStarted ≤ c.startsLeft ∧
      c'.joinsLeft + shown.countP Shown.hasJoined ≤ c.joinsLeft := by
  induction moves generalizing c shown with
  | nil =>
      obtain ⟨rfl, rfl⟩ := Prod.mk.inj (Option.some.inj h)
      exact ⟨hc, Nat.le_refl _, Nat.le_refl _, Nat.le_refl _⟩
  | cons m rest ih =>
      obtain ⟨⟨c₁, s⟩, h₁, h₂⟩ := Option.bind_eq_some_iff.mp h
      obtain ⟨⟨c₂, later⟩, h₃, h₄⟩ := Option.map_eq_some_iff.mp h₂
      obtain ⟨rfl, rfl⟩ := Prod.mk.inj h₄
      obtain ⟨htruthful, hstretch⟩ := (moved h₁).truthful hc
      obtain ⟨hstarts, hjoins⟩ := (moved h₁).left
      obtain ⟨htruthful', hstretch', hstarts', hjoins'⟩ := ih htruthful h₃
      rw [← List.singleton_append, List.countP_append, List.countP_append]
      exact ⟨htruthful', hstretch.trans hstretch', by omega, by omega⟩

/-- **A THREAD IS ALIVE WHILE ITS TASK RUNS**, whatever its item, whoever starts and joins it and however
    often, and whatever else happens to the shared tasks and the gates meanwhile.  The flag is up if and
    only if the routine has begun and the hook has not been called.  So it is up whenever the task runs,
    and what the task makes seen falls into that time; it is down when an observer is invoked, and once
    it has been lowered it stays down.  At most one start succeeds, and at most one join. -/
theorem alive_while_running {name : String} {item : Item} {moves : List Move} {shown : List Shown}
    (h : (new name item).run moves = some (c, shown)) :
    (c.alive = true ↔ ∃ e, c.routine = .executing e ∧ e.phase.isHooked = false) ∧
    (∀ e, c.routine = .executing e → e.phase.isInside = true → c.alive = true) ∧
    (∀ m c' s, c.move m = some (c', s) → ∀ event, .event event ∈ s.notes →
      (event.isTasks = true → c.alive = true ∧ c'.alive = true) ∧
      (event.isObservers = true → c.alive = false ∧ c'.alive = false)) ∧
    (∀ later c₁ shown₁ last c₂ shown₂, c.alive = true → c.run later = some (c₁, shown₁) →
      c₁.alive = false → c₁.run last = some (c₂, shown₂) → c₂.alive = false) ∧
    shown.countP Shown.hasStarted ≤ 1 ∧ shown.countP Shown.hasJoined ≤ 1 := by
  have hnew : (new name item).Truthful := iff_of_false Bool.false_ne_true Nat.zero_ne_one
  obtain ⟨hc, -, hstarts, hjoins⟩ := run_keeps_alive hnew h
  refine ⟨hc.trans Routine.stretch_eq_one, ?_, ?_, ?_, ?_, ?_⟩
  · intro e hr hinside
    rw [hc.alive_eq hr, Phase.isHooked_of_isInside hinside]
    rfl
  · intro m c' s hmove event hevent
    exact (moved hmove).alive_of_event hc hevent
  · intro later c₁ shown₁ last c₂ shown₂ hup hlater hdown hlast
    obtain ⟨hc₁, hstretch₁, -⟩ := run_keeps_alive hc hlater
    obtain ⟨hc₂, hstretch₂, -⟩ := run_keeps_alive hc₁ hlast
    -- with the flag lowered the routine has left the middle stretch, and it does not come back
    have hup' : c.routine.stretch = 1 := hc.mp hup
    have hdown' : c₁.routine.stretch ≠ 1 := fun h => Bool.false_ne_true (hdown.symm.trans (hc₁.mpr h))
    refine Bool.eq_false_iff.mpr fun hagain => ?_
    have hagain' : c₂.routine.stretch = 1 := hc₂.mp hagain
    omega
  · exact (Nat.le_add_left ..).trans hstarts
  · exact (Nat.le_add_left ..).trans hjoins

/-- An owned task that panics, with an observer that panics. -/
def doomed : Item :=
  ⟨1, .mk (.named "doomed") .owned (some { panic := some "watcher" }) [] (.panics (.text "boom")), none⟩

/-- A thread with this task is started, then started again, and its task begins. -/
def afterBeginning : Carrier × List Shown :=
  ((new "t" doomed).run [.start none, .start none, .step {}, .step {}]).getD (new "t" doomed, [])

/-- The task ends and the hook is called. -/
def afterHook : Carrier × List Shown := (afterBeginning.1.run [.step {}, .step {}]).getD afterBeginning

/-- The observer panics, the routine ends, and the thread is joined twice. -/
def afterJoining : Carrier × List Shown :=
  (afterHook.1.run [.step {}, .step {}, .join, .join]).getD afterHook

theorem alive_while_running_doomed :
    (new "t" doomed).run [.start none, .start none, .step {}, .step {}] =
      some (afterBeginning.1, afterBeginning.2) ∧
    afterBeginning.1.run [.step {}, .step {}] = some (afterHook.1, afterHook.2) ∧
    afterHook.1.run [.step {}, .step {}, .join, .join] =
      some (afterJoining.1, afterJoining.2) ∧
    afterBeginning.2.map Shown.hasStarted = [true, false, false, false] ∧
    (afterBeginning.1.alive, afterHook.1.alive, afterJoining.1.alive) = (true, false, false) ∧
    ∃ c s, afterHook.1.move (.step {}) = some (c, s) ∧
      .event (.notified (.named "doomed") 1 true none (.panicked "boom")) ∈ s.notes ∧
      c.alive = false := by
  have hbegun : (new "t" doomed).run [.start none, .start none, .step {}, .step {}] =
      some (afterBeginning.1, afterBeginning.2) := rfl
  have hhooked : afterBeginning.1.run [.step {}, .step {}] = some (afterHook.1, afterHook.2) := rfl
  have hleft : afterHook.1.run [.step {}, .step {}, .join, .join] =
      some (afterJoining.1, afterJoining.2) := rfl
  have hall : (new "t" doomed).run
      ([.start none, .start none, .step {}, .step {}] ++ [.step {}, .step {}]) =
        some (afterHook.1, afterBeginning.2 ++ afterHook.2) := rfl
  obtain ⟨hup, -, -, hdown, -⟩ := alive_while_running hbegun
  obtain ⟨-, -, hevents, -⟩ := alive_while_running hall
  have halive : afterBeginning.1.alive = true := hup.mpr ⟨⟨doomed, .acting 1 []⟩, rfl, rfl⟩
  have hlast : afterJoining.1.alive = false := hdown _ _ _ _ _ _ halive hhooked rfl hleft
  have htold : (afterHook.1.move (.step {})).isSome := rfl
  have hmove := (Option.some_get htold).symm
  have hevent : .event (.notified (.named "doomed") 1 true none (.panicked "boom")) ∈
      ((afterHook.1.move (.step {})).get htold).2.notes := List.mem_cons_self ..
  have hobserver := ((hevents _ _ _ hmove _ hevent).2 rfl).2
  refine ⟨hbegun, hhooked, hleft, rfl, ?_, _, _, hmove, hevent, hobserver⟩
  rw [halive, hlast]
  rfl

end Carrier

end PooledServer.Work
