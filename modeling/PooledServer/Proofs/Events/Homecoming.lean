import PooledServer.Proofs.Events.Interleaved
import PooledServer.Proofs.Events.Lending

/-!
# A socket comes home

    A thread that brings a socket back has three stages before it: it looks at the number, changes the
    entry that waits for the socket, and begins the watch again or gives the socket up
    (`State.Homing`).  Other threads may carry out stages between these, only not on the same number.
    If the lock and the watch work, the socket is parked and watched again at the end, or its number is
    out of the table and closed (`Lending.comesHome`).  Where events are prompt no other thread ever works on
    the number of a socket on its way home (`undisturbed_of_promptly`), so that it comes home whatever
    they do (`Lending.comesHome_promptly`). -/

namespace PooledServer.Events

open Net

/-- The next stage of thread `t`. -/
def Move.isStepOf (t : ThreadId) : Move → Bool
  | .step u _ => u == t
  | _ => false

namespace State

/-- What becomes of the number of a socket that has come back. -/
inductive Settled (s : State) (socket : Socket) : Prop
  | parked (usable : socket.isOpen = true)
      (entry : s.table.entry? socket.descriptor = some { socket := some socket })
      (watched : socket.descriptor ∈ s.kernel.watched)
      (stands : s.kernel.file? socket.descriptor = some (.connection socket.connection))
  | closed (useless : socket.isOpen = false) (entry : s.table.entry? socket.descriptor = none)
      (unwatched : socket.descriptor ∉ s.kernel.watched)
      (gone : s.kernel.file? socket.descriptor = none)

/-- The rule that nobody disturbs thread `t` at its work on `d`: the lock and the watch work for it, and
    no other thread works on `d`. -/
def undisturbed (t : ThreadId) (d : Descriptor) (s : State) : Move → Bool
  | .step u luck =>
    if u = t then luck.lock && luck.backend.isNone
    else
      match s.agenda? u with
      | some (stage :: _) => stage.subject? != some d
      | _ => false
  | move => s.spares move

/-- What thread `t` still has to do to bring a socket home, after so many of its three stages. -/
inductive Homing (s : State) (t : ThreadId) (socket : Socket) (rest : List Stage) : Nat → Prop
  | comes (here : s.agenda? t = some (.comeBack socket :: rest))
      (awaited : s.table.entry? socket.descriptor = some { isBusy := true }) :
      s.Homing t socket rest 0
  | enters (here : s.agenda? t = some (.park socket true :: rest))
      (awaited : s.table.entry? socket.descriptor = some { isBusy := true }) :
      s.Homing t socket rest 1
  | rearms (here : s.agenda? t = some (.rearm socket.descriptor :: rest))
      (usable : socket.isOpen = true)
      (parked : s.table.entry? socket.descriptor = some { socket := some socket }) :
      s.Homing t socket rest 2
  | releases (here : s.agenda? t = some (.release socket true :: rest))
      (useless : socket.isOpen = false) (absent : s.table.entry? socket.descriptor = none) :
      s.Homing t socket rest 2

variable {s s' s₁ : State} {t : ThreadId} {luck : Luck} {stage : Stage} {next rest : List Stage}
  {d : Descriptor} {move : Move} {moves : List Move} {socket : Socket} {n : Nat}

/-! ## What the others do -/

/-- What a thread has before it is its own. -/
theorem Goes.agenda?_eq (h : s.Goes move s') (hs' : s'.Numbered) (hother : move.isStepOf t = false)
    (here : s.agenda? t = some (stage :: rest)) : s'.agenda? t = some (stage :: rest) := by
  have hmine := mem_threads_of_agenda? here
  suffices hstill : (⟨t, stage :: rest⟩ : Thread) ∈ s'.threads by exact agenda?_of_mem hs' hstill
  cases h with
  | @carries u luck stage' rest' next s₁ there done =>
      have hne : t ≠ u := fun heq => beq_eq_false_iff_ne.mp hother heq.symm
      rw [← done.threads.1] at hmine
      exact mem_setAgenda_of_ne hmine hne
  | receives events idle =>
      have hne : t ≠ 0 := by
        rintro rfl
        exact nomatch idle.symm.trans here
      exact mem_setAgenda_of_ne hmine hne
  | completes place r isOpen pending kept => exact List.mem_append_left _ hmine
  | steals | opens => exact hmine

theorem Goes.entry?_eq (h : s.Goes move s') (hother : move.isStepOf t = false)
    (hrule : undisturbed t d s move = true) : s'.table.entry? d = s.table.entry? d := by
  cases h with
  | @carries u luck stage rest next s₁ there done =>
      simp only [undisturbed, if_neg (beq_eq_false_iff_ne.mp hother), there] at hrule
      have hentry := done.entry?_apart (bne_iff_ne.mp hrule)
      exact hentry
  | receives | completes | steals | opens => rfl

/-- A socket on its way home is not kept up by others. -/
theorem Homing.waits (hh : s.Homing t socket rest n) (hs' : s'.Sound) (h : s.Goes move s')
    (hother : move.isStepOf t = false)
    (hrule : undisturbed t socket.descriptor s move = true) : s'.Homing t socket rest n := by
  have hentry := h.entry?_eq hother hrule
  cases hh with
  | comes here awaited =>
      exact .comes (h.agenda?_eq hs'.numbered hother here) (hentry.trans awaited)
  | enters here awaited =>
      exact .enters (h.agenda?_eq hs'.numbered hother here) (hentry.trans awaited)
  | rearms here usable parked =>
      exact .rearms (h.agenda?_eq hs'.numbered hother here) usable (hentry.trans parked)
  | releases here useless absent =>
      exact .releases (h.agenda?_eq hs'.numbered hother here) useless (hentry.trans absent)

/-! ## What the thread does -/

/-- The next stage can always be carried out. -/
theorem Homing.isSome_step (hh : s.Homing t socket rest n) (luck : Luck) :
    (s.step t luck).isSome = true := by
  cases hh with
  | comes here | enters here | rearms here | releases here =>
      simp only [step, here]
      rfl

theorem agenda?_setAgenda (hs : (s₁.setAgenda t next).Numbered) (here : s₁.agenda? t = some rest) :
    (s₁.setAgenda t next).agenda? t = some next := by
  have hmine : (⟨t, next⟩ : Thread) ∈ (s₁.setAgenda t next).threads := mem_setAgenda_self here
  exact agenda?_of_mem hs hmine

/-- A thread whose stage is known carries out that stage. -/
theorem Goes.of_agenda? (h : s.Goes (.step t luck) s') (here : s.agenda? t = some (stage :: rest)) :
    ∃ s₁ next, s.Carries luck stage s₁ next ∧ s' = s₁.setAgenda t (next ++ rest) := by
  cases h with
  | carries there done =>
      cases Option.some.inj (there.symm.trans here)
      exact ⟨_, _, done, rfl⟩

/-- A socket that comes back finds its number open. -/
theorem Homing.enter (hs : s.Sound) (hs' : s'.Sound) (h : s.Goes (.step t luck) s')
    (here : s.agenda? t = some (.comeBack socket :: rest))
    (awaited : s.table.entry? socket.descriptor = some { isBusy := true }) :
    s'.Homing t socket rest 1 := by
  obtain ⟨s₁, next, done, rfl⟩ := h.of_agenda? here
  have hfits := hs.fits_next here done
  cases done with
  | comesBack =>
      have hopen : s.kernel.isOpen socket.descriptor = true := hfits
      rw [hopen] at hs' ⊢
      exact .enters (agenda?_setAgenda hs'.numbered here) awaited

/-- A socket that enters is parked if it is open, and loses its entry if not. -/
theorem Homing.leave (hs' : s'.Sound) (h : s.Goes (.step t luck) s') (hlock : luck.lock = true)
    (here : s.agenda? t = some (.park socket true :: rest))
    (awaited : s.table.entry? socket.descriptor = some { isBusy := true }) :
    s'.Homing t socket rest 2 := by
  obtain ⟨s₁, next, done, rfl⟩ := h.of_agenda? here
  cases done with
  | parkBarred _ _ lock => exact nomatch lock.symm.trans hlock
  | parks _ _ lock present usable =>
      refine .rearms (agenda?_setAgenda hs'.numbered here) (Bool.and_eq_true_iff.mp usable).1 ?_
      show Table.entry? (s.table.insert socket.descriptor _) socket.descriptor = _
      rw [Table.entry?_insert, Function.update_self]
  | retires _ _ lock present useless =>
      rw [Bool.and_true] at useless
      refine .releases (agenda?_setAgenda hs'.numbered here) useless ?_
      show Table.entry? (s.table.erase socket.descriptor) socket.descriptor = _
      rw [Table.entry?_erase, Function.update_self]
  | turnsAway _ _ lock other => exact absurd awaited other

/-- With the third stage the socket is home. -/
theorem Homing.arrive (hh : s.Homing t socket rest 2) (hs' : s'.Sound)
    (h : s.Goes (.step t luck) s') (hbackend : luck.backend = none) :
    s'.agenda? t = some rest ∧ s'.Settled socket := by
  cases hh with
  | rearms here usable parked =>
      obtain ⟨s₁, next, done, rfl⟩ := h.of_agenda? here
      cases done with
      | rearmFails _ e backend => exact nomatch backend.symm.trans hbackend
      | rearms _ backend =>
          refine ⟨agenda?_setAgenda hs'.numbered here, .parked usable parked (List.mem_cons_self ..) ?_⟩
          have hsocket := Table.socket?_eq parked
          exact (hs'.owned.standing _ (mem_held_of_socket? hsocket)).2
  | releases here useless absent =>
      obtain ⟨s₁, next, done, rfl⟩ := h.of_agenda? here
      cases done with
      | releases =>
          have hgone : (s.kernel.close socket.descriptor).file? socket.descriptor = none := by
            rw [Kernel.file?_close, Function.update_self]
          have hunwatched : socket.descriptor ∉ (s.kernel.close socket.descriptor).watched := by
            simp [Kernel.close]
          exact ⟨agenda?_setAgenda hs'.numbered here, .closed useless absent hunwatched hgone⟩

/-! ## Runs -/

/-- **EVERY MOVE KEEPS A SOCKET ON ITS WAY**, and a stage of its thread takes it further. -/
theorem Homing.goes (hh : s.Homing t socket rest n) (hs : s.Sound) (hs' : s'.Sound)
    (h : s.Goes move s') (hrule : undisturbed t socket.descriptor s move = true)
    (hcount : n + (if move.isStepOf t then 1 else 0) ≤ 2) :
    s'.Homing t socket rest (n + if move.isStepOf t then 1 else 0) := by
  cases hstep : move.isStepOf t with
  | false => exact hh.waits hs' h hstep hrule
  | true =>
      rw [hstep] at hcount
      cases move with
      | step u luck =>
          cases eq_of_beq hstep
          simp only [undisturbed, if_true, Bool.and_eq_true] at hrule
          cases hh with
          | comes here awaited => exact .enter hs hs' h here awaited
          | enters here awaited => exact .leave hs' h hrule.1 here awaited
          | rearms | releases => exact absurd hcount (by decide)
      | _ => cases hstep

/-- A rule with a property that its moves keep, under which nobody disturbs thread `t` on its way home
    with the socket. -/
structure Undisturbing (rule : State → Move → Bool) (P : State → Prop) (t : ThreadId)
    (socket : Socket) : Prop where
  keeps : ∀ s move s', s.Sound → P s → rule s move = true → s.Goes move s' → P s'
  alone : ∀ s move rest n, s.Sound → P s → s.Homing t socket rest n → rule s move = true →
    undisturbed t socket.descriptor s move = true

variable {rule : State → Move → Bool} {P : State → Prop}

/-- Within such a rule a socket stays on its way, and every stage of its thread takes it further. -/
theorem Homing.run (hrule : Undisturbing rule P t socket) (hh : s.Homing t socket rest n)
    (hs : s.Sound) (hP : P s) (hrun : s.run rule moves = some s')
    (hcount : n + moves.countP (Move.isStepOf t) ≤ 2) :
    s'.Sound ∧ P s' ∧ s'.Homing t socket rest (n + moves.countP (Move.isStepOf t)) := by
  induction moves generalizing s n with
  | nil =>
      cases hrun
      exact ⟨hs, hP, hh⟩
  | cons move later ih =>
      simp only [State.run] at hrun
      split at hrun
      · rename_i hmay
        obtain ⟨⟨s₁, notes⟩, hmove, hlater⟩ := Option.bind_eq_some_iff.mp hrun
        have hgoes := goes_of_move hmove
        have halone := hrule.alone s move rest n hs hP hh hmay
        have hs₁ := hs.goes (spares_of_rule halone fun _ => rfl) hgoes
        have hP₁ := hrule.keeps s move s₁ hs hP hmay hgoes
        rw [List.countP_cons, Nat.add_comm (later.countP _), ← Nat.add_assoc] at hcount ⊢
        exact ih (hh.goes hs hs₁ hgoes halone (by omega)) hs₁ hP₁ hlater hcount
      · cases hrun

/-- Thread `t` is about to bring the socket home, and it does so however the others go on meanwhile,
    within the rule: it can carry out its three stages, and with the third the socket is home. -/
def ComesHome (s : State) (rule : State → Move → Bool) (t : ThreadId) (socket : Socket) : Prop :=
  ∃ rest, s.agenda? t = some (.comeBack socket :: rest) ∧
    ∀ moves s', s.run rule moves = some s' →
      (moves.countP (Move.isStepOf t) ≤ 2 → ∀ luck, (s'.step t luck).isSome = true) ∧
      (moves.countP (Move.isStepOf t) = 2 → ∀ luck s'', s'.run rule [.step t luck] = some s'' →
        s''.agenda? t = some rest ∧ s''.Settled socket)

/-- After its second stage a socket is home with the next. -/
theorem Homing.settles (hrule : Undisturbing rule P t socket) (hh : s.Homing t socket rest 2)
    (hs : s.Sound) (hP : P s) (hrun : s.run rule [.step t luck] = some s') :
    s'.agenda? t = some rest ∧ s'.Settled socket := by
  simp only [State.run] at hrun
  split at hrun
  · rename_i hmay
    obtain ⟨⟨s₁, notes⟩, hmove, heq⟩ := Option.bind_eq_some_iff.mp hrun
    cases heq
    have hgoes := goes_of_move hmove
    have halone := hrule.alone s _ rest 2 hs hP hh hmay
    simp only [undisturbed, if_true, Bool.and_eq_true, Option.isNone_iff_eq_none] at halone
    exact hh.arrive (hs.goes rfl hgoes) hgoes halone.2
  · cases hrun

/-- Within such a rule a socket that comes back comes home. -/
theorem Lending.comesHome_of_rule (hl : s.Lending) (hrule : Undisturbing rule P t socket)
    (hs : s.Sound) (hP : P s) (here : s.agenda? t = some (.comeBack socket :: rest)) :
    s.ComesHome rule t socket := by
  have hcomes : s.Homing t socket rest 0 := .comes here (hl.awaited_here here rfl)
  refine ⟨rest, here, fun moves s' hrun => ⟨fun hcount luck => ?_, fun hcount luck s'' hlast => ?_⟩⟩
  · obtain ⟨-, -, hh⟩ := hcomes.run hrule hs hP hrun (by rwa [Nat.zero_add])
    exact hh.isSome_step luck
  · obtain ⟨hs', hP', hh⟩ := hcomes.run hrule hs hP hrun (by rw [Nat.zero_add, hcount])
    rw [Nat.zero_add, hcount] at hh
    exact hh.settles hrule hs' hP' hlast

/-- **A SOCKET THAT COMES BACK IS PARKED AND WATCHED, OR CLOSED**. -/
theorem Lending.comesHome (hl : s.Lending) (hs : s.Sound)
    (here : s.agenda? t = some (.comeBack socket :: rest)) :
    s.ComesHome (undisturbed t socket.descriptor) t socket := by
  have hrule : Undisturbing (undisturbed t socket.descriptor) (fun _ => True) t socket :=
    ⟨fun _ _ _ _ _ _ _ => trivial, fun _ _ _ _ _ _ _ hmay => hmay⟩
  exact hl.comesHome_of_rule hrule hs trivial here

/-! ## Prompt events -/

/-- The thread is at work on the number of the socket. -/
theorem Homing.exists_head (hh : s.Homing t socket rest n) : ∃ stage,
    s.agenda? t = some (stage :: rest) ∧ stage.subject? = some socket.descriptor := by
  cases hh with
  | comes here | enters here | rearms here | releases here => exact ⟨_, here, rfl⟩

/-- Two threads are never at work on one number. -/
theorem Regular.subject_ne (hr : s.Regular) (hs : s.Sound) (here : s.agenda? t = some (stage :: rest))
    (hsubject : stage.subject? = some d) {u : ThreadId} {other : Stage} {later : List Stage}
    (hne : u ≠ t) (there : s.agenda? u = some (other :: later)) : other.subject? ≠ some d := by
  intro hother
  obtain ⟨-, hclaims, -⟩ := hr.suits here hsubject
  have hsplit := hs.numbered.gather_split here (Stage.claim d)
  rw [Stage.claim_of_subject hsubject] at hsplit
  have hrest : (s.setAgenda t rest).claims d = 0 :=
    left_eq_add.mp (hclaims.symm.trans hsplit)
  have hmem : other ∈ (s.setAgenda t rest).claims d :=
    mem_claims (mem_setAgenda_of_ne (mem_threads_of_agenda? there) hne) (List.mem_cons_self ..) hother
  rw [hrest] at hmem
  exact Multiset.notMem_zero other hmem

/-- The rule that events are prompt, and that the lock and the watch work for thread `t`. -/
def promptlyFor (t : ThreadId) (s : State) (move : Move) : Bool :=
  s.promptly move &&
    match move with
    | .step u luck => u != t || (luck.lock && luck.backend.isNone)
    | _ => true

/-- **WHERE EVENTS ARE PROMPT NOBODY DISTURBS A SOCKET ON ITS WAY HOME**. -/
theorem undisturbed_of_promptly (hs : s.Sound) (hr : s.Regular) (hh : s.Homing t socket rest n)
    (hrule : promptlyFor t s move = true) : undisturbed t socket.descriptor s move = true := by
  obtain ⟨hprompt, hluck⟩ := Bool.and_eq_true_iff.mp hrule
  cases move with
  | step u luck =>
      by_cases hu : u = t
      · simp only [undisturbed, if_pos hu]
        simpa [hu] using hluck
      · simp only [promptly] at hprompt
        split at hprompt
        · rename_i stage later there
          obtain ⟨mine, here, hsubject⟩ := hh.exists_head
          simp only [undisturbed, if_neg hu, there]
          exact bne_iff_ne.mpr (hr.subject_ne hs here hsubject hu there)
        · cases hprompt
  | steal c => exact hprompt
  | receive | complete | openOther => rfl

/-- **WHERE EVENTS ARE PROMPT A SOCKET COMES HOME** whatever the other threads work on. -/
theorem Lending.comesHome_promptly (hl : s.Lending) (hs : s.Sound) (hr : s.Regular) (hp : s.Prompt)
    (here : s.agenda? t = some (.comeBack socket :: rest)) :
    s.ComesHome (promptlyFor t) t socket := by
  have hrule : Undisturbing (promptlyFor t) (fun s => s.Regular ∧ s.Prompt) t socket := by
    constructor
    · rintro s move s' hs ⟨hr, hp⟩ hmay hgoes
      exact hp.goes hr hs (Bool.and_eq_true_iff.mp hmay).1 hgoes
    · rintro s move rest n hs ⟨hr, -⟩ hh hmay
      exact undisturbed_of_promptly hs hr hh hmay
  exact hl.comesHome_of_rule hrule hs ⟨hr, hp⟩ here

end State

end PooledServer.Events
