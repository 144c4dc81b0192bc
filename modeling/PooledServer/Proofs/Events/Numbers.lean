import PooledServer.Proofs.Events.Runs
import PooledServer.Proofs.Events.Views

/-!
# Every number by itself

    A property of what there is to see of a number and of the stages that are at work on it
    (`State.Each`) is kept by a stage if it is kept for the number that the stage is at work on, and for
    the one on which it begins work (`Each.carries`).  A request that is finished begins work on the
    number of its socket (`Each.completes`), and the other moves change nothing about connections. -/

namespace PooledServer.Events

open Net

namespace State

/-- Every number but the listener's has the property, and the listener's is not used for connections. -/
structure Each (P : Descriptor → View → Multiset Stage → Prop) (s : State) : Prop where
  absent : s.table.entry? s.listener = none
  unlent : s.live s.listener = 0
  unclaimed : s.claims s.listener = 0
  others : ∀ d, d ≠ s.listener → P d (s.view d) (s.claims d)

variable {P : Descriptor → View → Multiset Stage → Prop} {s s' s₁ : State} {t : ThreadId}
  {luck : Luck} {stage : Stage} {next rest : List Stage} {d : Descriptor} {socket : Socket}

/-! ## Requests that are finished at once -/

theorem subject_of_panicked {message : Option String} :
    ∀ x ∈ (message.map (Stage.panicked d)).toList, x.subject? = none := by
  intro x hx
  cases message with
  | none => exact nomatch hx
  | some message =>
      cases List.mem_singleton.mp hx
      rfl

/-- The work that a finished request begins is on the number of its socket. -/
theorem descriptor_of_finished {c : Descriptor} {message : Option String} {x : Stage}
    (hx : x ∈ Stage.comeBack socket :: (message.map (Stage.panicked c)).toList)
    (hsubject : x.subject? = some d) : socket.descriptor = d := by
  rcases List.mem_cons.mp hx with rfl | hx
  · exact Option.some.inj hsubject
  · exact nomatch (subject_of_panicked x hx).symm.trans hsubject

theorem loan_serve (r : Request) : (Stage.serve r).loan r.socket.descriptor = 1 :=
  List.countP_singleton.trans (if_pos (decide_eq_true rfl))

/-- A request that is about to be handed out is live. -/
theorem Sound.live_of_serve (hs : s.Sound) {r : Request} (here : s.agenda? t = some (.serve r :: rest)) :
    0 < s.live r.socket.descriptor := by
  obtain ⟨m, c, ⟨hlive, -⟩, -⟩ := hs.numbered.exists_view here rfl [] r.socket.descriptor
  rw [loan_serve] at hlive
  omega

/-! ## The listener's number -/

/-- Nothing is at work on the listener's number. -/
theorem Each.ne_listener_of_subject (he : s.Each P) {th : Thread} (hth : th ∈ s.threads)
    (hstage : stage ∈ th.agenda) (hsubject : stage.subject? = some d) : d ≠ s.listener := by
  rintro rfl
  have hmem := mem_claims hth hstage hsubject
  rw [he.unclaimed] at hmem
  exact Multiset.notMem_zero stage hmem

/-- The listener's number has no live request. -/
theorem Each.ne_listener_of_live (he : s.Each P) (hlive : 0 < s.live d) : d ≠ s.listener := by
  rintro rfl
  rw [he.unlent] at hlive
  exact Nat.lt_irrefl 0 hlive

/-- Work never begins on the listener's number. -/
theorem Each.begins_elsewhere (he : s.Each P) (hs : s.Sound)
    (here : s.agenda? t = some (stage :: rest)) (h : s.Carries luck stage s₁ next)
    (hstage : stage.subject? = none) : ∀ x ∈ next, x.subject? ≠ some s.listener := by
  intro x hx hsubject
  cases h with
  | misses index e gone other | hangsUp index e other | readies index e other =>
      cases List.mem_singleton.mp hx
      exact other (Option.some.inj hsubject)
  | accepts c peer nonneg free other =>
      rcases List.mem_cons.mp hx with rfl | hx
      · exact other (Option.some.inj hsubject)
      · cases List.mem_singleton.mp hx
        exact nomatch hsubject
  | finishes r isOpen pending panic =>
      have hsame := descriptor_of_finished hx hsubject
      exact he.ne_listener_of_live (hs.live_of_serve here) hsame
  | hears | retries =>
      cases List.mem_singleton.mp hx
      exact nomatch hsubject
  | ignores | acceptsNone | acceptFails | keeps | tells => exact nomatch hx
  | _ => exact nomatch hstage

/-! ## Stages -/

/-- After a stage only those that follow it are at work on `d`, if nothing else was. -/
theorem Sound.claims_next (hs : s.Sound) (here : s.agenda? t = some (stage :: rest))
    (hthreads : s₁.threads = s.threads) (hclaims : s.claims d = stage.claim d) :
    (s₁.setAgenda t (next ++ rest)).claims d = (next.map (Stage.claim d)).sum := by
  obtain ⟨m, c, ⟨-, hall⟩, -, hall'⟩ := hs.numbered.exists_view here hthreads next d
  have hc : c = 0 := add_left_cancel ((hall.symm.trans hclaims).trans (add_zero _).symm)
  rw [hall', hc, add_zero]

/-- What there is to see after a stage, if nothing else is at work on `d`. -/
theorem Sound.view_next (hs : s.Sound) (here : s.agenda? t = some (stage :: rest))
    (hthreads : s₁.threads = s.threads) (hkept : s₁.kept = s.kept) {n : Nat}
    (hn : n + stage.loan d = s.live d + (next.map (Stage.loan d)).sum) :
    (s₁.setAgenda t (next ++ rest)).view d = ⟨s₁.table.entry? d, s₁.kernel.isWatched d, n⟩ := by
  obtain ⟨m, c, ⟨hlive, -⟩, hlive', -⟩ := hs.numbered.exists_view here hthreads next d
  have hsame : (s₁.setAgenda t (next ++ rest)).live d = n := by
    rw [hkept] at hlive'
    omega
  simp only [view]
  rw [hsame]
  rfl

/-- **A STAGE KEEPS WHAT HOLDS OF EVERY NUMBER**, if it does so for the number that it is at work on or
    begins work on. -/
theorem Each.carries (he : s.Each P) (hs : s.Sound) (here : s.agenda? t = some (stage :: rest))
    (h : s.Carries luck stage s₁ next)
    (hown : ∀ c socket, stage = .unwatchClosed c (some socket) → socket.descriptor = c)
    (hgoesOn : ∀ d, d ≠ s.listener → stage.subject? = some d →
      P d ((s₁.setAgenda t (next ++ rest)).view d) ((s₁.setAgenda t (next ++ rest)).claims d))
    (hbegins : stage.subject? = none → ∀ x ∈ next, ∀ d, d ≠ s.listener → x.subject? = some d →
      P d ((s₁.setAgenda t (next ++ rest)).view d) ((s₁.setAgenda t (next ++ rest)).claims d)) :
    (s₁.setAgenda t (next ++ rest)).Each P := by
  have hlistener : (s₁.setAgenda t (next ++ rest)).listener = s.listener := h.threads.2.2
  have hstage : stage.subject? ≠ some s.listener := fun hsubject =>
    he.ne_listener_of_subject (mem_threads_of_agenda? here) (List.mem_cons_self ..) hsubject rfl
  have hnext : ∀ x ∈ next, x.subject? ≠ some s.listener := fun x hx hsubject =>
    he.begins_elsewhere hs here h (h.subject_eq_none hstage hx hsubject) x hx hsubject
  obtain ⟨hview, hclaims⟩ := hs.frame hstage hnext here h hown
  obtain ⟨hentry, -, hlive⟩ := View.mk.inj hview
  refine ⟨?_, ?_, ?_, ?_⟩
  · rw [hlistener, hentry]
    exact he.absent
  · rw [hlistener, hlive]
    exact he.unlent
  · rw [hlistener, hclaims]
    exact he.unclaimed
  · intro d hd
    rw [hlistener] at hd
    by_cases hstage : stage.subject? = some d
    · exact hgoesOn d hd hstage
    · by_cases hnext : ∃ x ∈ next, x.subject? = some d
      · obtain ⟨x, hx, hsubject⟩ := hnext
        exact hbegins (h.subject_eq_none hstage hx hsubject) x hx d hd hsubject
      · obtain ⟨hview, hclaims⟩ := hs.frame hstage (fun x hx hsubject => hnext ⟨x, hx, hsubject⟩)
          here h hown
        rw [hview, hclaims]
        exact he.others d hd

/-! ## Other moves -/

/-- Events are no work. -/
theorem Sound.claims_batch (hs : s.Sound) (idle : s.agenda? 0 = some []) (events : List Event) :
    (s.setAgenda 0 (batch events)).claims d = s.claims d :=
  hs.numbered.gather_batch idle events fun _ _ => rfl

theorem Each.receives (he : s.Each P) (hs : s.Sound) {events : List Event}
    (idle : s.agenda? 0 = some []) : (s.setAgenda 0 (batch events)).Each P := by
  have hclaims : ∀ d, (s.setAgenda 0 (batch events)).claims d = s.claims d := fun d =>
    hs.claims_batch idle events
  have hlive : ∀ d, (s.setAgenda 0 (batch events)).live d = s.live d := by
    intro d
    have hgather : (s.setAgenda 0 (batch events)).gather (Stage.loan d) = s.gather (Stage.loan d) :=
      hs.numbered.gather_batch idle events fun _ _ => rfl
    rw [live_eq, live_eq, hgather]
    rfl
  refine ⟨he.absent, (hlive _).trans he.unlent, (hclaims _).trans he.unclaimed, ?_⟩
  intro d hd
  rw [hclaims, view, hlive]
  exact he.others d hd

/-- The server after a kept request has been finished, whose socket comes back. -/
def finished (s : State) (place : Nat) (socket : Socket) : State :=
  { s with kept := s.kept.eraseIdx place }.launch [.comeBack socket]

section Finished

variable {place : Nat} {r : Request} (kept : s.kept[place]? = some r)

include kept

theorem live_finished (socket : Socket) (d : Descriptor) :
    s.live d = [r].countP (·.socket.descriptor = d) + (s.finished place socket).live d := by
  have hperm := (perm_of_kept kept).countP_eq (·.socket.descriptor = d)
  rw [← List.singleton_append, List.countP_append] at hperm
  rw [finished, live_eq, live_eq, gather_launch, ← hperm, add_assoc]
  rfl

/-- A request that a handler keeps is live. -/
theorem live_of_kept : 0 < s.live r.socket.descriptor := by
  rw [live_finished kept r.socket, List.countP_singleton, if_pos (decide_eq_true rfl)]
  omega

omit kept in
theorem claims_finished : (s.finished place socket).claims d =
    s.claims d + Stage.claim d (.comeBack socket) := by
  rw [finished, claims, gather_launch, List.map_singleton, List.sum_singleton]
  rfl

/-- A request that is finished keeps what holds of every number, if it does so for its own. -/
theorem Each.completes (he : s.Each P) (hsocket : socket.descriptor = r.socket.descriptor)
    (hbegins : P socket.descriptor ((s.finished place socket).view socket.descriptor)
      ((s.finished place socket).claims socket.descriptor)) :
    (s.finished place socket).Each P := by
  have hother : ∀ d, socket.descriptor ≠ d → (s.finished place socket).live d = s.live d ∧
      (s.finished place socket).claims d = s.claims d := by
    intro d hne
    have hclaim : Stage.claim d (.comeBack socket) = 0 :=
      Stage.claim_of_ne fun h => hne (Option.some.inj h)
    rw [claims_finished, hclaim, live_finished kept socket, countP_of_ne (hsocket ▸ hne), zero_add,
      add_zero]
    exact ⟨rfl, rfl⟩
  have hne : socket.descriptor ≠ s.listener := by
    rw [hsocket]
    exact he.ne_listener_of_live (live_of_kept kept)
  refine ⟨he.absent, (hother _ hne).1.trans he.unlent, (hother _ hne).2.trans he.unclaimed, ?_⟩
  intro d hd
  by_cases hsame : socket.descriptor = d
  · rw [← hsame]
    exact hbegins
  · rw [(hother d hsame).2]
    show P d ⟨_, _, (s.finished place socket).live d⟩ _
    rw [(hother d hsame).1]
    exact he.others d hd

end Finished

/-- What changes elsewhere changes no watch, but perhaps the listener's. -/
theorem Each.elsewhere (he : s.Each P) {kernel : Kernel}
    (hwatched : ∀ d, d ≠ s.listener → kernel.isWatched d = s.kernel.isWatched d) :
    State.Each P { s with kernel } := by
  refine ⟨he.absent, he.unlent, he.unclaimed, ?_⟩
  intro d hd
  show P d ⟨_, kernel.isWatched d, _⟩ _
  rw [hwatched d hd]
  exact he.others d hd

theorem each_new (listener : Descriptor) (hout : ∀ d, P d ⟨none, false, 0⟩ 0) :
    (State.new listener).Each P := by
  refine ⟨rfl, rfl, rfl, ?_⟩
  intro d hd
  have hwatched : (State.new listener).kernel.isWatched d = false := by
    show (Kernel.watch _ listener).isWatched d = false
    have hne : d ≠ listener := hd
    rw [Kernel.isWatched_watch, Function.update_of_ne hne]
    rfl
  show P d ⟨none, (State.new listener).kernel.isWatched d, 0⟩ 0
  rw [hwatched]
  exact hout d

/-! ## Between operations -/

/-- No thread is at work on any number. -/
def isQuiet (s : State) : Bool :=
  s.threads.all fun th => th.agenda.all (·.subject?.isNone)

theorem claims_eq_zero_of_quiet (hquiet : s.isQuiet = true) (d : Descriptor) : s.claims d = 0 := by
  refine Multiset.eq_zero_of_forall_notMem fun stage hmem => ?_
  obtain ⟨hsubject, th, hth, hstage⟩ := exists_of_mem_claims hmem
  have hnone := List.all_eq_true.mp (List.all_eq_true.mp hquiet th hth) stage hstage
  rw [hsubject] at hnone
  exact nomatch hnone

end State

end PooledServer.Events
