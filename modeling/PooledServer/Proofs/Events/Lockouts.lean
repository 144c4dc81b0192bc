import PooledServer.Proofs.Events.Places
import PooledServer.Proofs.Events.Regular

/-!
# When the lock of the table fails

    A stage that cannot take the lock gives up.  At most stages nothing is lost by that: a new connection
    is dropped, an event is passed over, a number is left in the table.  Three stages leave a number
    behind that nobody looks after any more (`View.Lost`): a ready connection has lost its watch already
    when its socket is to be taken out of the table, a connection that could not be watched is still in
    the table when it is to be closed, and an entry waits for the socket that came back and is dropped.

    So if the lock fails at these stages for spoiled numbers only (`State.tolerates`), and work on a number
    begins only when nothing is at work on it (`State.severally`), every other connection is parked and
    watched, on loan with one live request, or closed and out of the table whenever nothing is at work on
    its number (`State.strands_nobody`). -/

namespace PooledServer.Events

open Net

namespace View

/-- What a failure of the lock leaves behind: a parked socket that nobody watches, or an entry that waits
    for a socket that is gone. -/
inductive Lost : View → Prop
  | stranded (socket : Socket) : Lost ⟨some { socket := some socket }, false, 0⟩
  | orphaned : Lost ⟨some { isBusy := true }, false, 0⟩

/-- What a number is like that nothing is at work on.  Only a spoiled one may be lost. -/
inductive Settled (spoiled : Bool) (v : View) : Prop
  | rests (h : v.Rests)
  | lost (h : v.Lost) (hspoiled : spoiled = true)

/-- What a stage may meet at the number that it is at work on, if that may be lost. -/
inductive Meets (spoiled : Bool) : Stage → View → Prop
  | suits (stage : Stage) (v : View) (h : v.Suits stage) : Meets spoiled stage v
  | track (socket : Socket) (hspoiled : spoiled = true) :
      Meets spoiled (.track socket) ⟨some { isBusy := true }, false, 0⟩
  | close (d : Descriptor) (hspoiled : spoiled = true) :
      Meets spoiled (.close d) ⟨some { isBusy := true }, false, 0⟩
  | forget (d : Descriptor) (hspoiled : spoiled = true) :
      Meets spoiled (.forget d) ⟨some { isBusy := true }, false, 0⟩
  | unwatchForgotten (d : Descriptor) (hspoiled : spoiled = true) :
      Meets spoiled (.unwatchForgotten d none) ⟨some { isBusy := true }, false, 0⟩
  | unwatchReady (index : Nat) (d : Descriptor) (v : View) (h : v.Lost) (hspoiled : spoiled = true) :
      Meets spoiled (.unwatchReady index d) v
  | lend (index : Nat) (d : Descriptor) (hspoiled : spoiled = true) :
      Meets spoiled (.lend index d) ⟨some { isBusy := true }, false, 0⟩

/-- A number that nothing is at work on, or with one stage at work on it that may meet what it is like. -/
inductive RegularBut (spoiled : Bool) (v : View) : Multiset Stage → Prop
  | settled (h : v.Settled spoiled) : v.RegularBut spoiled 0
  | meets (stage : Stage) (h : v.Meets spoiled stage) : v.RegularBut spoiled {stage}

variable {spoiled : Bool} {v : View} {claims : Multiset Stage} {stage : Stage}

theorem Regular.but (h : v.Regular claims) : v.RegularBut spoiled claims := by
  cases h with
  | rests h => exact .settled (.rests h)
  | suits stage h => exact .meets stage (.suits stage v h)

theorem RegularBut.settled_of_nobody (h : v.RegularBut spoiled claims) (hnone : claims = 0) :
    v.Settled spoiled := by
  cases h with
  | settled h => exact h
  | meets stage h => exact absurd hnone (Multiset.singleton_ne_zero stage)

theorem RegularBut.meets_of_mem (h : v.RegularBut spoiled claims) (hmem : stage ∈ claims) :
    claims = {stage} ∧ v.Meets spoiled stage := by
  cases h with
  | settled h => exact absurd hmem (Multiset.notMem_zero stage)
  | meets other h =>
      rw [Multiset.mem_singleton.mp hmem]
      exact ⟨rfl, h⟩

theorem Lost.isWatched (h : v.Lost) : v.isWatched = false := by
  cases h <;> rfl

theorem Lost.live (h : v.Lost) : v.live = 0 := by
  cases h <;> rfl

/-- A number that is watched, with nothing at work on it, has its socket in the table. -/
theorem Settled.parked_of_watched (h : v.Settled spoiled) (hwatched : v.isWatched = true) :
    ∃ socket, v.entry = some { socket := some socket } := by
  cases h with
  | rests hrests =>
      cases hrests with
      | parked socket => exact ⟨socket, rfl⟩
      | out | lent => exact nomatch hwatched
  | lost hlost hspoiled => exact nomatch hlost.isWatched.symm.trans hwatched

/-- A number whose socket is in the table, with nothing at work on it, is watched or has been lost. -/
theorem Settled.of_parked (h : v.Settled spoiled) {e : Entry} {socket : Socket}
    (hentry : v.entry = some e) (hparked : e.socket = some socket) :
    v = ⟨some { socket := some socket }, true, 0⟩ ∨
      spoiled = true ∧ v = ⟨some { socket := some socket }, false, 0⟩ := by
  cases h with
  | rests hrests =>
      cases hrests with
      | parked other =>
          cases hentry
          cases hparked
          exact Or.inl rfl
      | out => cases hentry
      | lent =>
          cases hentry
          cases hparked
  | lost hlost hspoiled =>
      cases hlost with
      | stranded other =>
          cases hentry
          cases hparked
          exact Or.inr ⟨hspoiled, rfl⟩
      | orphaned =>
          cases hentry
          cases hparked

/-- A number with a live request, with nothing at work on it, waits for the one that has its socket. -/
theorem Settled.of_live (h : v.Settled spoiled) (hlive : 0 < v.live) :
    v = ⟨some { isBusy := true }, false, 1⟩ := by
  cases h with
  | rests hrests =>
      cases hrests with
      | lent => rfl
      | out | parked => exact absurd hlive (Nat.lt_irrefl 0)
  | lost hlost hspoiled => exact absurd hlive (hlost.live ▸ Nat.lt_irrefl 0)

/-- A number that is not regular is not watched. -/
theorem RegularBut.regular_or (h : v.RegularBut spoiled claims) :
    v.Regular claims ∨ v.isWatched = false := by
  cases h with
  | settled h =>
      cases h with
      | rests h => exact Or.inl (.rests h)
      | lost h hspoiled => exact Or.inr h.isWatched
  | meets stage h =>
      cases h with
      | suits _ _ h => exact Or.inl (.suits stage h)
      | unwatchReady _ _ _ h hspoiled => exact Or.inr h.isWatched
      | _ => exact Or.inr rfl

theorem Meets.own {c : Descriptor} {socket : Socket}
    (h : v.Meets spoiled (.unwatchClosed c (some socket))) : socket.descriptor = c := by
  cases h with
  | suits _ _ h => exact h.own

end View

namespace State

/-- A watch that there is can be ended. -/
def endsWatch (s : State) (stage : Stage) (luck : Luck) : Bool :=
  match stage with
  | .unwatchClosed d _ | .unwatchForgotten d _ | .unwatchReady _ d =>
    luck.backend.isNone || !s.kernel.isWatched d
  | _ => true

/-- The lock works, or it fails at a stage that leaves nothing behind, or for a spoiled number. -/
def tolerates (spoiled : Descriptor → Bool) (s : State) (stage : Stage) (luck : Luck) : Bool :=
  luck.lock ||
    match stage with
    | .lend _ d => spoiled d || (s.table.socket? d).isNone
    | .close d => spoiled d || s.kernel.isWatched d || (s.table.socket? d).isNone
    | .park socket _ => spoiled socket.descriptor
    | _ => true

variable {spoiled : Descriptor → Bool} {b : Bool} {s s' s₁ : State} {t : ThreadId} {luck : Luck}
  {stage : Stage} {next rest : List Stage} {listener d : Descriptor} {v : View} {move : Move}
  {moves : List Move} {notes : List Note} {socket : Socket} {n : Nat}

/-! ## Work that goes on -/

/-- After a stage that is at work on `d`, and with those that follow it, `d` is regular or lost. -/
def ProceedsBut (b : Bool) (s s₁ : State) (next : List Stage) (d : Descriptor) : Prop :=
  View.RegularBut b
    ⟨s₁.table.entry? d, s₁.kernel.isWatched d, s.live d + (next.map (Stage.loan d)).sum⟩
    (next.map (Stage.claim d)).sum

theorem Proceeds.but (h : s.Proceeds s₁ next d) : ProceedsBut b s s₁ next d := View.Regular.but h

/-- The work is done. -/
theorem ProceedsBut.done (h : v.Settled b) (hentry : s₁.table.entry? d = v.entry)
    (hwatched : s₁.kernel.isWatched d = v.isWatched) (hlive : s.live d = v.live) :
    ProceedsBut b s s₁ [] d := by
  show View.RegularBut b ⟨_, _, s.live d⟩ 0
  rw [hentry, hwatched, hlive]
  exact .settled h

/-- The work goes on with another stage. -/
theorem ProceedsBut.goesOn (h : v.Meets b stage) (hstage : stage.subject? = some d)
    (hentry : s₁.table.entry? d = v.entry) (hwatched : s₁.kernel.isWatched d = v.isWatched)
    (hlive : s.live d = v.live) : ProceedsBut b s s₁ [stage] d := by
  simp only [ProceedsBut]
  rw [List.map_singleton, List.sum_singleton, List.map_singleton, List.sum_singleton,
    Stage.claim_of_subject hstage, Stage.loan_of_subject hstage, hentry, hwatched, hlive]
  exact .meets stage h

/-- The work goes on with a stage that meets what suits it. -/
theorem ProceedsBut.goesOn_suits (h : v.Suits stage) (hstage : stage.subject? = some d)
    (hentry : s₁.table.entry? d = v.entry) (hwatched : s₁.kernel.isWatched d = v.isWatched)
    (hlive : s.live d = v.live) : ProceedsBut b s s₁ [stage] d :=
  .goesOn (.suits stage v h) hstage hentry hwatched hlive

/-! ## The lock fails -/

/-- A stage that met what suits it and cannot take the lock. -/
theorem proceeds_barred (h : s.Carries luck stage s₁ next) (hlock : luck.lock = false)
    (htakes : stage.takesLock = true) (htolerates : s.tolerates spoiled stage luck = true)
    (hstage : stage.subject? = some d) (hsuits : (s.view d).Suits stage) :
    ProceedsBut (spoiled d) s s₁ next d := by
  obtain ⟨v, hmet, hentry, hwatched, hlive⟩ := exists_view hsuits
  simp only [tolerates, hlock, Bool.false_or] at htolerates
  cases h with
  | losesNew socket lock =>
      cases hstage
      cases hmet with
      | track _ => exact .done (.rests .out) hentry (isWatched_closed s.kernel) hlive
  | closeBarred _ lock =>
      cases hstage
      cases hmet with
      | close _ v rests => exact .done (.rests rests) hentry hwatched hlive
      | closeUnwatched _ socket =>
          -- the connection stays in the table, and nobody watches it
          have hsocket : s.table.socket? d = some socket := Table.socket?_eq hentry
          have hspoiled : spoiled d = true := by
            have hnot : s.kernel.isWatched d = false := hwatched
            simpa [hnot, hsocket] using htolerates
          exact .done (.lost (.stranded socket) hspoiled) hentry hwatched hlive
  | forgetBarred _ lock =>
      cases hstage
      cases hmet with
      | forget _ => exact .goesOn_suits (.unwatchForgotten d) rfl hentry hwatched hlive
  | lendBarred index _ lock =>
      cases hstage
      cases hmet with
      | lend _ _ socket =>
          -- the watch has been ended before
          have hsocket : s.table.socket? d = some socket := Table.socket?_eq hentry
          have hspoiled : spoiled d = true := by simpa [hsocket] using htolerates
          exact .done (.lost (.stranded socket) hspoiled) hentry hwatched hlive
      | lendOther _ _ v rests unwatched => exact .done (.rests rests) hentry hwatched hlive
  | parkBarred socket isValid lock =>
      cases hstage
      cases hmet with
      | park _ _ =>
          -- the socket is dropped, and its entry goes on waiting
          exact .done (.lost .orphaned htolerates) hentry (isWatched_closed s.kernel) hlive
  | tracks _ lock | closesNothing _ lock | spares _ _ lock | closes _ _ lock | forgets _ lock
  | lendsNothing _ _ lock | skips _ _ _ lock | lendsEmpty _ _ _ lock | lends _ _ _ _ lock
  | parks _ _ lock | retires _ _ lock | turnsAway _ _ lock => exact nomatch hlock.symm.trans lock
  | _ => exact nomatch htakes

/-! ## A number that is lost -/

section Orphaned

variable (hspoiled : b = true) (hentry : s.table.entry? d = some { isBusy := true })
  (hwatched : s.kernel.isWatched d = false) (hlive : s.live d = 0)

include hspoiled hwatched hlive

/-- A new connection takes the place of one that is gone. -/
theorem Sound.proceeds_track_orphaned (hs : s.Sound)
    (here : s.agenda? t = some (.track socket :: rest)) (h : s.Carries luck (.track socket) s₁ next)
    (hd : socket.descriptor = d) (hentry : s.table.entry? d = some { isBusy := true }) :
    ProceedsBut b s s₁ next d := by
  subst hd
  cases h with
  | tracks _ lock =>
      rw [hs.socket?_of_track here]
      exact .goesOn_suits (.watch _ socket) rfl (entry?_put s.table) hwatched hlive
  | losesNew _ lock => exact .done (.lost .orphaned hspoiled) hentry (isWatched_closed s.kernel) hlive

include hentry

theorem proceeds_close_orphaned (h : s.Carries luck (.close d) s₁ next) :
    ProceedsBut b s s₁ next d := by
  cases h with
  | closesNothing _ lock absent => exact nomatch absent.symm.trans hentry
  | closes _ entry lock present idle =>
      cases Option.some.inj (present.symm.trans hentry)
      exact nomatch idle
  | closeBarred | spares => exact .done (.lost .orphaned hspoiled) hentry hwatched hlive

/-- The entry is forgotten, unless the lock fails again. -/
theorem proceeds_forget_orphaned (h : s.Carries luck (.forget d) s₁ next) :
    ProceedsBut b s s₁ next d := by
  cases h with
  | forgets _ lock =>
      rw [show s.table.socket? d = none from Table.socket?_eq hentry]
      exact .goesOn_suits (.unwatchForgotten d) rfl (entry?_taken s.table) hwatched hlive
  | forgetBarred _ lock => exact .goesOn (.unwatchForgotten d hspoiled) rfl hentry hwatched hlive

theorem proceeds_lend_orphaned {index : Nat} (h : s.Carries luck (.lend index d) s₁ next) :
    ProceedsBut b s s₁ next d := by
  cases h with
  | lendsNothing _ _ lock absent => exact nomatch absent.symm.trans hentry
  | lendsEmpty _ _ entry lock present idle empty =>
      cases Option.some.inj (present.symm.trans hentry)
      exact nomatch idle
  | lends _ _ entry socket lock present idle parked =>
      cases Option.some.inj (present.symm.trans hentry)
      exact nomatch idle
  | lendBarred | skips => exact .done (.lost .orphaned hspoiled) hentry hwatched hlive

end Orphaned

/-- An event for a number that is lost. -/
theorem proceeds_ready_lost {index : Nat} (hspoiled : b = true)
    (h : s.Carries luck (.unwatchReady index d) s₁ next) (hlost : (s.view d).Lost) :
    ProceedsBut b s s₁ next d := by
  obtain ⟨v, hlost, hentry, hwatched, hlive⟩ := exists_view hlost
  have hunwatched : s₁.kernel.isWatched d = false ∧ s₁.table = s.table ∧ next = [.lend index d] := by
    cases h with
    | quiets _ _ backend => exact ⟨isWatched_ended s.kernel, rfl, rfl⟩
    | quietFails _ _ e backend => exact ⟨hwatched.trans hlost.isWatched, rfl, rfl⟩
  obtain ⟨hunwatched, htable, rfl⟩ := hunwatched
  rw [← htable] at hentry
  cases hlost with
  | stranded socket => exact .goesOn_suits (.lend index d socket) rfl hentry hunwatched hlive
  | orphaned => exact .goesOn (.lend index d hspoiled) rfl hentry hunwatched hlive

/-- **WORK ON A NUMBER GOES ON AS IT SHOULD**, or it leaves a spoiled number lost. -/
theorem Sound.proceedsBut (hs : s.Sound) (here : s.agenda? t = some (stage :: rest))
    (h : s.Carries luck stage s₁ next) (htolerates : s.tolerates spoiled stage luck = true)
    (hends : s.endsWatch stage luck = true) (hstage : stage.subject? = some d)
    (hmeets : (s.view d).Meets (spoiled d) stage) : ProceedsBut (spoiled d) s s₁ next d := by
  generalize hv : s.view d = v at hmeets
  cases hmeets with
  | suits _ _ hsuits =>
      rw [← hv] at hsuits
      by_cases hbarred : stage.takesLock = true ∧ luck.lock = false
      · exact proceeds_barred h hbarred.2 hbarred.1 htolerates hstage hsuits
      · refine (hs.proceeds here h (fun htakes => ?_) ?_ hstage hsuits).but
        · exact Bool.eq_true_of_not_eq_false fun hlock => hbarred ⟨htakes, hlock⟩
        · rintro index c rfl hwatched
          simpa [endsWatch, hwatched] using hends
  | track socket hspoiled =>
      obtain ⟨hentry, hwatched, hlive⟩ := View.mk.inj hv
      exact hs.proceeds_track_orphaned hspoiled hwatched hlive here h (Option.some.inj hstage) hentry
  | close c hspoiled =>
      cases hstage
      obtain ⟨hentry, hwatched, hlive⟩ := View.mk.inj hv
      exact proceeds_close_orphaned hspoiled hentry hwatched hlive h
  | forget c hspoiled =>
      cases hstage
      obtain ⟨hentry, hwatched, hlive⟩ := View.mk.inj hv
      exact proceeds_forget_orphaned hspoiled hentry hwatched hlive h
  | unwatchForgotten c hspoiled =>
      cases hstage
      obtain ⟨hentry, hwatched, hlive⟩ := View.mk.inj hv
      cases h with
      | leaves _ _ =>
          exact .done (.lost .orphaned hspoiled) hentry (isWatched_unwatchIf_self hwatched) hlive
  | unwatchReady index c v hlost hspoiled =>
      cases hstage
      exact proceeds_ready_lost hspoiled h (hv ▸ hlost)
  | lend index c hspoiled =>
      cases hstage
      obtain ⟨hentry, hwatched, hlive⟩ := View.mk.inj hv
      exact proceeds_lend_orphaned hspoiled hentry hwatched hlive h

/-! ## Work that begins -/

/-- What a stage leaves is read off the stages that follow it, if nothing else is at work on `d`. -/
theorem Sound.regularBut_next (hs : s.Sound) (here : s.agenda? t = some (stage :: rest))
    (hthreads : s₁.threads = s.threads) (hkept : s₁.kept = s.kept)
    (hclaims : s.claims d = stage.claim d) (hloan : stage.loan d = 0)
    (hgoes : ProceedsBut b s s₁ next d) :
    View.RegularBut b ((s₁.setAgenda t (next ++ rest)).view d)
      ((s₁.setAgenda t (next ++ rest)).claims d) := by
  rw [hs.claims_next here hthreads hclaims,
    hs.view_next here hthreads hkept (by rw [hloan, add_zero])]
  exact hgoes

/-- A number that is lost and not open is that of a socket that is gone. -/
theorem Sound.orphaned_of_gone (hs : s.Sound) (hlost : (s.view d).Lost)
    (gone : s.kernel.file? d = none) : s.view d = ⟨some { isBusy := true }, false, 0⟩ := by
  generalize hv : s.view d = v at hlost
  cases hlost with
  | orphaned => rfl
  | stranded socket =>
      have hentry : s.table.entry? d = some { socket := some socket } := (View.mk.inj hv).1
      exact nomatch gone.symm.trans (hs.open_of_parked hentry)

/-- **WORK ON A NUMBER THAT IS LOST BEGINS** with a stage that may meet it. -/
theorem Sound.begins_lost (hs : s.Sound) (here : s.agenda? t = some (stage :: rest))
    (h : s.Carries luck stage s₁ next) (hspoiled : b = true) (hlost : (s.view d).Lost)
    (hstage : stage.subject? = none) {x : Stage} (hx : x ∈ next) (hsubject : x.subject? = some d)
    (hnone : s.claims d = 0) :
    View.RegularBut b ((s₁.setAgenda t (next ++ rest)).view d)
      ((s₁.setAgenda t (next ++ rest)).claims d) := by
  have hclaims : s.claims d = stage.claim d := by
    rw [hnone, Stage.claim_of_ne]
    exact fun h => nomatch hstage.symm.trans h
  have happears : ∀ {first : Stage}, first.subject? = some d → (s.view d).Meets b first →
      ProceedsBut b s s [first] d := fun hfirst hmeets => .goesOn hmeets hfirst rfl rfl rfl
  cases h with
  | misses index e gone other =>
      cases List.mem_singleton.mp hx
      refine hs.regularBut_next here rfl rfl hclaims rfl (happears hsubject ?_)
      cases hsubject
      rw [hs.orphaned_of_gone hlost gone]
      exact .forget _ hspoiled
  | hangsUp index e other =>
      cases List.mem_singleton.mp hx
      refine hs.regularBut_next here rfl rfl hclaims rfl (happears hsubject ?_)
      generalize s.view d = v at hlost
      cases hlost with
      | stranded socket => exact .suits _ _ (.closeUnwatched _ socket)
      | orphaned => exact .close _ hspoiled
  | readies index e other =>
      cases List.mem_singleton.mp hx
      exact hs.regularBut_next here rfl rfl hclaims rfl
        (happears hsubject (.unwatchReady index _ _ hlost hspoiled))
  | accepts c peer nonneg free other =>
      have hc : c = d := by
        rcases List.mem_cons.mp hx with rfl | hx
        · exact Option.some.inj hsubject
        · cases List.mem_singleton.mp hx
          exact nomatch hsubject
      subst hc
      obtain ⟨hentry, hwatched, hlive⟩ := View.mk.inj (hs.orphaned_of_gone hlost free)
      have hfirst : ([Stage.track (s.newSocket c peer), .accept].map (Stage.claim c)).sum =
          {Stage.track (s.newSocket c peer)} := by
        rw [List.map_cons, List.sum_cons, Stage.claim_of_subject rfl]
        rfl
      refine hs.regularBut_next here rfl rfl hclaims rfl ?_
      simp only [ProceedsBut]
      rw [hfirst]
      show View.RegularBut b ⟨s.table.entry? c, s.kernel.isWatched c, s.live c⟩ _
      rw [hentry, hwatched, hlive]
      exact .meets _ (.track _ hspoiled)
  | finishes r isOpen pending panic =>
      -- a number with a live request is not lost
      cases descriptor_of_finished hx hsubject
      have hpositive : 0 < (s.view r.socket.descriptor).live := hs.live_of_serve here
      rw [View.Lost.live hlost] at hpositive
      exact absurd hpositive (Nat.lt_irrefl 0)
  | hears | retries =>
      cases List.mem_singleton.mp hx
      exact nomatch hsubject
  | ignores | acceptsNone | acceptFails | keeps | tells => exact nomatch hx
  | _ => exact nomatch hstage

theorem Sound.beginsBut (hs : s.Sound) (here : s.agenda? t = some (stage :: rest))
    (h : s.Carries luck stage s₁ next) (hsettled : (s.view d).Settled b)
    (hstage : stage.subject? = none) {x : Stage} (hx : x ∈ next) (hsubject : x.subject? = some d)
    (hnone : s.claims d = 0) :
    View.RegularBut b ((s₁.setAgenda t (next ++ rest)).view d)
      ((s₁.setAgenda t (next ++ rest)).claims d) := by
  cases hsettled with
  | rests hrests => exact (hs.begins here h hrests hstage hx hsubject hnone).but
  | lost hlost hspoiled => exact hs.begins_lost here h hspoiled hlost hstage hx hsubject hnone

/-! ## Runs -/

/-- Some thread is at work on the number `d`. -/
def isWorkedOn (s : State) (d : Descriptor) : Bool :=
  s.threads.any fun th => th.agenda.any fun stage => stage.subject? == some d

/-- The rule that work on a number begins only when nothing is at work on it.  A watch that there is can
    be ended, the lock fails where nothing is left behind or for spoiled numbers, and the numbers of
    connections are closed by dropping their sockets only. -/
def severally (spoiled : Descriptor → Bool) (s : State) : Move → Bool
  | .step t luck =>
    match s.agenda? t with
    | some (stage :: _) =>
      s.tolerates spoiled stage luck && s.endsWatch stage luck &&
        (stage.subject?.isSome ||
          ((stage.run s luck).2.1.filterMap Stage.subject?).all (!s.isWorkedOn ·))
    | _ => false
  | .complete place .. => (s.kept[place]?).all (!s.isWorkedOn ·.socket.descriptor)
  | move => s.spares move

/-- Every number is regular, or it is spoiled and perhaps lost. -/
abbrev RegularBut (spoiled : Descriptor → Bool) (s : State) : Prop :=
  s.Each fun d v claims => v.RegularBut (spoiled d) claims

theorem claims_eq_zero_of_free (hfree : s.isWorkedOn d = false) : s.claims d = 0 := by
  refine Multiset.eq_zero_of_forall_notMem fun stage hmem => ?_
  obtain ⟨hsubject, th, hth, hstage⟩ := exists_of_mem_claims hmem
  refine absurd hfree (ne_false_of_eq_true ?_)
  exact List.any_eq_true.mpr ⟨th, hth, List.any_eq_true.mpr ⟨stage, hstage, beq_iff_eq.mpr hsubject⟩⟩

theorem RegularBut.meets (hr : s.RegularBut spoiled) (here : s.agenda? t = some (stage :: rest))
    (hstage : stage.subject? = some d) :
    d ≠ s.listener ∧ s.claims d = {stage} ∧ (s.view d).Meets (spoiled d) stage := by
  have hmine := mem_threads_of_agenda? here
  have hd := hr.ne_listener_of_subject hmine (List.mem_cons_self ..) hstage
  exact ⟨hd, (hr.others d hd).meets_of_mem (mem_claims hmine (List.mem_cons_self ..) hstage)⟩

/-- **EVERY STAGE KEEPS ALL NUMBERS REGULAR OR SPOILED**, if work on a number begins only when nothing is
    at work on it. -/
theorem RegularBut.carries (hr : s.RegularBut spoiled) (hs : s.Sound)
    (here : s.agenda? t = some (stage :: rest)) (h : s.Carries luck stage s₁ next)
    (htolerates : s.tolerates spoiled stage luck = true) (hends : s.endsWatch stage luck = true)
    (hfree : stage.subject? = none → ∀ x ∈ next, ∀ d, x.subject? = some d → s.claims d = 0) :
    (s₁.setAgenda t (next ++ rest)).RegularBut spoiled := by
  refine Each.carries hr hs here h ?_ ?_ ?_
  · rintro c socket rfl
    exact (hr.meets here rfl).2.2.own
  · intro d hd hstage
    obtain ⟨-, hclaims, hmeets⟩ := hr.meets here hstage
    exact hs.regularBut_next here h.threads.1 (h.kept_eq hstage)
      (hclaims.trans (Stage.claim_of_subject hstage).symm) (Stage.loan_of_subject hstage d)
      (hs.proceedsBut here h htolerates hends hstage hmeets)
  · intro hnone x hx d hd hsubject
    have hclaims := hfree hnone x hx d hsubject
    exact hs.beginsBut here h ((hr.others d hd).settled_of_nobody hclaims) hnone hx hsubject hclaims

/-- A request that is finished was live, so its number was not lost. -/
theorem RegularBut.completes (hr : s.RegularBut spoiled) {place : Nat} {r : Request}
    (kept : s.kept[place]? = some r) (hsocket : socket.descriptor = r.socket.descriptor)
    (hfree : s.claims socket.descriptor = 0) : (s.finished place socket).RegularBut spoiled := by
  refine Each.completes kept hr hsocket ?_
  have hlive : 0 < s.live socket.descriptor := hsocket ▸ live_of_kept kept
  cases (hr.others _ (hr.ne_listener_of_live hlive)).settled_of_nobody hfree with
  | rests hrests => exact (regular_finished kept hsocket hrests hfree).but
  | lost hlost hspoiled =>
      have hnone : s.live socket.descriptor = 0 := hlost.live
      exact absurd hlive (hnone ▸ Nat.lt_irrefl 0)

/-- To close a number that is no connection's ends no watch but the listener's. -/
theorem RegularBut.isWatched_steal (hr : s.RegularBut spoiled) (hs : s.Sound)
    (hrule : s.spares (.steal d) = true) {c : Descriptor} (hc : c ≠ s.listener) :
    (s.kernel.close d).isWatched c = s.kernel.isWatched c := by
  refine Kernel.isWatched_close_apart ?_
  rintro rfl
  rcases (hr.others c hc).regular_or with hregular | hunwatched
  · exact hs.unwatched hregular (file?_of_spares hrule)
  · exact hunwatched

/-- **EVERY MOVE WITHIN THE RULE KEEPS ALL NUMBERS REGULAR OR SPOILED**. -/
theorem RegularBut.keeps (hr : s.RegularBut spoiled) (hs : s.Sound)
    (hrule : severally spoiled s move = true) (h : s.move move = some (s', notes)) :
    s'.RegularBut spoiled := by
  cases move with
  | step t luck =>
      obtain ⟨stage, rest, s₁, next, here, hran, done, rfl⟩ := exists_run_of_step h
      simp only [severally, here, Bool.and_eq_true] at hrule
      obtain ⟨⟨htolerates, hends⟩, hbegins⟩ := hrule
      refine hr.carries hs here done htolerates hends fun hnone x hx d hsubject => ?_
      rw [hnone, hran] at hbegins
      have hfree := List.all_eq_true.mp hbegins d (List.mem_filterMap.mpr ⟨x, hx, hsubject⟩)
      exact claims_eq_zero_of_free (by simpa using hfree)
  | receive events =>
      cases goes_of_move h with
      | receives _ idle => exact Each.receives hr hs idle
  | complete place isOpen pending =>
      cases goes_of_move h with
      | completes _ r _ _ kept =>
          simp only [severally, kept] at hrule
          exact hr.completes kept rfl (claims_eq_zero_of_free (by simpa using hrule))
  | steal d =>
      cases goes_of_move h with
      | steals _ => exact Each.elsewhere hr fun c hc => hr.isWatched_steal hs hrule hc
  | openOther d number =>
      cases goes_of_move h with
      | opens _ _ free => exact Each.elsewhere hr fun c hc => rfl

theorem regularBut_of_run (hrun : (State.new listener).run (severally spoiled) moves = some s) :
    s.Sound ∧ s.RegularBut spoiled := by
  refine run_keeps_moves (P := fun s => s.Sound ∧ s.RegularBut spoiled) ?_
    ⟨sound_new listener, each_new listener fun d => .settled (.rests .out)⟩ hrun
  intro s move s' notes ⟨hs, hr⟩ hrule h
  exact ⟨hs.goes (spares_of_rule hrule fun _ => rfl) (goes_of_move h), hr.keeps hs hrule h⟩

/-! ## Connections -/

/-- Connection `n` is looked after under the number `d`: its socket is parked and watched, or one live
    request has it and its entry waits. -/
inductive Secure (s : State) (d : Descriptor) (n : Nat) : Prop
  | watched (socket : Socket) (parked : s.table.entry? d = some { socket := some socket })
      (own : socket.handle = (d, n)) (registered : d ∈ s.kernel.watched) (idle : s.live d = 0)
  | inFlight (r : Request) (mem : r ∈ s.requests) (own : r.socket.handle = (d, n))
      (once : s.live d = 1) (busy : s.table.entry? d = some { isBusy := true })
      (unregistered : d ∉ s.kernel.watched)

/-- The socket of connection `n` is parked, and nobody watches it. -/
def Stranded (s : State) (d : Descriptor) (n : Nat) : Prop :=
  ∃ socket, s.table.entry? d = some { socket := some socket } ∧ socket.handle = (d, n) ∧
    d ∉ s.kernel.watched ∧ s.live d = 0

/-- The entry of `d` waits for a socket, and there is none. -/
def Orphaned (s : State) (d : Descriptor) : Prop :=
  s.table.entry? d = some { isBusy := true } ∧ d ∉ s.kernel.watched ∧ s.live d = 0

/-- Whoever has taken up a socket is at work on its number. -/
theorem RegularBut.subject_of_carried (hr : s.RegularBut spoiled) (hs : s.Sound) {th : Thread}
    (hth : th ∈ s.threads) (hstage : stage ∈ th.agenda) (hcarried : stage.carried? = some socket) :
    stage.subject? = some socket.descriptor := by
  cases stage with
  | track | comeBack | park | release =>
      cases hcarried
      rfl
  | unwatchClosed c other =>
      cases hcarried
      have hc := hr.ne_listener_of_subject hth hstage rfl
      have hmeets := ((hr.others c hc).meets_of_mem (mem_claims hth hstage rfl)).2
      rw [View.Meets.own hmeets]
      rfl
  | unwatchForgotten c other =>
      -- no socket is forgotten
      have hnone : other = none := hs.fits th hth _ hstage
      exact nomatch hnone.symm.trans hcarried
  | _ => exact nomatch hcarried

/-- A socket is parked or with a request, if nothing is at work on its number. -/
theorem RegularBut.holder (hr : s.RegularBut spoiled) (hs : s.Sound) (hnone : s.claims d = 0)
    (hmem : (d, n) ∈ s.held) :
    (∃ socket, s.table.socket? d = some socket ∧ socket.handle = (d, n)) ∨
      ∃ r ∈ s.requests, r.socket.handle = (d, n) := by
  rw [← coe_holdings] at hmem
  obtain ⟨⟨p, socket⟩, hplace, hhandle⟩ := List.mem_map.mp (Multiset.mem_coe.mp hmem)
  have hd : socket.descriptor = d := congrArg Prod.fst hhandle
  simp only [holdings] at hplace
  rcases List.mem_append.mp hplace with hplace | hplace
  · rcases List.mem_append.mp hplace with hplace | hplace
    · obtain ⟨⟨c, e⟩, hentry, hsome⟩ := List.mem_filterMap.mp hplace
      obtain ⟨other, hsocket, heq⟩ := Option.map_eq_some_iff.mp hsome
      cases heq
      have hfound := Table.entry?_of_mem hs.table.distinct hentry
      have hown := (hs.table.own _ e _ hfound hsocket).1
      refine Or.inl ⟨socket, ?_, hhandle⟩
      rw [← hd, hown]
      exact (Table.socket?_eq hfound).trans hsocket
    · obtain ⟨r, hr, heq⟩ := List.mem_map.mp hplace
      cases heq
      exact Or.inr ⟨r, hr, hhandle⟩
  · obtain ⟨th, hth, hplace⟩ := List.mem_flatMap.mp hplace
    obtain ⟨stage, hstage, hsome⟩ := List.mem_filterMap.mp hplace
    obtain ⟨other, hcarried, heq⟩ := Option.map_eq_some_iff.mp hsome
    cases heq
    have hsubject := hr.subject_of_carried hs hth hstage hcarried
    rw [hd] at hsubject
    have hclaim := mem_claims hth hstage hsubject
    rw [hnone] at hclaim
    exact absurd hclaim (Multiset.notMem_zero stage)

/-- A number is on loan that a request has the socket of. -/
theorem live_of_request {r : Request} (hmem : r ∈ s.requests) (hown : r.socket.handle = (d, n)) :
    0 < s.live d :=
  List.countP_pos_iff.mpr ⟨r, hmem, decide_eq_true (congrArg Prod.fst hown)⟩

/-- A connection on whose number nothing is at work is looked after, or its number is spoiled. -/
theorem RegularBut.secure (hr : s.RegularBut spoiled) (hs : s.Sound) (hnone : s.claims d = 0)
    (hfile : s.kernel.file? d = some (.connection n)) :
    s.Secure d n ∨ spoiled d = true ∧ s.Stranded d n := by
  have hholder := hr.holder hs hnone (hs.owned.whole d n hfile)
  have hd : d ≠ s.listener := by
    rintro rfl
    rcases hholder with ⟨socket, hsocket, -⟩ | ⟨r, hmem, hown⟩
    · obtain ⟨e, hentry, -⟩ := Table.entry?_of_socket? hsocket
      exact nomatch hr.absent.symm.trans hentry
    · exact hr.ne_listener_of_live (live_of_request hmem hown) rfl
  have hsettled := (hr.others d hd).settled_of_nobody hnone
  rcases hholder with ⟨socket, hsocket, hown⟩ | ⟨r, hmem, hown⟩
  · obtain ⟨e, hfound, hparked⟩ := Table.entry?_of_socket? hsocket
    rcases hsettled.of_parked hfound hparked with hv | ⟨hspoiled, hv⟩
    · obtain ⟨hentry, hwatched, hlive⟩ := View.mk.inj hv
      exact Or.inl (.watched socket hentry hown (of_decide_eq_true hwatched) hlive)
    · obtain ⟨hentry, hwatched, hlive⟩ := View.mk.inj hv
      exact Or.inr ⟨hspoiled, socket, hentry, hown, of_decide_eq_false hwatched, hlive⟩
  · obtain ⟨hentry, hwatched, hlive⟩ := View.mk.inj (hsettled.of_live (live_of_request hmem hown))
    exact Or.inl (.inFlight r hmem hown hlive hentry (of_decide_eq_false hwatched))

/-- An entry that nothing is at work on is that of an open connection, or its number is spoiled. -/
theorem RegularBut.tracked (hr : s.RegularBut spoiled) (hs : s.Sound) (hnone : s.claims d = 0)
    {e : Entry} (hfound : s.table.entry? d = some e) :
    (∃ n, s.kernel.file? d = some (.connection n)) ∨ spoiled d = true ∧ s.Orphaned d := by
  have hd : d ≠ s.listener := by
    rintro rfl
    exact nomatch hr.absent.symm.trans hfound
  have hsettled := (hr.others d hd).settled_of_nobody hnone
  generalize hv : s.view d = v at hsettled
  obtain ⟨hentry, hwatched, hlive⟩ := View.mk.inj hv
  cases hsettled with
  | rests hrests =>
      cases hrests with
      | out => exact nomatch hfound.symm.trans hentry
      | parked socket => exact Or.inl ⟨_, hs.open_of_parked hentry⟩
      | lent =>
          -- the request has a socket, which keeps the number open
          have hpositive : 0 < s.live d := hlive ▸ Nat.one_pos
          obtain ⟨r, hmem, hown⟩ := List.countP_pos_iff.mp hpositive
          have hstands := (hs.owned.standing _ (mem_held_of_request hmem)).2
          rw [show r.socket.handle.1 = d from of_decide_eq_true hown] at hstands
          exact Or.inl ⟨_, hstands⟩
  | lost hlost hspoiled =>
      cases hlost with
      | stranded socket => exact Or.inl ⟨_, hs.open_of_parked hentry⟩
      | orphaned => exact Or.inr ⟨hspoiled, hentry, of_decide_eq_false hwatched, hlive⟩

/-- **A FAILURE OF THE LOCK STRANDS NOBODY** but on spoiled numbers.  In every run in which the lock fails
    at will where it does no harm, and everywhere for spoiled numbers:

    * a connection on whose number nothing is at work is parked and watched, or on loan with one live
      request; only on a spoiled number it may be parked and not watched;
    * the server has no socket of a connection that is closed;
    * an entry that nothing is at work on is that of an open connection; only on a spoiled number it may
      wait for a socket that is gone;
    * what is watched is the listener, an open connection, or what some thread is at work on. -/
theorem strands_nobody (hrun : (State.new listener).run (severally spoiled) moves = some s) :
    (∀ d n, s.kernel.file? d = some (.connection n) → s.isWorkedOn d = false →
      s.Secure d n ∨ spoiled d = true ∧ s.Stranded d n) ∧
    (∀ n, s.isClosed n → s.placesOf n = []) ∧
    (∀ d e, (d, e) ∈ s.table → s.isWorkedOn d = false →
      (∃ n, s.kernel.file? d = some (.connection n)) ∨ spoiled d = true ∧ s.Orphaned d) ∧
    ∀ d ∈ s.kernel.watched, s.isWorkedOn d = false →
      d = listener ∨ ∃ n, s.kernel.file? d = some (.connection n) := by
  obtain ⟨hs, hr⟩ := regularBut_of_run hrun
  refine ⟨?_, ?_, ?_, ?_⟩
  · intro d n hfile hfree
    exact hr.secure hs (claims_eq_zero_of_free hfree) hfile
  · intro n hgone
    cases hs.whereabouts n with
    | «open» p d only stands own => exact absurd stands (hgone d)
    | closed nowhere gone => exact nowhere
  · intro d e hmem hfree
    exact hr.tracked hs (claims_eq_zero_of_free hfree) (Table.entry?_of_mem hs.table.distinct hmem)
  · intro d hmem hfree
    by_cases hd : d = listener
    · exact Or.inl hd
    · rw [← listener_of_run hrun] at hd
      have hsettled := (hr.others d hd).settled_of_nobody (claims_eq_zero_of_free hfree)
      obtain ⟨socket, hparked⟩ := hsettled.parked_of_watched (decide_eq_true hmem)
      exact Or.inr ⟨_, hs.open_of_parked hparked⟩

/-- A client gets the number 4.  The lock fails when the next is to be tracked, and again when the peer
    of the first is gone. -/
def lockFailsTwice : List Move :=
  clientJoins ++
    [.receive [⟨3, .readable⟩], .step 0 {},
      .step 0 { arrival := .connection 5 { address := .loopback, port := 4001 } none none },
      .step 0 { lock := false }, .step 0 {}, .receive [⟨4, .closed⟩], .step 0 {},
      .step 0 { lock := false }]

/-- The server after that. -/
def barredServer : State :=
  ((State.new 3).run (severally fun _ => false) lockFailsTwice).getD (State.new 3)

/-- The second connection is closed, and the first is still looked after. -/
theorem strands_nobody_lockFailsTwice :
    (State.new 3).run (severally fun _ => false) lockFailsTwice = some barredServer ∧
    barredServer.kernel.file? 5 = none ∧ barredServer.kernel.file? 4 = some (.connection 0) ∧
    barredServer.isWorkedOn 4 = false ∧
    ∀ d n, barredServer.kernel.file? d = some (.connection n) → barredServer.isWorkedOn d = false →
      barredServer.Secure d n ∨ (fun _ => false) d = true ∧ barredServer.Stranded d n := by
  have hrun : (State.new 3).run (severally fun _ => false) lockFailsTwice = some barredServer :=
    (Option.getD_of_ne_none (by decide) _).symm
  exact ⟨hrun, by decide, by decide, by decide, (strands_nobody hrun).1⟩

/-- A client's connection is ready, and the lock fails when its socket is to be taken out of the table. -/
def lockFailsWhenReady : List Move :=
  clientJoins ++ [.receive [⟨4, .readable⟩], .step 0 {}, .step 0 {}, .step 0 { lock := false }]

/-- The server after that. -/
def strandingServer : State :=
  ((State.new 3).run (fun _ _ => true) lockFailsWhenReady).getD (State.new 3)

/-- The connection is open and parked, the watch has been ended, and nobody will bring it back. -/
theorem lend_strands :
    (State.new 3).run (fun _ _ => true) lockFailsWhenReady = some strandingServer ∧
    strandingServer.isQuiet = true ∧ strandingServer.kernel.file? 4 = some (.connection 0) ∧
    strandingServer.placesOf 0 = [.entry 4] ∧ strandingServer.kernel.watched = [3] ∧
    ¬ strandingServer.Secure 4 0 := by
  have hwatched : strandingServer.kernel.watched = [3] := by decide
  refine ⟨(Option.getD_of_ne_none (by decide) _).symm, by decide, by decide, by decide, hwatched, ?_⟩
  intro hsecure
  cases hsecure with
  | watched socket parked own registered idle =>
      rw [hwatched] at registered
      exact absurd registered (by decide)
  | inFlight r mem own once busy unregistered =>
      have hnone : strandingServer.requests = [] := rfl
      rw [hnone] at mem
      exact nomatch mem

end State

end PooledServer.Events
