import PooledServer.Proofs.Events.Numbers

/-!
# What a stage may meet

    As long as the lock works and every watch that there is can be ended, a number that nothing is at
    work on is in one of three states (`View.Rests`): out of the table, parked and watched, or on loan
    with one live request.  At most one stage is at work on a number, and for each stage there is a short
    list of views that it may meet (`View.Suits`).  A stage that meets one of them leaves one that suits
    the stage that follows it, or a number at rest (`Sound.proceeds`); so the order is kept for as long
    as work on a number begins only when nothing is at work on it (`Regular.carries`). -/

namespace PooledServer.Events

open Net

namespace View

/-- What a number is like that nothing is at work on. -/
inductive Rests : View → Prop
  | out : Rests ⟨none, false, 0⟩
  | parked (socket : Socket) : Rests ⟨some { socket := some socket }, true, 0⟩
  | lent : Rests ⟨some { isBusy := true }, false, 1⟩

/-- What a stage may meet at the number that it is at work on. -/
inductive Suits : Stage → View → Prop
  | track (socket : Socket) : Suits (.track socket) ⟨none, false, 0⟩
  | watch (d : Descriptor) (socket : Socket) :
      Suits (.watch d) ⟨some { socket := some socket }, false, 0⟩
  | close (d : Descriptor) (v : View) (rests : v.Rests) : Suits (.close d) v
  | closeUnwatched (d : Descriptor) (socket : Socket) :
      Suits (.close d) ⟨some { socket := some socket }, false, 0⟩
  | unwatchClosed (d : Descriptor) (socket : Socket) (isWatched : Bool)
      (own : socket.descriptor = d) :
      Suits (.unwatchClosed d (some socket)) ⟨none, isWatched, 0⟩
  | forget (d : Descriptor) : Suits (.forget d) ⟨none, false, 0⟩
  | unwatchForgotten (d : Descriptor) : Suits (.unwatchForgotten d none) ⟨none, false, 0⟩
  | unwatchReady (index : Nat) (d : Descriptor) (v : View) (rests : v.Rests) :
      Suits (.unwatchReady index d) v
  | lend (index : Nat) (d : Descriptor) (socket : Socket) :
      Suits (.lend index d) ⟨some { socket := some socket }, false, 0⟩
  | lendOther (index : Nat) (d : Descriptor) (v : View) (rests : v.Rests)
      (unwatched : v.isWatched = false) : Suits (.lend index d) v
  | comeBack (socket : Socket) : Suits (.comeBack socket) ⟨some { isBusy := true }, false, 0⟩
  | park (socket : Socket) (isValid : Bool) :
      Suits (.park socket isValid) ⟨some { isBusy := true }, false, 0⟩
  | release (socket : Socket) (isValid : Bool) : Suits (.release socket isValid) ⟨none, false, 0⟩
  | rearm (d : Descriptor) (socket : Socket) :
      Suits (.rearm d) ⟨some { socket := some socket }, false, 0⟩

/-- A number at rest, or with one stage at work on it that may meet what it is like. -/
inductive Regular (v : View) : Multiset Stage → Prop
  | rests (h : v.Rests) : v.Regular 0
  | suits (stage : Stage) (h : v.Suits stage) : v.Regular {stage}

end View

/-- The stage takes the lock of the table. -/
def Stage.takesLock : Stage → Bool
  | .track _ | .close _ | .forget _ | .lend .. | .park .. => true
  | _ => false

namespace State

/-- The lock works, and a watch that there is can be ended. -/
def smooth (s : State) (stage : Stage) (luck : Luck) : Bool :=
  luck.lock &&
    match stage with
    | .unwatchClosed d _ | .unwatchForgotten d _ | .unwatchReady _ d =>
      luck.backend.isNone || !s.kernel.isWatched d
    | _ => true

/-- Every number is regular, and the listener's is not used for connections. -/
structure Regular (s : State) : Prop where
  absent : s.table.entry? s.listener = none
  unlent : s.live s.listener = 0
  unclaimed : s.claims s.listener = 0
  others : ∀ d, d ≠ s.listener → (s.view d).Regular (s.claims d)

end State

variable {s s' s₁ : State} {t : ThreadId} {luck : Luck} {stage : Stage} {next rest : List Stage}
  {d : Descriptor} {v : View} {move : Move} {socket : Socket}

/-- A number that nothing is at work on rests. -/
theorem View.Regular.rests_of_nobody {claims : Multiset Stage} (h : v.Regular claims)
    (hnone : claims = 0) : v.Rests := by
  cases h with
  | rests h => exact h
  | suits stage h => exact absurd hnone (Multiset.singleton_ne_zero stage)

/-- What is at work on a number is alone there, and suits what is known of it. -/
theorem View.Regular.suits_of_mem {claims : Multiset Stage} (h : v.Regular claims)
    (hmem : stage ∈ claims) : claims = {stage} ∧ v.Suits stage := by
  cases h with
  | rests h => exact absurd hmem (Multiset.notMem_zero stage)
  | suits other h =>
      rw [Multiset.mem_singleton.mp hmem]
      exact ⟨rfl, h⟩

/-- The socket that is dropped with a connection is its own. -/
theorem View.Suits.own {c : Descriptor} (h : v.Suits (.unwatchClosed c (some socket))) :
    socket.descriptor = c := by
  cases h with
  | unwatchClosed _ _ isWatched own => exact own

namespace State

/-! ## Work that goes on -/

/-- After a stage that is at work on `d`, and with those that follow it, `d` is regular. -/
def Proceeds (s s₁ : State) (next : List Stage) (d : Descriptor) : Prop :=
  View.Regular ⟨s₁.table.entry? d, s₁.kernel.isWatched d, s.live d + (next.map (Stage.loan d)).sum⟩
    (next.map (Stage.claim d)).sum

/-- What is true of a view is true of an entry, a watch and a count of live requests. -/
theorem exists_view {P : View → Prop} (h : P (s.view d)) :
    ∃ v, P v ∧ s.table.entry? d = v.entry ∧ s.kernel.isWatched d = v.isWatched ∧ s.live d = v.live :=
  ⟨s.view d, h, rfl, rfl, rfl⟩

/-- The work is done. -/
theorem Proceeds.done (h : v.Rests) (hentry : s₁.table.entry? d = v.entry)
    (hwatched : s₁.kernel.isWatched d = v.isWatched) (hlive : s.live d = v.live) :
    s.Proceeds s₁ [] d := by
  show View.Regular ⟨_, _, s.live d⟩ 0
  rw [hentry, hwatched, hlive]
  exact .rests h

/-- The work goes on with another stage. -/
theorem Proceeds.goesOn (h : v.Suits stage) (hstage : stage.subject? = some d)
    (hentry : s₁.table.entry? d = v.entry) (hwatched : s₁.kernel.isWatched d = v.isWatched)
    (hlive : s.live d = v.live) : s.Proceeds s₁ [stage] d := by
  simp only [Proceeds]
  rw [List.map_singleton, List.sum_singleton, List.map_singleton, List.sum_singleton,
    Stage.claim_of_subject hstage, Stage.loan_of_subject hstage, hentry, hwatched, hlive]
  exact .suits stage h

theorem entry?_put (table : Table) {e : Entry} : Table.entry? (table.insert d e) d = some e := by
  rw [Table.entry?_insert, Function.update_self]

theorem entry?_taken (table : Table) : Table.entry? (table.erase d) d = none := by
  rw [Table.entry?_erase, Function.update_self]

/-- A watch that has begun is on, -/
theorem isWatched_begun (k : Kernel) : (k.watch d).isWatched d = true := by
  rw [Kernel.isWatched_watch, Function.update_self]

/-- one that has been ended is off, -/
theorem isWatched_ended (k : Kernel) : (k.unwatch d).isWatched d = false := by
  rw [Kernel.isWatched_unwatch, Function.update_self]

/-- and a number that was closed is not watched. -/
theorem isWatched_closed (k : Kernel) : (k.close d).isWatched d = false := by
  rw [Kernel.isWatched_close, Function.update_self]

/-- A new connection is parked, and then it is to be watched. -/
theorem proceeds_track {socket : Socket} (hs : s.Sound)
    (here : s.agenda? t = some (.track socket :: rest))
    (h : s.Carries luck (.track socket) s₁ next) (hlock : luck.lock = true)
    (hsuits : (s.view socket.descriptor).Suits (.track socket)) :
    s.Proceeds s₁ next socket.descriptor := by
  obtain ⟨v, hsuits, hentry, hwatched, hlive⟩ := exists_view hsuits
  cases h with
  | losesNew _ lock => exact nomatch hlock.symm.trans lock
  | tracks _ lock =>
      rw [hs.socket?_of_track here]
      cases hsuits with
      | track => exact .goesOn (.watch _ socket) rfl (entry?_put s.table) hwatched hlive

/-- It is watched then, or to be closed if it cannot be. -/
theorem proceeds_watch (h : s.Carries luck (.watch d) s₁ next)
    (hsuits : (s.view d).Suits (.watch d)) : s.Proceeds s₁ next d := by
  obtain ⟨v, hsuits, hentry, hwatched, hlive⟩ := exists_view hsuits
  cases hsuits with
  | watch _ socket =>
      cases h with
      | watches _ backend => exact .done (.parked socket) hentry (isWatched_begun s.kernel) hlive
      | watchFails _ e backend => exact .goesOn (.closeUnwatched d socket) rfl hentry hwatched hlive

/-- Whoever is to be closed loses the entry first, -/
theorem proceeds_close (hs : s.Sound) (h : s.Carries luck (.close d) s₁ next)
    (hlock : luck.lock = true) (hsuits : (s.view d).Suits (.close d)) : s.Proceeds s₁ next d := by
  obtain ⟨v, hsuits, hentry, hwatched, hlive⟩ := exists_view hsuits
  cases h with
  | closeBarred _ lock => exact nomatch hlock.symm.trans lock
  | closesNothing _ lock absent =>
      cases hsuits with
      | close _ v rests => exact .done rests hentry hwatched hlive
      | closeUnwatched _ socket => exact nomatch absent.symm.trans hentry
  | spares _ entry lock present busy =>
      cases hsuits with
      | close _ v rests => exact .done rests hentry hwatched hlive
      | closeUnwatched _ socket =>
          cases Option.some.inj (present.symm.trans hentry)
          exact nomatch busy
  | closes _ entry lock present idle =>
      -- an entry that is not busy has its socket, and no request is live
      have hparked : ∃ socket, v = ⟨some { socket := some socket }, v.isWatched, 0⟩ := by
        cases hsuits with
        | closeUnwatched _ socket => exact ⟨socket, rfl⟩
        | close _ v rests =>
            cases rests with
            | out => exact nomatch present.symm.trans hentry
            | parked socket => exact ⟨socket, rfl⟩
            | lent =>
                cases Option.some.inj (present.symm.trans hentry)
                exact nomatch idle
      obtain ⟨socket, hv⟩ := hparked
      rw [hv] at hentry hlive
      cases Option.some.inj (present.symm.trans hentry)
      have hown := hs.descriptor_of_socket? (Table.socket?_eq present)
      exact .goesOn (.unwatchClosed d socket _ hown) rfl (entry?_taken s.table) hwatched hlive

/-- and then the watch and the file. -/
theorem proceeds_unwatchClosed {socket : Option Socket}
    (h : s.Carries luck (.unwatchClosed d socket) s₁ next)
    (hsuits : (s.view d).Suits (.unwatchClosed d socket)) : s.Proceeds s₁ next d := by
  obtain ⟨v, hsuits, hentry, hwatched, hlive⟩ := exists_view hsuits
  cases h with
  | drops _ _ =>
      cases hsuits with
      | unwatchClosed _ socket isWatched own =>
          -- closing the number ends the watch, if it did not end before
          refine .done .out hentry ?_ hlive
          show ((s.kernel.unwatchIf luck d).close socket.descriptor).isWatched d = false
          rw [own]
          exact isWatched_closed _

/-- Whoever is forgotten loses the entry, -/
theorem proceeds_forget (h : s.Carries luck (.forget d) s₁ next)
    (hlock : luck.lock = true) (hsuits : (s.view d).Suits (.forget d)) : s.Proceeds s₁ next d := by
  obtain ⟨v, hsuits, hentry, hwatched, hlive⟩ := exists_view hsuits
  cases hsuits with
  | forget _ =>
      cases h with
      | forgetBarred _ lock => exact nomatch hlock.symm.trans lock
      | forgets _ lock =>
          have hnone : s.table.socket? d = none := by
            simp only [Table.socket?]
            rw [hentry]
            rfl
          rw [hnone]
          exact .goesOn (.unwatchForgotten d) rfl (entry?_taken s.table) hwatched hlive

theorem isWatched_unwatchIf_self (hwatched : s.kernel.isWatched d = false) :
    (s.kernel.unwatchIf luck d).isWatched d = false := by
  have hends : s.kernel.isWatched d = true → luck.backend = none := fun h =>
    nomatch hwatched.symm.trans h
  rw [Kernel.isWatched_unwatchIf hends, Function.update_self]

/-- and had no watch. -/
theorem proceeds_unwatchForgotten {socket : Option Socket}
    (h : s.Carries luck (.unwatchForgotten d socket) s₁ next)
    (hsuits : (s.view d).Suits (.unwatchForgotten d socket)) : s.Proceeds s₁ next d := by
  obtain ⟨v, hsuits, hentry, hwatched, hlive⟩ := exists_view hsuits
  cases h with
  | leaves _ _ =>
      cases hsuits with
      | unwatchForgotten _ => exact .done .out hentry (isWatched_unwatchIf_self hwatched) hlive

/-- A ready connection is unwatched, -/
theorem proceeds_unwatchReady {index : Nat} (h : s.Carries luck (.unwatchReady index d) s₁ next)
    (hends : s.kernel.isWatched d = true → luck.backend = none)
    (hsuits : (s.view d).Suits (.unwatchReady index d)) : s.Proceeds s₁ next d := by
  obtain ⟨v, hsuits, hentry, hwatched, hlive⟩ := exists_view hsuits
  cases hsuits with
  | unwatchReady _ _ v rests =>
      cases h with
      | quiets _ _ backend =>
          have hended : (s.kernel.unwatch d).isWatched d = false := isWatched_ended s.kernel
          cases rests with
          | out => exact .goesOn (.lendOther index d _ .out rfl) rfl hentry hended hlive
          | parked socket => exact .goesOn (.lend index d socket) rfl hentry hended hlive
          | lent => exact .goesOn (.lendOther index d _ .lent rfl) rfl hentry hended hlive
      | quietFails _ _ e backend =>
          -- the call fails only where there is no watch
          have hnot : v.isWatched = false := by
            rw [← hwatched]
            refine Bool.eq_false_iff.mpr fun h => ?_
            exact nomatch (hends h).symm.trans backend
          exact .goesOn (.lendOther index d v rests hnot) rfl hentry hwatched hlive

/-- and then its socket is lent. -/
theorem proceeds_lend {index : Nat} (hs : s.Sound) (h : s.Carries luck (.lend index d) s₁ next)
    (hlock : luck.lock = true) (hsuits : (s.view d).Suits (.lend index d)) :
    s.Proceeds s₁ next d := by
  obtain ⟨v, hsuits, hentry, hwatched, hlive⟩ := exists_view hsuits
  cases hsuits with
  | lend _ _ socket =>
      cases h with
      | lendBarred _ _ lock => exact nomatch hlock.symm.trans lock
      | lendsNothing _ _ lock absent => exact nomatch absent.symm.trans hentry
      | skips _ _ entry lock present busy =>
          cases Option.some.inj (present.symm.trans hentry)
          exact nomatch busy
      | lendsEmpty _ _ entry lock present idle empty =>
          cases Option.some.inj (present.symm.trans hentry)
          exact nomatch empty
      | lends _ _ entry _ lock present idle parked =>
          cases Option.some.inj (present.symm.trans hentry)
          cases parked
          have hown := hs.descriptor_of_socket? (Table.socket?_eq present)
          have hloan : ([Stage.serve (.awaited socket index)].map (Stage.loan d)).sum = 1 := by
            rw [← hown]
            exact List.countP_singleton.trans (if_pos (decide_eq_true rfl))
          show View.Regular ⟨Table.entry? (s.table.insert d _) d, s.kernel.isWatched d, s.live d + _⟩ 0
          rw [entry?_put, hwatched, hlive, hloan]
          exact .rests .lent
  | lendOther _ _ v rests unwatched =>
      cases h with
      | lendBarred _ _ lock => exact nomatch hlock.symm.trans lock
      | lendsNothing _ _ lock absent => exact .done rests hentry hwatched hlive
      | skips _ _ entry lock present busy => exact .done rests hentry hwatched hlive
      | lendsEmpty _ _ entry lock present idle empty =>
          cases rests with
          | out => exact nomatch present.symm.trans hentry
          | parked socket => exact nomatch unwatched
          | lent =>
              cases Option.some.inj (present.symm.trans hentry)
              exact nomatch idle
      | lends _ _ entry socket lock present idle parked =>
          cases rests with
          | out => exact nomatch present.symm.trans hentry
          | parked socket => exact nomatch unwatched
          | lent =>
              cases Option.some.inj (present.symm.trans hentry)
              exact nomatch idle

/-- A socket that comes back goes to its entry, -/
theorem proceeds_comeBack {socket : Socket} (h : s.Carries luck (.comeBack socket) s₁ next)
    (hsuits : (s.view socket.descriptor).Suits (.comeBack socket)) :
    s.Proceeds s₁ next socket.descriptor := by
  obtain ⟨v, hsuits, hentry, hwatched, hlive⟩ := exists_view hsuits
  cases h with
  | comesBack _ =>
      cases hsuits with
      | comeBack _ => exact .goesOn (.park socket _) rfl hentry hwatched hlive

/-- where it is parked or turned away, -/
theorem proceeds_park {socket : Socket} {isValid : Bool}
    (h : s.Carries luck (.park socket isValid) s₁ next) (hlock : luck.lock = true)
    (hsuits : (s.view socket.descriptor).Suits (.park socket isValid)) :
    s.Proceeds s₁ next socket.descriptor := by
  obtain ⟨v, hsuits, hentry, hwatched, hlive⟩ := exists_view hsuits
  cases hsuits with
  | park _ _ =>
      cases h with
      | parkBarred _ _ lock => exact nomatch hlock.symm.trans lock
      | parks _ _ lock present usable =>
          exact .goesOn (.rearm _ socket) rfl (entry?_put s.table) hwatched hlive
      | retires _ _ lock present useless =>
          exact .goesOn (.release socket isValid) rfl (entry?_taken s.table) hwatched hlive
      | turnsAway _ _ lock other => exact absurd hentry other

/-- closed then if it was turned away, -/
theorem proceeds_release {socket : Socket} {isValid : Bool}
    (h : s.Carries luck (.release socket isValid) s₁ next)
    (hsuits : (s.view socket.descriptor).Suits (.release socket isValid)) :
    s.Proceeds s₁ next socket.descriptor := by
  obtain ⟨v, hsuits, hentry, hwatched, hlive⟩ := exists_view hsuits
  cases hsuits with
  | release _ _ =>
      cases h with
      | releases _ => exact .done .out hentry (isWatched_closed s.kernel) hlive
      | abandons _ => exact .done .out hentry hwatched hlive

/-- and watched again if it was parked, or to be closed if it cannot be. -/
theorem proceeds_rearm (h : s.Carries luck (.rearm d) s₁ next)
    (hsuits : (s.view d).Suits (.rearm d)) : s.Proceeds s₁ next d := by
  obtain ⟨v, hsuits, hentry, hwatched, hlive⟩ := exists_view hsuits
  cases hsuits with
  | rearm _ socket =>
      cases h with
      | rearms _ backend => exact .done (.parked socket) hentry (isWatched_begun s.kernel) hlive
      | rearmFails _ e backend => exact .goesOn (.closeUnwatched d socket) rfl hentry hwatched hlive

/-- **WORK ON A NUMBER GOES ON AS IT SHOULD**: after a stage that met what suits it, the number is at
    rest, or what it is like suits the stage that follows. -/
theorem Sound.proceeds (hs : s.Sound) (here : s.agenda? t = some (stage :: rest))
    (h : s.Carries luck stage s₁ next) (hlock : stage.takesLock = true → luck.lock = true)
    (hends : ∀ index c, stage = .unwatchReady index c → s.kernel.isWatched c = true →
      luck.backend = none)
    (hstage : stage.subject? = some d) (hsuits : (s.view d).Suits stage) :
    s.Proceeds s₁ next d := by
  cases stage with
  | event | accept | serve | panicked => exact nomatch hstage
  | track socket =>
      cases hstage
      exact proceeds_track hs here h (hlock rfl) hsuits
  | watch c =>
      cases hstage
      exact proceeds_watch h hsuits
  | close c =>
      cases hstage
      exact proceeds_close hs h (hlock rfl) hsuits
  | unwatchClosed c socket =>
      cases hstage
      exact proceeds_unwatchClosed h hsuits
  | forget c =>
      cases hstage
      exact proceeds_forget h (hlock rfl) hsuits
  | unwatchForgotten c socket =>
      cases hstage
      exact proceeds_unwatchForgotten h hsuits
  | unwatchReady index c =>
      cases hstage
      exact proceeds_unwatchReady h (hends index _ rfl) hsuits
  | lend index c =>
      cases hstage
      exact proceeds_lend hs h (hlock rfl) hsuits
  | comeBack socket =>
      cases hstage
      exact proceeds_comeBack h hsuits
  | park socket isValid =>
      cases hstage
      exact proceeds_park h (hlock rfl) hsuits
  | release socket isValid =>
      cases hstage
      exact proceeds_release h hsuits
  | rearm c =>
      cases hstage
      exact proceeds_rearm h hsuits

/-- Where things go smoothly a watch that there is can be ended. -/
theorem ends_of_smooth (hsmooth : s.smooth stage luck = true) (index : Nat) (c : Descriptor)
    (hstage : stage = .unwatchReady index c) (hwatched : s.kernel.isWatched c = true) :
    luck.backend = none := by
  subst hstage
  simpa [smooth, hwatched] using (Bool.and_eq_true_iff.mp hsmooth).2

/-! ## Work that begins -/

/-- A number that nothing is at work on and that is not open is out of the table. -/
theorem Sound.out_of_gone (hs : s.Sound) (hrests : (s.view d).Rests)
    (gone : s.kernel.file? d = none) : s.view d = ⟨none, false, 0⟩ := by
  have hheld : ∀ x ∈ s.held, x.1 ≠ d := by
    rintro x hx rfl
    exact nomatch gone.symm.trans (hs.owned.standing x hx).2
  obtain ⟨v, hrests, hentry, hwatched, hlive⟩ := exists_view hrests
  cases hrests with
  | out =>
      simp only [view]
      rw [hentry, hwatched, hlive]
  -- whoever has its socket keeps a number open
  | parked socket =>
      have hsocket := Table.socket?_eq hentry
      exact absurd (hs.descriptor_of_socket? hsocket) (hheld _ (mem_held_of_socket? hsocket))
  | lent =>
      have hpos : 0 < s.live d := by
        rw [hlive]
        exact Nat.one_pos
      obtain ⟨r, hr, hown⟩ := List.countP_pos_iff.mp hpos
      exact absurd (of_decide_eq_true hown) (hheld _ (mem_held_of_request hr))

/-- What a stage leaves is read off the stages that follow it, if nothing else is at work on `d`. -/
theorem Sound.regular_next (hs : s.Sound) (here : s.agenda? t = some (stage :: rest))
    (hthreads : s₁.threads = s.threads) (hkept : s₁.kept = s.kept)
    (hclaims : s.claims d = stage.claim d) {n : Nat}
    (hn : n + stage.loan d = s.live d + (next.map (Stage.loan d)).sum)
    (hregular : View.Regular ⟨s₁.table.entry? d, s₁.kernel.isWatched d, n⟩
      (next.map (Stage.claim d)).sum) :
    ((s₁.setAgenda t (next ++ rest)).view d).Regular ((s₁.setAgenda t (next ++ rest)).claims d) := by
  rw [hs.claims_next here hthreads hclaims, hs.view_next here hthreads hkept hn]
  exact hregular

theorem Sound.regular_of_proceeds (hs : s.Sound) (here : s.agenda? t = some (stage :: rest))
    (hthreads : s₁.threads = s.threads) (hkept : s₁.kept = s.kept)
    (hclaims : s.claims d = stage.claim d) (hloan : stage.loan d = 0) (hgoes : s.Proceeds s₁ next d) :
    ((s₁.setAgenda t (next ++ rest)).view d).Regular ((s₁.setAgenda t (next ++ rest)).claims d) := by
  refine hs.regular_next here hthreads hkept hclaims ?_ hgoes
  rw [hloan, add_zero]

/-- The first stage of some work is the only one that is at work. -/
theorem regular_of_first {first : Stage} {others : List Stage} (h : v.Suits first)
    (hfirst : first.subject? = some d) (hothers : ∀ x ∈ others, x.subject? = none) :
    v.Regular ((first :: others).map (Stage.claim d)).sum := by
  have hnone : (others.map (Stage.claim d)).sum = 0 := by
    refine List.sum_eq_zero fun c hc => ?_
    obtain ⟨x, hx, rfl⟩ := List.mem_map.mp hc
    exact Stage.claim_of_ne fun h => nomatch (hothers x hx).symm.trans h
  rw [List.map_cons, List.sum_cons, hnone, add_zero, Stage.claim_of_subject hfirst]
  exact .suits first h

/-- **WORK BEGINS AS IT SHOULD**: an event, a new connection and a request that is finished each meet a
    number that suits the first stage of the work. -/
theorem Sound.begins (hs : s.Sound) (here : s.agenda? t = some (stage :: rest))
    (h : s.Carries luck stage s₁ next) (hrests : (s.view d).Rests) (hstage : stage.subject? = none)
    {x : Stage} (hx : x ∈ next) (hsubject : x.subject? = some d) (hnone : s.claims d = 0) :
    ((s₁.setAgenda t (next ++ rest)).view d).Regular ((s₁.setAgenda t (next ++ rest)).claims d) := by
  have hclaims : s.claims d = stage.claim d := by
    rw [hnone, Stage.claim_of_ne]
    exact fun h => nomatch hstage.symm.trans h
  have happears : ∀ {first : Stage}, first.subject? = some d → (s.view d).Suits first →
      s.Proceeds s [first] d := fun hfirst hsuits => .goesOn hsuits hfirst rfl rfl rfl
  cases h with
  | misses index e gone other =>
      cases List.mem_singleton.mp hx
      refine hs.regular_of_proceeds here rfl rfl hclaims rfl (happears hsubject ?_)
      cases hsubject
      rw [hs.out_of_gone hrests gone]
      exact .forget _
  | hangsUp index e other =>
      cases List.mem_singleton.mp hx
      exact hs.regular_of_proceeds here rfl rfl hclaims rfl
        (happears hsubject (.close _ _ hrests))
  | readies index e other =>
      cases List.mem_singleton.mp hx
      exact hs.regular_of_proceeds here rfl rfl hclaims rfl
        (happears hsubject (.unwatchReady _ _ _ hrests))
  | accepts c peer nonneg free other =>
      have hc : c = d := by
        rcases List.mem_cons.mp hx with rfl | hx
        · exact Option.some.inj hsubject
        · cases List.mem_singleton.mp hx
          exact nomatch hsubject
      subst hc
      -- the number was free, so it is out of the table
      obtain ⟨hentry, hwatched, hlive⟩ := View.mk.inj (hs.out_of_gone hrests free)
      refine hs.regular_next (n := 0) here rfl rfl hclaims hlive.symm ?_
      refine regular_of_first ?_ rfl fun x hx => by cases List.mem_singleton.mp hx; rfl
      show View.Suits _ ⟨s.table.entry? c, s.kernel.isWatched c, 0⟩
      rw [hentry, hwatched]
      exact .track _
  | finishes r isOpen pending panic =>
      cases descriptor_of_finished hx hsubject
      -- the request was live, so its number is that of a socket on loan
      have hlive := hs.live_of_serve here
      obtain ⟨v, hrests, hentry, hwatched, hlive'⟩ := exists_view hrests
      rw [hlive'] at hlive
      cases hrests with
      | lent =>
          refine hs.regular_next (n := 0) here rfl rfl hclaims ?_
            (regular_of_first ?_ rfl subject_of_panicked)
          · rw [hlive', loan_serve]
            cases panic <;> rfl
          · show View.Suits _ ⟨s.table.entry? _, s.kernel.isWatched _, 0⟩
            rw [hentry, hwatched]
            exact .comeBack _
      | out | parked => exact absurd hlive (Nat.lt_irrefl 0)
  | hears | retries =>
      cases List.mem_singleton.mp hx
      exact nomatch hsubject
  | ignores | acceptsNone | acceptFails | keeps | tells => exact nomatch hx
  | _ => exact nomatch hstage

/-! ## Every stage -/

/-- To be regular is a property of every number by itself. -/
theorem regular_iff : s.Regular ↔ s.Each fun _ v claims => v.Regular claims :=
  ⟨fun h => ⟨h.absent, h.unlent, h.unclaimed, h.others⟩,
    fun h => ⟨h.absent, h.unlent, h.unclaimed, h.others⟩⟩

/-- The next stage of a thread is alone at work on its number, which is not the listener's. -/
theorem Regular.suits (hr : s.Regular) (here : s.agenda? t = some (stage :: rest))
    (hstage : stage.subject? = some d) :
    d ≠ s.listener ∧ s.claims d = {stage} ∧ (s.view d).Suits stage := by
  have hmine := mem_threads_of_agenda? here
  have hd := (regular_iff.mp hr).ne_listener_of_subject hmine (List.mem_cons_self ..) hstage
  exact ⟨hd, (hr.others d hd).suits_of_mem (mem_claims hmine (List.mem_cons_self ..) hstage)⟩

/-- A socket that is to be closed is closed under its own number. -/
theorem Regular.own (hr : s.Regular) (here : s.agenda? t = some (stage :: rest)) (c : Descriptor)
    (socket : Socket) (hstage : stage = .unwatchClosed c (some socket)) : socket.descriptor = c := by
  subst hstage
  exact (hr.suits here rfl).2.2.own

/-- A stage leaves the numbers alone that neither it nor one that follows it is at work on. -/
theorem Regular.frame (hr : s.Regular) (hs : s.Sound) (here : s.agenda? t = some (stage :: rest))
    (h : s.Carries luck stage s₁ next) (hstage : stage.subject? ≠ some d)
    (hnext : ∀ x ∈ next, x.subject? ≠ some d) :
    (s₁.setAgenda t (next ++ rest)).view d = s.view d ∧
      (s₁.setAgenda t (next ++ rest)).claims d = s.claims d :=
  hs.frame hstage hnext here h (hr.own here)

/-- **EVERY STAGE KEEPS ALL NUMBERS REGULAR**, if work on a number begins only when nothing is at work
    on it. -/
theorem Regular.carries (hr : s.Regular) (hs : s.Sound) (here : s.agenda? t = some (stage :: rest))
    (h : s.Carries luck stage s₁ next) (hsmooth : s.smooth stage luck = true)
    (hfree : stage.subject? = none → ∀ x ∈ next, ∀ d, x.subject? = some d → s.claims d = 0) :
    (s₁.setAgenda t (next ++ rest)).Regular := by
  refine regular_iff.mpr ((regular_iff.mp hr).carries hs here h (hr.own here) ?_ ?_)
  · intro d hd hstage
    obtain ⟨-, hclaims, hsuits⟩ := hr.suits here hstage
    exact hs.regular_of_proceeds here h.threads.1 (h.kept_eq hstage)
      (hclaims.trans (Stage.claim_of_subject hstage).symm) (Stage.loan_of_subject hstage d)
      (hs.proceeds here h (fun _ => (Bool.and_eq_true_iff.mp hsmooth).1) (ends_of_smooth hsmooth)
        hstage hsuits)
  · intro hnone x hx d hd hsubject
    have hclaims := hfree hnone x hx d hsubject
    exact hs.begins here h ((hr.others d hd).rests_of_nobody hclaims) hnone hx hsubject hclaims

/-! ## Every move -/

/-- Only connections and the listener are watched. -/
theorem Sound.unwatched (hs : s.Sound) (hregular : (s.view d).Regular (s.claims d))
    (hno : ∀ n, s.kernel.file? d ≠ some (.connection n)) : s.kernel.isWatched d = false := by
  have hheld : ∀ socket : Socket, socket.handle ∈ s.held → socket.descriptor ≠ d := by
    rintro socket hsocket rfl
    exact hno _ (hs.owned.standing _ hsocket).2
  have hrests : ∀ v : View, v.Rests → s.table.entry? d = v.entry → v.isWatched = false := by
    intro v hrests hentry
    cases hrests with
    | out | lent => rfl
    | parked socket =>
        have hsocket := Table.socket?_eq hentry
        exact absurd (hs.descriptor_of_socket? hsocket) (hheld _ (mem_held_of_socket? hsocket))
  generalize hclaims : s.claims d = claims at hregular
  cases hregular with
  | rests rests => exact hrests _ rests rfl
  | suits stage hsuits =>
      obtain ⟨v, hsuits, hentry, hwatched, -⟩ := exists_view hsuits
      rw [hwatched]
      cases hsuits with
      | close _ v rests | unwatchReady _ _ v rests => exact hrests v rests hentry
      | lendOther _ _ v rests unwatched => exact unwatched
      | unwatchClosed c socket isWatched own =>
          -- the socket that is to be dropped keeps its number open
          have hmem : Stage.unwatchClosed c (some socket) ∈ s.claims d := by
            rw [hclaims]
            exact Multiset.mem_singleton_self _
          obtain ⟨hsubject, th, hth, hstage⟩ := exists_of_mem_claims hmem
          exact absurd (own.trans (Option.some.inj hsubject))
            (hheld socket (mem_held_of_carried hth hstage rfl))
      | _ => rfl

/-- A connection whose socket is parked is open. -/
theorem Sound.open_of_parked (hs : s.Sound) (h : s.table.entry? d = some { socket := some socket }) :
    s.kernel.file? d = some (.connection socket.connection) := by
  have hsocket := Table.socket?_eq h
  rw [← hs.descriptor_of_socket? hsocket]
  exact (hs.owned.standing _ (mem_held_of_socket? hsocket)).2

/-- A number that is watched while nothing is at work on it has its socket parked. -/
theorem Regular.parked (hr : s.Regular) (hd : d ≠ s.listener) (hnone : s.claims d = 0)
    (hwatched : s.kernel.isWatched d = true) :
    (∃ socket, s.table.entry? d = some { socket := some socket }) ∧ s.live d = 0 := by
  obtain ⟨v, hrests, hentry, hsame, hlive⟩ := exists_view ((hr.others d hd).rests_of_nobody hnone)
  have htrue : v.isWatched = true := hsame.symm.trans hwatched
  cases hrests with
  | out | lent => exact nomatch htrue
  | parked socket => exact ⟨⟨socket, hentry⟩, hlive⟩

/-- A batch of events is at work on no number yet. -/
theorem Regular.receives (hr : s.Regular) (hs : s.Sound) {events : List Event}
    (idle : s.agenda? 0 = some []) : (s.setAgenda 0 (batch events)).Regular :=
  regular_iff.mpr ((regular_iff.mp hr).receives hs idle)

/-- The socket of a request that is finished is on its way back, if nothing was at work on its number. -/
theorem regular_finished {place : Nat} {r : Request} (kept : s.kept[place]? = some r)
    (hsocket : socket.descriptor = r.socket.descriptor) (hrests : (s.view socket.descriptor).Rests)
    (hfree : s.claims socket.descriptor = 0) :
    ((s.finished place socket).view socket.descriptor).Regular
      ((s.finished place socket).claims socket.descriptor) := by
  have hcount : s.live socket.descriptor =
      1 + (s.finished place socket).live socket.descriptor := by
    rw [live_finished kept socket, hsocket, List.countP_singleton, if_pos (decide_eq_true rfl)]
  obtain ⟨v, hrests, hentry, hwatched, hlive⟩ := exists_view hrests
  rw [hlive] at hcount
  -- a number with a live request is on loan, and now there is none
  cases hrests with
  | lent =>
      have hnone : (s.finished place socket).live socket.descriptor = 0 := by
        simp only at hcount
        omega
      show View.Regular ⟨s.table.entry? _, s.kernel.isWatched _, _⟩ _
      rw [claims_finished, hfree, zero_add, hentry, hwatched, hnone, Stage.claim_of_subject rfl]
      exact .suits _ (.comeBack socket)
  | out | parked =>
      simp only at hcount
      omega

/-- A finished request brings its socket back, if nothing is at work on its number. -/
theorem Regular.completes (hr : s.Regular) {place : Nat} {r : Request}
    (kept : s.kept[place]? = some r) {socket : Socket}
    (hsocket : socket.descriptor = r.socket.descriptor) (hfree : s.claims socket.descriptor = 0) :
    (s.finished place socket).Regular := by
  have he := regular_iff.mp hr
  have hd : socket.descriptor ≠ s.listener := by
    rw [hsocket]
    exact he.ne_listener_of_live (live_of_kept kept)
  exact regular_iff.mpr (he.completes kept hsocket
    (regular_finished kept hsocket ((hr.others _ hd).rests_of_nobody hfree) hfree))

/-- A number changes that is no connection's, and nobody watches it. -/
theorem Regular.elsewhere (hr : s.Regular) {kernel : Kernel}
    (hwatched : ∀ d, d ≠ s.listener → kernel.isWatched d = s.kernel.isWatched d) :
    State.Regular { s with kernel } :=
  regular_iff.mpr ((regular_iff.mp hr).elsewhere hwatched)

/-- To close a number that is no connection's ends no watch but the listener's. -/
theorem Regular.isWatched_steal (hr : s.Regular) (hs : s.Sound) (hrule : s.spares (.steal d) = true)
    {c : Descriptor} (hc : c ≠ s.listener) :
    (s.kernel.close d).isWatched c = s.kernel.isWatched c := by
  refine Kernel.isWatched_close_apart ?_
  rintro rfl
  exact hs.unwatched (hr.others c hc) (file?_of_spares hrule)

/-- Before the first move nothing is at work, and no connection is there. -/
theorem regular_new (listener : Descriptor) : (State.new listener).Regular :=
  regular_iff.mpr (each_new listener fun _ => .rests .out)

end State

end PooledServer.Events
