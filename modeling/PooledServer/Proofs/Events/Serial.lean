import PooledServer.Proofs.Events.Regular

/-!
# One operation at a time

    If every operation runs to its end before another begins, then between operations every tracked
    connection is either watched, with its own socket parked, or in flight, with one live request, and
    nothing else is watched but the listener (`State.watched_or_in_flight`).  Which events come, in
    which order and how often, does not matter, and neither does it which watches cannot be begun. -/

namespace PooledServer.Events

open Net

namespace State

/-- The rule that an operation begins only when no other is under way: the lock works, a watch that
    there is can be ended, and the numbers of connections are closed by dropping their sockets only. -/
def serially (s : State) : Move → Bool
  | .step t luck =>
    match s.agenda? t with
    | some (stage :: _) => s.smooth stage luck && (stage.subject?.isSome || s.isQuiet)
    | _ => false
  | .receive _ | .complete .. => s.isQuiet
  | move => s.spares move

/-- What a tracked connection is like between operations. -/
inductive Tracked (s : State) (d : Descriptor) : Entry → Prop
  | watched (socket : Socket) (own : socket.descriptor = d)
      (stands : s.kernel.file? d = some (.connection socket.connection))
      (registered : d ∈ s.kernel.watched) : s.Tracked d { isBusy := false, socket := some socket }
  | inFlight (unregistered : d ∉ s.kernel.watched) (once : s.live d = 1) :
      s.Tracked d { isBusy := true, socket := none }

variable {s s' : State} {listener : Descriptor} {move : Move} {moves : List Move} {d : Descriptor}
  {e : Entry}

/-- **AN OPERATION KEEPS ALL NUMBERS REGULAR**, stage by stage. -/
theorem Regular.goes_serially (hr : s.Regular) (hs : s.Sound) (hrule : s.serially move = true)
    (h : s.Goes move s') : s'.Regular := by
  cases h with
  | @carries t luck stage rest next s₁ here done =>
      simp only [serially, here] at hrule
      obtain ⟨hsmooth, hpause⟩ := Bool.and_eq_true_iff.mp hrule
      refine hr.carries hs here done hsmooth fun hnone x hx d hsubject => ?_
      -- a stage that is not yet at work is carried out only when nothing is
      rw [hnone] at hpause
      exact claims_eq_zero_of_quiet hpause d
  | receives events idle => exact hr.receives hs idle
  | completes place r isOpen pending kept =>
      exact hr.completes kept rfl (claims_eq_zero_of_quiet hrule _)
  | steals d => exact hr.elsewhere fun c hc => hr.isWatched_steal hs hrule hc
  | opens d number free => exact hr.elsewhere fun c hc => rfl

theorem regular_of_serial_run (hrun : (State.new listener).run serially moves = some s) :
    s.Sound ∧ s.Regular := by
  refine run_keeps (P := fun s => s.Sound ∧ s.Regular) ?_
    ⟨sound_new listener, regular_new listener⟩ hrun
  intro s move s' ⟨hs, hr⟩ hrule h
  exact ⟨hs.goes (spares_of_rule hrule fun _ => rfl) h, hr.goes_serially hs hrule h⟩

/-- The view of a tracked number that nothing is at work on. -/
theorem Regular.tracked (hr : s.Regular) (hs : s.Sound) (hnone : s.claims d = 0)
    (hentry : s.table.entry? d = some e) : s.Tracked d e := by
  have hd : d ≠ s.listener := by
    rintro rfl
    exact nomatch hr.absent.symm.trans hentry
  obtain ⟨v, hrests, hfound, hwatched, hlive⟩ := exists_view ((hr.others d hd).rests_of_nobody hnone)
  rw [hentry] at hfound
  cases hrests with
  | out => exact nomatch hfound
  | parked socket =>
      cases Option.some.inj hfound
      have hsocket := Table.socket?_eq hentry
      have hown := hs.descriptor_of_socket? hsocket
      have hstands := (hs.owned.standing _ (mem_held_of_socket? hsocket)).2
      refine .watched socket hown ?_ (of_decide_eq_true hwatched)
      rw [← hown]
      exact hstands
  | lent =>
      cases Option.some.inj hfound
      exact .inFlight (of_decide_eq_false hwatched) hlive

/-- **BETWEEN OPERATIONS EVERY TRACKED CONNECTION IS WATCHED OR IN FLIGHT**: it is not busy, has its own
    socket and is watched, or it is busy, has no socket, is not watched and has one live request.  No
    other number is watched than the listener's and those of connections that are not busy. -/
theorem watched_or_in_flight (hrun : (State.new listener).run serially moves = some s)
    (hquiet : s.isQuiet = true) :
    (s.table.map Prod.fst).Nodup ∧ (∀ d e, (d, e) ∈ s.table → s.Tracked d e) ∧
      ∀ d ∈ s.kernel.watched, d = listener ∨ ∃ e, (d, e) ∈ s.table ∧ e.isBusy = false := by
  obtain ⟨hs, hr⟩ := regular_of_serial_run hrun
  have hnone := claims_eq_zero_of_quiet hquiet
  refine ⟨hs.table.distinct, ?_, ?_⟩
  · intro d e hmem
    exact hr.tracked hs (hnone d) (Table.entry?_of_mem hs.table.distinct hmem)
  · intro d hwatched
    by_cases hd : d = listener
    · exact Or.inl hd
    · rw [← listener_of_run hrun] at hd
      obtain ⟨⟨socket, hparked⟩, -⟩ := hr.parked hd (hnone d) (decide_eq_true hwatched)
      exact Or.inr ⟨_, Table.mem_of_entry hparked, rfl⟩

/-- A client gets the number 4.  The next gets 5, cannot be watched and is closed; the number goes to a
    third, which is watched. -/
def clientsJoin : List Move :=
  let join (d : Descriptor) : Move :=
    .step 0 { arrival := .connection d { address := .loopback, port := 4000 } none none }
  [.receive [⟨3, .readable⟩], .step 0 {}, join 4, .step 0 {}, .step 0 {}, join 5, .step 0 {},
    .step 0 { backend := some (.system 28) }, .step 0 {}, .step 0 {}, join 5, .step 0 {}, .step 0 {},
    .step 0 {}]

/-- The first is ready twice and the third once; the request for the third is finished, and the other
    is kept. -/
def requestsMeet : List Move :=
  [.receive [⟨4, .readable⟩, ⟨4, .readable⟩, ⟨5, .readable⟩], .step 0 {}, .step 0 {}, .step 0 {},
    .step 0 {}, .step 0 {}, .step 0 { backend := some (.system 2) }, .step 0 {}, .step 0 {},
    .step 0 {}, .step 0 {}, .step 0 {}, .complete 1 true .empty, .step 1 {}, .step 1 {}, .step 1 {}]

/-- A server with one connection in flight and one that is watched. -/
def halfBusyServer : State :=
  ((State.new 3).run serially (clientsJoin ++ requestsMeet)).getD (State.new 3)

theorem watched_or_in_flight_halfBusy :
    (State.new 3).run serially (clientsJoin ++ requestsMeet) = some halfBusyServer ∧
    halfBusyServer.isQuiet = true ∧
    halfBusyServer.isBusy? 4 = some true ∧ halfBusyServer.isBusy? 5 = some false ∧
    (halfBusyServer.table.map Prod.fst).Nodup ∧
    (∀ d e, (d, e) ∈ halfBusyServer.table → halfBusyServer.Tracked d e) ∧
    ∀ d ∈ halfBusyServer.kernel.watched,
      d = 3 ∨ ∃ e, (d, e) ∈ halfBusyServer.table ∧ e.isBusy = false := by
  have hrun : (State.new 3).run serially (clientsJoin ++ requestsMeet) = some halfBusyServer :=
    (Option.getD_of_ne_none (by decide) _).symm
  have hquiet : halfBusyServer.isQuiet = true := by decide
  exact ⟨hrun, hquiet, by decide, by decide, watched_or_in_flight hrun hquiet⟩

end State

end PooledServer.Events
