import PooledServer.Proofs.Events.Lending
import PooledServer.Proofs.Events.Regular

/-!
# Empty entries wait

    A socket on loan is awaited by an empty entry, and as long as the lock works the converse holds too:
    an empty entry awaits a socket that somebody has borrowed (`State.Backed`).  So there is no entry
    whose connection is gone.  A new connection and a number that is to be forgotten find none under
    their numbers, and a ready connection that is not in flight has its socket parked. -/

namespace PooledServer.Events

open Net

namespace State

/-- Every empty entry awaits a socket on loan. -/
def Backed (s : State) : Prop :=
  ∀ d e, s.table.entry? d = some e → e.socket = none →
    ∃ socket, s.Borrowed socket ∧ socket.descriptor = d

variable {s s' s₁ : State} {t : ThreadId} {luck : Luck} {stage : Stage} {next rest : List Stage}
  {listener d : Descriptor} {e : Entry} {move : Move} {socket : Socket}

/-! ## Loans last -/

theorem Carries.kept_subset (h : s.Carries luck stage s₁ next) : s.kept ⊆ s₁.kept := by
  cases h with
  | tracks socket lock => cases s.table.socket? socket.descriptor <;> exact List.Subset.refl _
  | drops d socket => cases socket <;> exact List.Subset.refl _
  | keeps r => exact List.subset_append_left _ _
  | _ => exact List.Subset.refl _

/-- A borrowed socket is handed on by the stage that has it, if this does not put it back. -/
theorem Carries.hands_on (h : s.Carries luck stage s₁ next) (hstage : stage.borrowed? = some socket)
    (hpark : ∀ isValid, stage ≠ .park socket isValid) :
    (∃ r ∈ s₁.kept, r.socket.descriptor = socket.descriptor) ∨
      ∃ x ∈ next, ∃ other, x.borrowed? = some other ∧ other.descriptor = socket.descriptor := by
  cases h with
  | keeps r =>
      cases hstage
      exact Or.inl ⟨r, List.mem_append_right _ (List.mem_singleton_self r), rfl⟩
  | finishes r isOpen pending panic =>
      cases hstage
      exact Or.inr ⟨_, List.mem_cons_self .., _, rfl, rfl⟩
  | comesBack socket =>
      cases hstage
      exact Or.inr ⟨_, List.mem_cons_self .., _, rfl, rfl⟩
  | parkBarred | parks | retires | turnsAway =>
      cases hstage
      exact absurd rfl (hpark _)
  | _ => cases hstage

/-- A borrowed socket is with the stage at hand or elsewhere. -/
theorem Numbered.borrowed_split (hs : s.Numbered) (here : s.agenda? t = some (stage :: rest))
    (h : s.Borrowed socket) :
    stage.borrowed? = some socket ∨ (s.setAgenda t rest).Borrowed socket := by
  rcases h with hkept | ⟨th, hth, x, hx, hsocket⟩
  · exact Or.inr (Or.inl hkept)
  · by_cases hid : th.id = t
    · have hagenda := agenda?_of_mem hs hth
      rw [hid, here] at hagenda
      rw [← Option.some.inj hagenda] at hx
      rcases List.mem_cons.mp hx with rfl | hrest
      · exact Or.inl hsocket
      · exact Or.inr (Or.inr ⟨_, mem_setAgenda_self here, x, hrest, hsocket⟩)
    · exact Or.inr (Or.inr ⟨th, mem_setAgenda_of_ne hth hid, x, hx, hsocket⟩)

theorem Carries.borrowed_apart (h : s.Carries luck stage s₁ next)
    (hborrowed : (s.setAgenda t rest).Borrowed socket) :
    (s₁.setAgenda t (next ++ rest)).Borrowed socket := by
  rcases hborrowed with ⟨r, hr, hsame⟩ | ⟨th, hth, x, hx, hsocket⟩
  · exact Or.inl ⟨r, h.kept_subset hr, hsame⟩
  · obtain ⟨th₀, hth₀, rfl⟩ := List.mem_map.mp hth
    rw [← h.threads.1] at hth₀
    refine Or.inr ⟨_, List.mem_map_of_mem hth₀, x, ?_, hsocket⟩
    split at hx
    · rename_i hid
      rw [if_pos hid]
      exact List.mem_append_right _ hx
    · rename_i hid
      rwa [if_neg hid]

/-- A loan ends only when the socket is put back. -/
theorem Sound.borrowed_carries (hs : s.Sound) (here : s.agenda? t = some (stage :: rest))
    (h : s.Carries luck stage s₁ next) (hborrowed : s.Borrowed socket)
    (hpark : ∀ isValid, stage ≠ .park socket isValid) :
    ∃ other, (s₁.setAgenda t (next ++ rest)).Borrowed other ∧
      other.descriptor = socket.descriptor := by
  have hmine : s₁.agenda? t = some (stage :: rest) := by
    rw [← here]
    simp only [agenda?]
    rw [h.threads.1]
  rcases hs.numbered.borrowed_split here hborrowed with hstage | hother
  · rcases h.hands_on hstage hpark with ⟨r, hr, hsame⟩ | ⟨x, hx, other, hother, hsame⟩
    · exact ⟨r.socket, Or.inl ⟨r, hr, rfl⟩, hsame⟩
    · exact ⟨other, Or.inr ⟨_, mem_setAgenda_self hmine, x, List.mem_append_left _ hx, hother⟩,
        hsame⟩
  · exact ⟨socket, h.borrowed_apart hother, rfl⟩

/-! ## What is in the table -/

/-- A number that has an entry has a socket, parked or on loan. -/
theorem Backed.exists_held (hb : s.Backed) (hs : s.Sound) (h : s.table.entry? d = some e) :
    ∃ socket : Socket, socket.descriptor = d ∧
      (s.table.socket? d = some socket ∨ s.Borrowed socket) := by
  cases hsocket : e.socket with
  | some socket =>
      have hparked : s.table.socket? d = some socket := (Table.socket?_eq h).trans hsocket
      exact ⟨socket, hs.descriptor_of_socket? hparked, Or.inl hparked⟩
  | none =>
      obtain ⟨socket, hborrowed, rfl⟩ := hb d e h hsocket
      exact ⟨socket, rfl, Or.inr hborrowed⟩

/-- An entry that is not busy has its socket. -/
theorem Backed.exists_socket (hb : s.Backed) (hl : s.Lending) (h : s.table.entry? d = some e)
    (idle : e.isBusy = false) : ∃ socket, e.socket = some socket := by
  cases hsocket : e.socket with
  | some socket => exact ⟨socket, rfl⟩
  | none =>
      obtain ⟨socket, hborrowed, rfl⟩ := hb d e h hsocket
      cases Option.some.inj (h.symm.trans (hl.awaited socket hborrowed))
      exact nomatch idle

/-- The number of a new connection is not in the table. -/
theorem Backed.entry?_of_track (hb : s.Backed) (hs : s.Sound)
    (here : s.agenda? t = some (.track socket :: rest)) : s.table.entry? socket.descriptor = none := by
  cases hentry : s.table.entry? socket.descriptor with
  | none => rfl
  | some e =>
      obtain ⟨other, hsame, hparked | hborrowed⟩ := hb.exists_held hs hentry
      · exact nomatch (hs.socket?_of_track here).symm.trans hparked
      -- the stage has borrowed no socket, and nobody else has one of the number that it puts in
      · rcases hs.numbered.borrowed_split here hborrowed with hstage | hother
        · cases hstage
        · exact absurd hsame.symm
            (hs.apart_of_borrowed (x := socket.handle) here hother (Multiset.mem_singleton_self _))

/-- A number that is to be forgotten is not in the table. -/
theorem Backed.entry?_of_forget (hb : s.Backed) (hs : s.Sound)
    (here : s.agenda? t = some (.forget d :: rest)) : s.table.entry? d = none := by
  have hfit : ∀ x ∈ s.held, x.1 ≠ d :=
    hs.fits _ (mem_threads_of_agenda? here) _ (List.mem_cons_self ..)
  cases hentry : s.table.entry? d with
  | none => rfl
  | some e =>
      obtain ⟨socket, hsame, hparked | hborrowed⟩ := hb.exists_held hs hentry
      · exact absurd hsame (hfit _ (mem_held_of_socket? hparked))
      · exact absurd hsame (hfit _ (mem_held_of_borrowed hborrowed))

/-! ## Every move -/

/-- A stage leaves an empty entry only if a socket is on loan for it. -/
theorem Backed.carries (hb : s.Backed) (hs : s.Sound) (hl : s.Lending)
    (here : s.agenda? t = some (stage :: rest)) (h : s.Carries luck stage s₁ next)
    (hlock : luck.lock = true) : (s₁.setAgenda t (next ++ rest)).Backed := by
  intro d e hentry hempty
  -- an entry that is left as it was is awaited still, unless its socket has just been put back
  have hstays : s.table.entry? d = some e →
      (∀ socket isValid, socket.descriptor = d → stage ≠ .park socket isValid) →
      ∃ socket, (s₁.setAgenda t (next ++ rest)).Borrowed socket ∧ socket.descriptor = d := by
    intro hsame hpark
    obtain ⟨socket, hborrowed, rfl⟩ := hb d e hsame hempty
    exact hs.borrowed_carries here h hborrowed fun isValid => hpark socket isValid rfl
  by_cases hstage : stage.subject? = some d
  · cases h with
    | tracks socket lock =>
        cases hstage
        rw [hs.socket?_of_track here] at hentry
        cases Option.some.inj ((entry?_put s.table).symm.trans hentry)
        cases hempty
    | parks socket isValid lock present usable =>
        cases hstage
        cases Option.some.inj ((entry?_put s.table).symm.trans hentry)
        cases hempty
    | closes | forgets | retires =>
        cases hstage
        exact nomatch (entry?_taken s.table).symm.trans hentry
    | lendsEmpty index d entry lock present idle empty =>
        obtain ⟨socket, hsocket⟩ := hb.exists_socket hl present idle
        exact nomatch empty.symm.trans hsocket
    | lends index d entry socket lock present idle parked =>
        cases hstage
        have hsocket := hs.descriptor_of_socket? ((Table.socket?_eq present).trans parked)
        exact ⟨socket, Or.inr ⟨_, mem_setAgenda_self here, _, List.mem_cons_self .., rfl⟩, hsocket⟩
    | turnsAway socket isValid lock other =>
        exact absurd (hl.awaited_here here rfl) other
    | losesNew _ lock | parkBarred _ _ lock => exact nomatch hlock.symm.trans lock
    | drops d socket => cases socket <;> exact hstays hentry fun _ _ _ h => nomatch h
    | _ => exact hstays hentry fun _ _ _ h => nomatch h
  · refine hstays ((h.entry?_apart hstage).symm.trans hentry) ?_
    rintro socket isValid rfl rfl
    exact hstage rfl

theorem Backed.receives (hb : s.Backed) (hs : s.Sound) (idle : s.agenda? 0 = some [])
    (events : List Event) : (s.setAgenda 0 (batch events)).Backed := by
  intro d e hentry hempty
  obtain ⟨socket, hkept | ⟨th, hth, x, hx, hsocket⟩, hsame⟩ := hb d e hentry hempty
  · exact ⟨socket, Or.inl hkept, hsame⟩
  -- the loop had nothing left to do, so it had no socket either
  · have hother : th.id ≠ 0 := by
      intro hid
      have hagenda := agenda?_of_mem hs.numbered hth
      rw [hid, idle] at hagenda
      rw [← Option.some.inj hagenda] at hx
      cases hx
    exact ⟨socket, Or.inr ⟨th, mem_setAgenda_of_ne hth hother, x, hx, hsocket⟩, hsame⟩

theorem Backed.completes (hb : s.Backed) {place : Nat} {r : Request} {isOpen : Bool}
    {pending : ByteArray} (kept : s.kept[place]? = some r) :
    (s.finished place { r.socket with isOpen, pending }).Backed := by
  intro d e hentry hempty
  obtain ⟨socket, ⟨r', hr', rfl⟩ | ⟨th, hth, x, hx, hsocket⟩, hsame⟩ := hb d e hentry hempty
  · rcases List.mem_cons.mp ((perm_of_kept kept).mem_iff.mpr hr') with rfl | hstill
    · exact ⟨_, Or.inr ⟨_, List.mem_append_right _ (List.mem_singleton_self _), _,
        List.mem_singleton_self _, rfl⟩, hsame⟩
    · exact ⟨r'.socket, Or.inl ⟨r', hstill, rfl⟩, hsame⟩
  · exact ⟨socket, Or.inr ⟨th, List.mem_append_left _ hth, x, hx, hsocket⟩, hsame⟩

theorem backed_new (listener : Descriptor) : (State.new listener).Backed := fun _ _ h => nomatch h

/-- **NO MOVE LEAVES AN EMPTY ENTRY BEHIND**, if the lock works. -/
theorem Backed.goes (hb : s.Backed) (hs : s.Sound) (hl : s.Lending) (h : s.Goes move s')
    (hlock : ∀ t luck, move = .step t luck → luck.lock = true) : s'.Backed := by
  cases h with
  | carries here done => exact hb.carries hs hl here done (hlock _ _ rfl)
  | receives events idle => exact hb.receives hs idle events
  | completes place r isOpen pending kept => exact hb.completes kept
  | steals | opens => exact hb

end State

end PooledServer.Events
