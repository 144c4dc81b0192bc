import PooledServer.Proofs.Events.Lending

/-!
# Sockets are passed on as they are

    The server passes sockets between its table and the stages of its threads and never touches them:
    apart from requests, which go to handlers, whatever it has after a move it had before, or it is the
    socket of a connection that has just arrived (`Goes.bears`). -/

namespace PooledServer.Events

open Net

/-- The stage has the socket in hand. -/
def Stage.Bears (stage : Stage) (socket : Socket) : Prop :=
  (∃ r, stage.request? = some r ∧ r.socket = socket) ∨ stage.carried? = some socket

theorem Stage.Bears.mem_handles {stage : Stage} {socket : Socket} (h : stage.Bears socket) :
    socket.handle ∈ stage.handles := by
  rcases h with ⟨r, hr, rfl⟩ | hcarried
  · exact Multiset.mem_coe.mpr (List.mem_append_left _ (by rw [hr]; exact List.mem_cons_self ..))
  · exact Multiset.mem_coe.mpr (List.mem_append_right _ (by rw [hcarried]; exact List.mem_cons_self ..))

namespace State

/-- The socket is parked, or a thread has it. -/
def Bears (s : State) (socket : Socket) : Prop :=
  (∃ d, s.table.socket? d = some socket) ∨
    ∃ th ∈ s.threads, ∃ stage ∈ th.agenda, stage.Bears socket

variable {s s' s₁ : State} {t : ThreadId} {luck : Luck} {stage : Stage} {next rest : List Stage}
  {d : Descriptor} {move : Move} {socket : Socket}

theorem Bears.of_stage (here : s.agenda? t = some (stage :: rest)) (h : stage.Bears socket) :
    s.Bears socket :=
  Or.inr ⟨_, mem_threads_of_agenda? here, stage, List.mem_cons_self .., h⟩

/-- What the others have, and this thread later, is had. -/
theorem Bears.of_rest (here : s.agenda? t = some (stage :: rest))
    (h : (s.setAgenda t rest).Bears socket) : s.Bears socket := by
  rcases h with hparked | ⟨th, hth, x, hx, hbears⟩
  · exact Or.inl hparked
  · rcases of_mem_setAgenda hth with rfl | ⟨-, hold⟩
    · exact Or.inr ⟨_, mem_threads_of_agenda? here, x, List.mem_cons_of_mem _ hx, hbears⟩
    · exact Or.inr ⟨th, hold, x, hx, hbears⟩

/-- What a thread has after it got new stages is in these, or had besides. -/
theorem Bears.of_setAgenda (here : s.agenda? t = some (stage :: rest))
    (h : (s.setAgenda t (next ++ rest)).Bears socket) :
    (∃ x ∈ next, x.Bears socket) ∨ (s.setAgenda t rest).Bears socket := by
  rcases h with hparked | ⟨th, hth, x, hx, hbears⟩
  · exact Or.inr (Or.inl hparked)
  · rcases of_mem_setAgenda hth with rfl | ⟨hne, hold⟩
    · rcases List.mem_append.mp hx with hnew | hrest
      · exact Or.inl ⟨x, hnew, hbears⟩
      · exact Or.inr (Or.inr ⟨_, mem_setAgenda_self here, x, hrest, hbears⟩)
    · exact Or.inr (Or.inr ⟨th, mem_setAgenda_of_ne hold hne, x, hx, hbears⟩)

/-- What is in the table after a stage was there before, or the stage had it. -/
theorem Carries.parked_or_borne (h : s.Carries luck stage s₁ next)
    (hsocket : s₁.table.socket? d = some socket) :
    s.table.socket? d = some socket ∨ stage.Bears socket := by
  cases h with
  | tracks other lock =>
      have hparked : Table.socket? (s.table.insert other.descriptor { socket := some other }) d =
          some socket := by
        cases hother : s.table.socket? other.descriptor <;> rw [hother] at hsocket <;> exact hsocket
      exact (socket?_insert hparked).symm.imp_right Or.inr
  | parks other isValid lock present usable => exact (socket?_insert hsocket).symm.imp_right Or.inr
  | lendsEmpty | lends => exact Or.inl ((socket?_insert hsocket).resolve_left nofun)
  | closes | forgets | retires => exact Or.inl (socket?_erase hsocket)
  | drops c other => cases other <;> exact Or.inl hsocket
  | _ => exact Or.inl hsocket

/-- What the stages have that follow was parked or the stage had it, unless a handler is done with it or
    it is new. -/
theorem Carries.bears_next (h : s.Carries luck stage s₁ next) (hserve : ∀ r, stage ≠ .serve r)
    {x : Stage} (hx : x ∈ next) (hbears : x.Bears socket) :
    (∃ d, s.table.socket? d = some socket) ∨ stage.Bears socket ∨
      (∃ d peer, socket = s.newSocket d peer) ∧ s₁.stats.accepted = s.stats.accepted + 1 := by
  -- a stage that carries a socket has no other
  have hcarries : ∀ {other : Option Socket}, x.request? = none → x.carried? = other →
      other = some socket := by
    rintro other hrequest rfl
    rcases hbears with ⟨r, hr, -⟩ | hcarried
    · exact nomatch hrequest.symm.trans hr
    · exact hcarried
  cases h.handed hx with
  | bare x idle bare => exact nomatch hcarries idle bare
  | arrives d peer count =>
      exact Or.inr (Or.inr ⟨⟨d, peer, (Option.some.inj (hcarries rfl rfl)).symm⟩, count⟩)
  | lent index d other parked waits =>
      rcases hbears with ⟨r, hr, rfl⟩ | hcarried
      · cases hr
        exact Or.inl ⟨d, parked⟩
      · exact nomatch hcarried
  | served r isOpen pending was => exact absurd was (hserve r)
  | looked other isValid was | released other isValid was =>
      subst was
      exact Or.inr (Or.inl (Or.inr (hcarries rfl rfl)))
  | closed d parked own | forgotten d parked own =>
      exact Or.inl ⟨d, own.symm.trans (hcarries rfl rfl)⟩

/-- **WHAT THE SERVER HAS IT HAD BEFORE, OR IT IS NEW**. -/
theorem Goes.bears (h : s.Goes move s')
    (hserve : ∀ t luck r rest, move = .step t luck → s.agenda? t ≠ some (.serve r :: rest))
    (hcomplete : ∀ place isOpen pending, move ≠ .complete place isOpen pending)
    (hbears : s'.Bears socket) :
    s.Bears socket ∨
      (∃ d peer, socket = s.newSocket d peer) ∧ s'.stats.accepted = s.stats.accepted + 1 := by
  cases h with
  | @carries t luck stage rest next s₁ here done =>
      have hother : ∀ r, stage ≠ .serve r := by
        rintro r rfl
        exact hserve t luck r rest rfl here
      rcases hbears with ⟨d, hparked⟩ | ⟨th, hth, x, hx, hbears⟩
      · rcases done.parked_or_borne hparked with hold | hborne
        · exact Or.inl (Or.inl ⟨d, hold⟩)
        · exact Or.inl (.of_stage here hborne)
      · rcases done.of_mem_threads hth with rfl | ⟨-, hold⟩
        · rcases List.mem_append.mp hx with hnew | hrest
          · rcases done.bears_next hother hnew hbears with hparked | hborne | hjoins
            · exact Or.inl (Or.inl hparked)
            · exact Or.inl (.of_stage here hborne)
            · exact Or.inr hjoins
          · exact Or.inl (Or.inr ⟨_, mem_threads_of_agenda? here, x, List.mem_cons_of_mem _ hrest, hbears⟩)
        · exact Or.inl (Or.inr ⟨th, hold, x, hx, hbears⟩)
  | receives events idle =>
      rcases hbears with hparked | ⟨th, hth, x, hx, hbears⟩
      · exact Or.inl (Or.inl hparked)
      · rcases of_mem_setAgenda hth with rfl | ⟨-, hold⟩
        · obtain ⟨⟨e, index⟩, -, rfl⟩ := List.mem_map.mp hx
          rcases hbears with ⟨r, hr, -⟩ | hcarried
          · exact nomatch hr
          · exact nomatch hcarried
        · exact Or.inl (Or.inr ⟨th, hold, x, hx, hbears⟩)
  | completes place r isOpen pending kept =>
      exact absurd rfl (hcomplete place isOpen pending)
  | steals | opens => exact Or.inl hbears

/-- Connections are counted up. -/
theorem Goes.accepted_le (h : s.Goes move s') (hs : s.Sound) :
    s.stats.accepted ≤ s'.stats.accepted := by
  cases h with
  | @carries t luck stage rest next s₁ here done =>
      show s.stats.accepted ≤ (s₁.setAgenda t (next ++ rest)).stats.accepted
      cases hs.change_held here done with
      | joins d nonneg free held files count =>
          rw [count]
          exact Nat.le_succ _
      | passes held files count | closes x held files count
      | elsewhere d file held files was is count => exact Nat.le_of_eq count.symm
  | receives | completes | steals | opens => exact Nat.le_refl _

/-! ## Other connections -/

/-- Whatever else the server holds is of another connection. -/
theorem Owned.ne_of_split {x y : Handle} {others : Multiset Handle} (h : s.Owned)
    (hheld : s.held = {x} + others) (hy : y ∈ others) : y.2 ≠ x.2 := by
  have honce := h.once
  rw [hheld, Multiset.map_add, Multiset.map_singleton, Multiset.singleton_add,
    Multiset.nodup_cons] at honce
  intro heq
  refine honce.1 ?_
  rw [← heq]
  exact Multiset.mem_map_of_mem _ hy

theorem Bears.mem_handles (h : s.Bears socket) :
    socket.handle ∈ s.table.handles + s.gather Stage.handles := by
  rcases h with ⟨d, hparked⟩ | ⟨th, hth, stage, hstage, hbears⟩
  · exact Multiset.mem_add.mpr (Or.inl (Table.mem_handles hparked))
  · exact Multiset.mem_add.mpr (Or.inr (mem_gather.mpr ⟨th, hth, stage, hstage, hbears.mem_handles⟩))

end State

end PooledServer.Events
