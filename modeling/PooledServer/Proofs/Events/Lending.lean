import PooledServer.Proofs.Events.Runs

/-!
# Sockets on loan are awaited

    As long as nobody else closes the number of a connection, a socket that a request has, or that is on
    its way back, is awaited by the empty and busy entry of its number, and whatever a request gets is an
    open socket (`State.Lending`).  So a socket that comes back finds its entry.  If the lock and the
    watch work and nobody else is at work on its number meanwhile, it is parked and watched again, or,
    if it is closed, its number is closed too and its entry gone (`Homing.run`). -/

namespace PooledServer.Events

open Net

/-- The socket of a request that a stage hands out or brings back. -/
def Stage.borrowed? : Stage → Option Socket
  | .serve r => some r.socket
  | .comeBack s | .park s _ => some s
  | _ => none

namespace State

/-- A request has the socket, or it is on its way back. -/
def Borrowed (s : State) (socket : Socket) : Prop :=
  (∃ r ∈ s.kept, r.socket = socket) ∨
    ∃ th ∈ s.threads, ∃ stage ∈ th.agenda, stage.borrowed? = some socket

/-- What is true of loans while nobody else closes the numbers of connections. -/
structure Lending (s : State) : Prop where
  awaited : ∀ socket, s.Borrowed socket → s.table.entry? socket.descriptor = some { isBusy := true }
  parked : ∀ d socket, s.table.socket? d = some socket → socket.isOpen = true
  tracked : ∀ th ∈ s.threads, ∀ socket, Stage.track socket ∈ th.agenda → socket.isOpen = true
  asked : ∀ r ∈ s.requests, r.socket.isOpen = true

variable {s s' s₁ : State} {t u : ThreadId} {luck : Luck} {stage : Stage} {next rest : List Stage}
  {listener d : Descriptor} {move : Move} {moves : List Move} {socket : Socket} {x : Handle}

/-! ## Sockets that others have -/

theorem Sound.held_split (hs : s.Sound) (here : s.agenda? t = some (stage :: rest)) :
    s.held = s.stored + stage.handles + (s.setAgenda t rest).gather Stage.handles := by
  show s.stored + s.gather Stage.handles = _
  rw [hs.numbered.gather_split here, add_assoc]

theorem mem_handles_of_borrowed (h : stage.borrowed? = some socket) :
    socket.handle ∈ stage.handles := by
  cases stage with
  | serve | comeBack | park =>
      cases h
      exact Multiset.mem_singleton_self _
  | _ => exact nomatch h

/-- A stage holds no socket of a number whose socket somebody else has borrowed. -/
theorem Sound.apart_of_borrowed (hs : s.Sound) (here : s.agenda? t = some (stage :: rest))
    (hother : (s.setAgenda t rest).Borrowed socket) (hx : x ∈ stage.handles) :
    x.1 ≠ socket.descriptor := by
  have hsplit := hs.held_split here
  rcases hother with ⟨r, hr, rfl⟩ | ⟨th, hth, other, hstage, hborrowed⟩
  · have hstored : r.socket.handle ∈ s.stored :=
      Multiset.mem_add.mpr (Or.inr (Multiset.mem_coe.mpr
        (List.mem_map_of_mem (f := fun r : Request => r.socket.handle) hr)))
    rw [add_right_comm] at hsplit
    exact (hs.owned.apart hsplit (Multiset.mem_add.mpr (Or.inl hstored)) hx).symm
  · have hrest : socket.handle ∈ (s.setAgenda t rest).gather Stage.handles :=
      mem_gather.mpr ⟨th, hth, other, hstage, mem_handles_of_borrowed hborrowed⟩
    exact hs.owned.apart hsplit (Multiset.mem_add.mpr (Or.inr hx)) hrest

theorem mem_held_of_borrowed (h : s.Borrowed socket) : socket.handle ∈ s.held := by
  rcases h with ⟨r, hr, rfl⟩ | ⟨th, hth, other, hstage, hborrowed⟩
  · exact mem_held_of_request (List.mem_append_left _ hr)
  · exact Multiset.mem_add.mpr (Or.inr
      (mem_gather.mpr ⟨th, hth, other, hstage, mem_handles_of_borrowed hborrowed⟩))

theorem borrowed_of_rest (here : s.agenda? t = some (stage :: rest))
    (h : (s.setAgenda t rest).Borrowed socket) : s.Borrowed socket := by
  rcases h with hkept | ⟨th, hth, other, hstage, hborrowed⟩
  · exact Or.inl hkept
  · rcases of_mem_setAgenda hth with rfl | ⟨-, hold⟩
    · exact Or.inr ⟨_, mem_threads_of_agenda? here, other, List.mem_cons_of_mem _ hstage, hborrowed⟩
    · exact Or.inr ⟨th, hold, other, hstage, hborrowed⟩

/-! ## Where a stage has its socket from -/

/-- What follows a stage has no socket, or has it from the table, from the stage before it, or from a
    connection that has just arrived. -/
inductive Handed (s s₁ : State) (stage : Stage) : Stage → Prop
  | bare (x : Stage) (idle : x.request? = none) (bare : x.carried? = none) : s.Handed s₁ stage x
  | arrives (d : Descriptor) (peer : Endpoint)
      (count : s₁.stats.accepted = s.stats.accepted + 1) :
      s.Handed s₁ stage (.track (s.newSocket d peer))
  | lent (index : Nat) (d : Descriptor) (socket : Socket) (parked : s.table.socket? d = some socket)
      (waits : s₁.table.entry? d = some { isBusy := true }) :
      s.Handed s₁ stage (.serve (.awaited socket index))
  | served (r : Request) (isOpen : Bool) (pending : ByteArray) (was : stage = .serve r)
      (same : s₁.table = s.table) : s.Handed s₁ stage (.comeBack { r.socket with isOpen, pending })
  | looked (socket : Socket) (isValid : Bool) (was : stage = .comeBack socket)
      (same : s₁.table = s.table) : s.Handed s₁ stage (.park socket isValid)
  | released (socket : Socket) (isValid : Bool) (was : stage = .park socket isValid) :
      s.Handed s₁ stage (.release socket isValid)
  | closed (d : Descriptor) (parked : Option Socket) (own : parked = s.table.socket? d) :
      s.Handed s₁ stage (.unwatchClosed d parked)
  | forgotten (d : Descriptor) (parked : Option Socket) (own : parked = s.table.socket? d) :
      s.Handed s₁ stage (.unwatchForgotten d parked)

/-- **EVERY SOCKET IS HANDED ON**. -/
theorem Carries.handed (h : s.Carries luck stage s₁ next) {x : Stage} (hx : x ∈ next) :
    s.Handed s₁ stage x := by
  cases h with
  | accepts d peer nonneg free other =>
      rcases List.mem_cons.mp hx with rfl | hx
      · exact .arrives d peer rfl
      · rw [List.mem_singleton.mp hx]
        exact .bare _ rfl rfl
  | closes d entry lock present idle =>
      rw [List.mem_singleton.mp hx]
      exact .closed d _ (Table.socket?_eq present).symm
  | forgets d lock =>
      rw [List.mem_singleton.mp hx]
      exact .forgotten d _ rfl
  | lends index d entry socket lock present idle parked =>
      rw [List.mem_singleton.mp hx]
      refine .lent index d socket ((Table.socket?_eq present).trans parked) ?_
      show Table.entry? (s.table.insert d _) d = _
      rw [Table.entry?_insert, Function.update_self]
  | finishes r isOpen pending panic =>
      rcases List.mem_cons.mp hx with rfl | hx
      · exact .served r isOpen pending rfl rfl
      · cases panic with
        | none => exact nomatch hx
        | some message =>
            rw [List.mem_singleton.mp hx]
            exact .bare _ rfl rfl
  | comesBack socket =>
      rw [List.mem_singleton.mp hx]
      exact .looked socket _ rfl rfl
  | retires socket isValid | turnsAway socket isValid =>
      rw [List.mem_singleton.mp hx]
      exact .released socket isValid rfl
  | hears | misses | hangsUp | readies | retries | tracks | watchFails | forgetBarred | quiets
  | quietFails | parks | rearmFails =>
      rw [List.mem_singleton.mp hx]
      exact .bare _ rfl rfl
  | _ => exact nomatch hx

/-! ## Entries that wait -/

/-- The entry of the socket that the stage at hand has borrowed waits for it. -/
theorem Lending.awaited_here (hl : s.Lending) (here : s.agenda? t = some (stage :: rest))
    (h : stage.borrowed? = some socket) :
    s.table.entry? socket.descriptor = some { isBusy := true } :=
  hl.awaited socket (Or.inr ⟨_, mem_threads_of_agenda? here, _, List.mem_cons_self .., h⟩)

theorem entry?_erase_of_ne (h : d ≠ socket.descriptor) :
    Table.entry? (s.table.erase d) socket.descriptor = s.table.entry? socket.descriptor := by
  rw [Table.entry?_erase, Function.update_of_ne (Ne.symm h)]

theorem entry?_insert_of_ne {e : Entry} (h : d ≠ socket.descriptor) :
    Table.entry? (s.table.insert d e) socket.descriptor = s.table.entry? socket.descriptor := by
  rw [Table.entry?_insert, Function.update_of_ne (Ne.symm h)]

/-- No stage but the one that brings a socket back changes the entry that waits for it. -/
theorem Lending.awaited_apart (hl : s.Lending) (hs : s.Sound)
    (here : s.agenda? t = some (stage :: rest)) (h : s.Carries luck stage s₁ next)
    (hother : (s.setAgenda t rest).Borrowed socket) :
    s₁.table.entry? socket.descriptor = some { isBusy := true } := by
  have hborrowed := borrowed_of_rest here hother
  have hwaits := hl.awaited socket hborrowed
  have hapart := fun x hx => hs.apart_of_borrowed (x := x) here hother hx
  have hfit := hs.fits _ (mem_threads_of_agenda? here) stage (List.mem_cons_self ..)
  -- an entry that is not busy is another one
  have hidle : ∀ {c : Descriptor} {entry : Entry}, s.table.entry? c = some entry →
      entry.isBusy = false → c ≠ socket.descriptor := by
    rintro c entry present idle rfl
    cases Option.some.inj (present.symm.trans hwaits)
    exact nomatch idle
  cases h with
  | tracks other lock =>
      rw [hs.socket?_of_track here]
      exact (entry?_insert_of_ne (hapart other.handle (Multiset.mem_singleton_self _))).trans hwaits
  | parks other isValid lock present usable =>
      exact (entry?_insert_of_ne (hapart other.handle (Multiset.mem_singleton_self _))).trans hwaits
  | retires other isValid lock present useless =>
      exact (entry?_erase_of_ne (hapart other.handle (Multiset.mem_singleton_self _))).trans hwaits
  | closes c entry lock present idle =>
      exact (entry?_erase_of_ne (hidle present idle)).trans hwaits
  | lendsEmpty index c entry lock present idle empty =>
      exact (entry?_insert_of_ne (hidle present idle)).trans hwaits
  | lends index c entry other lock present idle parked =>
      exact (entry?_insert_of_ne (hidle present idle)).trans hwaits
  | forgets c lock =>
      have hne := hfit socket.handle (mem_held_of_borrowed hborrowed)
      exact (entry?_erase_of_ne (Ne.symm hne)).trans hwaits
  | drops c other => cases other <;> exact hwaits
  | _ => exact hwaits

/-- Whatever a stage makes a thread borrow, its entry waits for it. -/
theorem Lending.awaited_next (hl : s.Lending) (hs : s.Sound)
    (here : s.agenda? t = some (stage :: rest)) (h : s.Carries luck stage s₁ next) {x : Stage}
    (hx : x ∈ next) (hborrowed : x.borrowed? = some socket) :
    s₁.table.entry? socket.descriptor = some { isBusy := true } := by
  cases h.handed hx with
  | lent index d other parked waits =>
      cases hborrowed
      show s₁.table.entry? other.descriptor = _
      rw [hs.descriptor_of_socket? parked]
      exact waits
  | served r isOpen pending was same =>
      cases hborrowed
      subst was
      rw [same]
      have hwaits : s.table.entry? r.socket.descriptor = _ := hl.awaited_here here rfl
      exact hwaits
  | looked other isValid was same =>
      cases hborrowed
      subst was
      rw [same]
      exact hl.awaited_here here rfl
  | bare x idle bare =>
      cases x with
      | serve r => exact nomatch idle
      | comeBack | park => exact nomatch bare
      | _ => exact nomatch hborrowed
  | _ => exact nomatch hborrowed

theorem Carries.of_mem_kept (h : s.Carries luck stage s₁ next) {r : Request} (hr : r ∈ s₁.kept) :
    r ∈ s.kept ∨ stage = .serve r ∧ s₁.table = s.table := by
  cases h with
  | keeps r' =>
      rcases List.mem_append.mp hr with hold | hnew
      · exact Or.inl hold
      · rw [List.mem_singleton.mp hnew]
        exact Or.inr ⟨rfl, rfl⟩
  | tracks socket lock =>
      cases hother : s.table.socket? socket.descriptor <;> rw [hother] at hr <;> exact Or.inl hr
  | drops c socket => cases socket <;> exact Or.inl hr
  | _ => exact Or.inl hr

/-- Every socket on loan is still awaited after a stage. -/
theorem Lending.awaited_carries (hl : s.Lending) (hs : s.Sound)
    (here : s.agenda? t = some (stage :: rest)) (h : s.Carries luck stage s₁ next)
    (hborrowed : (s₁.setAgenda t (next ++ rest)).Borrowed socket) :
    s₁.table.entry? socket.descriptor = some { isBusy := true } := by
  rcases hborrowed with ⟨r, hr, rfl⟩ | ⟨th, hth, other, hstage, hborrowed⟩
  · rcases h.of_mem_kept hr with hold | ⟨rfl, htable⟩
    · exact hl.awaited_apart hs here h (Or.inl ⟨r, hold, rfl⟩)
    · rw [htable]
      exact hl.awaited_here here rfl
  · rcases h.of_mem_threads hth with rfl | ⟨hne, hold⟩
    · rcases List.mem_append.mp hstage with hnew | hrest
      · exact hl.awaited_next hs here h hnew hborrowed
      · exact hl.awaited_apart hs here h
          (Or.inr ⟨_, mem_setAgenda_self here, other, hrest, hborrowed⟩)
    · exact hl.awaited_apart hs here h
        (Or.inr ⟨th, mem_setAgenda_of_ne hold hne, other, hstage, hborrowed⟩)

/-! ## Open sockets -/

theorem socket?_insert {c : Descriptor} {e : Entry}
    (h : Table.socket? (s.table.insert c e) d = some socket) :
    e.socket = some socket ∨ s.table.socket? d = some socket := by
  simp only [Table.socket?] at h ⊢
  rw [Table.entry?_insert] at h
  by_cases hd : d = c
  · rw [hd, Function.update_self] at h
    exact Or.inl h
  · rw [Function.update_of_ne hd] at h
    exact Or.inr h

theorem socket?_erase {c : Descriptor} (h : Table.socket? (s.table.erase c) d = some socket) :
    s.table.socket? d = some socket := by
  simp only [Table.socket?] at h ⊢
  rw [Table.entry?_erase] at h
  by_cases hd : d = c
  · rw [hd, Function.update_self] at h
    cases h
  · rwa [Function.update_of_ne hd] at h

/-- A socket is put into the table only if it is open. -/
theorem Lending.parked_carries (hl : s.Lending) (hs : s.Sound)
    (here : s.agenda? t = some (stage :: rest)) (h : s.Carries luck stage s₁ next)
    (hsocket : s₁.table.socket? d = some socket) : socket.isOpen = true := by
  cases h with
  | tracks other lock =>
      rw [hs.socket?_of_track here] at hsocket
      rcases socket?_insert hsocket with hnew | hold
      · cases hnew
        exact hl.tracked _ (mem_threads_of_agenda? here) _ (List.mem_cons_self ..)
      · exact hl.parked d socket hold
  | parks other isValid lock present usable =>
      rcases socket?_insert hsocket with hnew | hold
      · cases hnew
        exact (Bool.and_eq_true_iff.mp usable).1
      · exact hl.parked d socket hold
  | lendsEmpty | lends =>
      rcases socket?_insert hsocket with hnew | hold
      · exact nomatch hnew
      · exact hl.parked d socket hold
  | closes | forgets | retires => exact hl.parked d socket (socket?_erase hsocket)
  | drops c other => cases other <;> exact hl.parked d socket hsocket
  | _ => exact hl.parked d socket hsocket

/-- A new socket is open until it is put into the table. -/
theorem Lending.tracked_carries (hl : s.Lending) (here : s.agenda? t = some (stage :: rest))
    (h : s.Carries luck stage s₁ next) {th : Thread}
    (hth : th ∈ (s₁.setAgenda t (next ++ rest)).threads) (hstage : Stage.track socket ∈ th.agenda) :
    socket.isOpen = true := by
  rcases h.of_mem_threads hth with rfl | ⟨-, hold⟩
  · rcases List.mem_append.mp hstage with hnew | hrest
    · cases h.handed hnew with
      | arrives d peer count => rfl
      | bare x idle bare => exact nomatch bare
    · exact hl.tracked _ (mem_threads_of_agenda? here) _ (List.mem_cons_of_mem _ hrest)
  · exact hl.tracked th hold _ hstage

/-- A request is live while a handler keeps it or a thread is about to hand it out. -/
theorem mem_requests {r : Request} :
    r ∈ s.requests ↔ r ∈ s.kept ∨ ∃ th ∈ s.threads, Stage.serve r ∈ th.agenda := by
  have hserve : ∀ stage : Stage, stage.request? = some r ↔ stage = .serve r := by
    intro stage
    cases stage with
    | serve other => exact ⟨fun h => congrArg Stage.serve (Option.some.inj h), fun h => by cases h; rfl⟩
    | _ => exact iff_of_false (fun h => nomatch h) (fun h => nomatch h)
  simp only [requests, List.mem_append, List.mem_flatMap, List.mem_filterMap, hserve,
    exists_eq_right]

/-- A request is made for a socket that was parked. -/
theorem Lending.asked_carries (hl : s.Lending) (here : s.agenda? t = some (stage :: rest))
    (h : s.Carries luck stage s₁ next) {r : Request}
    (hr : r ∈ (s₁.setAgenda t (next ++ rest)).requests) : r.socket.isOpen = true := by
  have hmine := mem_threads_of_agenda? here
  have hserved : stage = .serve r → r.socket.isOpen = true := by
    rintro rfl
    exact hl.asked r (mem_requests.mpr (Or.inr ⟨_, hmine, List.mem_cons_self ..⟩))
  rcases mem_requests.mp hr with hkept | ⟨th, hth, hstage⟩
  · rcases h.of_mem_kept hkept with hold | ⟨heq, -⟩
    · exact hl.asked r (mem_requests.mpr (Or.inl hold))
    · exact hserved heq
  · rcases h.of_mem_threads hth with rfl | ⟨-, hold⟩
    · rcases List.mem_append.mp hstage with hnew | hrest
      · cases h.handed hnew with
        | lent index d other parked waits => exact hl.parked d other parked
        | bare x idle bare => exact nomatch idle
      · exact hl.asked r (mem_requests.mpr (Or.inr ⟨_, hmine, List.mem_cons_of_mem _ hrest⟩))
    · exact hl.asked r (mem_requests.mpr (Or.inr ⟨th, hold, hstage⟩))

/-! ## Every move -/

theorem Lending.carries (hl : s.Lending) (hs : s.Sound) (here : s.agenda? t = some (stage :: rest))
    (h : s.Carries luck stage s₁ next) : (s₁.setAgenda t (next ++ rest)).Lending := by
  have hawaited : ∀ socket, (s₁.setAgenda t (next ++ rest)).Borrowed socket →
      s₁.table.entry? socket.descriptor = some { isBusy := true } :=
    fun _ hborrowed => hl.awaited_carries hs here h hborrowed
  have hparked : ∀ d socket, s₁.table.socket? d = some socket → socket.isOpen = true :=
    fun _ _ hsocket => hl.parked_carries hs here h hsocket
  refine ⟨hawaited, hparked, ?_, ?_⟩
  · intro th hth socket hstage
    exact hl.tracked_carries here h hth hstage
  · intro r hr
    exact hl.asked_carries here h hr

theorem Lending.receives (hl : s.Lending) (events : List Event) :
    (s.setAgenda 0 (batch events)).Lending := by
  -- events have no sockets
  have hthreads : ∀ th ∈ (s.setAgenda 0 (batch events)).threads, ∀ stage ∈ th.agenda,
      (∃ index e, stage = .event index e) ∨ th ∈ s.threads := by
    intro th hth stage hstage
    rcases of_mem_setAgenda hth with rfl | ⟨-, hold⟩
    · obtain ⟨⟨e, index⟩, -, rfl⟩ := List.mem_map.mp hstage
      exact Or.inl ⟨index, e, rfl⟩
    · exact Or.inr hold
  refine ⟨?_, hl.parked, ?_, ?_⟩
  · rintro socket (hkept | ⟨th, hth, stage, hstage, hborrowed⟩)
    · exact hl.awaited socket (Or.inl hkept)
    · rcases hthreads th hth stage hstage with ⟨index, e, rfl⟩ | hold
      · exact nomatch hborrowed
      · exact hl.awaited socket (Or.inr ⟨th, hold, stage, hstage, hborrowed⟩)
  · intro th hth socket hstage
    rcases hthreads th hth _ hstage with ⟨index, e, heq⟩ | hold
    · exact nomatch heq
    · exact hl.tracked th hold socket hstage
  · intro r hr
    rcases mem_requests.mp hr with hkept | ⟨th, hth, hstage⟩
    · exact hl.asked r (mem_requests.mpr (Or.inl hkept))
    · rcases hthreads th hth _ hstage with ⟨index, e, heq⟩ | hold
      · exact nomatch heq
      · exact hl.asked r (mem_requests.mpr (Or.inr ⟨th, hold, hstage⟩))

theorem Lending.completes (hl : s.Lending) {place : Nat} {r : Request} {isOpen : Bool}
    {pending : ByteArray} (kept : s.kept[place]? = some r) :
    ({ s with kept := s.kept.eraseIdx place }.launch
      [.comeBack { r.socket with isOpen, pending }]).Lending := by
  refine ⟨?_, hl.parked, ?_, ?_⟩
  · rintro socket (⟨r', hr', rfl⟩ | ⟨th, hth, stage, hstage, hborrowed⟩)
    · exact hl.awaited _ (Or.inl ⟨r', List.mem_of_mem_eraseIdx hr', rfl⟩)
    · rcases List.mem_append.mp hth with hold | hnew
      · exact hl.awaited socket (Or.inr ⟨th, hold, stage, hstage, hborrowed⟩)
      -- the socket that comes back was that of a request that was kept
      · rw [List.mem_singleton.mp hnew] at hstage
        cases List.mem_singleton.mp hstage
        cases hborrowed
        exact hl.awaited r.socket (Or.inl ⟨r, List.mem_of_getElem? kept, rfl⟩)
  · intro th hth socket hstage
    rcases List.mem_append.mp hth with hold | hnew
    · exact hl.tracked th hold socket hstage
    · rw [List.mem_singleton.mp hnew] at hstage
      exact nomatch List.mem_singleton.mp hstage
  · intro r' hr'
    rcases mem_requests.mp hr' with hkept | ⟨th, hth, hstage⟩
    · exact hl.asked r' (mem_requests.mpr (Or.inl (List.mem_of_mem_eraseIdx hkept)))
    · rcases List.mem_append.mp hth with hold | hnew
      · exact hl.asked r' (mem_requests.mpr (Or.inr ⟨th, hold, hstage⟩))
      · rw [List.mem_singleton.mp hnew] at hstage
        exact nomatch List.mem_singleton.mp hstage

theorem lending_new (listener : Descriptor) : (State.new listener).Lending := by
  refine ⟨?_, (fun _ _ h => nomatch h), ?_, (fun _ h => nomatch h)⟩
  · rintro socket (⟨r, hr, -⟩ | ⟨th, hth, stage, hstage, -⟩)
    · exact nomatch hr
    · rw [List.mem_singleton.mp hth] at hstage
      exact nomatch hstage
  · intro th hth socket hstage
    rw [List.mem_singleton.mp hth] at hstage
    exact nomatch hstage

/-- **EVERY MOVE THAT SPARES CONNECTIONS KEEPS LOANS AWAITED**. -/
theorem Lending.goes (hl : s.Lending) (hs : s.Sound) (h : s.Goes move s') : s'.Lending := by
  cases h with
  | carries here done => exact hl.carries hs here done
  | receives events idle => exact hl.receives events
  | completes place r isOpen pending kept => exact hl.completes kept
  | steals | opens => exact ⟨hl.awaited, hl.parked, hl.tracked, hl.asked⟩

end State

end PooledServer.Events
