import PooledServer.Proofs.Events.Runs

/-!
# Every connection is in one place

    Each connection that was ever accepted has one socket in one place, or is closed
    (`State.one_place`).  A parked socket is in the entry of its own number, and no two live requests
    are for one connection. -/

namespace PooledServer.Events

open Net

namespace State

/-- The whereabouts of connection `n`: it is open and has one socket, which, if it is parked, is in the
    entry of its own number and not in flight; or it is closed and has none. -/
inductive Whereabouts (s : State) (n : Nat) : Prop
  | open (p : Place) (d : Descriptor) (only : s.placesOf n = [p])
      (stands : s.kernel.file? d = some (.connection n))
      (own : ∀ c, p = .entry c → c = d ∧ s.isBusy? d = some false)
  | closed (nowhere : s.placesOf n = []) (gone : s.isClosed n)

variable {s : State} {listener : Descriptor} {moves : List Move} {n : Nat}

/-- Each connection is met once among the holdings. -/
theorem Owned.nodup_holdings (h : s.Owned) : (s.holdings.map (·.2.connection)).Nodup := by
  have hnodup := h.once
  rw [← coe_holdings, Multiset.map_coe, List.map_map] at hnodup
  exact Multiset.coe_nodup.mp hnodup

theorem length_placesOf_le (h : (s.holdings.map (·.2.connection)).Nodup) :
    (s.placesOf n).length ≤ 1 := by
  have hcount := List.nodup_iff_count_le_one.mp h n
  simp only [placesOf]
  rw [List.length_map, ← List.countP_eq_length_filter]
  rwa [List.count, List.countP_map] at hcount

/-- A parked socket is in the entry of its own number, which is not in flight. -/
theorem Sound.own (hs : s.Sound) {d : Descriptor} {socket : Socket}
    (h : (Place.entry d, socket) ∈ s.holdings) :
    socket.descriptor = d ∧ s.isBusy? d = some false := by
  simp only [holdings] at h
  rcases List.mem_append.mp h with h | h
  · rcases List.mem_append.mp h with h | h
    -- only the table has places of this kind, the requests and the operations have others
    · obtain ⟨⟨c, e⟩, hmem, hentry⟩ := List.mem_filterMap.mp h
      obtain ⟨other, hsocket, heq⟩ := Option.map_eq_some_iff.mp hentry
      cases heq
      have hfind := Table.entry?_of_mem hs.table.distinct hmem
      obtain ⟨hown, hidle⟩ := hs.table.own _ e _ hfind hsocket
      refine ⟨hown, ?_⟩
      simp only [isBusy?]
      rw [hfind, Option.map_some, hidle]
    · obtain ⟨r, -, heq⟩ := List.mem_map.mp h
      cases heq
  · obtain ⟨th, -, hth⟩ := List.mem_flatMap.mp h
    obtain ⟨stage, -, hstage⟩ := List.mem_filterMap.mp hth
    obtain ⟨other, -, heq⟩ := Option.map_eq_some_iff.mp hstage
    cases heq

theorem Sound.whereabouts (hs : s.Sound) (n : Nat) : s.Whereabouts n := by
  by_cases hopen : ∃ d, s.kernel.file? d = some (.connection n)
  · obtain ⟨d, hfile⟩ := hopen
    have hheld := hs.owned.whole d n hfile
    rw [← coe_holdings] at hheld
    obtain ⟨⟨p, socket⟩, hmem, hhandle⟩ := List.mem_map.mp (Multiset.mem_coe.mp hheld)
    obtain ⟨rfl, rfl⟩ := Prod.mk.inj hhandle
    have hplace : p ∈ s.placesOf socket.connection :=
      List.mem_map.mpr ⟨(p, socket), List.mem_filter.mpr ⟨hmem, beq_self_eq_true _⟩, rfl⟩
    refine .open p socket.descriptor ?_ hfile ?_
    -- it has a place, and one at most
    · have hlength := length_placesOf_le (n := socket.connection) hs.owned.nodup_holdings
      obtain ⟨q, hq⟩ := List.length_eq_one_iff.mp
        (Nat.le_antisymm hlength (List.length_pos_of_mem hplace))
      rw [hq] at hplace ⊢
      rw [List.mem_singleton.mp hplace]
    · rintro c rfl
      obtain ⟨rfl, hidle⟩ := hs.own hmem
      exact ⟨rfl, hidle⟩
  · have hgone : s.isClosed n := fun d h => hopen ⟨d, h⟩
    -- a place would hold a socket, and a socket keeps its connection open
    refine .closed (List.eq_nil_iff_forall_not_mem.mpr ?_) hgone
    intro p hp
    obtain ⟨⟨q, socket⟩, hmem, -⟩ := List.mem_map.mp hp
    obtain ⟨hmem, hconnection⟩ := List.mem_filter.mp hmem
    have hstands := (hs.owned.standing _ (mem_held_of_holdings hmem)).2
    refine hgone socket.descriptor (hstands.trans ?_)
    rw [show socket.handle.2 = n from eq_of_beq hconnection]

theorem Sound.nodup_requests (hs : s.Sound) : (s.requests.map (·.socket.connection)).Nodup := by
  have hnodup := hs.owned.nodup_holdings
  simp only [holdings] at hnodup
  rw [List.map_append, List.map_append, List.map_map] at hnodup
  exact (List.nodup_append.mp (List.nodup_append.mp hnodup).1).2.1

/-- **EACH CONNECTION IS IN ONE PLACE, OR CLOSED**: at every moment of every run its socket is parked in
    its own entry, on loan with one live request, or with one operation that puts it in, brings it back
    or closes it.  No two live requests are for one connection, so no two calls of the handler are. -/
theorem one_place (hrun : (State.new listener).run spares moves = some s) :
    (∀ n, s.Whereabouts n) ∧ (s.requests.map (·.socket.connection)).Nodup :=
  ⟨(sound_of_run hrun).whereabouts, (sound_of_run hrun).nodup_requests⟩

/-- A client connects and gets the number 4. -/
def clientJoins : List Move :=
  [.receive [⟨3, .readable⟩], .step 0 {},
    .step 0 { arrival := .connection 4 { address := .loopback, port := 4000 } none none },
    .step 0 {}, .step 0 {}, .step 0 {}]

/-- Its connection is ready twice before the first request is finished; then the request comes back,
    and is on its way into the table. -/
def readyTwice : List Move :=
  [.receive [⟨4, .readable⟩, ⟨4, .readable⟩], .step 0 {}, .step 0 {}, .step 0 {}, .step 0 {},
    .step 0 {}, .step 0 {}, .step 0 {}, .complete 0 true .empty, .step 1 {}]

/-- A server whose client has been ready twice. -/
def busyServer : State := ((State.new 3).run spares (clientJoins ++ readyTwice)).getD (State.new 3)

/-- The second event brings no second request. -/
theorem one_place_readyTwice :
    (State.new 3).run spares (clientJoins ++ readyTwice) = some busyServer ∧
    busyServer.stats.droppedBusy = 1 ∧ busyServer.placesOf 0 = [.operation 1] ∧
    (∀ n, busyServer.Whereabouts n) ∧ (busyServer.requests.map (·.socket.connection)).Nodup := by
  have hrun : (State.new 3).run spares (clientJoins ++ readyTwice) = some busyServer :=
    (Option.getD_of_ne_none (by decide) _).symm
  exact ⟨hrun, by decide, by decide, one_place hrun⟩

end State

end PooledServer.Events
