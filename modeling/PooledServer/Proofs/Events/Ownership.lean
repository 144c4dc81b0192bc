import PooledServer.Proofs.Events.Holdings

/-!
# Every open connection has one socket

    As long as nobody else closes the number of a connection, what the server holds and the open
    connections are the same (`State.Owned`): every socket stands for the connection under its number,
    every open connection has a socket, and no two sockets are of one connection.

    A move changes the two together in one of four ways (`Change`): not at all, a socket is dropped and
    its number closed, a new connection gets a free number and a socket, or a number changes that is no
    connection's. -/

namespace PooledServer.Events

open Net

/-- How the server's sockets and the open files change together. -/
inductive Change (s s' : State) (before after : Multiset Handle) : Prop
  | passes (held : after = before) (files : s'.kernel.file? = s.kernel.file?)
      (count : s'.stats.accepted = s.stats.accepted)
  | closes (x : Handle) (held : before = after + {x})
      (files : s'.kernel.file? = Function.update s.kernel.file? x.1 none)
      (count : s'.stats.accepted = s.stats.accepted)
  | joins (d : Descriptor) (nonneg : 0 ≤ d) (free : s.kernel.file? d = none)
      (held : after = before + {(d, s.stats.accepted)})
      (files : s'.kernel.file? =
        Function.update s.kernel.file? d (some (.connection s.stats.accepted)))
      (count : s'.stats.accepted = s.stats.accepted + 1)
  | elsewhere (d : Descriptor) (file : Option File) (held : after = before)
      (files : s'.kernel.file? = Function.update s.kernel.file? d file)
      (was : ∀ n, s.kernel.file? d ≠ some (.connection n)) (is : ∀ n, file ≠ some (.connection n))
      (count : s'.stats.accepted = s.stats.accepted)

/-- The changes that a stage can make: those of the numbers that it has to do with itself. -/
inductive Shift (s s' : State) (before after : Multiset Handle) : Prop
  | passes (held : after = before) (files : s'.kernel.file? = s.kernel.file?)
      (count : s'.stats.accepted = s.stats.accepted)
  | closes (x : Handle) (held : before = after + {x})
      (files : s'.kernel.file? = Function.update s.kernel.file? x.1 none)
      (count : s'.stats.accepted = s.stats.accepted)
  | joins (d : Descriptor) (nonneg : 0 ≤ d) (free : s.kernel.file? d = none)
      (held : after = before + {(d, s.stats.accepted)})
      (files : s'.kernel.file? =
        Function.update s.kernel.file? d (some (.connection s.stats.accepted)))
      (count : s'.stats.accepted = s.stats.accepted + 1)

variable {s s' s₁ : State} {t : ThreadId} {luck : Luck} {stage : Stage} {next rest : List Stage}
  {before after c : Multiset Handle} {x y : Handle}

theorem Shift.change (h : Shift s s' before after) : Change s s' before after := by
  cases h with
  | passes held files count => exact .passes held files count
  | closes x held files count => exact .closes x held files count
  | joins d nonneg free held files count => exact .joins d nonneg free held files count

/-- What has no part in a change stays, and what its thread does next is no part of it. -/
theorem Shift.frame (h : Shift s s₁ before after) (t : ThreadId) (agenda : List Stage)
    (c : Multiset Handle) : Shift s (s₁.setAgenda t agenda) (before + c) (after + c) := by
  cases h with
  | passes held files count => exact .passes (by rw [held]) files count
  | closes x held files count =>
      refine .closes x ?_ files count
      rw [held]
      abel
  | joins d nonneg free held files count =>
      refine .joins d nonneg free ?_ files count
      rw [held]
      abel

/-- What the server gets that it did not hold is the socket of a new connection. -/
theorem Change.grows (h : Change s s' before after) :
    (∀ x ∈ after, x ∈ before) ∨ s'.stats.accepted = s.stats.accepted + 1 := by
  cases h with
  | passes held files count => exact Or.inl fun x hx => held ▸ hx
  | closes x held files count =>
      refine Or.inl fun y hy => ?_
      rw [held]
      exact Multiset.mem_add.mpr (Or.inl hy)
  | joins d nonneg free held files count => exact Or.inr count
  | elsewhere d file held files was is count => exact Or.inl fun x hx => held ▸ hx

namespace State

/-- Every socket stands for its connection, every open connection has one, and only one, socket. -/
structure Owned (s : State) : Prop where
  once : (s.held.map Prod.snd).Nodup
  recent : ∀ x ∈ s.held, x.2 < s.stats.accepted
  standing : ∀ x ∈ s.held, 0 ≤ x.1 ∧ s.kernel.file? x.1 = some (.connection x.2)
  whole : ∀ d n, s.kernel.file? d = some (.connection n) → (d, n) ∈ s.held

/-- Two sockets never have the same number. -/
theorem Owned.nodup_descriptors (h : s.Owned) : (s.held.map Prod.fst).Nodup := by
  refine Multiset.Nodup.map_on ?_ (Multiset.Nodup.of_map _ h.once)
  intro x hx y hy hxy
  have hfile := (h.standing x hx).2
  rw [hxy, (h.standing y hy).2] at hfile
  exact Prod.ext hxy (File.connection.inj (Option.some.inj hfile)).symm

theorem Owned.apart (h : s.Owned) (hheld : s.held = before + after) (hx : x ∈ before)
    (hy : y ∈ after) : x.1 ≠ y.1 := by
  have hnodup := h.nodup_descriptors
  rw [hheld, Multiset.map_add] at hnodup
  intro hxy
  have hdisjoint := (Multiset.nodup_add.mp hnodup).2.2
  refine Multiset.disjoint_left.mp hdisjoint (Multiset.mem_map_of_mem _ hx) ?_
  rw [hxy]
  exact Multiset.mem_map_of_mem _ hy

/-- A socket is dropped, and its number closed. -/
theorem Owned.closes (h : s.Owned) (held : s.held = s'.held + {x})
    (files : s'.kernel.file? = Function.update s.kernel.file? x.1 none)
    (count : s'.stats.accepted = s.stats.accepted) : s'.Owned := by
  have hold : ∀ y ∈ s'.held, y ∈ s.held := by
    intro y hy
    rw [held]
    exact Multiset.mem_add.mpr (Or.inl hy)
  refine ⟨?_, ?_, ?_, ?_⟩
  · have hnodup := h.once
    rw [held, Multiset.map_add] at hnodup
    exact (Multiset.nodup_add.mp hnodup).1
  · intro y hy
    rw [count]
    exact h.recent y (hold y hy)
  · intro y hy
    -- no socket that stays has the number that is closed
    rw [files, Function.update_of_ne (h.apart held hy (Multiset.mem_singleton_self x))]
    exact h.standing y (hold y hy)
  · intro d n hfile
    rw [files] at hfile
    by_cases hd : d = x.1
    · rw [hd, Function.update_self] at hfile
      exact nomatch hfile
    · rw [Function.update_of_ne hd] at hfile
      have hmem := h.whole d n hfile
      rw [held] at hmem
      rcases Multiset.mem_add.mp hmem with hstays | hgoes
      · exact hstays
      · exact absurd (congrArg Prod.fst (Multiset.mem_singleton.mp hgoes)) hd

/-- A new connection gets a free number and a socket. -/
theorem Owned.joins (h : s.Owned) {d : Descriptor} (nonneg : 0 ≤ d) (free : s.kernel.file? d = none)
    (held : s'.held = s.held + {(d, s.stats.accepted)})
    (files : s'.kernel.file? =
      Function.update s.kernel.file? d (some (.connection s.stats.accepted)))
    (count : s'.stats.accepted = s.stats.accepted + 1) : s'.Owned := by
  refine ⟨?_, ?_, ?_, ?_⟩
  · rw [held, Multiset.map_add, Multiset.nodup_add]
    refine ⟨h.once, Multiset.nodup_singleton _, ?_⟩
    -- connection numbers are counted up, so the new one is nobody's
    refine Multiset.disjoint_left.mpr ?_
    intro n hn hnew
    obtain ⟨y, hy, rfl⟩ := Multiset.mem_map.mp hn
    have hlt := h.recent y hy
    rw [Multiset.mem_singleton.mp hnew] at hlt
    exact Nat.lt_irrefl _ hlt
  · intro y hy
    rw [held] at hy
    rw [count]
    rcases Multiset.mem_add.mp hy with hold | hnew
    · exact Nat.lt_succ_of_lt (h.recent y hold)
    · rw [Multiset.mem_singleton.mp hnew]
      exact Nat.lt_succ_self _
  · intro y hy
    rw [held] at hy
    rw [files]
    rcases Multiset.mem_add.mp hy with hold | hnew
    -- whoever has a socket stands for an open number, and `d` was free
    · have hne : y.1 ≠ d := by
        rintro rfl
        exact nomatch free.symm.trans (h.standing y hold).2
      rw [Function.update_of_ne hne]
      exact h.standing y hold
    · rw [Multiset.mem_singleton.mp hnew, Function.update_self]
      exact ⟨nonneg, rfl⟩
  · intro c n hfile
    rw [files] at hfile
    rw [held]
    by_cases hc : c = d
    · subst hc
      rw [Function.update_self] at hfile
      rw [← File.connection.inj (Option.some.inj hfile)]
      exact Multiset.mem_add.mpr (Or.inr (Multiset.mem_singleton_self _))
    · rw [Function.update_of_ne hc] at hfile
      exact Multiset.mem_add.mpr (Or.inl (h.whole c n hfile))

/-- A number changes that is no connection's. -/
theorem Owned.elsewhere (h : s.Owned) {d : Descriptor} {file : Option File}
    (held : s'.held = s.held) (files : s'.kernel.file? = Function.update s.kernel.file? d file)
    (was : ∀ n, s.kernel.file? d ≠ some (.connection n)) (is : ∀ n, file ≠ some (.connection n))
    (count : s'.stats.accepted = s.stats.accepted) : s'.Owned := by
  refine ⟨?_, ?_, ?_, ?_⟩
  · rw [held]
    exact h.once
  · rw [held, count]
    exact h.recent
  · rw [held, files]
    intro y hy
    -- a number with a socket belongs to a connection, and `d` did not
    have hne : y.1 ≠ d := by
      rintro rfl
      exact was _ (h.standing y hy).2
    rw [Function.update_of_ne hne]
    exact h.standing y hy
  · rw [held, files]
    intro c n hfile
    by_cases hc : c = d
    · subst hc
      rw [Function.update_self] at hfile
      exact absurd hfile (is n)
    · rw [Function.update_of_ne hc] at hfile
      exact h.whole c n hfile

/-- **EVERY CHANGE KEEPS SOCKETS AND CONNECTIONS TOGETHER**. -/
theorem Owned.change (h : s.Owned) (hchange : Change s s' s.held s'.held) : s'.Owned := by
  cases hchange with
  | passes held files count =>
      constructor
      · rw [held]
        exact h.once
      · rw [held, count]
        exact h.recent
      · rw [held, files]
        exact h.standing
      · rw [held, files]
        exact h.whole
  | closes x held files count => exact h.closes held files count
  | joins d nonneg free held files count => exact h.joins nonneg free held files count
  | elsewhere d file held files was is count => exact h.elsewhere held files was is count

end State

end PooledServer.Events
