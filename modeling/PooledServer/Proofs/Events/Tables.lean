import PooledServer.Events.Table
import PooledServer.Events.Kernel
import PooledServer.Proofs.Keyed

/-!
# Open files and entries as maps

    The open files are a map from descriptor numbers to files, the entries one from descriptor numbers
    to entries, and every operation changes its map at one number only.

    The table is sound (`Table.Sound`) if every socket in it stands in the entry of its own descriptor
    and that entry is not busy.  The sockets in a sound table are those of its entries, one by one. -/

namespace PooledServer.Events

open Net

namespace Kernel

variable {k : Kernel} {d : Descriptor} {file : File}

/-- A number that is closed stands for nothing. -/
theorem file?_close : (k.close d).file? = Function.update k.file? d none :=
  Keyed.value?_filter_ne

/-- A number that is given to a file stands for it. -/
theorem file?_openFile : (k.openFile d file).file? = Function.update k.file? d (some file) := by
  show Keyed.value? ((d, file) :: k.files.filter (·.1 != d)) = _
  rw [Keyed.value?_cons, Keyed.value?_filter_ne, Function.update_idem]
  rfl

/-- A number that is not negative and not open is free. -/
theorem file?_eq_none (hd : 0 ≤ d) (h : k.isOpen d = false) : k.file? d = none := by
  simp only [isOpen] at h
  rw [decide_eq_true hd, Bool.true_and] at h
  exact Option.not_isSome_iff_eq_none.mp (by rw [h]; exact Bool.false_ne_true)

end Kernel

namespace Table

variable {t : Table} {c d : Descriptor} {e : Entry} {socket : Socket}

/-! ## Entries -/

/-- Taking out an entry changes the map at its number only. -/
theorem entry?_erase : Table.entry? (t.erase d) = Function.update t.entry? d none :=
  Keyed.value?_filter_ne

/-- So does putting one in, in the place of whatever was there. -/
theorem entry?_insert : Table.entry? (t.insert d e) = Function.update t.entry? d (some e) := by
  show Keyed.value? ((d, e) :: t.erase d) = _
  rw [Keyed.value?_cons]
  exact (congrArg (Function.update · d (some e)) entry?_erase).trans (Function.update_idem ..)

/-- What the map has is in the table. -/
theorem mem_of_entry (h : t.entry? d = some e) : (d, e) ∈ t := Keyed.mem_of_value? h

/-- What is in a table without repeated numbers is what the map has. -/
theorem entry?_of_mem (hd : (t.map Prod.fst).Nodup) (h : (d, e) ∈ t) : t.entry? d = some e :=
  Keyed.value?_of_mem hd h

/-- There is nothing to take out where there is no entry. -/
theorem erase_eq_self (hd : (t.map Prod.fst).Nodup) (h : t.entry? d = none) : t.erase d = t := by
  refine Keyed.filter_ne_eq_self (f := Prod.fst) ?_
  rintro ⟨c, e⟩ hmem rfl
  exact nomatch h.symm.trans (entry?_of_mem hd hmem)

/-- The table is one entry and the others. -/
theorem perm_erase (hd : (t.map Prod.fst).Nodup) (h : t.entry? d = some e) :
    ((d, e) :: t.erase d).Perm t := by
  -- the entry stands between others with other numbers, which stay
  obtain ⟨before, after, hsplit, hbefore, hafter⟩ := Keyed.exists_split hd (mem_of_entry h)
  have herase : t.erase d = before ++ after := by
    simp only [erase]
    rw [hsplit, List.filter_append, List.filter_cons_of_neg (by simp),
      Keyed.filter_ne_eq_self hbefore, Keyed.filter_ne_eq_self hafter]
  rw [herase, hsplit]
  exact List.perm_middle.symm

/-! ## Sockets -/

/-- The sockets in the table. -/
def sockets (t : Table) : List Socket := t.filterMap (·.2.socket)

/-- The socket of a new entry, if it has one, comes before those of the others. -/
theorem sockets_insert : (t.insert d e).sockets = e.socket.toList ++ (t.erase d).sockets := by
  show List.filterMap _ ((d, e) :: t.erase d) = _
  rw [List.filterMap_cons]
  cases e.socket <;> rfl

/-- The socket under a number is that of its entry. -/
theorem socket?_eq (h : t.entry? d = some e) : t.socket? d = e.socket := by
  simp only [socket?]
  rw [h]
  rfl

/-- A socket under a number has an entry around it. -/
theorem entry?_of_socket? (h : t.socket? d = some socket) :
    ∃ e, t.entry? d = some e ∧ e.socket = some socket := Option.bind_eq_some_iff.mp h

/-- The sockets are that of one entry and those of the others. -/
theorem sockets_erase (hd : (t.map Prod.fst).Nodup) :
    ((t.socket? d).toList ++ (t.erase d).sockets).Perm t.sockets := by
  cases hentry : t.entry? d with
  | none =>
      have hsocket : t.socket? d = none := by
        unfold socket?
        rw [hentry]
        rfl
      rw [erase_eq_self hd hentry, hsocket]
      exact .refl _
  | some e =>
      rw [socket?_eq hentry, ← sockets_insert]
      exact (perm_erase hd hentry).filterMap _

/-- Each socket stands in the entry of its own descriptor, which is not busy. -/
structure Sound (t : Table) : Prop where
  distinct : (t.map Prod.fst).Nodup
  own : ∀ d e socket, t.entry? d = some e → e.socket = some socket →
    socket.descriptor = d ∧ e.isBusy = false

theorem sound_nil : Sound [] := ⟨List.nodup_nil, fun _ _ _ h => nomatch h⟩

/-- A table stays sound without one of its entries. -/
theorem Sound.erase (h : t.Sound) : (t.erase d).Sound := by
  refine ⟨h.distinct.sublist (List.filter_sublist.map _), ?_⟩
  intro c e socket hentry hsocket
  rw [entry?_erase] at hentry
  by_cases hc : c = d
  · subst hc
    rw [Function.update_self] at hentry
    exact nomatch hentry
  · rw [Function.update_of_ne hc] at hentry
    exact h.own c e socket hentry hsocket

/-- A table stays sound with an entry that has no socket, or its own socket and is not busy. -/
theorem Sound.insert (h : t.Sound)
    (hown : ∀ socket, e.socket = some socket → socket.descriptor = d ∧ e.isBusy = false) :
    (t.insert d e).Sound := by
  constructor
  · show ((d, e) :: t.erase d).map Prod.fst |>.Nodup
    rw [List.map_cons, List.nodup_cons]
    refine ⟨?_, h.erase.distinct⟩
    intro hmem
    -- what was in the place of the entry has been taken out
    obtain ⟨p, hp, hpd⟩ := List.mem_map.mp hmem
    simpa [hpd] using (List.mem_filter.mp hp).2
  · intro c e' socket hentry hsocket
    rw [entry?_insert] at hentry
    by_cases hc : c = d
    · subst hc
      rw [Function.update_self] at hentry
      cases Option.some.inj hentry
      exact hown socket hsocket
    · rw [Function.update_of_ne hc] at hentry
      exact h.own c e' socket hentry hsocket

end Table

end PooledServer.Events
