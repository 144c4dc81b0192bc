import Mathlib

/-!
# Lists with keys

    Threads, workers, open files and entries stand in lists in which each element has a key of its own.
    Here is how such a list is looked up, changed at one key, and summed up, whatever it contains. -/

namespace PooledServer.Keyed

variable {α κ M : Type*} {f : α → κ} {l : List α} {x : α} {k : κ}

/-- An element stands alone among those with other keys. -/
theorem exists_split (hd : (l.map f).Nodup) (hx : x ∈ l) :
    ∃ before after, l = before ++ x :: after ∧
      (∀ y ∈ before, f y ≠ f x) ∧ ∀ y ∈ after, f y ≠ f x := by
  obtain ⟨before, after, hsplit⟩ := List.append_of_mem hx
  rw [hsplit, List.map_append, List.map_cons, List.nodup_append] at hd
  obtain ⟨-, hafter, hbefore⟩ := hd
  refine ⟨before, after, hsplit, ?_, ?_⟩
  · intro y hy
    exact hbefore (f y) (List.mem_map_of_mem hy) (f x) (List.mem_cons_self ..)
  · intro y hy heq
    have hmem : f y ∈ after.map f := List.mem_map_of_mem hy
    rw [heq] at hmem
    exact (List.nodup_cons.mp hafter).1 hmem

variable {g : α → α}

/-- A change that keeps all keys keeps their list. -/
theorem map_key_map (hg : ∀ y, f (g y) = f y) : (l.map g).map f = l.map f := by
  rw [List.map_map]
  exact List.map_congr_left fun y _ => hg y

theorem nodup_map (hg : ∀ y, f (g y) = f y) (hd : (l.map f).Nodup) : ((l.map g).map f).Nodup := by
  rw [map_key_map hg]
  exact hd

/-- An element with a new key. -/
theorem nodup_concat (hd : (l.map f).Nodup) (hnew : ∀ y ∈ l, f y ≠ f x) :
    ((l ++ [x]).map f).Nodup := by
  rw [List.map_append, List.nodup_append]
  refine ⟨hd, List.nodup_singleton _, ?_⟩
  intro i hi j hj
  obtain ⟨y, hy, rfl⟩ := List.mem_map.mp hi
  rw [List.mem_singleton.mp hj]
  exact hnew y hy

/-- What is in a sum is in one of its parts. -/
theorem mem_sum_map {β : Type*} {w : α → Multiset β} {b : β} :
    b ∈ (l.map w).sum ↔ ∃ y ∈ l, b ∈ w y := by
  induction l with
  | nil => exact iff_of_false (Multiset.notMem_zero b) (fun ⟨_, h, _⟩ => nomatch h)
  | cons y l ih =>
      rw [List.map_cons, List.sum_cons, Multiset.mem_add, ih]
      exact (List.exists_mem_cons_iff (b ∈ w ·) y l).symm

variable [DecidableEq κ]

/-! ## Looking up -/

theorem mem_of_find? (h : l.find? (fun y => f y == k) = some x) : x ∈ l ∧ f x = k := by
  refine ⟨List.mem_of_find?_eq_some h, ?_⟩
  simpa using List.find?_some h

theorem find?_of_mem (hd : (l.map f).Nodup) (hx : x ∈ l) :
    l.find? (fun y => f y == f x) = some x := by
  cases hfind : l.find? fun y => f y == f x with
  | none => exact absurd (beq_self_eq_true (f x)) (List.find?_eq_none.mp hfind _ hx)
  | some y =>
      obtain ⟨hy, hkey⟩ := mem_of_find? hfind
      rw [List.inj_on_of_nodup_map hd hy hx hkey]

/-! ## A change at one key -/

/-- Looking up commutes with a change that keeps all keys. -/
theorem find?_map (hg : ∀ y, f (g y) = f y) (u : κ) :
    (l.map g).find? (fun y => f y == u) = (l.find? fun y => f y == u).map g := by
  have hcomp : (fun y => f y == u) ∘ g = fun y => f y == u := by
    funext y
    show (f (g y) == u) = (f y == u)
    rw [hg]
  rw [List.find?_map, hcomp]

/-- Changing the element at one key keeps all keys. -/
theorem key_map_at (hg : ∀ y, f (g y) = f y) (y : α) : f (if f y = k then g y else y) = f y := by
  split
  · exact hg y
  · rfl

theorem map_at_eq_self (h : ∀ y ∈ l, f y ≠ k) :
    (l.map fun y => if f y = k then g y else y) = l := by
  refine (List.map_congr_left fun y hy => ?_).trans (List.map_id _)
  exact if_neg (h y hy)

/-- The rest of a sum stays when one element changes. -/
theorem exists_sum_rest [AddCommMonoid M] (hd : (l.map f).Nodup) (hx : x ∈ l) (w : α → M) :
    ∃ c, (l.map w).sum = w x + c ∧
      ∀ g : α → α, ((l.map fun y => if f y = f x then g y else y).map w).sum = w (g x) + c := by
  obtain ⟨before, after, hsplit, hbefore, hafter⟩ := exists_split hd hx
  refine ⟨(before.map w).sum + (after.map w).sum, ?_, fun g => ?_⟩
  · rw [hsplit, List.map_append, List.map_cons, List.sum_append, List.sum_cons]
    abel
  · simp only [hsplit, List.map_append, List.map_cons, map_at_eq_self hbefore, map_at_eq_self hafter,
      if_true, List.sum_append, List.sum_cons]
    abel

/-- What is taken out of a sum and what is put in when one element changes. -/
theorem sum_map_at [AddCommMonoid M] (hd : (l.map f).Nodup) (hx : x ∈ l) (w : α → M) :
    ((l.map fun y => if f y = f x then g y else y).map w).sum + w x = (l.map w).sum + w (g x) := by
  obtain ⟨c, hbefore, hafter⟩ := exists_sum_rest hd hx w
  rw [hbefore, hafter g]
  abel

/-! ## An element that leaves -/

theorem filter_ne_eq_self (h : ∀ y ∈ l, f y ≠ k) : l.filter (fun y => f y != k) = l := by
  refine List.filter_eq_self.mpr fun y hy => ?_
  simpa using h y hy

theorem find?_filter_ne (u : κ) :
    (l.filter fun y => f y != k).find? (fun y => f y == u) =
      if u = k then none else l.find? fun y => f y == u := by
  rw [List.find?_filter]
  split
  · rename_i hu
    subst hu
    refine List.find?_eq_none.mpr fun y _ => ?_
    simp
  · rename_i hu
    congr 1
    funext y
    by_cases hy : f y = u
    · simp [hy, hu]
    · simp [hy]

theorem sum_filter_ne [AddCommMonoid M] (hd : (l.map f).Nodup) (hx : x ∈ l) (w : α → M) :
    ((l.filter fun y => f y != f x).map w).sum + w x = (l.map w).sum := by
  obtain ⟨before, after, hsplit, hbefore, hafter⟩ := exists_split hd hx
  have hself : (f x != f x) = false := by simp
  rw [hsplit, List.filter_append, List.filter_cons, hself, filter_ne_eq_self hbefore,
    filter_ne_eq_self hafter]
  simp only [Bool.false_eq_true, if_false, List.map_append, List.map_cons, List.sum_append,
    List.sum_cons]
  abel

/-! ## Pairs -/

variable {β : Type*} {pairs : List (κ × β)} {b : β}

/-- What a list of pairs has for a key. -/
def value? (pairs : List (κ × β)) (k : κ) : Option β := (pairs.find? (·.1 == k)).map (·.2)

theorem value?_filter_ne :
    value? (pairs.filter (·.1 != k)) = Function.update (value? pairs) k none := by
  funext u
  have hfind := find?_filter_ne (f := Prod.fst) (l := pairs) (k := k) u
  unfold value?
  rw [hfind]
  by_cases hu : u = k
  · rw [if_pos hu, hu, Function.update_self]
    rfl
  · rw [if_neg hu, Function.update_of_ne hu]

theorem value?_cons : value? ((k, b) :: pairs) = Function.update (value? pairs) k (some b) := by
  funext u
  unfold value?
  rw [List.find?_cons]
  by_cases hu : u = k
  · subst hu
    rw [Function.update_self, beq_self_eq_true]
    rfl
  · have hne : (k == u) = false := by simpa using Ne.symm hu
    rw [Function.update_of_ne hu, hne]

theorem mem_of_value? (h : value? pairs k = some b) : (k, b) ∈ pairs := by
  obtain ⟨⟨u, c⟩, hfind, rfl⟩ := Option.map_eq_some_iff.mp h
  obtain ⟨hmem, rfl⟩ := mem_of_find? (f := Prod.fst) hfind
  exact hmem

theorem value?_of_mem (hd : (pairs.map Prod.fst).Nodup) (h : (k, b) ∈ pairs) :
    value? pairs k = some b := by
  have hfind := find?_of_mem (f := Prod.fst) hd h
  simp only [value?]
  rw [hfind]
  rfl

end PooledServer.Keyed
