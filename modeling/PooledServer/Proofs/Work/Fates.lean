import Mathlib
import PooledServer.Work.Item

/-!
# What becomes of items

    Of all that is left behind, five kinds of notes say what has become of an item: it was accepted or
    refused, it was handed out, its task has begun, its worker has counted it.  The lists of items that
    met with each fate are the history from which the accounts of a pool are drawn. -/

namespace PooledServer.Work

/-- What can become of an item. -/
inductive Fate where
  | accepted
  | refused
  | handedOut
  | begun
  | counted
  deriving DecidableEq, Repr

namespace Note

/-- The item that a note is about, and what has become of it. -/
def fate : Note → Option (Fate × TaskId)
  | accepted id => some (.accepted, id)
  | refused id => some (.refused, id)
  | handedOut id => some (.handedOut, id)
  | begun id _ => some (.begun, id)
  | counted _ id => some (.counted, id)
  | log _ | event _ | created _ => none

/-- All that the notes say about items. -/
def fates (notes : List Note) : List (Fate × TaskId) := notes.filterMap fate

@[simp] theorem fates_nil : fates [] = [] := rfl

@[simp] theorem fates_append (notes later : List Note) :
    fates (notes ++ later) = fates notes ++ fates later := List.filterMap_append

@[simp] theorem fates_cons (n : Note) (notes : List Note) :
    fates (n :: notes) = n.fate.toList ++ fates notes := by
  simp only [fates]
  cases h : n.fate with
  | none => rw [List.filterMap_cons_none h]; rfl
  | some p => rw [List.filterMap_cons_some h]; rfl

/-- What was done, without the records of the log. -/
def deeds (notes : List Note) : List Note :=
  notes.filter fun
    | .log _ => false
    | _ => true

@[simp] theorem deeds_append (notes later : List Note) :
    deeds (notes ++ later) = deeds notes ++ deeds later := List.filter_append ..

/-- The log says nothing about items. -/
theorem fates_deeds (notes : List Note) : fates (deeds notes) = fates notes := by
  induction notes with
  | nil => rfl
  | cons n notes ih => cases n <;> simp_all [deeds, fate]

@[simp] theorem events_append (notes later : List Note) :
    events (notes ++ later) = events notes ++ events later := List.filterMap_append

/-- Nor does it tell an event. -/
theorem events_deeds (notes : List Note) : events (deeds notes) = events notes := by
  induction notes with
  | nil => rfl
  | cons n notes ih => cases n <;> simp_all [deeds, events]

end Note

/-- The items that met with fate `f`, in order. -/
def Fate.met (f : Fate) (said : List (Fate × TaskId)) : List TaskId :=
  said.filterMap fun p => if p.1 = f then some p.2 else none

@[simp] theorem Fate.met_nil (f : Fate) : f.met [] = [] := rfl

@[simp] theorem Fate.met_append (f : Fate) (said later : List (Fate × TaskId)) :
    f.met (said ++ later) = f.met said ++ f.met later := List.filterMap_append

/-- What is said about one item adds it to one list. -/
@[simp] theorem Fate.met_singleton (f g : Fate) (id : TaskId) :
    f.met [(g, id)] = if g = f then [id] else [] := by
  simp only [met]
  by_cases h : g = f
  · simp [h]
  · simp [h]

/-- Destroying an item says nothing about its lot. -/
theorem Item.fates_discard (item : Item) : Note.fates item.discard = [] := by
  simp only [Item.discard]
  split <;> rfl

end PooledServer.Work
