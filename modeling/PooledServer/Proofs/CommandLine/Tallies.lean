import Mathlib
import PooledServer.CommandLine.PoolStress
import PooledServer.Proofs.Work.Fates

/-!
# The tally of a stress test

    A task computes with 64-bit numbers that wrap, but all that counts of its result is the last bit,
    and wrapping keeps last bits: in the integers modulo two, `compute` adds up the task's number and the
    numbers of all rounds (`lastBit_compute`).

    The tally wraps as well.  As long as fewer tasks are run than a 64-bit number can count, the checksum
    and the counts are the true sums (`checksum_addAll`, `sum_counts_addAll`). -/

namespace PooledServer.CommandLine.PoolStress

open Work (Event Note TaskId)

/-! ## The last bit -/

/-- The last bit of a number, as an integer modulo two. -/
def lastBit (n : UInt64) : ZMod 2 := n.toNat

/-- The modulus of 64-bit numbers is even, so a remainder has the last bit of the whole. -/
theorem natCast_mod_size (n : Nat) : ((n % 2 ^ 64 : Nat) : ZMod 2) = n := by
  rw [ZMod.natCast_eq_natCast_iff']
  exact Nat.mod_mod_of_dvd n (by decide)

theorem lastBit_add (a b : UInt64) : lastBit (a + b) = lastBit a + lastBit b := by
  simp only [lastBit]
  rw [UInt64.toNat_add, natCast_mod_size, Nat.cast_add]

theorem lastBit_mul (a b : UInt64) : lastBit (a * b) = lastBit a * lastBit b := by
  simp only [lastBit]
  rw [UInt64.toNat_mul, natCast_mod_size, Nat.cast_mul]

/-- Multiplying by an odd number keeps the last bit, so only the rounds are added. -/
theorem lastBit_compute (value round : UInt64) (left : Nat) :
    lastBit (compute value round left) =
      lastBit value + ∑ k ∈ Finset.range left, (lastBit round + k) := by
  induction left generalizing value round with
  | zero => simp [compute]
  | succ left ih =>
      have hodd : lastBit 31 = 1 := rfl
      have hone : lastBit 1 = 1 := rfl
      rw [compute, ih, lastBit_add, lastBit_mul, hodd, mul_one, lastBit_add, hone,
        Finset.sum_range_succ', Nat.cast_zero, add_zero]
      have hshift : ∀ k ∈ Finset.range left,
          lastBit round + 1 + (k : ZMod 2) = lastBit round + ((k + 1 : Nat) : ZMod 2) := by
        intro k _
        push_cast
        ring
      rw [Finset.sum_congr rfl hshift]
      ring

/-- **WHAT A TASK ADDS**: one if its number and those of the rounds add up to an odd number. -/
theorem contribution_toNat (spin : UInt64) (i : Nat) :
    (contribution spin i).toNat = (i + spin.toNat * (spin.toNat - 1) / 2) % 2 := by
  have hrounds : ∑ k ∈ Finset.range spin.toNat, (lastBit 0 + (k : ZMod 2)) =
      ((spin.toNat * (spin.toNat - 1) / 2 : Nat) : ZMod 2) := by
    rw [← Finset.sum_range_id, Nat.cast_sum]
    refine Finset.sum_congr rfl fun k _ => ?_
    rw [show lastBit 0 = 0 from rfl, zero_add]
  have hnumber : lastBit i.toUInt64 = (i : ZMod 2) := by
    simp only [lastBit]
    rw [Nat.toUInt64, UInt64.toNat_ofNat', natCast_mod_size]
  have hbit : lastBit (compute i.toUInt64 0 spin.toNat) =
      ((i + spin.toNat * (spin.toNat - 1) / 2 : Nat) : ZMod 2) := by
    rw [lastBit_compute, hrounds, hnumber, ← Nat.cast_add]
  rw [contribution, UInt64.toNat_and]
  exact (Nat.and_one_is_mod _).trans ((ZMod.natCast_eq_natCast_iff' _ _ 2).mp hbit)

/-! ## What a tally reads -/

/-- The task that runs. -/
def ran? : Event → Option Nat
  | .run (.numbered i) _ => some i
  | _ => none

/-- The item of which the observer is told, and its worker. -/
def reported? : Event → Option (TaskId × Option Nat)
  | .notified _ id _ worker _ => some (id, worker)
  | _ => none

/-- The tasks that have run, in order. -/
def runs (notes : List Note) : List Nat := (Note.events notes).filterMap ran?

/-- The items of which the observer has been told, in order, and the worker of each. -/
def reports (notes : List Note) : List (TaskId × Option Nat) :=
  (Note.events notes).filterMap reported?

theorem runs_append (notes new : List Note) : runs (notes ++ new) = runs notes ++ runs new := by
  simp only [runs, Note.events_append, List.filterMap_append]

theorem reports_append (notes new : List Note) :
    reports (notes ++ new) = reports notes ++ reports new := by
  simp only [reports, Note.events_append, List.filterMap_append]

theorem addAll_append (spin : UInt64) (t : Tally) (notes new : List Note) :
    t.addAll spin (notes ++ new) = (t.addAll spin notes).addAll spin new := by
  simp only [Tally.addAll, Note.events_append, List.foldl_append]

/-! ## The true sums -/

/-- The checksum after some events, up to wrapping. -/
theorem checksum_foldl (spin : UInt64) (events : List Event) (t : Tally) :
    (events.foldl (Tally.add spin) t).checksum.toNat =
      (t.checksum.toNat + ((events.filterMap ran?).map fun i => (contribution spin i).toNat).sum) %
        2 ^ 64 := by
  induction events generalizing t with
  | nil => exact (Nat.mod_eq_of_lt t.checksum.toNat_lt).symm
  | cons e rest ih =>
      rw [List.foldl_cons, ih]
      -- only a task that runs adds something
      cases h : ran? e with
      | none =>
          rw [List.filterMap_cons_none h]
          have hkeeps : (t.add spin e).checksum = t.checksum := by
            simp only [Tally.add]
            split
            · cases h
            · rfl
            · rfl
          rw [hkeeps]
      | some i =>
          rw [List.filterMap_cons_some h, List.map_cons, List.sum_cons]
          have hadds : (t.add spin e).checksum = t.checksum + contribution spin i := by
            cases e with
            | run tag count =>
                cases tag with
                | numbered j =>
                    cases h
                    rfl
                | named name => cases h
            | _ => cases h
          rw [hadds, UInt64.toNat_add, Nat.mod_add_mod, Nat.add_assoc]

/-- The tasks that add one, counted. -/
theorem sum_contributions (spin : UInt64) (tasks : List Nat) :
    (tasks.map fun i => (contribution spin i).toNat).sum =
      tasks.countP fun i => (i + spin.toNat * (spin.toNat - 1) / 2) % 2 = 1 := by
  induction tasks with
  | nil => rfl
  | cons i rest ih =>
      rw [List.map_cons, List.sum_cons, ih, contribution_toNat]
      rcases Nat.mod_two_eq_zero_or_one (i + spin.toNat * (spin.toNat - 1) / 2) with h | h
      · rw [List.countP_cons_of_neg (by simp [h]), h, Nat.zero_add]
      · rw [List.countP_cons_of_pos (by simp [h]), h, Nat.add_comm]

/-- **THE CHECKSUM** of few enough tasks is the number of those that add one. -/
theorem checksum_addAll (p : Plan) {notes : List Note} (hfew : (runs notes).length < 2 ^ 64) :
    (p.blank.addAll p.spin notes).checksum.toNat =
      (runs notes).countP fun i => (i + p.spin.toNat * (p.spin.toNat - 1) / 2) % 2 = 1 := by
  have hsum := checksum_foldl p.spin (Note.events notes) p.blank
  rw [show p.blank.checksum.toNat = 0 from rfl, Nat.zero_add] at hsum
  refine hsum.trans ?_
  show ((runs notes).map fun i => (contribution p.spin i).toNat).sum % 2 ^ 64 = _
  rw [sum_contributions]
  exact Nat.mod_eq_of_lt (Nat.lt_of_le_of_lt List.countP_le_length hfew)

/-- The tasks that were counted. -/
def Tally.counted (t : Tally) : Nat := (t.counts.map (·.toNat)).sum

/-- A count that does not wrap is one more in the sum. -/
theorem sum_modify (counts : List UInt64) (worker : Nat) (hworker : worker < counts.length)
    (hroom : (counts.map (·.toNat)).sum + 1 < 2 ^ 64) :
    ((counts.modify worker (· + 1)).map (·.toNat)).sum = (counts.map (·.toNat)).sum + 1 := by
  induction counts generalizing worker with
  | nil => cases hworker
  | cons n rest ih =>
      rw [List.map_cons, List.sum_cons] at hroom ⊢
      cases worker with
      | zero =>
          rw [List.modify_zero_cons, List.map_cons, List.sum_cons, UInt64.toNat_add,
            show ((1 : UInt64).toNat) = 1 from rfl]
          omega
      | succ worker =>
          rw [List.modify_succ_cons, List.map_cons, List.sum_cons,
            ih worker (Nat.lt_of_succ_lt_succ hworker) (by omega), Nat.add_assoc]

/-- The counts after some events, all of workers that are known. -/
theorem counted_foldl (spin : UInt64) (events : List Event) (t : Tally)
    (hknown : ∀ r ∈ events.filterMap reported?, ∃ worker < t.counts.length, r.2 = some worker)
    (hroom : t.counted + (events.filterMap reported?).length < 2 ^ 64) :
    (events.foldl (Tally.add spin) t).counted = t.counted + (events.filterMap reported?).length := by
  induction events generalizing t with
  | nil => rfl
  | cons e rest ih =>
      rw [List.foldl_cons]
      cases h : reported? e with
      | none =>
          rw [List.filterMap_cons_none h] at hknown hroom ⊢
          have hkeeps : (t.add spin e).counts = t.counts := by
            simp only [Tally.add]
            split
            · rfl
            · cases h
            · rfl
          have hcounted : (t.add spin e).counted = t.counted := by
            simp only [Tally.counted, hkeeps]
          rw [ih (t.add spin e) (hkeeps ▸ hknown) (hcounted ▸ hroom), hcounted]
      | some r =>
          rw [List.filterMap_cons_some h] at hknown hroom ⊢
          rw [List.length_cons] at hroom ⊢
          obtain ⟨worker, hworker, hr⟩ := hknown r (List.mem_cons_self ..)
          have hcounts : (t.add spin e).counts = t.counts.modify worker (· + 1) := by
            cases e with
            | notified tag id keeps who outcome =>
                cases h
                cases hr
                rfl
            | _ => cases h
          have hone : (t.add spin e).counted = t.counted + 1 := by
            simp only [Tally.counted] at hroom ⊢
            rw [hcounts]
            exact sum_modify t.counts worker hworker (by omega)
          rw [ih (t.add spin e), hone]
          · omega
          · rw [hcounts, List.length_modify]
            exact fun r' hr' => hknown r' (List.mem_cons_of_mem _ hr')
          · rw [hone]
            omega

/-- No count is added or taken away. -/
theorem length_counts (spin : UInt64) (events : List Event) (t : Tally) :
    (events.foldl (Tally.add spin) t).counts.length = t.counts.length := by
  induction events generalizing t with
  | nil => rfl
  | cons e rest ih =>
      rw [List.foldl_cons, ih]
      simp only [Tally.add]
      split
      · rfl
      · exact List.length_modify ..
      · rfl

/-- **THE COUNTS** of few enough tasks add up to the number of reports. -/
theorem counted_addAll (p : Plan) {notes : List Note}
    (hknown : ∀ r ∈ reports notes, ∃ worker < p.workers.toNat, r.2 = some worker)
    (hfew : (reports notes).length < 2 ^ 64) :
    (p.blank.addAll p.spin notes).counted = (reports notes).length := by
  have hblank : p.blank.counted = 0 := by
    simp [Plan.blank, Tally.counted]
  have hlength : p.blank.counts.length = p.workers.toNat := List.length_replicate
  rw [Tally.addAll, counted_foldl, hblank, Nat.zero_add]
  · rfl
  · rw [hlength]
    exact hknown
  · rw [hblank, Nat.zero_add]
    exact hfew

end PooledServer.CommandLine.PoolStress
