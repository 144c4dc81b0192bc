import PooledServer.Sync.Deadline

/-!
# Deadlines are exact

    Read as numbers of nanoseconds, a deadline is the present time plus the timeout, unless no clock can
    show that sum; then its second is the last one (`deadlineAfter_exact`).

    Seconds are added twice in words, first the timeout's and then the carry, and each time a sum that
    does not fit stops at the largest word.  The largest word is beyond the last second, so whatever has
    stopped there is cut down to the last second, and a sum that is within it has never stopped
    (`toNat_seconds_deadlineAfter`). -/

namespace PooledServer.Sync

/-! ## Times as numbers -/

/-- The nanoseconds from the beginning of the clock to a point of time. -/
def Timespec.total (t : Timespec) : Nat := t.seconds.toNat * 1000000000 + t.nanos.toNat

/-- The nanoseconds of a length of time. -/
def Duration.total (d : Duration) : Nat := d.seconds.toNat * 1000000000 + d.nanos.toNat

instance (t : Timespec) : Decidable t.Valid :=
  inferInstanceAs (Decidable (t.seconds ≤ lastSecond ∧ t.nanos < nanosPerSecond))

instance (d : Duration) : Decidable d.Valid := inferInstanceAs (Decidable (d.nanos < nanosPerSecond))

theorem toNat_saturatingAdd (a b : UInt64) :
    (saturatingAdd a b).toNat = min (a.toNat + b.toNat) (UInt64.size - 1) := by
  have ha := a.toNat_lt
  have hb := b.toNat_lt
  -- a sum of words that wraps is less than either of them
  have hwraps : a + b < a ↔ UInt64.size ≤ a.toNat + b.toNat := by
    rw [UInt64.lt_iff_toNat_lt, UInt64.toNat_add]
    simp only [UInt64.size]
    omega
  rw [saturatingAdd]
  split
  · rename_i hless
    have hlarge := hwraps.mp hless
    show UInt64.size - 1 = _
    omega
  · rename_i hmore
    have hsmall := mt hwraps.mpr hmore
    rw [UInt64.toNat_add]
    simp only [UInt64.size] at hsmall ⊢
    omega

/-! ## Additions that are looked after -/

/-- The sum, if it fits. -/
def checkedAdd (a b : UInt64) : Option UInt64 :=
  if a.toNat + b.toNat < UInt64.size then some (a + b) else none

/-- The second of a signed 64-bit time, if there is such a second. -/
def asSecond (n : UInt64) : Option UInt64 :=
  if n ≤ lastSecond then some n else none

/-- The same deadline, found by whoever stops at a sum that does not fit and at a number that is no
    second of a signed time. -/
def checkedDeadline (now : Timespec) (timeout : Duration) : Option Timespec := do
  let present ← asSecond now.seconds
  let nanos ← checkedAdd now.nanos timeout.nanos
  let seconds := saturatingAdd (saturatingAdd present timeout.seconds) (nanos / nanosPerSecond)
  let second ← asSecond (if seconds ≤ lastSecond then seconds else lastSecond)
  some { seconds := second, nanos := nanos % nanosPerSecond }

section

variable {now : Timespec} {timeout : Duration}

/-- Two numbers of nanoseconds below a second have a sum. -/
theorem nanos_fit (hnow : now.Valid) (htimeout : timeout.Valid) :
    now.nanos.toNat + timeout.nanos.toNat < 2000000000 := by
  have h₁ := UInt64.lt_iff_toNat_lt.mp hnow.2
  have h₂ := UInt64.lt_iff_toNat_lt.mp htimeout
  have hsecond : nanosPerSecond.toNat = 1000000000 := rfl
  omega

theorem toNat_nanos_add (hnow : now.Valid) (htimeout : timeout.Valid) :
    (now.nanos + timeout.nanos).toNat = now.nanos.toNat + timeout.nanos.toNat := by
  have hfit := nanos_fit hnow htimeout
  rw [UInt64.toNat_add]
  exact Nat.mod_eq_of_lt (by omega)

/-- The seconds are those of the sum, or the last there is. -/
theorem toNat_seconds_deadlineAfter (hnow : now.Valid) (htimeout : timeout.Valid) :
    (deadlineAfter now timeout).seconds.toNat =
      min ((now.total + timeout.total) / 1000000000) lastSecond.toNat := by
  have hfit := nanos_fit hnow htimeout
  have hlast : lastSecond.toNat = 9223372036854775807 := rfl
  have hseconds : (saturatingAdd (saturatingAdd now.seconds timeout.seconds)
      ((now.nanos + timeout.nanos) / nanosPerSecond)).toNat =
      min ((now.total + timeout.total) / 1000000000) (UInt64.size - 1) := by
    have hsecond : nanosPerSecond.toNat = 1000000000 := rfl
    rw [toNat_saturatingAdd, toNat_saturatingAdd, UInt64.toNat_div, toNat_nanos_add hnow htimeout,
      hsecond]
    simp only [Timespec.total, Duration.total, UInt64.size]
    omega
  simp only [deadlineAfter]
  split
  · rename_i hwithin
    rw [UInt64.le_iff_toNat_le, hseconds] at hwithin
    rw [hseconds]
    simp only [UInt64.size] at hwithin ⊢
    omega
  · rename_i hbeyond
    rw [UInt64.le_iff_toNat_le, hseconds] at hbeyond
    simp only [UInt64.size] at hbeyond
    omega

theorem toNat_nanos_deadlineAfter (hnow : now.Valid) (htimeout : timeout.Valid) :
    (deadlineAfter now timeout).nanos.toNat = (now.total + timeout.total) % 1000000000 := by
  have hfit := nanos_fit hnow htimeout
  have hsecond : nanosPerSecond.toNat = 1000000000 := rfl
  simp only [deadlineAfter]
  rw [UInt64.toNat_mod, toNat_nanos_add hnow htimeout, hsecond]
  simp only [Timespec.total, Duration.total]
  omega

/-- A deadline is a point of time that the clock can show. -/
theorem valid_deadlineAfter (hnow : now.Valid) (htimeout : timeout.Valid) :
    (deadlineAfter now timeout).Valid := by
  constructor
  · rw [UInt64.le_iff_toNat_le, toNat_seconds_deadlineAfter hnow htimeout]
    exact Nat.min_le_right _ _
  · rw [UInt64.lt_iff_toNat_lt, toNat_nanos_deadlineAfter hnow htimeout]
    exact Nat.mod_lt _ (by decide)

/-- Whoever checks everything has nothing to stop at. -/
theorem checkedDeadline_eq (hnow : now.Valid) (htimeout : timeout.Valid) :
    checkedDeadline now timeout = some (deadlineAfter now timeout) := by
  have hfit := nanos_fit hnow htimeout
  have hpresent : asSecond now.seconds = some now.seconds := if_pos hnow.1
  have hnanos : checkedAdd now.nanos timeout.nanos = some (now.nanos + timeout.nanos) :=
    if_pos (Nat.lt_trans hfit (by decide))
  have hsecond : asSecond (deadlineAfter now timeout).seconds = some (deadlineAfter now timeout).seconds :=
    if_pos (valid_deadlineAfter hnow htimeout).1
  simp only [deadlineAfter] at hsecond ⊢
  simp only [checkedDeadline, hpresent, hnanos, hsecond, Option.bind_eq_bind, Option.bind_some]

/-- **A DEADLINE IS EXACT**, for every present time that the clock can show and every timeout: nothing
    overflows on the way to it, it is a point of time that the clock can show, and it is the present time
    plus the timeout if the second of that sum is one of a signed 64-bit time.  Otherwise its second is
    the last one. -/
theorem deadlineAfter_exact (hnow : now.Valid) (htimeout : timeout.Valid) :
    checkedDeadline now timeout = some (deadlineAfter now timeout) ∧
    (deadlineAfter now timeout).Valid ∧
    ((now.total + timeout.total) / 1000000000 ≤ lastSecond.toNat →
      (deadlineAfter now timeout).total = now.total + timeout.total) ∧
    (lastSecond.toNat < (now.total + timeout.total) / 1000000000 →
      (deadlineAfter now timeout).seconds = lastSecond) := by
  have hseconds := toNat_seconds_deadlineAfter hnow htimeout
  have hnanos := toNat_nanos_deadlineAfter hnow htimeout
  refine ⟨checkedDeadline_eq hnow htimeout, valid_deadlineAfter hnow htimeout, ?_, ?_⟩
  · intro hfits
    rw [Timespec.total, hseconds, hnanos, Nat.min_eq_left hfits]
    exact Nat.div_add_mod' _ _
  · intro hbeyond
    rw [Nat.min_eq_right (Nat.le_of_lt hbeyond)] at hseconds
    exact UInt64.toNat_inj.mp hseconds

/-- The carry alone takes the sum to the last second, and beyond it. -/
theorem deadlineAfter_exact_carry :
    (⟨lastSecond - 1, 999999999⟩ : Timespec).Valid ∧ (⟨0, 1⟩ : Duration).Valid ∧
    (deadlineAfter ⟨lastSecond - 1, 999999999⟩ ⟨0, 1⟩).total =
      (⟨lastSecond - 1, 999999999⟩ : Timespec).total + (⟨0, 1⟩ : Duration).total ∧
    (⟨lastSecond, 999999999⟩ : Timespec).Valid ∧
    (deadlineAfter ⟨lastSecond, 999999999⟩ ⟨0, 1⟩).seconds = lastSecond := by
  have hbefore : (⟨lastSecond - 1, 999999999⟩ : Timespec).Valid := by decide
  have hlast : (⟨lastSecond, 999999999⟩ : Timespec).Valid := by decide
  have hinstant : (⟨0, 1⟩ : Duration).Valid := by decide
  obtain ⟨-, -, hexact, -⟩ := deadlineAfter_exact hbefore hinstant
  obtain ⟨-, -, -, hstops⟩ := deadlineAfter_exact hlast hinstant
  exact ⟨hbefore, hinstant, hexact (by decide), hlast, hstops (by decide)⟩

end

end PooledServer.Sync
