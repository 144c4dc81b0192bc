/-!
# Deadlines

    A timed wait ends at a point of time: the present time plus the timeout.  Sums that no signed
    64-bit time can hold stop at the latest time there is.
-/

namespace PooledServer.Sync

/-- Nanoseconds in a second. -/
def nanosPerSecond : UInt64 := 1000000000

/-- The latest second of a signed 64-bit time. -/
def lastSecond : UInt64 := 9223372036854775807

/-- A point of time since the beginning of the clock. -/
structure Timespec where
  seconds : UInt64
  nanos : UInt64
  deriving DecidableEq, Repr

/-- A length of time. -/
structure Duration where
  seconds : UInt64
  nanos : UInt64
  deriving DecidableEq, Repr

/-- A point of time that the clock can show. -/
def Timespec.Valid (t : Timespec) : Prop := t.seconds ≤ lastSecond ∧ t.nanos < nanosPerSecond

/-- A length of time in its proper form. -/
def Duration.Valid (d : Duration) : Prop := d.nanos < nanosPerSecond

/-- The sum, or the largest number if it does not fit. -/
def saturatingAdd (a b : UInt64) : UInt64 :=
  if a + b < a then 18446744073709551615 else a + b

/-- The point of time `timeout` after `now`. -/
def deadlineAfter (now : Timespec) (timeout : Duration) : Timespec :=
  let nanos := now.nanos + timeout.nanos
  let seconds := saturatingAdd (saturatingAdd now.seconds timeout.seconds) (nanos / nanosPerSecond)
  { seconds := if seconds ≤ lastSecond then seconds else lastSecond, nanos := nanos % nanosPerSecond }

/-- A timeout of milliseconds and nanoseconds. -/
def Duration.ofMillis (millis nanos : Nat) : Duration :=
  let total := millis * 1000000 + nanos
  ⟨(total / 1000000000).toUInt64, (total % 1000000000).toUInt64⟩

/-- The order of points of time. -/
def Timespec.isBefore (a b : Timespec) : Bool :=
  a.seconds < b.seconds || (a.seconds == b.seconds && a.nanos < b.nanos)

end PooledServer.Sync
