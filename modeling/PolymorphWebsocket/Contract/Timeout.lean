import Mathlib.Data.UInt

/-!
# Timeouts and deadlines

The `Duration` both Rust implementations are configured with, and what a deadline owes to the timeout
it is computed from.
-/

namespace Polymorph

/-- `std::time::Duration`. -/
structure Duration where
  secs : UInt64
  nanos : UInt32
  nanos_lt : nanos.toNat < 10 ^ 9
  deriving DecidableEq, Repr

namespace Duration

/-- The milliseconds that make no whole second, in nanoseconds. -/
theorem toNat_subsecNanos (millis : UInt64) :
    ((millis % 1000).toUInt32 * 1000000).toNat = millis.toNat % 1000 * 1000000 := by
  have hlt : millis.toNat % 1000 < 1000 := Nat.mod_lt _ (by decide)
  have hnarrow : millis.toNat % 1000 % 2 ^ 32 = millis.toNat % 1000 := Nat.mod_eq_of_lt (by omega)
  simp only [UInt32.toNat_mul, UInt64.toNat_toUInt32, UInt64.toNat_mod, UInt64.reduceToNat,
    UInt32.reduceToNat]
  rw [hnarrow]
  exact Nat.mod_eq_of_lt (by omega)

/-- `Duration::from_millis`. -/
def fromMillis (millis : UInt64) : Duration where
  secs := millis / 1000
  nanos := (millis % 1000).toUInt32 * 1000000
  nanos_lt := by
    have hlt : millis.toNat % 1000 < 1000 := Nat.mod_lt _ (by decide)
    rw [toNat_subsecNanos]
    omega

/-- `Duration::from_secs`. -/
def fromSecs (secs : UInt64) : Duration where
  secs := secs
  nanos := 0
  nanos_lt := by decide

/-- `as_nanos`, a `u128`. -/
def asNanos (d : Duration) : Nat := d.secs.toNat * 10 ^ 9 + d.nanos.toNat

end Duration

/-- What a deadline owes to its timeout, on a clock whose largest instant is given: it is no earlier
than the timeout from now where there is such an instant, and the largest instant otherwise. -/
def KeepsTimeout (largest now timeout deadline : Nat) : Prop :=
  (now + timeout ≤ largest → now + timeout ≤ deadline) ∧
    (largest < now + timeout → deadline = largest)

end Polymorph
