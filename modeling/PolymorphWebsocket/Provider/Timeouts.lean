import PolymorphWebsocket.Contract.Timeout
import PolymorphWebsocket.Provider.State

/-!
# The guest provider: its timeouts and deadlines

`Config::from_env` reads the timeouts as milliseconds, `connect` and `arm_deadline` add them to the
monotonic clock.  The nanoseconds of a duration are a `u128` and the clock is a `u64`: the cast cuts
them off, and the addition wraps around.
-/

namespace Polymorph.Provider

/-- `as u64`. -/
def asU64 (n : Nat) : Nat := n % 2 ^ 64

/-- One more digit of a `u64`. -/
def pushDigit (value : Option Nat) (digit : Char) : Option Nat :=
  value.bind fun value =>
    if digit.isDigit then
      let value := 10 * value + (digit.toNat - '0'.toNat)
      if value < 2 ^ 64 then some value else none
    else none

/-- `parse::<u64>`: decimal digits after at most one plus sign. -/
def parseU64 (text : String) : Option UInt64 :=
  let digits := match text.toList with
    | '+' :: digits => digits
    | digits => digits
  if digits.isEmpty then none else (digits.foldl pushDigit (some 0)).map UInt64.ofNat

/-- `millis_var`: a malformed value counts for none. -/
def millisVar (env : String → Option String) (name : String) : Option Duration :=
  ((env name).bind parseU64).map Duration.fromMillis

/-- The timeouts of `Config`. -/
structure Timeouts where
  connectTimeout : Duration
  closeTimeout : Duration

/-- `Config::from_env`, as far as the timeouts are concerned. -/
def Timeouts.fromEnv (env : String → Option String) : Timeouts where
  connectTimeout :=
    (millisVar env "POLYMORPH_WEBSOCKET_CONNECT_TIMEOUT_MS").getD (.fromSecs 30)
  closeTimeout := (millisVar env "POLYMORPH_WEBSOCKET_CLOSE_TIMEOUT_MS").getD (.fromSecs 10)

/-- Any number of milliseconds that fits a `u64` is a timeout. -/
example : parseU64 "18446744073709551615" = some 18446744073709551615 := by decide

/-- The deadline of `connect`. -/
def connectDeadline (now : UInt64) (timeouts : Timeouts) : Nat :=
  (now.toNat + asU64 timeouts.connectTimeout.asNanos) % 2 ^ 64

/-- The close timeout as `connect` passes it to the pump. -/
def closeTimeoutNs (timeouts : Timeouts) : Nat := asU64 timeouts.closeTimeout.asNanos

/-- The deadline has been computed from the timeout without truncating or wrapping, and keeps it. -/
structure Computed (now : UInt64) (timeout : Duration) (deadline : Option Nat) : Prop where
  narrows : asU64 timeout.asNanos = timeout.asNanos
  adds : (now.toNat + asU64 timeout.asNanos) % 2 ^ 64 = now.toNat + asU64 timeout.asNanos
  keeps : ∃ d, deadline = some d ∧ KeepsTimeout (2 ^ 64 - 1) now.toNat timeout.asNanos d

/-- The clock plus a timeout is computed as it should be exactly when the sum is a reading of the
clock. -/
theorem computed_iff (now : UInt64) (timeout : Duration) :
    Computed now timeout (some ((now.toNat + asU64 timeout.asNanos) % 2 ^ 64)) ↔
      now.toNat + timeout.asNanos < 2 ^ 64 := by
  constructor
  · intro h
    have hlt : (now.toNat + asU64 timeout.asNanos) % 2 ^ 64 < 2 ^ 64 := Nat.mod_lt _ (by decide)
    rw [h.adds, h.narrows] at hlt
    exact hlt
  · intro hlt
    have hnarrows : asU64 timeout.asNanos = timeout.asNanos := Nat.mod_eq_of_lt (by omega)
    have hadds : (now.toNat + timeout.asNanos) % 2 ^ 64 = now.toNat + timeout.asNanos :=
      Nat.mod_eq_of_lt hlt
    refine ⟨hnarrows, by rw [hnarrows, hadds], _, rfl, ?_⟩
    rw [hnarrows, hadds]
    constructor
    · exact fun _ => le_rfl
    · intro hpast
      omega

theorem computed_connect_iff (now : UInt64) (timeouts : Timeouts) :
    Computed now timeouts.connectTimeout (some (connectDeadline now timeouts)) ↔
      now.toNat + timeouts.connectTimeout.asNanos < 2 ^ 64 :=
  computed_iff now timeouts.connectTimeout

theorem computed_close_iff {flags : PumpFlags} (hflags : flags.deadline = none) (now : UInt64)
    (timeouts : Timeouts) :
    Computed now timeouts.closeTimeout
        (flags.armDeadline now.toNat (closeTimeoutNs timeouts)).deadline ↔
      now.toNat + timeouts.closeTimeout.asNanos < 2 ^ 64 := by
  have harmed : (flags.armDeadline now.toNat (closeTimeoutNs timeouts)).deadline =
      some ((now.toNat + asU64 timeouts.closeTimeout.asNanos) % 2 ^ 64) := by
    unfold PumpFlags.armDeadline
    rw [hflags]
    rfl
  rw [harmed]
  exact computed_iff now timeouts.closeTimeout

end Polymorph.Provider
