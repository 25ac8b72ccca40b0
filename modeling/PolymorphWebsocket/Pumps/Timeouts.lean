import PolymorphWebsocket.Host.Timeouts
import PolymorphWebsocket.Provider.Timeouts

/-!
# The deadlines of the connect and close timeouts

Neither implementation saturates: a deadline keeps its timeout exactly when the clock can still read
it.  With a larger timeout, the natural way to ask for none, the guest provider computes a deadline
that comes too early, and the wasmtime host panics.
-/

namespace Polymorph

/-- The connect and close deadlines of the guest provider, for every environment and reading of its
clock, and the close deadline of the wasmtime host, for every duration and instant, each keep their
timeout exactly when the sum is representable. -/
theorem deadlines_computed_iff (env : String → Option String) (clock : UInt64)
    {flags : Provider.PumpFlags} (hflags : flags.deadline = none) (largest now : Nat)
    (timeout : Duration) :
    (Provider.Computed clock (Provider.Timeouts.fromEnv env).connectTimeout
        (some (Provider.connectDeadline clock (Provider.Timeouts.fromEnv env))) ↔
      clock.toNat + (Provider.Timeouts.fromEnv env).connectTimeout.asNanos < 2 ^ 64) ∧
    (Provider.Computed clock (Provider.Timeouts.fromEnv env).closeTimeout
        (flags.armDeadline clock.toNat
          (Provider.closeTimeoutNs (Provider.Timeouts.fromEnv env))).deadline ↔
      clock.toNat + (Provider.Timeouts.fromEnv env).closeTimeout.asNanos < 2 ^ 64) ∧
    (Host.Computed largest now timeout (Host.armDeadline largest none now timeout) ↔
      now + timeout.asNanos ≤ largest) :=
  ⟨Provider.computed_connect_iff clock _, Provider.computed_close_iff hflags clock _,
    Host.computed_iff largest now timeout⟩

/-- Without variables the timeouts are thirty and ten seconds; a new pump has no deadline. -/
theorem deadlines_computed_default :
    (Provider.PumpFlags.mk false false none false false).deadline = none ∧
    (Provider.Computed 5 (Provider.Timeouts.fromEnv fun _ => none).connectTimeout
        (some (Provider.connectDeadline 5 (Provider.Timeouts.fromEnv fun _ => none))) ↔
      5 + 30 * 10 ^ 9 < 2 ^ 64) :=
  ⟨rfl, (deadlines_computed_iff (fun _ => none) 5
    (rfl : (Provider.PumpFlags.mk false false none false false).deadline = none) 0 0
    (.fromSecs 0)).1⟩

/-- A connect timeout of `u64::MAX` milliseconds is cut off, and the deadline is not the largest
reading of the clock. -/
theorem largest_timeout_truncated :
    ¬ ∀ (env : String → Option String) (clock : UInt64),
      Provider.Computed clock (Provider.Timeouts.fromEnv env).connectTimeout
        (some (Provider.connectDeadline clock (Provider.Timeouts.fromEnv env))) := by
  intro h
  obtain ⟨deadline, hdeadline, -, hlargest⟩ := (h (fun _ => some "18446744073709551615") 0).keeps
  have heq := Option.some.inj hdeadline
  have hpast := heq.trans (hlargest (by decide))
  revert hpast
  decide

end Polymorph
