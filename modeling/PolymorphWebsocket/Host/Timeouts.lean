import PolymorphWebsocket.Host.State

/-!
# The wasmtime host: its close deadline

`arm_deadline` adds the configured `Duration` to an `Instant`, which panics when there is no such
instant.  How far the instants reach depends on the platform.
-/

namespace Polymorph.Host

/-- The deadline has been computed without a panic, and keeps its timeout. -/
def Computed (largest now : Nat) (timeout : Duration) (armed : Option (Option Nat)) : Prop :=
  ∃ deadline, armed = some (some deadline) ∧ KeepsTimeout largest now timeout.asNanos deadline

/-- Arming the deadline keeps the timeout exactly when the sum is an instant. -/
theorem computed_iff (largest now : Nat) (timeout : Duration) :
    Computed largest now timeout (armDeadline largest none now timeout) ↔
      now + timeout.asNanos ≤ largest := by
  unfold Computed armDeadline instantAdd
  dsimp only
  constructor
  · rintro ⟨deadline, harmed, -⟩
    by_contra hno
    rw [if_neg hno] at harmed
    cases harmed
  · intro hle
    rw [if_pos hle]
    refine ⟨_, rfl, fun _ => le_rfl, fun hpast => ?_⟩
    omega

end Polymorph.Host
