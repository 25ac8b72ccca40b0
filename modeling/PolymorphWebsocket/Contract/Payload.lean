import PolymorphWebsocket.Contract.Types

/-!
# Payloads against their declared length

A stream-message declares how long its payload is, and the payload comes as a stream of its own.  A
collector stores the payload up to the declared length and counts the rest, so that the declared
length bounds what it stores.
-/

namespace Polymorph

/-- A payload against its declared length: the bytes within it, and the number of those past it. -/
def collected (declared : Nat) (payload : Bytes) : Bytes × Nat :=
  (payload.take declared, payload.length - declared)

variable {declared : Nat} {payload chunk : Bytes}

@[simp] theorem collected_nil : collected declared [] = ([], 0) := by
  simp [collected]

/-- A collector keeps what is declared, or all of a shorter payload. -/
theorem collected_length : (collected declared payload).1.length = min declared payload.length :=
  List.length_take

/-- Within the declared length nothing is counted, and at most the declared length is stored. -/
theorem collected_length_le : (collected declared payload).1.length ≤ declared := by
  rw [collected_length]
  exact Nat.min_le_left _ _

/-- One chunk more: it is stored as far as there is room, and the rest is counted. -/
theorem collected_append (declared : Nat) (payload chunk : Bytes) :
    collected declared (payload ++ chunk) =
      ((collected declared payload).1 ++
          chunk.take (declared - (collected declared payload).1.length),
        (collected declared payload).2 +
          (chunk.length - (declared - (collected declared payload).1.length))) := by
  have hroom : declared - (collected declared payload).1.length = declared - payload.length := by
    rw [collected_length]
    omega
  rw [hroom]
  apply Prod.ext
  · exact List.take_append
  · show (payload ++ chunk).length - declared = payload.length - declared + _
    rw [List.length_append]
    omega

/-- Nothing is missing or left over exactly when the payload has the declared length. -/
theorem collected_exact_iff :
    ((collected declared payload).2 = 0 ∧ (collected declared payload).1.length = declared) ↔
      payload.length = declared := by
  rw [collected_length]
  show payload.length - declared = 0 ∧ _ ↔ _
  omega

/-- A collector's result is accepted: the payload has the declared length. -/
def accepts (declared : Nat) (result : Bytes × Nat) : Bool :=
  decide (result.2 = 0) && decide (result.1.length = declared)

/-- The collected payload is accepted exactly when the declared length is the payload's. -/
theorem accepts_collected : accepts declared (collected declared payload) =
    decide (payload.length = declared) := by
  unfold accepts
  rw [← Bool.decide_and]
  exact decide_eq_decide.mpr collected_exact_iff

end Polymorph
