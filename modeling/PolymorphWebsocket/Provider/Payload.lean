import PolymorphWebsocket.Contract.Payload

/-!
# The guest provider: collecting a payload

`collect_payload` of `rust/guest-provider/src/lib.rs` looks at one byte after the other.  Both its
counters are a `usize`, which has 32 bits where the provider runs, so the number of bytes past the
declared length wraps around.
-/

namespace Polymorph.Provider

/-- The range of the 32-bit `usize` of the component. -/
def usizeRange : Nat := 2 ^ 32

/-- The status of a read of a stream. -/
inductive StreamResult
  | complete
  | dropped
  | cancelled
  deriving DecidableEq, Repr

/-- The read is the last one. -/
def StreamResult.ends : StreamResult → Bool
  | .complete => false
  | .dropped | .cancelled => true

/-- What `collect_payload` has collected. -/
structure Collecting where
  collected : Bytes
  /-- The number of bytes past the declared length. -/
  excess : Nat
  deriving DecidableEq, Repr

/-- Nothing has been read. -/
def Collecting.empty : Collecting where
  collected := []
  excess := 0

/-- The loop body for one byte. -/
def Collecting.push (declared : Nat) (c : Collecting) (byte : UInt8) : Collecting :=
  if c.collected.length < declared then { c with collected := c.collected ++ [byte] }
  else { c with excess := (c.excess + 1) % usizeRange }

/-- `collect_payload`, from some point of its loop on; without an end of the stream it does not
return. -/
def collectPayload (declared : Nat) (c : Collecting) : List (StreamResult × Bytes) →
    Option (Bytes × Nat)
  | [] => none
  | (status, chunk) :: reads =>
    let c := chunk.foldl (Collecting.push declared) c
    if status.ends then some (c.collected, c.excess) else collectPayload declared c reads

/-- The reads of a payload that ends. -/
inductive Reads : List (StreamResult × Bytes) → Bytes → Prop
  | last {status : StreamResult} (h : status.ends = true) (chunk : Bytes) :
      Reads [(status, chunk)] chunk
  | more (chunk : Bytes) {reads : List (StreamResult × Bytes)} {rest : Bytes}
      (h : Reads reads rest) : Reads ((.complete, chunk) :: reads) (chunk ++ rest)

/-- What has been collected of some bytes. -/
def Collecting.of (declared : Nat) (data : Bytes) : Collecting where
  collected := (Polymorph.collected declared data).1
  excess := (Polymorph.collected declared data).2 % usizeRange

theorem Collecting.of_nil (declared : Nat) : Collecting.of declared [] = .empty := by
  simp [Collecting.of, Collecting.empty]

theorem Collecting.push_of (declared : Nat) (data : Bytes) (byte : UInt8) :
    (Collecting.of declared data).push declared byte = .of declared (data ++ [byte]) := by
  have happend := collected_append declared data [byte]
  unfold Collecting.push Collecting.of
  dsimp only
  rw [happend]
  dsimp only
  split
  · next hroom =>
    have htake : [byte].take (declared - (Polymorph.collected declared data).1.length) = [byte] :=
      List.take_of_length_le (by rw [List.length_singleton]; omega)
    have hnone : [byte].length - (declared - (Polymorph.collected declared data).1.length) = 0 := by
      rw [List.length_singleton]
      omega
    rw [htake, hnone]
    rfl
  · next hfull =>
    have hzero : declared - (Polymorph.collected declared data).1.length = 0 := by omega
    rw [hzero, List.take_zero, List.append_nil, Nat.sub_zero, List.length_singleton,
      Nat.mod_add_mod]

/-- Bytes that follow are collected as if they had come with the others. -/
theorem Collecting.foldl_push_of (declared : Nat) (bytes data : Bytes) :
    bytes.foldl (Collecting.push declared) (.of declared data) = .of declared (data ++ bytes) := by
  induction bytes generalizing data with
  | nil => rw [List.append_nil, List.foldl_nil]
  | cons byte bytes ih =>
    rw [List.foldl_cons, Collecting.push_of, ih, List.append_assoc]
    rfl

/-- The call returns at the end of the stream, however the payload is cut. -/
theorem collectPayload_of {declared : Nat} {reads : List (StreamResult × Bytes)} {payload : Bytes}
    (h : Reads reads payload) (data : Bytes) :
    collectPayload declared (.of declared data) reads =
      some ((Collecting.of declared (data ++ payload)).collected,
        (Collecting.of declared (data ++ payload)).excess) := by
  induction h generalizing data with
  | last hends chunk =>
    unfold collectPayload
    rw [Collecting.foldl_push_of]
    exact if_pos hends
  | more chunk _ ih =>
    unfold collectPayload
    rw [Collecting.foldl_push_of]
    show collectPayload declared _ _ = _
    rw [ih, List.append_assoc]

theorem collectPayload_eq {declared : Nat} {reads : List (StreamResult × Bytes)} {payload : Bytes}
    (h : Reads reads payload) :
    collectPayload declared .empty reads =
      some (payload.take declared, (payload.length - declared) % usizeRange) := by
  rw [← Collecting.of_nil declared, collectPayload_of h, List.nil_append]
  rfl

/-- What is stored never exceeds the declared length. -/
theorem collecting_length_le (declared : Nat) (bytes : Bytes) :
    (bytes.foldl (Collecting.push declared) .empty).collected.length ≤ declared := by
  rw [← Collecting.of_nil declared, Collecting.foldl_push_of]
  exact collected_length_le

end Polymorph.Provider
