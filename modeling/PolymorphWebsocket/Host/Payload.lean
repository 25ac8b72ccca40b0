import PolymorphWebsocket.Contract.Payload

/-!
# The wasmtime host: collecting a payload

`ByteCollector` of `rust/wasmtime/src/host.rs` takes the chunk that is available, cuts it down to the
room that is left, and counts the rest on 64 bits.
-/

namespace Polymorph.Host

/-- `CollectedPayload`. -/
structure CollectedPayload where
  data : Bytes
  excess : Nat
  deriving DecidableEq, Repr

/-- `ByteCollector`. -/
structure ByteCollector where
  buf : Bytes
  /-- The declared length: the buffering bound. -/
  limit : Nat
  /-- Bytes received past the limit. -/
  excess : Nat
  /-- What `done_tx` has sent. -/
  done : Option CollectedPayload
  deriving DecidableEq, Repr

namespace ByteCollector

/-- A collector as `poll_consume` of the outer stream creates it. -/
def new (limit : Nat) : ByteCollector where
  buf := []
  limit := limit
  excess := 0
  done := none

/-- `finish` hands the buffer over once. -/
def finish (c : ByteCollector) : ByteCollector :=
  match c.done with
  | none => { c with buf := [], done := some { data := c.buf, excess := c.excess } }
  | some _ => c

/-- `poll_consume` with a chunk available. -/
def consume (c : ByteCollector) (chunk : Bytes) : ByteCollector :=
  let room := c.limit - c.buf.length
  if chunk.length > room then
    { c with
      buf := c.buf ++ chunk.take room
      excess := (c.excess + (chunk.length - room)) % 2 ^ 64 }
  else { c with buf := c.buf ++ chunk }

/-- `poll_consume`: without bytes it waits, or finishes with the stream. -/
def pollConsume (c : ByteCollector) (available : Bytes) (finish : Bool) : ByteCollector :=
  if available.length > 0 then c.consume available else if finish then c.finish else c

/-- The chunks are consumed, and the collector is dropped with the stream. -/
def collect (limit : Nat) (chunks : List Bytes) : Option CollectedPayload :=
  (chunks.foldl (fun c chunk => c.pollConsume chunk false) (new limit)).finish.done

/-- What has been collected of some bytes. -/
def of (limit : Nat) (data : Bytes) : ByteCollector where
  buf := (collected limit data).1
  limit := limit
  excess := (collected limit data).2 % 2 ^ 64
  done := none

theorem of_nil (limit : Nat) : of limit [] = new limit := by
  simp [of, new]

theorem consume_of (limit : Nat) (data chunk : Bytes) :
    (of limit data).consume chunk = of limit (data ++ chunk) := by
  have happend := collected_append limit data chunk
  unfold consume of
  dsimp only
  rw [happend]
  dsimp only
  split
  · rw [Nat.mod_add_mod]
  · next hroom =>
    have htake : chunk.take (limit - (collected limit data).1.length) = chunk :=
      List.take_of_length_le (by omega)
    have hnone : chunk.length - (limit - (collected limit data).1.length) = 0 := by omega
    rw [htake, hnone, Nat.add_zero]

theorem pollConsume_of (limit : Nat) (data chunk : Bytes) :
    (of limit data).pollConsume chunk false = of limit (data ++ chunk) := by
  unfold pollConsume
  split
  · exact consume_of limit data chunk
  · next hempty =>
    rw [List.length_eq_zero_iff.mp (Nat.eq_zero_of_not_pos hempty), List.append_nil]
    rfl

/-- Chunks that follow are collected as if they had come with the others. -/
theorem foldl_pollConsume_of (limit : Nat) (chunks : List Bytes) (data : Bytes) :
    chunks.foldl (fun c chunk => c.pollConsume chunk false) (of limit data) =
      of limit (data ++ chunks.flatten) := by
  induction chunks generalizing data with
  | nil => rw [List.flatten_nil, List.append_nil, List.foldl_nil]
  | cons chunk chunks ih =>
    rw [List.foldl_cons, pollConsume_of, ih, List.flatten_cons, List.append_assoc]

theorem collect_eq (limit : Nat) (chunks : List Bytes) :
    collect limit chunks = some
      { data := chunks.flatten.take limit
        excess := (chunks.flatten.length - limit) % 2 ^ 64 } := by
  unfold collect
  rw [← of_nil, foldl_pollConsume_of, List.nil_append]
  rfl

/-- What is stored never exceeds the declared length. -/
theorem buf_length_le (limit : Nat) (chunks : List Bytes) :
    (chunks.foldl (fun c chunk => c.pollConsume chunk false) (new limit)).buf.length ≤ limit := by
  rw [← of_nil, foldl_pollConsume_of]
  exact collected_length_le

end ByteCollector

end Polymorph.Host
