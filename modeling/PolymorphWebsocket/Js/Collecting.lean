import PolymorphWebsocket.Contract.Payload
import PolymorphWebsocket.Js.Payload

/-!
# The JavaScript host: how `collectByteStream` stores a payload

A payload comes as a `ReadableStream`, as the `Stream<u8>` of the conventions, whose empty chunk is its
end, or as an async iterable; its values are bytes or chunks.  The chunks are kept in a list, the last
one cut down to the room that is left, and copied into one array at the end.
-/

namespace Polymorph.Js

/-- A value that a payload yields. -/
inductive ByteValue
  /-- `undefined` or `null`. -/
  | absent
  | number (byte : UInt8)
  | chunk (bytes : Bytes)
  deriving DecidableEq, Repr

/-- `toByteChunk`; nothing comes of an absent value. -/
def ByteValue.toByteChunk : ByteValue → Bytes
  | .absent => []
  | .number byte => [byte]
  | .chunk bytes => bytes

/-- The three kinds of payload streams: the values of the first and the last until they are done, and
the chunks the second returns. -/
inductive ByteSource
  | readable (values : List ByteValue)
  | handle (chunks : List Bytes)
  | iterable (values : List ByteValue)
  deriving DecidableEq, Repr

/-- The values up to the end of the stream, if it ends. -/
def ByteSource.values : ByteSource → Option (List ByteValue)
  | .readable values | .iterable values => some values
  | .handle chunks =>
    if chunks.any List.isEmpty then
      some ((chunks.takeWhile fun chunk => !chunk.isEmpty).map .chunk)
    else none

/-- The stream ends, and these are its bytes. -/
def ByteSource.Carries (source : ByteSource) (payload : Bytes) : Prop :=
  ∃ values, source.values = some values ∧ (values.map ByteValue.toByteChunk).flatten = payload

/-- The variables of `collectByteStream`. -/
structure ChunkList where
  chunks : List Bytes
  total : Nat
  excess : Nat
  deriving DecidableEq, Repr

namespace ChunkList

/-- Nothing has been read. -/
def empty : ChunkList where
  chunks := []
  total := 0
  excess := 0

/-- `push` for a chunk. -/
def pushChunk (limit : Nat) (l : ChunkList) (chunk : Bytes) : ChunkList :=
  if chunk.isEmpty then l
  else
    let room : Int := limit - l.total
    if (chunk.length : Int) > room then
      let l := { l with excess := l.excess + (chunk.length - max room 0).toNat }
      if room ≤ 0 then l
      else
        let chunk := chunk.take room.toNat
        { l with chunks := l.chunks ++ [chunk], total := l.total + chunk.length }
    else { l with chunks := l.chunks ++ [chunk], total := l.total + chunk.length }

/-- `push`. -/
def push (limit : Nat) (l : ChunkList) (value : ByteValue) : ChunkList :=
  l.pushChunk limit value.toByteChunk

/-- `out.set(chunk, offset)`. -/
def set (out : Bytes) (offset : Nat) (chunk : Bytes) : Bytes :=
  out.take offset ++ chunk ++ out.drop (offset + chunk.length)

/-- The copy of the chunks into one array of `total` bytes. -/
def out (l : ChunkList) : Bytes :=
  (l.chunks.foldl (fun (out, offset) chunk => (set out offset chunk, offset + chunk.length))
    (List.replicate l.total 0, 0)).1

end ChunkList

/-- `collectByteStream`; without an end of the stream it does not return. -/
def collectBytes (source : ByteSource) (limit : Nat) : Option (Bytes × Nat) :=
  source.values.map fun values =>
    let l := values.foldl (ChunkList.push limit) .empty
    (l.out, l.excess)

/-! ### What has been stored -/

/-- The list holds what the limit leaves of some bytes. -/
structure ChunkList.Holds (limit : Nat) (data : Bytes) (l : ChunkList) : Prop where
  chunks : l.chunks.flatten = (collected limit data).1
  total : l.total = (collected limit data).1.length
  excess : l.excess = (collected limit data).2

namespace ChunkList.Holds

variable {limit : Nat} {data chunk : Bytes} {l : ChunkList}

theorem empty (limit : Nat) : Holds limit [] .empty := by
  refine ⟨?_, ?_, ?_⟩ <;> rw [collected_nil] <;> rfl

theorem pushChunk (h : Holds limit data l) (chunk : Bytes) :
    Holds limit (data ++ chunk) (l.pushChunk limit chunk) := by
  have happend := collected_append limit data chunk
  have hle : l.total ≤ limit := h.total ▸ collected_length_le
  rw [← h.total] at happend
  -- the room is no negative number
  have hroom : ((limit : Int) - l.total) = ((limit - l.total : Nat) : Int) := by omega
  unfold ChunkList.pushChunk
  split
  · next hempty =>
    rw [List.isEmpty_iff.mp hempty, List.append_nil]
    exact h
  · dsimp only
    rw [hroom]
    split
    · next hlong =>
      have hexcess : ((chunk.length : Int) - max ((limit - l.total : Nat) : Int) 0).toNat =
          chunk.length - (limit - l.total) := by omega
      rw [hexcess]
      split
      · next hfull =>
        have hzero : limit - l.total = 0 := by omega
        rw [hzero, List.take_zero, List.append_nil] at happend
        refine ⟨?_, ?_, ?_⟩ <;> rw [happend]
        · exact h.chunks
        · exact h.total
        · rw [hzero, ← h.excess]
      · refine ⟨?_, ?_, ?_⟩ <;> rw [happend]
        · rw [List.flatten_append, h.chunks, List.flatten_singleton, Int.toNat_natCast]
        · rw [List.length_append, ← h.total, Int.toNat_natCast]
        · rw [← h.excess]
    · next hfits =>
      have htake : chunk.take (limit - l.total) = chunk := List.take_of_length_le (by omega)
      have hnone : chunk.length - (limit - l.total) = 0 := by omega
      rw [htake, hnone, Nat.add_zero] at happend
      refine ⟨?_, ?_, ?_⟩ <;> rw [happend]
      · rw [List.flatten_append, h.chunks, List.flatten_singleton]
      · rw [List.length_append, ← h.total]
      · exact h.excess

theorem foldl_push (h : Holds limit data l) (values : List ByteValue) :
    Holds limit (data ++ (values.map ByteValue.toByteChunk).flatten)
      (values.foldl (ChunkList.push limit) l) := by
  induction values generalizing data l with
  | nil => rwa [List.map_nil, List.flatten_nil, List.append_nil]
  | cons value values ih =>
    rw [List.foldl_cons, List.map_cons, List.flatten_cons, ← List.append_assoc]
    exact ih (h.pushChunk value.toByteChunk)

end ChunkList.Holds

/-- The chunks one after the other fill the array. -/
theorem ChunkList.foldl_set (chunks : List Bytes) (front : Bytes) (n : Nat)
    (hn : chunks.flatten.length = n) :
    (chunks.foldl (fun (out, offset) chunk => (set out offset chunk, offset + chunk.length))
      (front ++ List.replicate n 0, front.length)).1 = front ++ chunks.flatten := by
  induction chunks generalizing front n with
  | nil =>
    rw [List.flatten_nil, List.length_nil] at hn
    rw [← hn]
    rfl
  | cons chunk chunks ih =>
    rw [List.flatten_cons, List.length_append] at hn
    have hset : set (front ++ List.replicate n 0) front.length chunk =
        (front ++ chunk) ++ List.replicate (n - chunk.length) 0 := by
      unfold set
      rw [List.take_left, List.drop_append, Nat.add_sub_cancel_left,
        List.drop_eq_nil_of_le (Nat.le_add_right _ _), List.nil_append, List.drop_replicate]
    rw [List.foldl_cons]
    show (chunks.foldl _ (set _ _ chunk, _)).1 = _
    rw [hset, ← List.length_append, ih (front ++ chunk) (n - chunk.length) (by omega),
      List.flatten_cons, List.append_assoc]

theorem ChunkList.Holds.out {limit : Nat} {data : Bytes} {l : ChunkList} (h : Holds limit data l) :
    l.out = (collected limit data).1 := by
  have hfill := foldl_set l.chunks [] l.total (by rw [h.chunks, h.total])
  rw [List.nil_append, List.nil_append, List.length_nil] at hfill
  rw [ChunkList.out, hfill, h.chunks]

theorem collectBytes_eq {source : ByteSource} {payload : Bytes} (h : source.Carries payload)
    (limit : Nat) :
    collectBytes source limit = some (payload.take limit, payload.length - limit) := by
  obtain ⟨values, hvalues, rfl⟩ := h
  have hholds := (ChunkList.Holds.empty limit).foldl_push values
  rw [List.nil_append] at hholds
  rw [collectBytes, hvalues, Option.map_some]
  dsimp only
  rw [hholds.out, hholds.excess]
  rfl

/-- What is stored never exceeds the declared length. -/
theorem chunks_length_le (limit : Nat) (values : List ByteValue) :
    (values.foldl (ChunkList.push limit) .empty).chunks.flatten.length ≤ limit := by
  rw [((ChunkList.Holds.empty limit).foldl_push values).chunks]
  exact collected_length_le

end Polymorph.Js
