import PolymorphWebsocket.Js.State

/-!
# The JavaScript host: payloads of stream messages

What `sendViaStream` makes of one element of its stream: `collectByteStream` stores the payload up to
the declared length and counts the rest, and the element is a message when both agree and, for a
string, the bytes decode.
-/

namespace Polymorph.Js

/-! ### Collecting -/

/-- What `collectByteStream` has collected: the stored bytes, and the number of those past the
limit. -/
structure Collected where
  bytes : Bytes
  excess : Nat
  deriving DecidableEq, Repr

/-- Nothing has been collected yet. -/
def Collected.empty : Collected where
  bytes := []
  excess := 0

/-- `push` of `collectByteStream`. -/
def Collected.push (limit : Nat) (c : Collected) (chunk : Bytes) : Collected :=
  if chunk.isEmpty then c
  else
    let room := limit - c.bytes.length
    if chunk.length > room then
      { bytes := c.bytes ++ chunk.take room, excess := c.excess + (chunk.length - room) }
    else { c with bytes := c.bytes ++ chunk }

/-- `collectByteStream`, over the chunks that the reads of the payload return. -/
def collectByteStream (chunks : List Bytes) (limit : Nat) : Collected :=
  chunks.foldl (Collected.push limit) .empty

/-- What a limit leaves of some bytes. -/
def Collected.of (limit : Nat) (data : Bytes) : Collected where
  bytes := data.take limit
  excess := data.length - limit

theorem Collected.of_nil (limit : Nat) : Collected.of limit [] = .empty := by
  simp [Collected.of, Collected.empty]

/-- Collecting does not see where the chunks are cut. -/
theorem Collected.push_of (limit : Nat) (data chunk : Bytes) :
    (Collected.of limit data).push limit chunk = .of limit (data ++ chunk) := by
  unfold Collected.push Collected.of
  split
  · next hempty =>
    rw [List.isEmpty_iff.mp hempty, List.append_nil]
  · dsimp only
    rw [List.length_take, List.take_append, List.length_append]
    by_cases hroom : data.length ≤ limit
    · have hmin : min limit data.length = data.length := by omega
      rw [hmin]
      split
      · have hexcess : data.length - limit + (chunk.length - (limit - data.length)) =
            data.length + chunk.length - limit := by omega
        rw [hexcess]
      · have htake : chunk.take (limit - data.length) = chunk := List.take_of_length_le (by omega)
        have hexcess : data.length - limit = data.length + chunk.length - limit := by omega
        rw [htake, hexcess]
    · have hmin : min limit data.length = limit := by omega
      have hleft : limit - data.length = 0 := by omega
      rw [hmin, hleft, Nat.sub_self]
      split
      · have hexcess : data.length - limit + (chunk.length - 0) =
            data.length + chunk.length - limit := by omega
        rw [hexcess]
      · have hchunk : chunk = [] := List.length_eq_zero_iff.mp (by omega)
        rw [hchunk]
        simp

theorem Collected.foldl_push_of (limit : Nat) (chunks : List Bytes) (data : Bytes) :
    chunks.foldl (Collected.push limit) (.of limit data) = .of limit (data ++ chunks.flatten) := by
  induction chunks generalizing data with
  | nil => simp
  | cons chunk chunks ih =>
    rw [List.foldl_cons, Collected.push_of, ih, List.flatten_cons, List.append_assoc]

theorem collectByteStream_eq (chunks : List Bytes) (limit : Nat) :
    collectByteStream chunks limit = .of limit chunks.flatten := by
  rw [collectByteStream, ← Collected.of_nil limit, Collected.foldl_push_of, List.nil_append]

/-! ### Messages -/

/-- An element of the input of `sendViaStream`: its payload comes in chunks, and ends or not. -/
structure LiftedStreamMessage where
  kind : MessageKind
  length : Nat
  chunks : List Bytes
  ended : Bool
  deriving DecidableEq, Repr

/-- The bytes of the payload. -/
def LiftedStreamMessage.payload (item : LiftedStreamMessage) : Bytes := item.chunks.flatten

/-- `new TextDecoder("utf-8", { fatal: true }).decode(bytes)`, which drops one leading byte-order
mark. -/
def decodeText (bytes : Bytes) : Option String :=
  match bytes with
  | 0xEF :: 0xBB :: 0xBF :: rest => String.fromUTF8? ⟨rest.toArray⟩
  | _ => String.fromUTF8? ⟨bytes.toArray⟩

/-- The message that `sendViaStream` makes of an element whose payload has been collected. -/
def messageOf (item : LiftedStreamMessage) (collected : Collected) : Except Error Message :=
  if collected.excess > 0 ∨ collected.bytes.length ≠ item.length then
    .error (.other s!"stream-message payload was {collected.bytes.length + collected.excess} bytes but length declared {item.length}")
  else
    match item.kind with
    | .string =>
      match decodeText collected.bytes with
      | some text => .ok (.string text)
      | none => .error (.other "string stream-message payload is not valid UTF-8")
    | .binary => .ok (.binary collected.bytes)

/-- The bytes can be the payload of a message of this kind. -/
def MessageKind.accepts (kind : MessageKind) (bytes : Bytes) : Bool :=
  match kind with
  | .string => (decodeText bytes).isSome
  | .binary => true

/-- The payload of the element ends, has the declared length, and suits its kind. -/
def LiftedStreamMessage.wellFormed (item : LiftedStreamMessage) : Bool :=
  item.ended && decide (item.payload.length = item.length) && item.kind.accepts item.payload

/-- An element is a message exactly when its payload has the declared length and suits its kind;
its error is `other`. -/
theorem messageOf_of (item : LiftedStreamMessage) (data : Bytes) :
    (∃ message, messageOf item (.of item.length data) = .ok message) ∧
        data.length = item.length ∧ item.kind.accepts data = true ∨
      (∃ text, messageOf item (.of item.length data) = .error (.other text)) ∧
        ¬ (data.length = item.length ∧ item.kind.accepts data = true) := by
  unfold messageOf
  by_cases hlength : data.length = item.length
  · have hbytes : (Collected.of item.length data).bytes = data :=
      List.take_of_length_le (by omega)
    have hexcess : (Collected.of item.length data).excess = 0 := by
      simp [Collected.of, hlength]
    rw [if_neg (by simp [hbytes, hexcess, hlength]), hbytes]
    cases hkind : item.kind with
    | binary => exact .inl ⟨⟨_, rfl⟩, hlength, rfl⟩
    | string =>
      cases htext : decodeText data with
      | none => exact .inr ⟨⟨_, rfl⟩, fun h => by simp [MessageKind.accepts, htext] at h⟩
      | some text => exact .inl ⟨⟨_, rfl⟩, hlength, by simp [MessageKind.accepts, htext]⟩
  · refine .inr ⟨?_, fun h => hlength h.1⟩
    rw [if_pos]
    · exact ⟨_, rfl⟩
    · simp only [Collected.of, List.length_take]
      omega

end Polymorph.Js
