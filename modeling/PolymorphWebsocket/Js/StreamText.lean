import PolymorphWebsocket.Js.SendViaStream
import PolymorphWebsocket.Web.Utf8

/-!
# The JavaScript host: messages in the form of a stream

A message that `receiveViaStream` puts on its stream, and that `sendViaStream` takes from one, however
its payload is cut on the way.  Everything arrives as it was but for one case: the decoder drops a
byte-order mark in front, so a text that begins with U+FEFF loses it.
-/

namespace Polymorph.Js

open Transition Web

/-! ### One element of the input -/

/-- The element carries this payload, and declares its length. -/
structure LiftedStreamMessage.Carries (item : LiftedStreamMessage) (kind : MessageKind)
    (payload : Bytes) : Prop where
  kind : item.kind = kind
  length : item.length = payload.length
  payload : item.payload = payload
  ended : item.ended = true

/-- What becomes of an element once its payload has been collected. -/
def Sender.element (s : Sender) (call : SendCall) (item : LiftedStreamMessage)
    (collected : Collected) : Sender :=
  match messageOf item collected with
  | .ok message => s.send call message
  | .error error => s.fails call error

variable {s : Sender} {call : SendCall} {item : LiftedStreamMessage}

/-- The outcome does not depend on what the call was doing before. -/
theorem element_goes (s : Sender) (call : SendCall) (pc : SendPc) (item : LiftedStreamMessage)
    (collected : Collected) :
    (s.goes call pc).element { call with pc := pc } item collected = s.element call item collected := by
  unfold Sender.element
  cases messageOf item collected with
  | error error => rfl
  | ok message =>
    show Sender.send _ _ message = Sender.send _ _ message
    unfold Sender.send
    by_cases hclosed : (s.conn.localClosed || s.conn.socket.readyState != .open) = true
    · rw [if_pos hclosed]
      exact if_pos hclosed
    · rw [if_neg hclosed]
      refine (if_neg hclosed).trans ?_
      by_cases hroom : s.bufferedAmount ≤ maxBufferedAmount
      · rw [if_pos hroom]
        exact if_pos hroom
      · rw [if_neg hroom]
        exact if_neg hroom

/-- The chunks that are outstanding are collected one after the other. -/
theorem run_collecting (hended : item.ended = true) (s : Sender) (call : SendCall)
    (chunks : List Bytes) (collected : Collected) :
    senderSystem.run (s.goes call (.collecting item chunks collected))
        (List.replicate (chunks.length + 1) .resume) =
      some (s.element call item (chunks.foldl (Collected.push item.length) collected)) := by
  induction chunks generalizing s call collected with
  | nil =>
    have hresume : senderSystem.step (s.goes call (.collecting item [] collected)) .resume =
        some ((s.goes call (.collecting item [] collected)).element
          { call with pc := .collecting item [] collected } item collected) := by
      refine (if_pos hended).trans ?_
      unfold Sender.element
      cases messageOf item collected with
      | ok message => rfl
      | error error => rfl
    rw [element_goes] at hresume
    rw [List.length_nil, List.replicate_one, System.run_cons, hresume]
    rfl
  | cons chunk chunks ih =>
    have hresume : senderSystem.step (s.goes call (.collecting item (chunk :: chunks) collected)) .resume =
        some (s.goes call (.collecting item chunks (collected.push item.length chunk))) := rfl
    rw [List.length_cons, List.replicate_succ, System.run_cons, hresume]
    exact ih s call (collected.push item.length chunk)

/-- The call after it has taken an element. -/
def SendCall.taking (call : SendCall) (rest : List LiftedStreamMessage) : SendCall :=
  { call with input := { call.input with elements := rest } }

/-- A call at its next element comes to the outcome of that element. -/
theorem run_element (hended : item.ended = true) (hcall : s.call = some call)
    (hpc : call.pc = .next) {rest : List LiftedStreamMessage}
    (helements : call.input.elements = item :: rest) :
    senderSystem.run s (List.replicate (item.chunks.length + 2) .resume) =
      some (s.element (call.taking rest) item (collectByteStream item.chunks item.length)) := by
  have hresume : senderSystem.step s .resume =
      some (s.goes (call.taking rest) (.collecting item item.chunks .empty)) := by
    show s.call.bind s.resume = _
    rw [hcall]
    show s.resume call = _
    unfold Sender.resume
    rw [hpc]
    dsimp only
    rw [helements]
    rfl
  rw [List.replicate_succ, System.run_cons, hresume]
  exact run_collecting hended s (call.taking rest) item.chunks .empty

/-- The element ends up as this message in `send`. -/
def Sends (item : LiftedStreamMessage) (message : Message) : Prop :=
  ∀ (s : Sender) (call : SendCall) (rest : List LiftedStreamMessage), s.call = some call →
    call.pc = .next → call.input.elements = item :: rest →
    senderSystem.run s (List.replicate (item.chunks.length + 2) .resume) =
      some (s.send (call.taking rest) message)

/-- The call fails at the element, without sending anything of it. -/
def Rejects (item : LiftedStreamMessage) : Prop :=
  ∀ (s : Sender) (call : SendCall) (rest : List LiftedStreamMessage), s.call = some call →
    call.pc = .next → call.input.elements = item :: rest →
    ∃ error, senderSystem.run s (List.replicate (item.chunks.length + 2) .resume) =
      some (s.fails (call.taking rest) error)

/-- An open connection with a call at this element. -/
def Sender.at (item : LiftedStreamMessage) : Sender where
  conn := .start .default 0
  bufferedAmount := 0
  call := some (.new { elements := [item], ended := true })

/-- What an element sends is the message made of it. -/
theorem sends_iff (hended : item.ended = true) {message : Message} :
    Sends item message ↔
      messageOf item (collectByteStream item.chunks item.length) = .ok message := by
  constructor
  · intro h
    have hrun := h (.at item) _ [] rfl rfl rfl
    rw [run_element hended rfl rfl rfl] at hrun
    have hsame := congrArg Sender.call (Option.some.inj hrun)
    have hhanded := congrArg (fun call => call.map SendCall.handed) hsame
    unfold Sender.element at hhanded
    split at hhanded
    · next message' heq =>
      have hmessages : [message'] = [message] := Option.some.inj hhanded
      rw [heq, List.cons.inj hmessages |>.1]
    · cases hhanded
  · intro heq s call rest hcall hpc helements
    rw [run_element hended hcall hpc helements]
    unfold Sender.element
    rw [heq]

theorem rejects_of_error (hended : item.ended = true) {error : Error}
    (heq : messageOf item (collectByteStream item.chunks item.length) = .error error) :
    Rejects item := by
  intro s call rest hcall hpc helements
  refine ⟨error, ?_⟩
  rw [run_element hended hcall hpc helements]
  unfold Sender.element
  rw [heq]

/-! ### The decoder -/

/-- What begins with a byte-order mark is decoded without it. -/
theorem decodeText_mark (rest : Bytes) :
    decodeText (byteOrderMark ++ rest) = String.fromUTF8? ⟨rest.toArray⟩ := rfl

theorem decodeText_of_not_mark {bytes : Bytes} (h : ¬ byteOrderMark <+: bytes) :
    decodeText bytes = String.fromUTF8? ⟨bytes.toArray⟩ := by
  unfold decodeText
  split
  · next rest => exact absurd ⟨rest, rfl⟩ h
  · rfl

/-- The decoder accepts exactly what is the encoding of a text. -/
theorem decodeText_eq_none_iff {bytes : Bytes} : decodeText bytes = none ↔ ¬ IsText bytes := by
  by_cases hmark : byteOrderMark <+: bytes
  · obtain ⟨rest, rfl⟩ := hmark
    rw [decodeText_mark, fromUTF8_eq_none_iff, isText_mark_append]
  · rw [decodeText_of_not_mark hmark, fromUTF8_eq_none_iff]

/-- The decoded text encodes back to the same bytes exactly when they do not begin with a mark. -/
theorem decodeText_encodes_iff {bytes : Bytes} {text : String} (h : decodeText bytes = some text) :
    text.toUTF8.toList = bytes ↔ ¬ byteOrderMark <+: bytes := by
  constructor
  · rintro heq ⟨rest, rfl⟩
    rw [decodeText_mark] at h
    have hlength := congrArg List.length ((fromUTF8_eq_some_iff.mp h).symm.trans heq)
    rw [List.length_append] at hlength
    change rest.length = 3 + rest.length at hlength
    omega
  · intro hmark
    rw [decodeText_of_not_mark hmark] at h
    exact fromUTF8_eq_some_iff.mp h

/-! ### Round trips -/

/-- The message made of an element that carries a payload. -/
theorem messageOf_carries {kind : MessageKind} {payload : Bytes} (h : item.Carries kind payload) :
    messageOf item (collectByteStream item.chunks item.length) =
      match kind with
      | .binary => .ok (.binary payload)
      | .string =>
        match decodeText payload with
        | some text => .ok (.string text)
        | none => .error (.other "string stream-message payload is not valid UTF-8") := by
  have hchunks : item.chunks.flatten = payload := h.payload
  have hbytes : (Collected.of item.length payload).bytes = payload :=
    List.take_of_length_le (by rw [h.length])
  have hexcess : (Collected.of item.length payload).excess = 0 := by
    show payload.length - item.length = 0
    rw [h.length, Nat.sub_self]
  rw [collectByteStream_eq, hchunks, messageOf, hexcess, hbytes, h.kind,
    if_neg (by rw [h.length]; simp)]
  cases kind with
  | binary => rfl
  | string => rfl

/-- Elements that carry the same payload send the same, however it is cut. -/
theorem sends_carries {kind : MessageKind} {payload : Bytes} {message : Message}
    (h : item.Carries kind payload) :
    Sends item message ↔
      (kind = .binary ∧ message = .binary payload) ∨
        (kind = .string ∧ ∃ text, decodeText payload = some text ∧ message = .string text) := by
  rw [sends_iff h.ended, messageOf_carries h]
  cases kind with
  | binary =>
    constructor
    · intro heq
      exact .inl ⟨rfl, (Except.ok.inj heq).symm⟩
    · rintro (⟨-, rfl⟩ | ⟨hno, -⟩)
      · rfl
      · cases hno
  | string =>
    cases htext : decodeText payload with
    | none =>
      constructor
      · nofun
      · rintro (⟨hno, -⟩ | ⟨-, text, hno, -⟩)
        · cases hno
        · cases hno
    | some text =>
      constructor
      · intro heq
        exact .inr ⟨rfl, text, rfl, (Except.ok.inj heq).symm⟩
      · rintro (⟨hno, -⟩ | ⟨-, text', heq, rfl⟩)
        · cases hno
        · rw [Option.some.inj heq]

/-- A payload in one chunk. -/
def LiftedStreamMessage.ofPayload (kind : MessageKind) (payload : Bytes) : LiftedStreamMessage where
  kind := kind
  length := payload.length
  chunks := [payload]
  ended := true

theorem carries_ofPayload (kind : MessageKind) (payload : Bytes) :
    (LiftedStreamMessage.ofPayload kind payload).Carries kind payload :=
  ⟨rfl, rfl, List.flatten_singleton, rfl⟩

/-- The message is a text that begins with U+FEFF. -/
def Marked : Message → Prop
  | .binary _ => False
  | .string text => byteOrderMark <+: text.toUTF8.toList

/-- A message comes back from its stream form exactly when it is no text that begins with U+FEFF. -/
theorem sends_ofMessage_iff (message : Message) :
    (∀ item : LiftedStreamMessage,
      item.Carries (StreamMessage.ofMessage message).kind (StreamMessage.ofMessage message).data →
        Sends item message) ↔ ¬ Marked message := by
  cases message with
  | binary bytes => exact ⟨fun _ => id, fun _ item h => (sends_carries h).mpr (.inl ⟨rfl, rfl⟩)⟩
  | string text =>
    have htext : IsText text.toUTF8.toList := isText_encode text
    obtain ⟨text', hdecode⟩ : ∃ text', decodeText text.toUTF8.toList = some text' :=
      Option.ne_none_iff_exists'.mp fun hnone => decodeText_eq_none_iff.mp hnone htext
    constructor
    · intro h
      have hsends := h _ (carries_ofPayload .string text.toUTF8.toList)
      rcases (sends_carries (carries_ofPayload _ _)).mp hsends with ⟨hno, -⟩ | ⟨-, text₁, hdecode₁, heq⟩
      · cases hno
      · cases heq
        exact (decodeText_encodes_iff hdecode₁).mp rfl
    · intro hmark item h
      refine (sends_carries h).mpr (.inr ⟨rfl, text, ?_, rfl⟩)
      show decodeText text.toUTF8.toList = some text
      rw [decodeText_of_not_mark hmark]
      exact fromUTF8_eq_some_iff.mpr rfl

/-- A text payload reaches `send` as the text it encodes, and what encodes no text is rejected. -/
def KeepsText (payload : Bytes) : Prop :=
  ∀ item : LiftedStreamMessage, item.Carries .string payload →
    (IsText payload → ∃ text, text.toUTF8.toList = payload ∧ Sends item (.string text)) ∧
      (¬ IsText payload → Rejects item)

theorem keepsText_iff (payload : Bytes) :
    KeepsText payload ↔ ¬ (IsText payload ∧ byteOrderMark <+: payload) := by
  constructor
  · rintro h ⟨htext, hmark⟩
    obtain ⟨text, hencode, hsends⟩ := (h _ (carries_ofPayload .string payload)).1 htext
    rcases (sends_carries (carries_ofPayload _ _)).mp hsends with ⟨hno, -⟩ | ⟨-, text', hdecode, heq⟩
    · cases hno
    · cases heq
      exact (decodeText_encodes_iff hdecode).mp hencode hmark
  · intro hno item h
    constructor
    · intro htext
      obtain ⟨text, hdecode⟩ : ∃ text, decodeText payload = some text :=
        Option.ne_none_iff_exists'.mp fun hnone => decodeText_eq_none_iff.mp hnone htext
      have hmark : ¬ byteOrderMark <+: payload := fun hmark => hno ⟨htext, hmark⟩
      exact ⟨text, (decodeText_encodes_iff hdecode).mpr hmark,
        (sends_carries h).mpr (.inr ⟨rfl, text, hdecode, rfl⟩)⟩
    · intro htext
      have herror : messageOf item (collectByteStream item.chunks item.length) =
          .error (.other "string stream-message payload is not valid UTF-8") := by
        rw [messageOf_carries h, decodeText_eq_none_iff.mpr htext]
      exact rejects_of_error h.ended herror

/-- The stream forms preserve a message, and the bytes of a text payload, exactly when they do not
begin with the mark that the decoder drops. -/
theorem stream_forms_preserve_iff (message : Message) (payload : Bytes) :
    ((∀ item : LiftedStreamMessage,
      item.Carries (StreamMessage.ofMessage message).kind (StreamMessage.ofMessage message).data →
        Sends item message) ↔ ¬ Marked message) ∧
    (KeepsText payload ↔ ¬ (IsText payload ∧ byteOrderMark <+: payload)) :=
  ⟨sends_ofMessage_iff message, keepsText_iff payload⟩

/-- The text `"\uFEFFa"` comes back without its first character. -/
theorem marked_text_changes :
    ¬ ∀ (message : Message) (item : LiftedStreamMessage),
      item.Carries (StreamMessage.ofMessage message).kind (StreamMessage.ofMessage message).data →
        Sends item message := by
  intro h
  refine (sends_ofMessage_iff (.string "\uFEFFa")).mp (h _) ?_
  refine ⟨[0x61], ?_⟩
  show _ = "\uFEFFa".toUTF8.toList
  rw [toList_eq]
  decide

end Polymorph.Js
