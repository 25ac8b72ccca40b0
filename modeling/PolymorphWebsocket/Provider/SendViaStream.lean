import PolymorphWebsocket.Provider.Payload
import PolymorphWebsocket.Transition.System
import PolymorphWebsocket.Web.Utf8

/-!
# The guest provider: sending via a stream

`send_via_stream` of `rust/guest-provider/src/lib.rs`, from one read of the stream or of a payload to
the next.  The call looks for a local close before each of them; what its sends return comes from
the pump, and any result is possible.

`accounted_iff` says for which streams the call keeps its books: those whose first malformed element
is not one that the counter of `collect_payload` takes for exact.
-/

namespace Polymorph.Provider

open Transition Web

/-- `MessageKind`. -/
inductive MessageKind
  | binary
  | string
  deriving DecidableEq, Repr

/-- `StreamMessage`, with the reads of its payload that the producer provides. -/
structure StreamMessage where
  kind : MessageKind
  length : UInt32
  data : List (StreamResult × Bytes)

/-- `SendViaStreamError`. -/
structure SendViaStreamError where
  error : Error
  sent : Nat
  deriving DecidableEq, Repr

/-! ### The message of an element -/

/-- The bytes begin an encoded character that they do not complete. -/
def utf8Incomplete : Bytes → Bool
  | [a] => 0xC2 ≤ a && a ≤ 0xF4
  | [a, b] =>
    if a = 0xE0 then 0xA0 ≤ b && b ≤ 0xBF
    else if a = 0xED then 0x80 ≤ b && b ≤ 0x9F
    else if a = 0xF0 then 0x90 ≤ b && b ≤ 0xBF
    else if a = 0xF4 then 0x80 ≤ b && b ≤ 0x8F
    else 0xE1 ≤ a && a ≤ 0xF3 && 0x80 ≤ b && b ≤ 0xBF
  | [a, b, c] => 0xF0 ≤ a && utf8Incomplete [a, b] && 0x80 ≤ c && c ≤ 0xBF
  | _ => false

/-- The text of the `FromUtf8Error` for these bytes. -/
def utf8Error (bytes : Bytes) : String :=
  let upTo := ((List.range (bytes.length + 1)).filter fun n => decide (IsText (bytes.take n))).getLastD 0
  let rest := bytes.drop upTo
  if utf8Incomplete rest then s!"incomplete utf-8 byte sequence from index {upTo}"
  else
    let len := if utf8Incomplete (rest.take 3) then 3 else if utf8Incomplete (rest.take 2) then 2 else 1
    s!"invalid utf-8 sequence of {len} bytes from index {upTo}"

/-- The message of an element whose payload has been collected. -/
def messageOf (item : StreamMessage) (data : Bytes) (excess : Nat) : Except Error Message :=
  if excess > 0 ∨ data.length ≠ item.length.toNat then
    .error (.other s!"stream-message payload was {(data.length + excess) % usizeRange} bytes but length declared {item.length}")
  else
    match item.kind with
    | .binary => .ok (.binary data)
    | .string =>
      match String.fromUTF8? ⟨data.toArray⟩ with
      | some text => .ok (.string text)
      | none =>
        .error (.other s!"string stream-message payload is not valid UTF-8: {utf8Error data}")

/-! ### The call -/

/-- Where a call is. -/
inductive SendPc
  /-- In the select with `read_one`. -/
  | reading
  /-- In the select with `collect_payload`, which has these reads ahead. -/
  | collecting (item : StreamMessage) (data : List (StreamResult × Bytes)) (c : Collecting)
  /-- Awaiting the acknowledgement of a `send`. -/
  | sending
  | returned (result : Except SendViaStreamError Unit)

/-- One call of `send_via_stream`, with what it sees of the connection. -/
structure Sending where
  localClosed : Bool
  /-- The command task has exited: the command channel is closed. -/
  pumpGone : Bool
  /-- The reads of the stream ahead. -/
  messages : List (StreamResult × Option StreamMessage)
  pc : SendPc
  sent : Nat
  /-- The messages handed to the pump.  The code does not read them. -/
  handed : List Message
  /-- What the sends have returned.  The code does not read it. -/
  results : List (Except Error Unit)

namespace Sending

/-- The call fails; the error reports how many messages were sent before. -/
def fails (s : Sending) (error : Error) : Sending :=
  { s with pc := .returned (.error { error := error, sent := s.sent }) }

/-- The call begins. -/
def start (localClosed pumpGone : Bool) (messages : List (StreamResult × Option StreamMessage)) :
    Sending :=
  let s : Sending :=
    { localClosed := localClosed, pumpGone := pumpGone, messages := messages, pc := .reading,
      sent := 0, handed := [], results := [] }
  if localClosed then s.fails .closed else s

/-- A `send` returns. -/
def sendReturns (s : Sending) (result : Except Error Unit) : Sending :=
  let s := { s with results := s.results ++ [result] }
  match result with
  | .ok () => { s with sent := s.sent + 1, pc := .reading }
  | .error error => s.fails error

/-- `send`, up to the await of its acknowledgement. -/
def send (s : Sending) (message : Message) : Sending :=
  if s.localClosed || s.pumpGone then s.sendReturns (.error .closed)
  else { s with handed := s.handed ++ [message], pc := .sending }

/-- One read in `read_one`; a read that completes without an element is tried again. -/
def readOne (s : Sending) : StreamResult × Option StreamMessage → Sending
  | (_, some item) => { s with pc := .collecting item item.data .empty }
  | (status, none) => if status.ends then { s with pc := .returned (.ok ()) } else s

/-- One read in `collect_payload`, and what the call does once that has returned. -/
def collect (s : Sending) (item : StreamMessage) (data : List (StreamResult × Bytes))
    (c : Collecting) (read : StreamResult × Bytes) : Sending :=
  let c := read.2.foldl (Collecting.push item.length.toNat) c
  if read.1.ends then
    match messageOf item c.collected c.excess with
    | .ok message => s.send message
    | .error error => s.fails error
  else { s with pc := .collecting item data c }

/-- One poll of the call with one read ready; the local close wins over it. -/
def poll (s : Sending) : Option Sending :=
  match s.pc with
  | .reading =>
    if s.localClosed then some (s.fails .closed)
    else
      match s.messages with
      | read :: messages => some ({ s with messages := messages }.readOne read)
      | [] => none
  | .collecting item data c =>
    if s.localClosed then some (s.fails .closed)
    else
      match data with
      | read :: data => some (s.collect item data c read)
      | [] => none
  | .sending | .returned _ => none

end Sending

/-- The moves of a call and of the connection beside it. -/
inductive SendAction
  | poll
  /-- The acknowledgement arrives; `none` when its sender is dropped. -/
  | acknowledged (result : Option (Except Error Unit))
  /-- A local close. -/
  | close
  /-- The command task exits. -/
  | pumpExits

/-- The state after a move, if the move is possible. -/
def sendStep (s : Sending) : SendAction → Option Sending
  | .poll => s.poll
  | .acknowledged result =>
    match s.pc with
    | .sending => some (s.sendReturns (result.getD (.error .closed)))
    | .reading | .collecting _ _ _ | .returned _ => none
  | .close => some { s with localClosed := true }
  | .pumpExits => some { s with pumpGone := true }

/-- The calls on a stream that provides these reads. -/
def sendSystem (messages : List (StreamResult × Option StreamMessage)) :
    System Sending SendAction where
  init s := ∃ localClosed pumpGone : Bool, s = .start localClosed pumpGone messages
  step := sendStep

/-! ### What the stream carries -/

/-- The elements of a stream, up to its end. -/
def elements : List (StreamResult × Option StreamMessage) → List StreamMessage
  | [] => []
  | (_, some item) :: reads => item :: elements reads
  | (status, none) :: reads => if status.ends then [] else elements reads

/-- The bytes of a payload, if it ends. -/
def payload? : List (StreamResult × Bytes) → Option Bytes
  | [] => none
  | (status, chunk) :: reads =>
    if status.ends then some chunk else (payload? reads).map fun rest => chunk ++ rest

namespace StreamMessage

/-- The message that an element of these bytes is, by its kind. -/
def decode (item : StreamMessage) (bytes : Bytes) : Option Message :=
  match item.kind with
  | .binary => some (.binary bytes)
  | .string => (String.fromUTF8? ⟨bytes.toArray⟩).map .string

/-- The message that an element is, if it is well-formed: its payload ends, has the declared length
and suits its kind. -/
def message? (item : StreamMessage) : Option Message :=
  (payload? item.data).bind fun bytes =>
    if bytes.length = item.length.toNat then item.decode bytes else none

/-- The element is a message. -/
def wellFormed (item : StreamMessage) : Bool := item.message?.isSome

/-- The payload ends, and the element is no message. -/
def malformed (item : StreamMessage) : Bool := (payload? item.data).isSome && !item.wellFormed

/-- The payload exceeds the declared length by a positive multiple of `2 ^ 32`, and what is within it
suits the kind. -/
def wraps (item : StreamMessage) : Bool :=
  (payload? item.data).any fun bytes =>
    decide (item.length.toNat < bytes.length) &&
      decide ((bytes.length - item.length.toNat) % usizeRange = 0) &&
      (item.decode (bytes.take item.length.toNat)).isSome

end StreamMessage

/-- These are the messages of the first elements of the stream, in order and each once. -/
def InitialRun (items : List StreamMessage) (handed : List Message) : Prop :=
  handed.map some = (items.take handed.length).map StreamMessage.message?

/-- Why a call has stopped with this error after `sent` messages: it saw the local close, or the next
element is malformed, or the send of the next element failed. -/
inductive Sending.Stopped (items : List StreamMessage) (s : Sending) (sent : Nat) : Error → Prop
  | closed (hclosed : s.localClosed = true) (hhanded : s.handed.length = sent)
      (hresults : s.results = List.replicate sent (.ok ())) : Stopped items s sent .closed
  | malformed {item : StreamMessage} (hitem : items[sent]? = some item)
      (hmalformed : item.malformed = true) (hhanded : s.handed.length = sent)
      (hresults : s.results = List.replicate sent (.ok ())) (text : String) :
      Stopped items s sent (.other text)
  | failed {item : StreamMessage} (hitem : items[sent]? = some item)
      (hwell : item.wellFormed = true) {error : Error}
      (hresults : s.results = List.replicate sent (.ok ()) ++ [.error error]) :
      Stopped items s sent error

/-- The books of a call on a stream of these elements. -/
structure Sending.Accounted (items : List StreamMessage) (s : Sending) : Prop where
  handed : InitialRun items s.handed
  /-- `Ok` means that every element was well-formed and its send returned `Ok`. -/
  done : s.pc = .returned (.ok ()) → (∀ item ∈ items, item.wellFormed = true) ∧
    s.handed.length = items.length ∧ s.results = List.replicate items.length (.ok ())
  stopped : ∀ error sent, s.pc = .returned (.error { error := error, sent := sent }) →
    s.Stopped items sent error

variable {messages : List (StreamResult × Option StreamMessage)} {items : List StreamMessage}
  {item : StreamMessage} {s s' : Sending}

/-! ### Collecting a payload -/

/-- `collect_payload` returns once the payload ends. -/
theorem collectPayload_of_payload (declared : Nat) (reads : List (StreamResult × Bytes)) (data : Bytes) :
    collectPayload declared (.of declared data) reads =
      (payload? reads).map fun rest =>
        ((data ++ rest).take declared, ((data ++ rest).length - declared) % usizeRange) := by
  induction reads generalizing data with
  | nil => rfl
  | cons read reads ih =>
    obtain ⟨status, chunk⟩ := read
    unfold collectPayload payload?
    rw [Collecting.foldl_push_of]
    by_cases hends : status.ends = true
    · rw [if_pos hends, if_pos hends]
      rfl
    · rw [if_neg hends, if_neg hends, Option.map_map]
      refine (ih (data ++ chunk)).trans (congrArg (fun f => (payload? reads).map f) ?_)
      funext rest
      rw [Function.comp_apply, List.append_assoc]

theorem collectPayload_empty (declared : Nat) (reads : List (StreamResult × Bytes)) :
    collectPayload declared .empty reads =
      (payload? reads).map fun bytes =>
        (bytes.take declared, (bytes.length - declared) % usizeRange) := by
  rw [← Collecting.of_nil declared, collectPayload_of_payload]
  rfl

/-- What is collected is a message when nothing is missing, the count of the rest is zero and the
kind fits; any other outcome is the error `other`. -/
theorem messageOf_eq (item : StreamMessage) (data : Bytes) (excess : Nat) :
    (∃ text, messageOf item data excess = .error (.other text) ∧
        (excess = 0 → data.length = item.length.toNat → item.decode data = none)) ∨
      ∃ message, messageOf item data excess = .ok message ∧ excess = 0 ∧
        data.length = item.length.toNat ∧ item.decode data = some message := by
  unfold messageOf StreamMessage.decode
  by_cases hlength : excess > 0 ∨ data.length ≠ item.length.toNat
  · rw [if_pos hlength]
    refine .inl ⟨_, rfl, fun hexcess hdata => ?_⟩
    rcases hlength with hlt | hne
    · omega
    · exact absurd hdata hne
  · rw [if_neg hlength]
    obtain ⟨hexcess, hdata⟩ : excess = 0 ∧ data.length = item.length.toNat := by omega
    cases item.kind with
    | binary => exact .inr ⟨_, rfl, hexcess, hdata, rfl⟩
    | string =>
      cases htext : String.fromUTF8? ⟨data.toArray⟩ with
      | none => exact .inl ⟨_, rfl, fun _ _ => rfl⟩
      | some text => exact .inr ⟨_, rfl, hexcess, hdata, rfl⟩

/-- The call makes a message of exactly the elements that are one and of those that wrap. -/
theorem messageOf_collected {data : Bytes} {excess : Nat}
    (h : collectPayload item.length.toNat .empty item.data = some (data, excess)) :
    (∃ message, messageOf item data excess = .ok message ∧
        (item.message? = some message ∨ item.wraps = true)) ∨
      ∃ text, messageOf item data excess = .error (.other text) ∧ item.malformed = true := by
  rw [collectPayload_empty] at h
  obtain ⟨bytes, hbytes, hcollected⟩ := Option.map_eq_some_iff.mp h
  obtain ⟨rfl, rfl⟩ := Prod.mk.inj hcollected
  have hlength : (bytes.take item.length.toNat).length = min item.length.toNat bytes.length :=
    List.length_take
  have hmessage : item.message? =
      if bytes.length = item.length.toNat then item.decode bytes else none := by
    rw [StreamMessage.message?, hbytes]
    rfl
  rcases messageOf_eq item (bytes.take item.length.toNat)
    ((bytes.length - item.length.toNat) % usizeRange) with ⟨text, heq, hnone⟩ |
    ⟨message, heq, hexcess, hdata, hdecode⟩
  · refine .inr ⟨text, heq, ?_⟩
    have hno : item.message? = none := by
      rw [hmessage]
      split
      · next hexact =>
        have hwhole : bytes.take item.length.toNat = bytes := List.take_of_length_le (by omega)
        have hzero : (bytes.length - item.length.toNat) % usizeRange = 0 := by
          rw [hexact, Nat.sub_self, Nat.zero_mod]
        rw [← hnone hzero (by rw [hwhole, hexact]), hwhole]
      · rfl
    rw [StreamMessage.malformed, StreamMessage.wellFormed, hbytes, hno]
    rfl
  · refine .inl ⟨message, heq, ?_⟩
    by_cases hexact : bytes.length = item.length.toNat
    · rw [List.take_of_length_le (by omega)] at hdecode
      rw [hmessage, if_pos hexact]
      exact .inl hdecode
    · have hlt : item.length.toNat < bytes.length := by omega
      refine .inr ?_
      rw [StreamMessage.wraps, hbytes]
      simp [hlt, hexcess, hdecode]

/-- What wraps is no message, and the call makes one of it. -/
theorem messageOf_wraps (h : item.wraps = true) :
    item.wellFormed = false ∧ ∃ data excess message,
      collectPayload item.length.toNat .empty item.data = some (data, excess) ∧
        messageOf item data excess = .ok message := by
  unfold StreamMessage.wraps at h
  cases hbytes : payload? item.data with
  | none =>
    rw [hbytes] at h
    cases h
  | some bytes =>
    rw [hbytes, Option.any_some, Bool.and_eq_true, Bool.and_eq_true, decide_eq_true_eq,
      decide_eq_true_eq] at h
    obtain ⟨⟨hlt, hexcess⟩, hdecode⟩ := h
    have hno : item.wellFormed = false := by
      rw [StreamMessage.wellFormed, StreamMessage.message?, hbytes, Option.bind_some,
        if_neg (by omega)]
      rfl
    refine ⟨hno, bytes.take item.length.toNat, (bytes.length - item.length.toNat) % usizeRange, ?_⟩
    have hdata : (bytes.take item.length.toNat).length = item.length.toNat := by
      rw [List.length_take]
      omega
    rw [collectPayload_empty, hbytes]
    rcases messageOf_eq item (bytes.take item.length.toNat)
      ((bytes.length - item.length.toNat) % usizeRange) with ⟨text, -, hnone⟩ | ⟨message, heq, -⟩
    · rw [hnone hexcess hdata] at hdecode
      cases hdecode
    · exact ⟨message, rfl, heq⟩

/-- The call makes the message of a well-formed element. -/
theorem messageOf_wellFormed (h : item.wellFormed = true) :
    ∃ data excess message,
      collectPayload item.length.toNat .empty item.data = some (data, excess) ∧
        messageOf item data excess = .ok message := by
  unfold StreamMessage.wellFormed StreamMessage.message? at h
  cases hbytes : payload? item.data with
  | none =>
    rw [hbytes] at h
    cases h
  | some bytes =>
    have hcollected : collectPayload item.length.toNat .empty item.data =
        some (bytes.take item.length.toNat, (bytes.length - item.length.toNat) % usizeRange) := by
      rw [collectPayload_empty, hbytes]
      rfl
    rcases messageOf_collected hcollected with ⟨message, heq, -⟩ | ⟨text, -, hmalformed⟩
    · exact ⟨_, _, message, hcollected, heq⟩
    · rw [StreamMessage.malformed, StreamMessage.wellFormed, StreamMessage.message?, h,
        Bool.not_true, Bool.and_false] at hmalformed
      cases hmalformed

/-! ### The books of a run -/

/-- The first element that is not well-formed does not wrap. -/
def NoneWraps (items : List StreamMessage) : Prop :=
  ∀ item, items.find? (fun item => !item.wellFormed) = some item → item.wraps = false

namespace InitialRun

variable {handed : List Message}

theorem nil (items : List StreamMessage) : InitialRun items [] := rfl

theorem length_le (h : InitialRun items handed) : handed.length ≤ items.length := by
  have hlength := congrArg List.length h
  rw [List.length_map, List.length_map, List.length_take] at hlength
  omega

/-- Only well-formed elements have been handed over. -/
theorem wellFormed (h : InitialRun items handed) {i : Nat} (hi : i < handed.length)
    (hitem : items[i]? = some item) : item.wellFormed = true := by
  have hget : (handed.map some)[i]? = _ := congrArg (fun messages => messages[i]?) h
  rw [List.getElem?_map, List.getElem?_map, List.getElem?_take_of_lt hi, hitem,
    List.getElem?_eq_getElem hi] at hget
  rw [StreamMessage.wellFormed, ← Option.some.inj hget]
  rfl

/-- The next element is handed over. -/
theorem snoc (h : InitialRun items handed) {ahead : List StreamMessage}
    (hahead : items.drop handed.length = item :: ahead) {message : Message}
    (hmessage : item.message? = some message) : InitialRun items (handed ++ [message]) := by
  have htake : items.take (handed.length + 1) = items.take handed.length ++ [item] := by
    rw [List.take_add, hahead]
    rfl
  unfold InitialRun
  rw [List.length_append, List.length_singleton, htake, List.map_append, List.map_append, ← h,
    List.map_singleton, List.map_singleton, hmessage]

/-- The element after those handed over is the first one that can be malformed. -/
theorem find?_eq (h : InitialRun items handed) {ahead : List StreamMessage}
    (hahead : items.drop handed.length = item :: ahead) (hno : item.wellFormed = false) :
    items.find? (fun item => !item.wellFormed) = some item := by
  rw [← List.take_append_drop handed.length items, hahead, List.find?_append]
  have hnone : (items.take handed.length).find? (fun item => !item.wellFormed) = none := by
    rw [List.find?_eq_none]
    intro item hitem
    obtain ⟨i, hi⟩ := List.getElem?_of_mem hitem
    have hlt : i < handed.length := by
      have := (List.getElem?_eq_some_iff.mp hi).1
      rw [List.length_take] at this
      omega
    rw [List.getElem?_take_of_lt hlt] at hi
    rw [h.wellFormed hlt hi]
    simp
  rw [hnone, Option.none_or, List.find?_cons, hno]
  rfl

end InitialRun

/-- Every send of the call has returned `Ok`. -/
structure Sending.Counted (s : Sending) : Prop where
  handed : s.handed.length = s.sent
  results : s.results = List.replicate s.sent (.ok ())

/-- The invariant of a call on a stream of these elements, by where it is. -/
def Sending.Sound (items : List StreamMessage) (s : Sending) : Prop :=
  match s.pc with
  | .reading =>
    InitialRun items s.handed ∧ s.Counted ∧ items.drop s.handed.length = elements s.messages
  | .collecting item data c =>
    InitialRun items s.handed ∧ s.Counted ∧
      items.drop s.handed.length = item :: elements s.messages ∧
      collectPayload item.length.toNat c data = collectPayload item.length.toNat .empty item.data
  | .sending =>
    InitialRun items s.handed ∧ s.handed.length = s.sent + 1 ∧
      s.results = List.replicate s.sent (.ok ()) ∧
      items.drop s.handed.length = elements s.messages
  | .returned _ => s.Accounted items

namespace Sending

/-- A call that has returned nothing yet has not stopped. -/
theorem Accounted.of_pending (h : InitialRun items s.handed)
    (hpending : ∀ result, s.pc ≠ .returned result) : s.Accounted items :=
  ⟨h, fun hpc => absurd hpc (hpending _), fun _ _ hpc => absurd hpc (hpending _)⟩

theorem Sound.accounted (h : s.Sound items) : s.Accounted items := by
  unfold Sound at h
  split at h
  · next hpc => exact .of_pending h.1 (by rw [hpc]; nofun)
  · next hpc => exact .of_pending h.1 (by rw [hpc]; nofun)
  · next hpc => exact .of_pending h.1 (by rw [hpc]; nofun)
  · exact h

/-- A call that stops for a reason of the contract has kept its books. -/
theorem Accounted.fails (h : InitialRun items s.handed) {error : Error}
    (hstopped : s.Stopped items s.sent error) : (s.fails error).Accounted items := by
  refine ⟨h, nofun, fun error' sent hpc => ?_⟩
  obtain ⟨rfl, rfl⟩ : error = error' ∧ s.sent = sent := by
    simpa [Sending.fails] using hpc
  cases hstopped with
  | closed hclosed hhanded hresults => exact .closed hclosed hhanded hresults
  | malformed hitem hmalformed hhanded hresults text =>
    exact .malformed (s := s.fails _) hitem hmalformed hhanded hresults text
  | failed hitem hwell hresults => exact .failed hitem hwell hresults

/-- The local close is seen. -/
theorem Counted.fails_closed (hcounted : s.Counted) (h : InitialRun items s.handed)
    (hclosed : s.localClosed = true) : (s.fails .closed).Sound items :=
  Accounted.fails h (.closed hclosed hcounted.handed hcounted.results)

theorem Sound.start (localClosed pumpGone : Bool)
    (messages : List (StreamResult × Option StreamMessage)) :
    (Sending.start localClosed pumpGone messages).Sound (elements messages) := by
  cases localClosed with
  | true => exact Counted.fails_closed ⟨rfl, rfl⟩ (.nil _) rfl
  | false => exact ⟨.nil _, ⟨rfl, rfl⟩, rfl⟩

/-- One read of the stream. -/
theorem Sound.readOne (hpc : s.pc = .reading) (h : InitialRun items s.handed) (hcounted : s.Counted)
    {read : StreamResult × Option StreamMessage}
    (hahead : items.drop s.handed.length = elements (read :: s.messages)) :
    (s.readOne read).Sound items := by
  obtain ⟨status, element⟩ := read
  cases element with
  | some item => exact ⟨h, ⟨hcounted.handed, hcounted.results⟩, hahead, rfl⟩
  | none =>
    unfold elements at hahead
    unfold Sending.readOne
    dsimp only
    by_cases hends : status.ends = true
    · rw [if_pos hends] at hahead
      rw [if_pos hends]
      have hlength : s.handed.length = items.length :=
        Nat.le_antisymm h.length_le (List.drop_eq_nil_iff.mp hahead)
      refine ⟨h, fun _ => ⟨fun item hitem => ?_, hlength, ?_⟩, nofun⟩
      · obtain ⟨i, hi⟩ := List.getElem?_of_mem hitem
        apply h.wellFormed _ hi
        rw [hlength]
        exact (List.getElem?_eq_some_iff.mp hi).1
      · rw [← hlength, hcounted.handed]
        exact hcounted.results
    · rw [if_neg hends] at hahead
      rw [if_neg hends]
      unfold Sound
      rw [hpc]
      exact ⟨h, hcounted, hahead⟩

/-- A send of the next element returns. -/
theorem Sound.sendReturns (h : InitialRun items s.handed)
    (hresults : s.results = List.replicate s.sent (.ok ())) (hitem : items[s.sent]? = some item)
    (hwell : item.wellFormed = true) {result : Except Error Unit}
    (hok : result = .ok () → s.handed.length = s.sent + 1 ∧
      items.drop s.handed.length = elements s.messages) :
    (s.sendReturns result).Sound items := by
  cases result with
  | error error =>
    have hstopped : ({ s with results := s.results ++ [.error error] } : Sending).Stopped items
        s.sent error := .failed hitem hwell (by rw [hresults])
    exact Accounted.fails (s := { s with results := s.results ++ [.error error] }) h hstopped
  | ok value =>
    obtain ⟨hhanded, hahead⟩ := hok rfl
    refine ⟨h, ⟨hhanded, ?_⟩, hahead⟩
    show s.results ++ [.ok ()] = List.replicate (s.sent + 1) (.ok ())
    rw [hresults, List.replicate_succ']

/-- One read of a payload. -/
theorem Sound.collect (hwraps : NoneWraps items) (h : InitialRun items s.handed)
    (hcounted : s.Counted) (hahead : items.drop s.handed.length = item :: elements s.messages)
    {data : List (StreamResult × Bytes)} {c : Collecting} {read : StreamResult × Bytes}
    (hcollect : collectPayload item.length.toNat c (read :: data) =
      collectPayload item.length.toNat .empty item.data) :
    (s.collect item data c read).Sound items := by
  obtain ⟨status, chunk⟩ := read
  rw [collectPayload] at hcollect
  unfold Sending.collect
  dsimp only at hcollect ⊢
  have hitem : items[s.sent]? = some item := by
    rw [← hcounted.handed, ← List.head?_drop, hahead]
    rfl
  by_cases hends : status.ends = true
  · rw [if_pos hends] at hcollect
    rw [if_pos hends]
    rcases messageOf_collected hcollect.symm with ⟨message, heq, hmessage⟩ | ⟨text, heq, hmalformed⟩
    · rw [heq]
      have hmessage : item.message? = some message := by
        rcases hmessage with hmessage | hitemWraps
        · exact hmessage
        · have hfind := h.find?_eq hahead (messageOf_wraps hitemWraps).1
          rw [hwraps item hfind] at hitemWraps
          cases hitemWraps
      have hwell : item.wellFormed = true := by
        rw [StreamMessage.wellFormed, hmessage]
        rfl
      dsimp only
      unfold Sending.send
      split
      · exact .sendReturns h hcounted.results hitem hwell nofun
      · refine ⟨h.snoc hahead hmessage, ?_, hcounted.results, ?_⟩
        · show (s.handed ++ [message]).length = s.sent + 1
          rw [List.length_append, hcounted.handed]
          rfl
        · show items.drop (s.handed ++ [message]).length = elements s.messages
          rw [List.length_append, ← List.drop_drop, hahead]
          rfl
    · rw [heq]
      exact Accounted.fails h
        (.malformed hitem hmalformed hcounted.handed hcounted.results text)
  · rw [if_neg hends] at hcollect
    rw [if_neg hends]
    exact ⟨h, ⟨hcounted.handed, hcounted.results⟩, hahead, hcollect⟩

/-- One poll keeps the books. -/
theorem Sound.poll (hwraps : NoneWraps items) (hs : s.Sound items) (hstep : s.poll = some s') :
    s'.Sound items := by
  unfold Sound at hs
  unfold Sending.poll at hstep
  split at hstep
  · next hpc =>
    rw [hpc] at hs
    obtain ⟨h, hcounted, hahead⟩ := hs
    split at hstep
    · next hclosed =>
      cases hstep
      exact hcounted.fails_closed h hclosed
    · split at hstep
      · next read messages hmessages =>
        cases hstep
        rw [hmessages] at hahead
        exact .readOne (s := { s with messages := messages }) hpc h
          ⟨hcounted.handed, hcounted.results⟩ hahead
      · cases hstep
  · next item data c hpc =>
    rw [hpc] at hs
    obtain ⟨h, hcounted, hahead, hcollect⟩ := hs
    split at hstep
    · next hclosed =>
      cases hstep
      exact hcounted.fails_closed h hclosed
    · split at hstep
      · cases hstep
        exact .collect hwraps h hcounted hahead hcollect
      · cases hstep
  · cases hstep
  · cases hstep

/-- What happens beside the call changes nothing in its books, and a local close stays. -/
theorem Sound.congr (hs : s.Sound items) {localClosed pumpGone : Bool}
    (hclosed : s.localClosed = true → localClosed = true) :
    ({ s with localClosed := localClosed, pumpGone := pumpGone } : Sending).Sound items := by
  unfold Sound at hs ⊢
  dsimp only
  split at hs
  · next hpc => exact ⟨hs.1, ⟨hs.2.1.handed, hs.2.1.results⟩, hs.2.2⟩
  · next hpc => exact ⟨hs.1, ⟨hs.2.1.handed, hs.2.1.results⟩, hs.2.2⟩
  · exact hs
  · refine ⟨hs.handed, hs.done, fun error sent hpc => ?_⟩
    cases hs.stopped error sent hpc with
    | closed hcl hhanded hresults => exact .closed (hclosed hcl) hhanded hresults
    | malformed hitem hmalformed hhanded hresults text =>
      exact .malformed (s := { s with localClosed := localClosed, pumpGone := pumpGone }) hitem
        hmalformed hhanded hresults text
    | failed hitem hwell hresults => exact .failed hitem hwell hresults

/-- Every move keeps the books. -/
theorem Sound.step {a : SendAction} (hwraps : NoneWraps items) (hs : s.Sound items)
    (hstep : sendStep s a = some s') : s'.Sound items := by
  cases a with
  | poll => exact hs.poll hwraps hstep
  | acknowledged result =>
    unfold sendStep at hstep
    dsimp only at hstep
    split at hstep
    · next hpc =>
      cases hstep
      unfold Sound at hs
      rw [hpc] at hs
      obtain ⟨h, hhanded, hresults, hahead⟩ := hs
      have hlt : s.sent < items.length := by
        have := h.length_le
        omega
      have hitem : items[s.sent]? = some items[s.sent] := List.getElem?_eq_getElem hlt
      exact .sendReturns h hresults hitem (h.wellFormed (by omega) hitem) fun _ => ⟨hhanded, hahead⟩
    all_goals cases hstep
  | close =>
    cases hstep
    exact hs.congr fun _ => rfl
  | pumpExits =>
    cases hstep
    exact hs.congr id

end Sending

/-- A call on a stream whose first malformed element does not wrap keeps its books. -/
theorem accounted_of_noneWraps (hwraps : NoneWraps (elements messages))
    (h : (sendSystem messages).Reachable s) : s.Accounted (elements messages) := by
  have hsound : s.Sound (elements messages) := by
    refine h.induction (I := fun s => s.Sound (elements messages)) ?_ ?_
    · rintro _ ⟨localClosed, pumpGone, rfl⟩
      exact .start localClosed pumpGone messages
    · intro s a s' _ ih hstep
      exact ih.step hwraps hstep
  exact hsound.accounted

/-! ### A stream that wraps -/

/-- The call gets to the next element of its stream. -/
theorem reach_element (h : (sendSystem messages).Reachable s) (hpc : s.pc = .reading)
    (hopen : s.localClosed = false) {reads : List (StreamResult × Option StreamMessage)}
    (hreads : s.messages = reads) {rest : List StreamMessage} (hahead : elements reads = item :: rest) :
    ∃ ahead, elements ahead = rest ∧ (sendSystem messages).Reachable
      { s with messages := ahead, pc := .collecting item item.data .empty } := by
  induction reads generalizing s with
  | nil => cases hahead
  | cons read reads ih =>
    have hstep : (sendSystem messages).step s .poll = some ({ s with messages := reads }.readOne read) := by
      show s.poll = _
      unfold Sending.poll
      rw [hpc, hopen, hreads]
      rfl
    obtain ⟨status, element⟩ := read
    unfold elements at hahead
    cases element with
    | some item' =>
      obtain ⟨rfl, rfl⟩ := List.cons.inj hahead
      exact ⟨reads, rfl, h.next hstep⟩
    | none =>
      dsimp only at hahead
      by_cases hends : status.ends = true
      · rw [if_pos hends] at hahead
        cases hahead
      · rw [if_neg hends] at hahead
        have hnext := h.next hstep
        unfold Sending.readOne at hnext
        dsimp only at hnext
        rw [if_neg hends] at hnext
        exact ih (s := { s with messages := reads }) hnext hpc hopen rfl hahead

/-- The call hands over what it makes of the element it collects. -/
theorem reach_handed {data : List (StreamResult × Bytes)} {c : Collecting}
    (h : (sendSystem messages).Reachable s) (hpc : s.pc = .collecting item data c)
    (hopen : s.localClosed = false) (hpump : s.pumpGone = false) {bytes : Bytes} {excess : Nat}
    (hcollect : collectPayload item.length.toNat c data = some (bytes, excess)) {message : Message}
    (hmessage : messageOf item bytes excess = .ok message) :
    (sendSystem messages).Reachable
      { s with handed := s.handed ++ [message], pc := .sending } := by
  induction data generalizing s c with
  | nil => cases hcollect
  | cons read data ih =>
    have hstep : (sendSystem messages).step s .poll = some (s.collect item data c read) := by
      show s.poll = _
      unfold Sending.poll
      rw [hpc, hopen]
      rfl
    have hnext := h.next hstep
    obtain ⟨status, chunk⟩ := read
    rw [collectPayload] at hcollect
    unfold Sending.collect at hnext
    dsimp only at hcollect hnext
    by_cases hends : status.ends = true
    · rw [if_pos hends] at hcollect hnext
      obtain ⟨rfl, rfl⟩ := Prod.mk.inj (Option.some.inj hcollect)
      rw [hmessage] at hnext
      unfold Sending.send at hnext
      dsimp only at hnext
      rw [if_neg (by rw [hopen, hpump]; simp)] at hnext
      exact hnext
    · rw [if_neg hends] at hcollect hnext
      exact ih (s := { s with pc := .collecting item data _ }) hnext rfl hopen hpump hcollect

/-- When nothing goes wrong, the call sends the well-formed elements and comes to the next one. -/
theorem reach_sent {before after : List StreamMessage} (h : (sendSystem messages).Reachable s)
    (hpc : s.pc = .reading) (hopen : s.localClosed = false) (hpump : s.pumpGone = false)
    (hahead : elements s.messages = before ++ item :: after)
    (hwell : ∀ item ∈ before, item.wellFormed = true) :
    ∃ s', (sendSystem messages).Reachable s' ∧ s'.pc = .collecting item item.data .empty ∧
      s'.localClosed = false ∧ s'.pumpGone = false ∧
      s'.handed.length = s.handed.length + before.length := by
  induction before generalizing s with
  | nil =>
    obtain ⟨ahead, -, hreach⟩ := reach_element h hpc hopen rfl hahead
    exact ⟨_, hreach, rfl, hopen, hpump, rfl⟩
  | cons first before ih =>
    obtain ⟨ahead, helements, hreach⟩ := reach_element h hpc hopen rfl hahead
    obtain ⟨bytes, excess, message, hcollect, hmessage⟩ :=
      messageOf_wellFormed (hwell first List.mem_cons_self)
    have hhanded := reach_handed hreach rfl hopen hpump hcollect hmessage
    have hsent := hhanded.next (a := .acknowledged (some (.ok ()))) rfl
    obtain ⟨s', hreach', hpc', hopen', hpump', hlength⟩ :=
      ih hsent rfl hopen hpump helements fun item hitem => hwell item (List.mem_cons_of_mem _ hitem)
    refine ⟨s', hreach', hpc', hopen', hpump', ?_⟩
    rw [hlength]
    show (s.handed ++ [message]).length + before.length = _
    rw [List.length_append, List.length_singleton, List.length_cons]
    omega

/-- A call that keeps its books in every run is on a stream whose first malformed element does not
wrap. -/
theorem noneWraps_of_accounted
    (haccounted : ∀ s, (sendSystem messages).Reachable s → s.Accounted (elements messages)) :
    NoneWraps (elements messages) := by
  intro item hfind
  by_contra hwraps
  rw [Bool.not_eq_false] at hwraps
  obtain ⟨hno, before, after, hsplit, hbefore⟩ := List.find?_eq_some_iff_append.mp hfind
  have hstart : (sendSystem messages).Reachable (.start false false messages) :=
    .of_init ⟨false, false, rfl⟩
  have hwell (item : StreamMessage) (hitem : item ∈ before) : item.wellFormed = true := by
    simpa using hbefore item hitem
  obtain ⟨s, hreach, hpc, hopen, hpump, hlength⟩ := reach_sent hstart rfl rfl rfl hsplit hwell
  obtain ⟨-, bytes, excess, message, hcollect, hmessage⟩ := messageOf_wraps hwraps
  have hhanded := reach_handed hreach hpc hopen hpump hcollect hmessage
  -- The element that wraps is among those handed over.
  have hitem : (elements messages)[before.length]? = some item := by
    rw [hsplit, List.getElem?_append_right (le_refl _), Nat.sub_self]
    rfl
  have hlt : before.length < (s.handed ++ [message]).length := by
    rw [List.length_append, hlength, List.length_singleton]
    show _ < 0 + before.length + 1
    omega
  have hwellItem := (haccounted _ hhanded).handed.wellFormed hlt hitem
  rw [hwellItem] at hno
  cases hno

/-- In every run a call keeps its books, whatever its sends return and whenever the connection is
closed, exactly when the first element of the stream that is not well-formed does not wrap. -/
theorem accounted_iff (messages : List (StreamResult × Option StreamMessage)) :
    (∀ s, (sendSystem messages).Reachable s → s.Accounted (elements messages)) ↔
      NoneWraps (elements messages) := by
  constructor
  · intro haccounted
    exact noneWraps_of_accounted haccounted
  · intro hwraps s h
    exact accounted_of_noneWraps hwraps h

/-- A payload of `2 ^ 32` bytes with the declared length zero is sent as an empty message. -/
theorem wrapped_element_sent :
    ¬ ∀ (messages : List (StreamResult × Option StreamMessage)) (s : Sending),
      (sendSystem messages).Reachable s → s.Accounted (elements messages) := by
  intro hclaim
  obtain ⟨payload, hlength⟩ : ∃ payload : Bytes, payload.length = 2 ^ 32 :=
    ⟨List.replicate (2 ^ 32) 0, List.length_replicate⟩
  have hwraps : (⟨.binary, 0, [(.dropped, payload)]⟩ : StreamMessage).wraps = true := by
    show (decide (0 < payload.length) && decide ((payload.length - 0) % usizeRange = 0) && true) = true
    rw [hlength]
    decide
  have hfind : (elements [(.complete, some ⟨.binary, 0, [(.dropped, payload)]⟩)]).find?
      (fun item => !item.wellFormed) = some ⟨.binary, 0, [(.dropped, payload)]⟩ := by
    show List.find? _ [_] = _
    rw [List.find?_cons, (messageOf_wraps hwraps).1]
    rfl
  have hnone := noneWraps_of_accounted (hclaim [(.complete, some ⟨.binary, 0, [(.dropped, payload)]⟩)]) _
    hfind
  rw [hwraps] at hnone
  cases hnone

end Polymorph.Provider
