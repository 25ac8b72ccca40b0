import PolymorphWebsocket.Futures.SendAll
import PolymorphWebsocket.Host.Payload
import PolymorphWebsocket.Provider.SendViaStream

/-!
# The wasmtime host: sending via a stream

`send_via_stream` of `rust/wasmtime/src/host.rs`, with the consumers it sets up.
`OutboundStreamMessages` takes every element that the writer has made available, starts a
`ByteCollector` on the payload of each, and passes a `PendingSend` on to the driver.  So the payloads of
many elements are drained at the same time, in any order, while the driver sends one message after the
other: it waits for the next `PendingSend`, for its payload, and for the acknowledgement of its `send`,
each beside the signal of a local close, which is polled second.

`plain_of_reachable` says that nothing of this shows: unless it has seen a local close, a call returns
what a sender returns that takes one element after the other.
-/

namespace Polymorph.Host

open Futures Transition

/-! ### The elements of a stream -/

/-- `MessageKind`. -/
inductive MessageKind
  | binary
  | string
  deriving DecidableEq, Repr

/-- `StreamMessage`, with the polls of the consumer of its payload that are ahead: the bytes that are
available, and whether the write is being cancelled.  After them the payload ends. -/
structure StreamMessage where
  kind : MessageKind
  length : UInt32
  data : List (Bytes × Bool)

/-- `PendingSend`: the receiver of its payload is that of the collector at this place. -/
structure PendingSend where
  isString : Bool
  length : Nat
  doneRx : Nat
  deriving DecidableEq, Repr

/-- The bytes that a collector takes from these polls before it finishes. -/
def payload : List (Bytes × Bool) → Bytes
  | [] => []
  | (available, finish) :: polls =>
    if available.length > 0 then available ++ payload polls else if finish then [] else payload polls

/-- The message that the driver makes of a payload, by what its element has declared. -/
def messageOf (isString : Bool) (length : Nat) (payload : CollectedPayload) : Except Error Message :=
  if payload.excess > 0 ∨ payload.data.length ≠ length then
    .error (.other s!"stream-message payload was {(payload.data.length + payload.excess) % 2 ^ 64} bytes but length declared {length}")
  else if isString then
    match String.fromUTF8? ⟨payload.data.toArray⟩ with
    | some text => .ok (.string text)
    | none =>
      .error (.other s!"string stream-message payload is not valid UTF-8: {Provider.utf8Error payload.data}")
  else .ok (.binary payload.data)

namespace StreamMessage

/-- `matches!(message.kind, MessageKind::String)`. -/
def isString (item : StreamMessage) : Bool := item.kind == .string

/-- The `PendingSend` of an element whose collector is at this place. -/
def pendingSend (item : StreamMessage) (i : Nat) : PendingSend where
  isString := item.isString
  length := item.length.toNat
  doneRx := i

/-- What a collector hands back for the element. -/
def collected (item : StreamMessage) : CollectedPayload where
  data := (payload item.data).take item.length.toNat
  excess := ((payload item.data).length - item.length.toNat) % 2 ^ 64

/-- The message that the element is, or the error of the call that comes to it. -/
def message (item : StreamMessage) : Except Error Message :=
  messageOf item.isString item.length.toNat item.collected

end StreamMessage

/-! ### The call -/

/-- The `ByteCollector` on a payload, with the polls ahead. -/
structure Drain where
  collector : ByteCollector
  polls : List (Bytes × Bool)

/-- One poll of a collector; at the end of its stream it is dropped. -/
def Drain.poll (drain : Drain) : Drain :=
  match drain.polls with
  | (available, finish) :: polls =>
    { collector := drain.collector.pollConsume available finish, polls := polls }
  | [] => { drain with collector := drain.collector.finish }

/-- `SendViaStreamError`. -/
structure SendViaStreamError where
  error : Error
  sent : Nat
  deriving DecidableEq, Repr

/-- Where the driver is. -/
inductive SendPc
  /-- In the select with `rx.next()`. -/
  | next
  /-- In the select with the receiver of a payload. -/
  | draining (pending : PendingSend)
  /-- In the select with a `send`, whose acknowledgement may have arrived. -/
  | sending (ack : Option (Except Error Unit))
  | returned (result : Except SendViaStreamError Unit)

/-- One call of `send_via_stream` with its consumers, and what they see of the connection. -/
structure Sending where
  localClosed : Bool
  /-- The pump has closed the command channel. -/
  cmdsClosed : Bool
  /-- The polls ahead that bring elements, with all that is available then. -/
  batches : List (List StreamMessage)
  /-- The stream has not ended: `OutboundStreamMessages` is there, and with it `tx`. -/
  piped : Bool
  /-- The collectors, in the order of their elements. -/
  drains : List Drain
  rx : List PendingSend
  pc : SendPc
  sent : Nat
  /-- The messages handed to the pump.  The code does not read them. -/
  handed : List Message
  /-- What the sends have returned.  The code does not read it. -/
  results : List (Except Error Unit)

namespace Sending

/-- The call fails; the error reports how many messages were sent before. -/
def fails (s : Sending) (error : Error) : Sending :=
  { s with pc := .returned (.error { error := error, sent := s.sent }) }

/-- The call begins. -/
def start (localClosed cmdsClosed : Bool) (batches : List (List StreamMessage)) : Sending :=
  let s : Sending :=
    { localClosed := localClosed, cmdsClosed := cmdsClosed, batches := batches, piped := true,
      drains := [], rx := [], pc := .next, sent := 0, handed := [], results := [] }
  if localClosed then s.fails .closed else s

/-! ### The consumers -/

/-- `poll_consume` of the outer stream for one element: a collector on its payload, and its
`PendingSend`.  A driver that has returned has dropped the receiver. -/
def pipe (s : Sending) (item : StreamMessage) : Sending :=
  { s with
    drains := s.drains ++ [{ collector := .new item.length.toNat, polls := item.data }]
    rx :=
      match s.pc with
      | .returned _ => s.rx
      | .next | .draining _ | .sending _ => s.rx ++ [item.pendingSend s.drains.length] }

/-- `poll_consume` of the outer stream, with all the elements that are available. -/
def consume (s : Sending) : Option Sending :=
  match s.batches with
  | batch :: batches => some (batch.foldl pipe { s with batches := batches })
  | [] => none

/-- The outer stream ends, and its consumer is dropped. -/
def endStream (s : Sending) : Option Sending :=
  if s.batches = [] ∧ s.piped = true then some { s with piped := false } else none

/-- One poll of the collector at this place. -/
def drainPayload (s : Sending) (i : Nat) : Option Sending :=
  (s.drains[i]?).map fun drain => { s with drains := s.drains.set i drain.poll }

/-! ### The driver -/

/-- The `send` has returned. -/
def sendReturns (s : Sending) (result : Except Error Unit) : Sending :=
  let s := { s with results := s.results ++ [result] }
  match result with
  | .ok () => { s with sent := s.sent + 1, pc := .next }
  | .error error => s.fails error

/-- `handle.send`, up to the await of its acknowledgement. -/
def send (s : Sending) (message : Message) : Sending :=
  if s.localClosed || s.cmdsClosed then s.sendReturns (.error .closed)
  else { s with handed := s.handed ++ [message], pc := .sending none }

/-- The driver goes on with a payload. -/
def check (s : Sending) (pending : PendingSend) (payload : CollectedPayload) : Sending :=
  match messageOf pending.isString pending.length payload with
  | .ok message => s.send message
  | .error error => s.fails error

/-- What the collector at this place has sent. -/
def done (s : Sending) (i : Nat) : Option CollectedPayload :=
  (s.drains[i]?).bind fun drain => drain.collector.done

/-- One poll of a select of the driver: the signal of a local close counts only when the other arm is
pending. -/
def poll (s : Sending) : Option Sending :=
  match s.pc with
  | .next =>
    match s.rx with
    | pending :: rx => some { s with rx := rx, pc := .draining pending }
    | [] =>
      if s.piped then if s.localClosed then some (s.fails .closed) else none
      else some { s with pc := .returned (.ok ()) }
  | .draining pending =>
    match s.done pending.doneRx with
    | some payload => some (s.check pending payload)
    | none => if s.localClosed then some (s.fails .closed) else none
  | .sending (some result) => some (s.sendReturns result)
  | .sending none => if s.localClosed then some (s.fails .closed) else none
  | .returned _ => none

/-- The acknowledgement arrives, or its sender is dropped. -/
def acknowledge (s : Sending) (result : Except Error Unit) : Option Sending :=
  match s.pc with
  | .sending none => some { s with pc := .sending (some result) }
  | .next | .draining _ | .sending (some _) | .returned _ => none

end Sending

/-- The moves of a call, of its consumers and of the connection beside it. -/
inductive SendAction
  | poll
  | consume
  | endStream
  | drain (i : Nat)
  /-- The acknowledgement arrives; `none` when its sender is dropped. -/
  | acknowledged (result : Option (Except Error Unit))
  /-- A local close. -/
  | close
  /-- The pump closes the command channel. -/
  | pumpExits
  deriving DecidableEq

/-- The state after a move, if the move is possible. -/
def sendStep (s : Sending) : SendAction → Option Sending
  | .poll => s.poll
  | .consume => s.consume
  | .endStream => s.endStream
  | .drain i => s.drainPayload i
  | .acknowledged result => s.acknowledge (result.getD (.error .closed))
  | .close => some { s with localClosed := true }
  | .pumpExits => some { s with cmdsClosed := true }

/-- The calls on a stream that brings these elements, in these batches. -/
def sendSystem (batches : List (List StreamMessage)) : System Sending SendAction where
  init s := ∃ localClosed cmdsClosed : Bool, s = .start localClosed cmdsClosed batches
  step := sendStep

variable {items rest : List StreamMessage} {item : StreamMessage} {s s' : Sending} {taken : Nat}

/-! ### The collectors -/

/-- A collector is on the payload of the element: it has taken a part of it, or has handed it back. -/
def StreamMessage.Drained (item : StreamMessage) (drain : Drain) : Prop :=
  (∃ bytes, drain.collector = .of item.length.toNat bytes ∧
    bytes ++ payload drain.polls = payload item.data) ∨
  drain.collector.done = some item.collected

namespace StreamMessage.Drained

variable {drain : Drain}

/-- A collector that has taken everything hands the payload back. -/
theorem finish {bytes : Bytes} (h : bytes = payload item.data) :
    (ByteCollector.of item.length.toNat bytes).finish.done = some item.collected := by
  rw [h]
  rfl

/-- A collector that has handed the payload back does so only once. -/
theorem done_pollConsume {c : ByteCollector} {result : CollectedPayload} (h : c.done = some result)
    (available : Bytes) (finish : Bool) : (c.pollConsume available finish).done = some result := by
  unfold ByteCollector.pollConsume ByteCollector.consume ByteCollector.finish
  dsimp only
  split
  · split <;> exact h
  · split
    · rw [h]
      exact h
    · exact h

/-- A new collector. -/
theorem new (item : StreamMessage) :
    item.Drained { collector := .new item.length.toNat, polls := item.data } :=
  .inl ⟨[], (ByteCollector.of_nil _).symm, rfl⟩

/-- One poll of a collector. -/
theorem poll (h : item.Drained drain) : item.Drained drain.poll := by
  unfold Drain.poll
  split
  · next available finish polls hpolls =>
    rcases h with ⟨bytes, hcollector, hbytes⟩ | hdone
    · rw [hpolls, payload] at hbytes
      rw [hcollector]
      by_cases hpos : available.length > 0
      · rw [if_pos hpos] at hbytes
        refine .inl ⟨bytes ++ available, ?_, by rw [List.append_assoc, hbytes]⟩
        have hconsume := ByteCollector.consume_of item.length.toNat bytes available
        rwa [ByteCollector.pollConsume, if_pos hpos]
      · rw [if_neg hpos] at hbytes
        cases finish with
        | true =>
          refine .inr ?_
          rw [ByteCollector.pollConsume, if_neg hpos, if_pos rfl]
          exact StreamMessage.Drained.finish (by simpa using hbytes)
        | false =>
          refine .inl ⟨bytes, ?_, by simpa using hbytes⟩
          rw [ByteCollector.pollConsume, if_neg hpos, if_neg Bool.false_ne_true]
    · exact .inr (done_pollConsume hdone available finish)
  · next hpolls =>
    rcases h with ⟨bytes, hcollector, hbytes⟩ | hdone
    · rw [hpolls, payload, List.append_nil] at hbytes
      rw [hcollector]
      exact .inr (StreamMessage.Drained.finish hbytes)
    · refine .inr ?_
      show drain.collector.finish.done = _
      rw [ByteCollector.finish, hdone]
      exact hdone

/-- What a collector has sent is the payload of its element. -/
theorem eq_collected (h : item.Drained drain) {result : CollectedPayload}
    (hdone : drain.collector.done = some result) : result = item.collected := by
  rcases h with ⟨bytes, hcollector, -⟩ | h
  · rw [hcollector] at hdone
    cases hdone
  · exact Option.some.inj (hdone.symm.trans h)

end StreamMessage.Drained

/-! ### The consumers -/

/-- An element of a list with one more at its end. -/
theorem getElem?_snoc {α : Type} {l : List α} {a b : α} {i : Nat} (h : (l ++ [a])[i]? = some b) :
    l[i]? = some b ∨ i = l.length ∧ a = b := by
  rw [List.getElem?_append, List.getElem?_singleton] at h
  split at h
  · exact .inl h
  · split at h
    · exact .inr ⟨by omega, Option.some.inj h⟩
    · cases h

/-- The collectors and the channel, when the driver has taken some elements: those ahead are still to be
brought, and each collector and each `PendingSend` is that of its element. -/
structure Sending.Piped (items rest : List StreamMessage) (taken : Nat) (s : Sending) : Prop where
  ahead : items.drop s.drains.length = rest
  drains : ∀ (i : Nat) (drain : Drain), s.drains[i]? = some drain →
    ∃ item : StreamMessage, items[i]? = some item ∧ item.Drained drain
  rx : taken + s.rx.length = s.drains.length
  pending : ∀ (i : Nat) (pending : PendingSend), s.rx[i]? = some pending →
    ∃ item : StreamMessage, items[taken + i]? = some item ∧ pending = item.pendingSend (taken + i)

namespace Sending

/-- The call has not returned. -/
def running (s : Sending) : Bool :=
  match s.pc with
  | .returned _ => false
  | .next | .draining _ | .sending _ => true

namespace Piped

theorem congr (h : s.Piped items rest taken) (hdrains : s'.drains = s.drains) (hrx : s'.rx = s.rx) :
    s'.Piped items rest taken := by
  obtain ⟨hahead, hd, hr, hp⟩ := h
  rw [← hdrains] at hahead hd hr
  rw [← hrx] at hr hp
  exact ⟨hahead, hd, hr, hp⟩

/-- The next element is piped. -/
theorem pipe (h : s.Piped items (item :: rest) taken) (hrunning : s.running = true) :
    (s.pipe item).Piped items rest taken := by
  have hitem : items[s.drains.length]? = some item := by
    rw [← List.head?_drop, h.ahead]
    rfl
  have hrx : (s.pipe item).rx = s.rx ++ [item.pendingSend s.drains.length] := by
    unfold running at hrunning
    unfold Sending.pipe
    split at hrunning
    · cases hrunning
    all_goals next hpc => rw [hpc]
  have hdrains : (s.pipe item).drains =
      s.drains ++ [{ collector := .new item.length.toNat, polls := item.data }] := rfl
  refine ⟨?_, ?_, ?_, ?_⟩
  · rw [hdrains, List.length_append, List.length_singleton, ← List.drop_drop, h.ahead]
    rfl
  · intro i drain hi
    rw [hdrains] at hi
    rcases getElem?_snoc hi with hold | ⟨rfl, rfl⟩
    · exact h.drains i drain hold
    · exact ⟨item, hitem, .new item⟩
  · rw [hrx, hdrains, List.length_append, List.length_append, List.length_singleton,
      List.length_singleton, ← Nat.add_assoc, h.rx]
  · intro i pending hi
    rw [hrx] at hi
    rcases getElem?_snoc hi with hold | ⟨rfl, rfl⟩
    · exact h.pending i pending hold
    · rw [h.rx]
      exact ⟨item, hitem, rfl⟩

/-- All the elements of a batch are piped. -/
theorem foldl_pipe {batch : List StreamMessage} (h : s.Piped items (batch ++ rest) taken)
    (hrunning : s.running = true) : (batch.foldl Sending.pipe s).Piped items rest taken := by
  induction batch generalizing s with
  | nil => exact h
  | cons item batch ih => exact ih (h.pipe hrunning) hrunning

/-- One poll of a collector. -/
theorem drainPayload (h : s.Piped items rest taken) {i : Nat} (hs : s.drainPayload i = some s') :
    s'.Piped items rest taken := by
  obtain ⟨drain, hdrain, rfl⟩ := Option.map_eq_some_iff.mp hs
  refine ⟨?_, fun j drain' hj => ?_, ?_, h.pending⟩
  · show items.drop (s.drains.set i drain.poll).length = rest
    rw [List.length_set]
    exact h.ahead
  · replace hj : (s.drains.set i drain.poll)[j]? = some drain' := hj
    by_cases hij : i = j
    · subst hij
      rw [List.getElem?_set_self (List.getElem?_eq_some_iff.mp hdrain).1] at hj
      obtain rfl := Option.some.inj hj
      obtain ⟨item, hitem, hdrained⟩ := h.drains i drain hdrain
      exact ⟨item, hitem, hdrained.poll⟩
    · rw [List.getElem?_set_ne hij] at hj
      exact h.drains j drain' hj
  · show taken + s.rx.length = (s.drains.set i drain.poll).length
    rw [List.length_set]
    exact h.rx

/-- The driver takes the next `PendingSend`. -/
theorem next (h : s.Piped items rest taken) {pending : PendingSend} {rx : List PendingSend}
    (hrx : s.rx = pending :: rx) :
    (∃ item, items[taken]? = some item ∧ pending = item.pendingSend taken) ∧
      ({ s with rx := rx, pc := .draining pending } : Sending).Piped items rest (taken + 1) := by
  have hlength : taken + 1 + rx.length = s.drains.length := by
    have hrx' := h.rx
    rw [hrx, List.length_cons] at hrx'
    omega
  refine ⟨h.pending 0 pending (by rw [hrx]; rfl), h.ahead, h.drains, hlength, fun i pending' hi => ?_⟩
  rw [Nat.add_right_comm, Nat.add_assoc]
  exact h.pending (i + 1) pending' (by rw [hrx]; exact hi)

/-- What a collector has sent is the payload of its element. -/
theorem done (h : s.Piped items rest taken) {i : Nat} (hitem : items[i]? = some item)
    {payload : CollectedPayload} (hdone : s.done i = some payload) : payload = item.collected := by
  obtain ⟨drain, hdrain, hsent⟩ := Option.bind_eq_some_iff.mp hdone
  obtain ⟨item', hitem', hdrained⟩ := h.drains i drain hdrain
  obtain rfl := Option.some.inj (hitem.symm.trans hitem')
  exact hdrained.eq_collected hsent

end Piped

/-! ### The driver -/

/-- What the elements of a stream are. -/
abbrev decoded (items : List StreamMessage) : List (Except Error Message) :=
  items.map StreamMessage.message

/-- The books of the driver when it has sent these messages. -/
structure Counted (items : List StreamMessage) (handed : List Message) (s : Sending) : Prop where
  sent : Sent (decoded items) handed (decoded (items.drop handed.length)) s.results
  count : s.sent = handed.length

/-- The call returns what it should: a local close that it has seen ended it, or it returns what a
sender returns that takes one element after the other. -/
def Plain (items : List StreamMessage) (s : Sending) (result : Except SendViaStreamError Unit) : Prop :=
  (s.localClosed = true ∧ result = .error { error := .closed, sent := s.sent } ∧
    s.results = List.replicate s.sent (.ok ())) ∨
  sendAll (decoded items) s.results 0 = some (result.mapError fun err => (err.error, err.sent))

/-- The invariant of a call on a stream of these elements, by where its driver is. -/
def Sound (items : List StreamMessage) (s : Sending) : Prop :=
  (s.piped = false → s.batches = []) ∧ s.handed.map .ok <+: decoded items ∧
  match s.pc with
  | .next => s.Piped items s.batches.flatten s.handed.length ∧ s.Counted items s.handed
  | .draining pending =>
    (∃ item, items[s.handed.length]? = some item ∧ pending = item.pendingSend s.handed.length) ∧
      s.Piped items s.batches.flatten (s.handed.length + 1) ∧ s.Counted items s.handed
  | .sending _ =>
    ∃ handed message ahead, s.handed = handed ++ [message] ∧
      decoded (items.drop handed.length) = .ok message :: ahead ∧
      s.Piped items s.batches.flatten s.handed.length ∧ s.Counted items handed
  | .returned result => s.Plain items result

namespace Counted

variable {handed : List Message}

theorem congr (h : s.Counted items handed) (hresults : s'.results = s.results)
    (hsent : s'.sent = s.sent) : s'.Counted items handed := by
  refine ⟨?_, hsent.trans h.count⟩
  rw [hresults]
  exact h.sent

/-- What is ahead of the driver begins with this element. -/
theorem drop_eq (hitem : items[handed.length]? = some item) :
    decoded (items.drop handed.length) =
      item.message :: decoded (items.drop (handed.length + 1)) := by
  obtain ⟨hlt, hget⟩ := List.getElem?_eq_some_iff.mp hitem
  rw [List.drop_eq_getElem_cons hlt, hget]
  rfl

/-- The driver sees a local close. -/
theorem closed (h : s.Counted items handed) (hclosed : s.localClosed = true) :
    s.Plain items (.error { error := .closed, sent := s.sent }) := by
  refine .inl ⟨hclosed, rfl, ?_⟩
  rw [h.sent.answers, h.count]

/-- The stream has ended. -/
theorem ends (h : s.Counted items handed) (hend : items.drop handed.length = []) :
    s.Plain items (.ok ()) := by
  have hsent := h.sent
  rw [hend] at hsent
  exact .inr hsent.ends

/-- The next element is no message. -/
theorem stops (h : s.Counted items handed) (hitem : items[handed.length]? = some item) {error : Error}
    (herror : item.message = .error error) :
    s.Plain items (.error { error := error, sent := s.sent }) := by
  have hsent := h.sent
  rw [drop_eq hitem, herror] at hsent
  rw [h.count]
  exact .inr hsent.stops

/-- A `send` returns: the next element was a message. -/
theorem sendReturns (h : s.Counted items handed) {message : Message}
    {ahead : List (Except Error Message)}
    (hahead : decoded (items.drop handed.length) = .ok message :: ahead)
    (result : Except Error Unit) :
    (result = .ok () → (s.sendReturns result).Counted items (handed ++ [message])) ∧
      ∀ error, result = .error error →
        (s.sendReturns result).Plain items (.error { error := error, sent := s.sent }) := by
  have hsent := h.sent
  rw [hahead] at hsent
  refine ⟨?_, ?_⟩
  · rintro rfl
    have htail : decoded (items.drop (handed ++ [message]).length) = ahead := by
      rw [List.length_append, List.length_singleton, ← List.drop_drop, List.drop_one, decoded,
        List.map_tail]
      exact congrArg List.tail hahead
    refine ⟨?_, ?_⟩
    · rw [htail]
      exact hsent.snoc
    · show s.sent + 1 = (handed ++ [message]).length
      rw [h.count, List.length_append, List.length_singleton]
  · rintro error rfl
    refine .inr ?_
    rw [h.count]
    exact hsent.fails error

end Counted

namespace Sound

/-- The driver hands the message of the next element over. -/
theorem send (hended : s.piped = false → s.batches = []) {message : Message}
    (hitem : items[s.handed.length]? = some item) (hmessage : item.message = .ok message)
    (hpiped : s.Piped items s.batches.flatten (s.handed.length + 1))
    (hcounted : s.Counted items s.handed) : (s.send message).Sound items := by
  have hahead := Counted.drop_eq hitem
  rw [hmessage] at hahead
  have hsent := hcounted.sent
  unfold Sending.send
  split
  · exact ⟨hended, hsent.isPrefix, (hcounted.sendReturns hahead _).2 _ rfl⟩
  · rw [hahead] at hsent
    refine ⟨hended, hsent.snoc.isPrefix, s.handed, message, _, rfl, hahead, ?_, ?_⟩
    · have hlength : (s.handed ++ [message]).length = s.handed.length + 1 := by simp
      show Piped items s.batches.flatten (s.handed ++ [message]).length _
      rw [hlength]
      exact hpiped.congr rfl rfl
    · exact hcounted.congr rfl rfl

/-- One poll of the driver. -/
theorem poll (h : s.Sound items) (hs : s.poll = some s') : s'.Sound items := by
  obtain ⟨hended, hinit, hpc⟩ := h
  unfold Sending.poll at hs
  split at hs
  · next hnext =>
    rw [hnext] at hpc
    obtain ⟨hpiped, hcounted⟩ := hpc
    split at hs
    · next pending rx hrx =>
      obtain rfl := Option.some.inj hs
      obtain ⟨hitem, hpiped'⟩ := hpiped.next hrx
      exact ⟨hended, hinit, hitem, hpiped', hcounted.congr rfl rfl⟩
    · next hrx =>
      split at hs
      · split at hs
        · next hclosed =>
          obtain rfl := Option.some.inj hs
          exact ⟨hended, hinit, hcounted.closed hclosed⟩
        · cases hs
      · next hpipe =>
        obtain rfl := Option.some.inj hs
        refine ⟨hended, hinit, hcounted.ends ?_⟩
        -- every element has been piped, and the driver has taken them all
        have hrest := hpiped.ahead
        rw [hended (Bool.eq_false_iff.mpr hpipe), ← hpiped.rx, hrx] at hrest
        exact hrest
  · next pending hdraining =>
    rw [hdraining] at hpc
    obtain ⟨⟨item, hitem, rfl⟩, hpiped, hcounted⟩ := hpc
    split at hs
    · next payload hdone =>
      obtain rfl := Option.some.inj hs
      obtain rfl := hpiped.done hitem hdone
      unfold Sending.check
      split
      · next message hmessage => exact .send hended hitem hmessage hpiped hcounted
      · next error herror => exact ⟨hended, hinit, hcounted.stops hitem herror⟩
    · split at hs
      · next hclosed =>
        obtain rfl := Option.some.inj hs
        exact ⟨hended, hinit, hcounted.closed hclosed⟩
      · cases hs
  · next result hsending =>
    rw [hsending] at hpc
    obtain ⟨handed, message, ahead, hhanded, hahead, hpiped, hcounted⟩ := hpc
    obtain rfl := Option.some.inj hs
    obtain ⟨hok, herror⟩ := hcounted.sendReturns hahead result
    cases result with
    | ok u =>
      refine ⟨hended, hinit, hpiped.congr rfl rfl, ?_⟩
      show Counted items s.handed _
      rw [hhanded]
      exact hok rfl
    | error error => exact ⟨hended, hinit, herror error rfl⟩
  · next hsending =>
    rw [hsending] at hpc
    obtain ⟨handed, message, ahead, hhanded, hahead, hpiped, hcounted⟩ := hpc
    split at hs
    · next hclosed =>
      obtain rfl := Option.some.inj hs
      exact ⟨hended, hinit, hcounted.closed hclosed⟩
    · cases hs
  · cases hs

/-- What happens beside the driver keeps the invariant, if the collectors and the channel stay those
of the elements while the driver runs, and a local close stays. -/
theorem beside (h : s.Sound items) (hended : s'.piped = false → s'.batches = [])
    (hpc : s'.pc = s.pc) (hhanded : s'.handed = s.handed) (hresults : s'.results = s.results)
    (hsent : s'.sent = s.sent) (hclosed : s.localClosed = true → s'.localClosed = true)
    (hpiped : ∀ taken, s.running = true → s.Piped items s.batches.flatten taken →
      s'.Piped items s'.batches.flatten taken) : s'.Sound items := by
  obtain ⟨-, hinit, hstate⟩ := h
  have hrunning (hne : ∀ result, s.pc ≠ .returned result) : s.running = true := by
    unfold running
    split
    · next result hreturned => exact absurd hreturned (hne result)
    all_goals rfl
  refine ⟨hended, by rw [hhanded]; exact hinit, ?_⟩
  rw [hpc, hhanded]
  split at hstate
  · next hnext =>
    have hrun := hrunning fun result hreturned => by rw [hnext] at hreturned; cases hreturned
    exact ⟨hpiped _ hrun hstate.1, hstate.2.congr hresults hsent⟩
  · next pending hdraining =>
    have hrun := hrunning fun result hreturned => by rw [hdraining] at hreturned; cases hreturned
    exact ⟨hstate.1, hpiped _ hrun hstate.2.1, hstate.2.2.congr hresults hsent⟩
  · next ack hsending =>
    have hrun := hrunning fun result hreturned => by rw [hsending] at hreturned; cases hreturned
    obtain ⟨handed, message, ahead, hsplit, hahead, hp, hc⟩ := hstate
    exact ⟨handed, message, ahead, hsplit, hahead, hpiped _ hrun hp, hc.congr hresults hsent⟩
  · next result hreturned =>
    unfold Plain at hstate ⊢
    rw [hresults, hsent]
    exact hstate.imp_left fun hc => ⟨hclosed hc.1, hc.2⟩

/-- The consumer of the stream adds collectors, and elements to the channel. -/
theorem foldl_pipe_eq (batch : List StreamMessage) (s : Sending) :
    ∃ drains rx, batch.foldl Sending.pipe s = { s with drains := drains, rx := rx } := by
  induction batch generalizing s with
  | nil => exact ⟨_, _, rfl⟩
  | cons item batch ih => exact ih (s.pipe item)

/-- The outer stream brings a batch. -/
theorem consume (h : s.Sound items) (hs : s.consume = some s') : s'.Sound items := by
  unfold Sending.consume at hs
  split at hs
  · next batch batches hbatches =>
    obtain rfl := Option.some.inj hs
    obtain ⟨drains, rx, heq⟩ := foldl_pipe_eq batch { s with batches := batches }
    refine h.beside (fun hpiped => ?_)
      (by rw [heq]) (by rw [heq]) (by rw [heq]) (by rw [heq]) (by rw [heq]; exact id)
      fun taken hrun hp => ?_
    · rw [heq] at hpiped
      have hnil := h.1 hpiped
      rw [hbatches] at hnil
      cases hnil
    · rw [hbatches, List.flatten_cons] at hp
      have hpiped := Piped.foldl_pipe (s := { s with batches := batches }) (hp.congr rfl rfl) hrun
      have hrest : (batch.foldl Sending.pipe { s with batches := batches }).batches = batches := by
        rw [heq]
      rwa [hrest]
  · cases hs

/-- Every move keeps the invariant. -/
theorem step (h : s.Sound items) {a : SendAction} (hs : sendStep s a = some s') : s'.Sound items := by
  cases a with
  | poll => exact h.poll hs
  | consume => exact h.consume hs
  | endStream =>
    simp only [sendStep, Sending.endStream] at hs
    split at hs
    · next hend =>
      obtain rfl := Option.some.inj hs
      exact h.beside (fun _ => hend.1) rfl rfl rfl rfl id fun taken _ hp => hp.congr rfl rfl
    · cases hs
  | drain i =>
    have hdrain := hs
    obtain ⟨drain, -, rfl⟩ := Option.map_eq_some_iff.mp hs
    exact h.beside h.1 rfl rfl rfl rfl id fun taken _ hp => hp.drainPayload hdrain
  | acknowledged result =>
    simp only [sendStep, Sending.acknowledge] at hs
    split at hs
    · next hsending =>
      obtain rfl := Option.some.inj hs
      obtain ⟨hended, hinit, hstate⟩ := h
      rw [hsending] at hstate
      obtain ⟨handed, message, ahead, hsplit, hahead, hp, hc⟩ := hstate
      exact ⟨hended, hinit, handed, message, ahead, hsplit, hahead, hp.congr rfl rfl,
        hc.congr rfl rfl⟩
    all_goals cases hs
  | close =>
    obtain rfl := Option.some.inj hs
    exact h.beside h.1 rfl rfl rfl rfl (fun _ => rfl) fun taken _ hp => hp.congr rfl rfl
  | pumpExits =>
    obtain rfl := Option.some.inj hs
    exact h.beside h.1 rfl rfl rfl rfl id fun taken _ hp => hp.congr rfl rfl

end Sound

/-- A call that begins. -/
theorem start_sound (localClosed cmdsClosed : Bool) (batches : List (List StreamMessage)) :
    (start localClosed cmdsClosed batches).Sound batches.flatten := by
  have hcounted (s : Sending) (hresults : s.results = []) (hsent : s.sent = 0) :
      s.Counted batches.flatten [] := by
    refine ⟨?_, hsent⟩
    rw [hresults]
    exact .nil _
  unfold start
  dsimp only
  split
  · next hclosed =>
    exact ⟨nofun, List.nil_prefix, (hcounted _ rfl rfl).closed hclosed⟩
  · exact ⟨nofun, List.nil_prefix, ⟨rfl, nofun, rfl, nofun⟩, hcounted _ rfl rfl⟩

end Sending

/-- The invariant of a call holds in every run. -/
theorem sending_sound {batches : List (List StreamMessage)} (h : (sendSystem batches).Reachable s) :
    s.Sound batches.flatten := by
  refine h.induction (I := fun s => s.Sound batches.flatten) ?_ fun s a s' _ hi hs => hi.step hs
  rintro s ⟨localClosed, cmdsClosed, rfl⟩
  exact Sending.start_sound localClosed cmdsClosed batches

/-- However its payloads are drained beside it, a call hands over the messages of the first elements of
its stream, in order and each once, and returns what a sender returns that takes one element after the
other, unless a local close has ended it. -/
theorem send_via_stream_plain {batches : List (List StreamMessage)}
    (h : (sendSystem batches).Reachable s) :
    s.handed.map .ok <+: Sending.decoded batches.flatten ∧
      ∀ result, s.pc = .returned result → s.Plain batches.flatten result := by
  obtain ⟨-, hinit, hpc⟩ := sending_sound h
  refine ⟨hinit, fun result hreturned => ?_⟩
  rw [hreturned] at hpc
  exact hpc

/-- The payload of the second element has been drained before that of the first one, and the pump
refuses the second message. -/
theorem send_via_stream_plain_overtaken :
    ∃ s, (sendSystem [[⟨.binary, 2, [([7], false), ([8], false)]⟩, ⟨.string, 0, []⟩]]).Reachable s ∧
      s.handed = [.binary [7, 8], .string ""] ∧
      s.pc = .returned (.error { error := .other "gone", sent := 1 }) ∧
      s.Plain [⟨.binary, 2, [([7], false), ([8], false)]⟩, ⟨.string, 0, []⟩]
        (.error { error := .other "gone", sent := 1 }) := by
  have hrun : (sendSystem [[⟨.binary, 2, [([7], false), ([8], false)]⟩, ⟨.string, 0, []⟩]]).run
      (.start false false [[⟨.binary, 2, [([7], false), ([8], false)]⟩, ⟨.string, 0, []⟩]])
      [.consume, .endStream, .drain 1, .poll, .drain 0, .drain 0, .drain 0, .poll,
        .acknowledged (some (.ok ())), .poll, .poll, .poll,
        .acknowledged (some (.error (.other "gone"))), .poll] = some _ := rfl
  have hstart : (sendSystem [[⟨.binary, 2, [([7], false), ([8], false)]⟩, ⟨.string, 0, []⟩]]).Reachable
      (.start false false [[⟨.binary, 2, [([7], false), ([8], false)]⟩, ⟨.string, 0, []⟩]]) :=
    .of_init ⟨false, false, rfl⟩
  have hreach := hstart.run hrun
  exact ⟨_, hreach, rfl, rfl, (send_via_stream_plain hreach).2 _ rfl⟩

/-! ### After a local close -/

/-- How many polls are left to a driver that sees a local close. -/
def SendPc.rank : SendPc → Nat
  | .sending _ => 3
  | .next => 2
  | .draining _ => 1
  | .returned _ => 0

theorem SendPc.rank_le : ∀ pc : SendPc, pc.rank ≤ 3
  | .sending _ => le_rfl
  | .next => by decide
  | .draining _ => Nat.succ_le_succ (Nat.zero_le 2)
  | .returned _ => Nat.zero_le 3

namespace Sending

/-- With a local close a `send` is refused. -/
theorem send_of_closed (hclosed : s.localClosed = true) (message : Message) :
    s.send message = s.sendReturns (.error .closed) := by
  rw [send, hclosed, Bool.true_or, if_pos rfl]

/-- A poll after a local close hands nothing over, and brings the driver nearer to its end. -/
theorem poll_of_closed (hclosed : s.localClosed = true) (hs : s.poll = some s') :
    s'.localClosed = true ∧ s'.handed = s.handed ∧ s'.pc.rank + 1 ≤ s.pc.rank := by
  have hreturns (result : Except SendViaStreamError Unit) (n : Nat) :
      (SendPc.returned result).rank + 1 ≤ n + 1 :=
    Nat.succ_le_succ (Nat.zero_le n)
  unfold poll at hs
  split at hs
  · next hpc =>
    rw [hpc]
    split at hs
    · obtain rfl := Option.some.inj hs
      exact ⟨hclosed, rfl, le_rfl⟩
    · rw [if_pos hclosed] at hs
      split at hs
      · obtain rfl := Option.some.inj hs
        exact ⟨hclosed, rfl, hreturns _ 1⟩
      · obtain rfl := Option.some.inj hs
        exact ⟨hclosed, rfl, hreturns _ 1⟩
  · next hpc =>
    rw [hpc]
    split at hs
    · obtain rfl := Option.some.inj hs
      unfold check
      split
      · rw [send_of_closed hclosed]
        exact ⟨hclosed, rfl, le_rfl⟩
      · exact ⟨hclosed, rfl, le_rfl⟩
    · rw [if_pos hclosed] at hs
      obtain rfl := Option.some.inj hs
      exact ⟨hclosed, rfl, le_rfl⟩
  · next result hpc =>
    rw [hpc]
    obtain rfl := Option.some.inj hs
    cases result with
    | ok u => exact ⟨hclosed, rfl, le_rfl⟩
    | error error => exact ⟨hclosed, rfl, hreturns _ 2⟩
  · next hpc =>
    rw [hpc]
    rw [if_pos hclosed] at hs
    obtain rfl := Option.some.inj hs
    exact ⟨hclosed, rfl, hreturns _ 2⟩
  · cases hs

/-- A driver that sees a local close waits for nothing. -/
theorem returned_of_poll (hclosed : s.localClosed = true) (hs : s.poll = none) :
    ∃ result, s.pc = .returned result := by
  unfold poll at hs
  rw [hclosed] at hs
  split at hs
  · split at hs
    · cases hs
    · split at hs <;> cases hs
  · split at hs <;> cases hs
  · cases hs
  · cases hs
  · next result hpc => exact ⟨result, hpc⟩

/-- A move after a local close hands nothing over; only the polls of the driver count. -/
theorem step_of_closed {a : SendAction} (hclosed : s.localClosed = true) (hs : sendStep s a = some s') :
    s'.localClosed = true ∧ s'.handed = s.handed ∧
      s'.pc.rank + (if a = .poll then 1 else 0) ≤ s.pc.rank := by
  cases a with
  | poll => exact poll_of_closed hclosed hs
  | consume =>
    simp only [sendStep, consume] at hs
    split at hs
    · next batch batches _ =>
      obtain rfl := Option.some.inj hs
      obtain ⟨drains, rx, heq⟩ := Sound.foldl_pipe_eq batch { s with batches := batches }
      rw [heq]
      exact ⟨hclosed, rfl, le_rfl⟩
    · cases hs
  | endStream =>
    simp only [sendStep, endStream] at hs
    split at hs
    · obtain rfl := Option.some.inj hs
      exact ⟨hclosed, rfl, le_rfl⟩
    · cases hs
  | drain i =>
    obtain ⟨drain, -, rfl⟩ := Option.map_eq_some_iff.mp hs
    exact ⟨hclosed, rfl, le_rfl⟩
  | acknowledged result =>
    simp only [sendStep, acknowledge] at hs
    split at hs
    · next hpc =>
      obtain rfl := Option.some.inj hs
      rw [hpc]
      exact ⟨hclosed, rfl, le_rfl⟩
    all_goals cases hs
  | close =>
    obtain rfl := Option.some.inj hs
    exact ⟨rfl, rfl, le_rfl⟩
  | pumpExits =>
    obtain rfl := Option.some.inj hs
    exact ⟨hclosed, rfl, le_rfl⟩

/-- A run after a local close. -/
theorem run_of_closed {batches : List (List StreamMessage)} {actions : List SendAction}
    (hclosed : s.localClosed = true) (hrun : (sendSystem batches).run s actions = some s') :
    s'.localClosed = true ∧ s'.handed = s.handed ∧
      s'.pc.rank + actions.count .poll ≤ s.pc.rank := by
  induction actions generalizing s with
  | nil =>
    obtain rfl := Option.some.inj hrun
    exact ⟨hclosed, rfl, le_rfl⟩
  | cons a actions ih =>
    obtain ⟨s₁, hstep, hrest⟩ := Option.bind_eq_some_iff.mp hrun
    obtain ⟨hclosed₁, hhanded₁, hrank₁⟩ := step_of_closed hclosed hstep
    obtain ⟨hclosed', hhanded', hrank'⟩ := ih hclosed₁ hrest
    refine ⟨hclosed', hhanded'.trans hhanded₁, ?_⟩
    rw [List.count_cons]
    simp only [beq_iff_eq]
    omega

end Sending

/-- Once the connection is closed locally, a call hands no message over any more, and it waits for
nothing: at most three polls of its driver later it has returned. -/
theorem send_via_stream_stops {batches : List (List StreamMessage)} {actions : List SendAction}
    (hclosed : s.localClosed = true) (hrun : (sendSystem batches).run s actions = some s') :
    s'.handed = s.handed ∧ actions.count .poll ≤ 3 ∧
      (s'.poll = none → ∃ result, s'.pc = .returned result) := by
  obtain ⟨hclosed', hhanded, hrank⟩ := Sending.run_of_closed hclosed hrun
  refine ⟨hhanded, ?_, Sending.returned_of_poll hclosed'⟩
  have hthree := s.pc.rank_le
  omega

/-- An acknowledgement that arrives with the local close still counts, and two polls later the call has
failed. -/
theorem send_via_stream_stops_acknowledged :
    ∃ s s' : Sending, s.localClosed = true ∧
      (sendSystem [[⟨.binary, 0, []⟩]]).run s [.acknowledged (some (.ok ())), .poll, .poll] = some s' ∧
      s'.pc = .returned (.error { error := .closed, sent := 1 }) ∧ s'.handed = s.handed := by
  let s : Sending :=
    { localClosed := true, cmdsClosed := false, batches := [], piped := true,
      drains := [{ collector := ByteCollector.finish (.new 0), polls := [] }], rx := [],
      pc := .sending none, sent := 0, handed := [.binary []], results := [] }
  have hrun : (sendSystem [[⟨.binary, 0, []⟩]]).run s
      [.acknowledged (some (.ok ())), .poll, .poll] = some _ := rfl
  exact ⟨s, _, rfl, hrun, rfl, (send_via_stream_stops (s := s) rfl hrun).1⟩

end Polymorph.Host
