import PolymorphWebsocket.Contract.Transport

/-!
# What a pump does, seen from outside

`Conduct` is what the guest and the peer see of a pump, the automatic replies and the lifecycle
value apart: the messages queued for the guest, the overflow latch, the frames and the close frames
the pump put on the wire, the answers to the `send` calls and the latched close details.  `apply`
says what one event does to it, for a pump whose writes complete at once and succeed; it names no
task, no channel and no suspension point.  Both Rust pumps are compared with it.
-/

namespace Polymorph

/-- The events a pump is fed. -/
inductive Event
  /-- A `send` command. -/
  | send (message : Message)
  /-- A `close` command. -/
  | close (code : Option UInt16) (reason : String)
  /-- What a `read()` of tungstenite returns. -/
  | inbound (outcome : Inbound)
  | endOfStream
  /-- The armed close deadline passes. -/
  | deadline
  deriving DecidableEq, Repr

/-- What a pump has done. -/
structure Conduct where
  limit : Nat
  /-- The messages queued for the guest. -/
  queue : List Message
  /-- Their bytes. -/
  used : Nat
  overflowed : Bool
  /-- The data frames, each with the `send` call it is of. -/
  frames : List (Nat × Message)
  /-- The close frames the pump initiated. -/
  closeFrames : List (Option CloseFrame)
  /-- The answers to the `send` calls. -/
  replies : List (Nat × Except Error Unit)
  nextId : Nat
  /-- A close frame has been sent or received. -/
  wireClosing : Bool
  /-- The peer's close frame. -/
  peerFrame : Option CloseInfo
  finalized : Bool
  /-- Latched at finalization. -/
  closeInfo : Option (Option CloseInfo)
  deriving DecidableEq

namespace Conduct

variable (a : Conduct)

/-- A pump that has done nothing. -/
def start (limit : Nat) : Conduct where
  limit := limit
  queue := []
  used := 0
  overflowed := false
  frames := []
  closeFrames := []
  replies := []
  nextId := 0
  wireClosing := false
  peerFrame := none
  finalized := false
  closeInfo := none

/-- Answer a `send` call. -/
def reply (id : Nat) (result : Except Error Unit) : Conduct :=
  { a with replies := a.replies ++ [(id, result)] }

/-- Put the data frame of a `send` call on the wire. -/
def frame (id : Nat) (message : Message) : Conduct :=
  { a with frames := a.frames ++ [(id, message)] }

/-- Initiate the closing handshake, once. -/
def beginClose (frame : Option CloseFrame) : Conduct :=
  if a.wireClosing then a
  else { a with wireClosing := true, closeFrames := a.closeFrames ++ [frame] }

/-- Queue a message. -/
def push (message : Message) : Conduct := { a with queue := a.queue ++ [message] }

/-- Count the bytes of a message. -/
def count (message : Message) : Conduct := { a with used := a.used + message.payloadLen }

/-- Latch the overflow. -/
def latchOverflow : Conduct := { a with overflowed := true }

/-- A data message: discarded once closing, queued if it fits, and a close otherwise. -/
def deliver (message : Message) : Conduct :=
  if a.wireClosing then a
  else if a.overflowed = false ∧ a.used + message.payloadLen ≤ a.limit then
    (a.count message).push message
  else a.latchOverflow.beginClose none

/-- The end of the connection latches the peer's close frame. -/
def finalize : Conduct :=
  if a.finalized then a else { a with finalized := true, closeInfo := some a.peerFrame }

/-- The end of the connection, if it has come. -/
def endIf (ends : Bool) : Conduct := if ends then a.finalize else a

/-- The peer's close frame, the first one only. -/
def notePeerFrame (frame : Option CloseFrame) : Conduct :=
  { a with peerFrame := a.peerFrame.or (some (closeInfoFrom frame)), wireClosing := true }

/-- What a `read()` returns, before the end of the connection. -/
def read : Inbound → Conduct
  | .text text => a.deliver (.string text)
  | .binary bytes => a.deliver (.binary bytes)
  | .close frame => a.notePeerFrame frame
  | .ping _ | .pong _ | .frame => a
  | .capacity => (a.latchOverflow.beginClose none).finalize
  | .connectionClosed | .error => a.finalize

/-- A `read()` outcome, which nobody looks at after the end of the connection. -/
def inbound (outcome : Inbound) : Conduct := if a.finalized then a else a.read outcome

/-- A `send` command. -/
def send (id : Nat) (message : Message) : Conduct :=
  if a.finalized || a.wireClosing then a.reply id (.error .closed)
  else (a.frame id message).reply id (.ok ())

/-- A `close` command. -/
def close (code : Option UInt16) (reason : String) : Conduct :=
  if a.finalized then a else a.beginClose (closeFrameOf code reason)

/-- What one event does. -/
def apply (a : Conduct) : Event → Conduct
  | .send message => { a with nextId := a.nextId + 1 }.send a.nextId message
  | .close code reason => a.close code reason
  | .inbound outcome => a.inbound outcome
  | .endOfStream => a.finalize
  | .deadline => if a.wireClosing then a.finalize else a

/-! ### After the end of the connection -/

variable {a}

theorem finalized_finalize : a.finalize.finalized = true := by
  unfold finalize
  split
  · next h => exact h
  · rfl

/-- The end of the connection comes once. -/
theorem finalize_of_finalized (h : a.finalized = true) : a.finalize = a := by
  unfold finalize
  rw [if_pos h]

@[simp] theorem finalize_finalize : a.finalize.finalize = a.finalize :=
  finalize_of_finalized finalized_finalize

theorem endIf_of_finalized (h : a.finalized = true) (ends : Bool) : a.endIf ends = a := by
  cases ends with
  | false => rfl
  | true => exact finalize_of_finalized h

/-- The end comes once, whatever it comes from. -/
theorem endIf_or (ends ends' : Bool) : a.endIf (ends || ends') = (a.endIf ends).endIf ends' := by
  cases ends with
  | false => rfl
  | true => exact (endIf_of_finalized finalized_finalize ends').symm

/-- Nothing is read after the end. -/
theorem inbound_of_finalized (h : a.finalized = true) (outcome : Inbound) :
    a.inbound outcome = a := by
  unfold inbound
  rw [if_pos h]

/-- What arrives after the end changes nothing. -/
theorem foldl_inbound_of_finalized (h : a.finalized = true) (outcomes : List Inbound) :
    outcomes.foldl inbound a = a := by
  induction outcomes with
  | nil => rfl
  | cons outcome rest ih => rw [List.foldl_cons, inbound_of_finalized h, ih]

/-- Sends are refused after the end. -/
theorem send_of_finalized (h : a.finalized = true) (id : Nat) (message : Message) :
    a.send id message = a.reply id (.error .closed) := by
  unfold send
  rw [h]
  rfl

/-- Nothing is closed after the end. -/
theorem close_of_finalized (h : a.finalized = true) (code : Option UInt16) (reason : String) :
    a.close code reason = a := by
  unfold close
  rw [if_pos h]

/-- Before the end, what is read counts. -/
theorem inbound_of_live (h : a.finalized = false) (outcome : Inbound) :
    a.inbound outcome = a.read outcome := by
  unfold inbound
  rw [h]
  rfl

/-! ### One close frame -/

/-- A pump that has initiated a close frame is closing, and initiates no other. -/
structure ClosesOnce (a : Conduct) : Prop where
  once : a.closeFrames.length ≤ 1
  open_nil : a.wireClosing = false → a.closeFrames = []

theorem closesOnce_start (limit : Nat) : (start limit).ClosesOnce := ⟨Nat.zero_le 1, fun _ => rfl⟩

theorem ClosesOnce.beginClose (h : a.ClosesOnce) (frame : Option CloseFrame) :
    (a.beginClose frame).ClosesOnce := by
  unfold Conduct.beginClose
  split
  · exact h
  · next hw =>
    constructor
    · rw [h.open_nil (Bool.eq_false_iff.mpr hw)]
      exact le_refl 1
    · exact nofun

theorem ClosesOnce.finalize (h : a.ClosesOnce) : a.finalize.ClosesOnce := by
  unfold Conduct.finalize
  split
  · exact h
  · exact ⟨h.once, h.open_nil⟩

theorem ClosesOnce.latchOverflow (h : a.ClosesOnce) : a.latchOverflow.ClosesOnce :=
  ⟨h.once, h.open_nil⟩

theorem ClosesOnce.deliver (h : a.ClosesOnce) (message : Message) :
    (a.deliver message).ClosesOnce := by
  unfold Conduct.deliver
  split
  · exact h
  · split
    · exact ⟨h.once, h.open_nil⟩
    · exact h.latchOverflow.beginClose none

theorem ClosesOnce.read (h : a.ClosesOnce) (outcome : Inbound) : (a.read outcome).ClosesOnce := by
  cases outcome with
  | text text => exact h.deliver (.string text)
  | binary bytes => exact h.deliver (.binary bytes)
  | close frame => exact ⟨h.once, nofun⟩
  | ping | pong | frame => exact h
  | capacity => exact (h.latchOverflow.beginClose none).finalize
  | connectionClosed | error => exact h.finalize

theorem ClosesOnce.send (h : a.ClosesOnce) (id : Nat) (message : Message) :
    (a.send id message).ClosesOnce := by
  unfold Conduct.send
  split
  · exact ⟨h.once, h.open_nil⟩
  · exact ⟨h.once, h.open_nil⟩

/-- No event makes a pump initiate a second close frame. -/
theorem ClosesOnce.apply (h : a.ClosesOnce) (e : Event) : (a.apply e).ClosesOnce := by
  cases e with
  | send message =>
    have hnext : ({ a with nextId := a.nextId + 1 } : Conduct).ClosesOnce := ⟨h.once, h.open_nil⟩
    exact hnext.send a.nextId message
  | close code reason =>
    unfold Conduct.apply Conduct.close
    dsimp only
    split
    · exact h
    · exact h.beginClose _
  | inbound outcome =>
    unfold Conduct.apply Conduct.inbound
    dsimp only
    split
    · exact h
    · exact h.read outcome
  | endOfStream => exact h.finalize
  | deadline =>
    unfold Conduct.apply
    dsimp only
    split
    · exact h.finalize
    · exact h

/-- No sequence of events does. -/
theorem ClosesOnce.foldl (h : a.ClosesOnce) (es : List Event) :
    (es.foldl Conduct.apply a).ClosesOnce := by
  induction es generalizing a with
  | nil => exact h
  | cons e es ih => exact ih (h.apply e)

end Conduct

end Polymorph
