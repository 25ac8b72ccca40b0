import PolymorphWebsocket.Provider.Pump

/-!
# The guest provider: a protocol core

A `Tungstenite` that evaluates: the client side of the framing with the masking key zero, and the
closing states of the core.  It answers a ping with a pong and a peer's close frame with the same
frame, both only while the connection is active, and queues the answer for the next call.
-/

namespace Polymorph.Provider

/-- The closing states of the core. -/
inductive Phase
  | active
  | closedByUs
  | closedByPeer
  | closeAcknowledged
  deriving DecidableEq, Repr

/-- The state of the core: its closing state and the reply that waits for the next call. -/
structure Core where
  phase : Phase
  queued : Bytes
  deriving DecidableEq, Repr

namespace Core

/-- The core after the handshake. -/
def fresh : Core := { phase := .active, queued := [] }

/-- The low `width` bytes of a number, most significant first. -/
def bigEndian : Nat → Nat → Bytes
  | 0, _ => []
  | width + 1, n => bigEndian width (n / 256) ++ [UInt8.ofNat n]

/-- The payload length of a masked frame. -/
def lengthBytes (n : Nat) : Bytes :=
  if n ≤ 125 then [UInt8.ofNat (128 + n)]
  else if n ≤ 65535 then 254 :: bigEndian 2 n
  else 255 :: bigEndian 8 n

/-- One final frame with the masking key zero. -/
def frameBytes (opcode : UInt8) (payload : Bytes) : Bytes :=
  (128 + opcode) :: (lengthBytes payload.length ++ [0, 0, 0, 0] ++ payload)

/-- A data message as a frame. -/
def messageFrame : Message → Bytes
  | .binary bytes => frameBytes 2 bytes
  | .string text => frameBytes 1 text.toUTF8.toList

/-- A close frame. -/
def closeFrame : Option CloseFrame → Bytes
  | none => frameBytes 8 []
  | some frame => frameBytes 8 (bigEndian 2 frame.code.toNat ++ frame.reason.toUTF8.toList)

/-- `read()`: the queued reply is out, and a ping or a close frame queues the next one. -/
def read (core : Core) : Option Inbound → Core
  | some (.ping payload) =>
    { core with queued := if core.phase = .active then frameBytes 10 payload else [] }
  | some (.close frame) =>
    match core.phase with
    | .active => { phase := .closedByPeer, queued := closeFrame frame }
    | .closedByUs => { phase := .closeAcknowledged, queued := [] }
    | .closedByPeer | .closeAcknowledged => { core with queued := [] }
  | _ => { core with queued := [] }

/-- `send(message)`: refused once the closing handshake has begun. -/
def send (core : Core) (message : Message) : Except TungsteniteError Bytes × Core :=
  if core.phase = .active then (.ok (messageFrame message), { core with queued := [] })
  else (.error .sendAfterClosing, core)

/-- `close(frame)`: a close frame, unless the closing handshake has begun. -/
def close (core : Core) (frame : Option CloseFrame) : Except TungsteniteError Bytes × Core :=
  if core.phase = .active then
    (.ok (closeFrame frame), { phase := .closedByUs, queued := [] })
  else (.ok [], { core with queued := [] })

/-- The core as a `Tungstenite`. -/
abbrev tungstenite : Tungstenite where
  Ctx := Core
  queued := Core.queued
  read := Core.read
  send := Core.send
  close := Core.close

/-- The core queues its replies as tungstenite does. -/
theorem queuesReplies : tungstenite.QueuesReplies where
  read_queued c r hr := by
    rcases r with - | i
    · rfl
    cases i with
    | ping | close => simpa [Inbound.owesReply] using hr _ rfl
    | binary | text | pong | frame | capacity | connectionClosed | error => rfl
  send_queued c m frame c' h := by
    change Core.send c m = _ at h
    unfold Core.send at h
    split at h
    · cases h; rfl
    · cases h
  send_error c m err c' h := by
    change Core.send c m = _ at h
    unfold Core.send at h
    split at h <;> cases h
    rfl
  close_queued c f frame c' h := by
    change Core.close c f = _ at h
    unfold Core.close at h
    split at h <;> cases h <;> rfl
  close_error c f err c' h := by
    change Core.close c f = _ at h
    unfold Core.close at h
    split at h <;> cases h

/-- A connection over the core with this configuration, at clock zero. -/
def connection (closeTimeoutNs maxInboundBufferBytes : Nat)
    (h₁ : closeTimeoutNs < 2 ^ 64 := by decide) (h₂ : maxInboundBufferBytes < 2 ^ 32 := by decide) :
    State tungstenite :=
  State.start ⟨closeTimeoutNs, maxInboundBufferBytes, h₁, h₂⟩ fresh .empty 0

/-- A run from a connection over the core ends in a reachable state. -/
theorem reachable_of_run {closeTimeoutNs maxInboundBufferBytes : Nat}
    {h₁ : closeTimeoutNs < 2 ^ 64} {h₂ : maxInboundBufferBytes < 2 ^ 32} {actions : List Action}
    {s : State tungstenite}
    (h : (system tungstenite).run (connection closeTimeoutNs maxInboundBufferBytes h₁ h₂) actions =
      some s) : (system tungstenite).Reachable s :=
  Transition.System.Reachable.run (.of_init ⟨_, fresh, .empty, 0, rfl, rfl, rfl⟩) h

end Core

end Polymorph.Provider
