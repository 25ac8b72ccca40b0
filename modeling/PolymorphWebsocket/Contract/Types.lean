import Mathlib.Data.UInt
import Mathlib.Tactic.TypeStar

/-!
# The structural types of the package

The value types of `wit/websocket.wit` and the pieces both Rust implementations share word for
word: the forward-only lifecycle cell, the eager validation of close arguments, and the reading of
a peer's close frame as a `close-info`.
-/

namespace Polymorph

/-- A byte string. -/
abbrev Bytes := List UInt8

/-- The `message` variant: one WebSocket message. -/
inductive Message
  | binary (bytes : Bytes)
  | string (text : String)
  deriving DecidableEq, Repr

/-- The payload length in bytes that the inbound budgets count. -/
def Message.payloadLen : Message → Nat
  | .binary bytes => bytes.length
  | .string text => text.utf8ByteSize

/-- The bytes a payload stream of the message carries. -/
def Message.payload : Message → Bytes
  | .binary bytes => bytes
  | .string text => text.toUTF8.toList

/-- The `error` variant. -/
inductive Error
  | invalidUrl (message : String)
  | connectFailed (message : String)
  | closed
  | receivingViaStream
  | receiveBufferOverflow
  | invalidArgument (message : String)
  | other (message : String)
  deriving DecidableEq, Repr

instance decidableEqExcept {ε α : Type*} [DecidableEq ε] [DecidableEq α] :
    DecidableEq (Except ε α)
  | .ok a, .ok b => decidable_of_iff (a = b) ⟨congrArg Except.ok, Except.ok.inj⟩
  | .error e, .error f => decidable_of_iff (e = f) ⟨congrArg Except.error, Except.error.inj⟩
  | .ok _, .error _ | .error _, .ok _ => isFalse nofun

/-- The call failed with `closed`. -/
def failsClosed {α : Type} : Except Error α → Bool
  | .error .closed => true
  | _ => false

/-- The `close-info` record: the contents of a peer's close frame. -/
structure CloseInfo where
  /-- The close code, or 1005 if the frame carried none. -/
  code : UInt16
  /-- The close reason; empty if none. -/
  reason : String
  deriving DecidableEq, Repr

/-- The body of a close frame. -/
structure CloseFrame where
  code : UInt16
  reason : String
  deriving DecidableEq, Repr

/-- A peer's close frame as a `close-info`: a frame with no body reads as 1005 with an empty
reason. -/
def closeInfoFrom : Option CloseFrame → CloseInfo
  | some frame => { code := frame.code, reason := frame.reason }
  | none => { code := 1005, reason := "" }

/-- The frame body of a `close(code, reason)` command: the reason travels only with a code. -/
def closeFrameOf (code : Option UInt16) (reason : String) : Option CloseFrame :=
  code.map fun code => { code := code, reason := reason }

/-! ### The lifecycle cell -/

/-- Connection state, forward-only. -/
inductive WsState
  | open
  | closing
  | closed
  deriving DecidableEq, Repr

/-- The position of a state along open, closing, closed. -/
def WsState.rank : WsState → Nat
  | .open => 0
  | .closing => 1
  | .closed => 2

/-- `StateCell::advance`: regressions are ignored and `closed` latches. -/
def WsState.advance (current next : WsState) : WsState :=
  if next.rank > current.rank then next else current

/-! ### Close arguments -/

/-- `validate_close_args`: code 1000 or 3000-4999, a reason requires a code, and reasons cap at 123
UTF-8 bytes. -/
def validateCloseArgs (code : Option UInt16) (reason : String) : Except Error Unit :=
  let codeCheck : Except Error Unit :=
    match code with
    | some code =>
      if code ≠ 1000 ∧ ¬ (3000 ≤ code ∧ code ≤ 4999) then
        .error (.invalidArgument s!"close code must be 1000 or in 3000-4999, not {code}")
      else .ok ()
    | none =>
      if reason ≠ "" then .error (.invalidArgument "a close reason requires a close code")
      else .ok ()
  match codeCheck with
  | .error err => .error err
  | .ok () =>
    if reason.utf8ByteSize > 123 then
      .error (.invalidArgument
        s!"close reason must be at most 123 bytes, got {reason.utf8ByteSize}")
    else .ok ()

/-- The arguments of a close that drop implies pass the validation. -/
@[simp] theorem validateCloseArgs_none_empty : validateCloseArgs none "" = .ok () := by
  rfl

end Polymorph
