import PolymorphWebsocket.Contract.Types

/-!
# What the pumps see of a transport

Both Rust pumps run tungstenite over their transport.  What its decoder makes of the bytes the peer
sent is an input of the models: one `Inbound` for every `read()` that does not return `WouldBlock`.
-/

namespace Polymorph

/-- What one `read()` of tungstenite returns, `WouldBlock` apart: a message, or the error that ends
the connection. -/
inductive Inbound
  | binary (bytes : Bytes)
  | text (text : String)
  | close (frame : Option CloseFrame)
  | ping (payload : Bytes)
  | pong (payload : Bytes)
  | frame
  | capacity
  | connectionClosed
  | error
  deriving DecidableEq, Repr

/-- The inbound frames tungstenite answers by itself. -/
def Inbound.owesReply : Inbound → Bool
  | .ping _ | .close _ => true
  | _ => false

/-- The outcomes after which nothing more is read. -/
def Inbound.terminal : Inbound → Bool
  | .capacity | .connectionClosed | .error => true
  | _ => false

/-- The data message of an outcome. -/
def Inbound.message? : Inbound → Option Message
  | .text data => some (.string data)
  | .binary data => some (.binary data)
  | _ => none

/-- The tungstenite errors the pumps tell apart when a call on the write side fails. -/
inductive TungsteniteError
  | connectionClosed
  | alreadyClosed
  | sendAfterClosing
  | other (message : String)
  deriving DecidableEq, Repr

/-- `map_write_err`: classify a transport write failure into the WIT error taxonomy. -/
def mapWriteErr : TungsteniteError → Error
  | .connectionClosed | .alreadyClosed | .sendAfterClosing => .closed
  | .other message => .other message

/-- What a transport write races: the choice is made when the write starts. -/
inductive WriteBound
  /-- No deadline was armed: wait for a local close, then arm the deadline. -/
  | localClose
  /-- Wait for the armed deadline. -/
  | deadline
  deriving DecidableEq, Repr

/-- The first accepted `close` call, and whether it was accepted while no peer close frame had been
read, no overflow was latched and the write side was alive. -/
structure CloseCall where
  frame : Option CloseFrame
  fresh : Bool
  deriving DecidableEq, Repr

end Polymorph
