import Mathlib.Algebra.BigOperators.Group.List.Basic
import PolymorphWebsocket.Contract.Types

/-!
# What an inbound queue is for

An inbox accepts the messages that fit its limit, up to the first one that does not, and hands them
out in order, one for each receive call.  A call that finds none waits for the next one; the calls
that are left over when the connection ends fail.  An inbox is given by what it has accepted and how
many calls were made: what is queued and what has been handed out follows.
-/

namespace Polymorph

/-- What an inbox is told. -/
inductive InboxEvent
  | message (message : Message)
  | receive
  deriving DecidableEq, Repr

/-- The bytes of some messages. -/
def totalLen (messages : List Message) : Nat := (messages.map Message.payloadLen).sum

@[simp] theorem totalLen_nil : totalLen [] = 0 := rfl

@[simp] theorem totalLen_cons (message : Message) (messages : List Message) :
    totalLen (message :: messages) = message.payloadLen + totalLen messages := by
  simp [totalLen]

@[simp] theorem totalLen_append (before after : List Message) :
    totalLen (before ++ after) = totalLen before + totalLen after := by
  simp [totalLen]

/-- An inbox. -/
structure Inbox where
  limit : Nat
  accepted : List Message
  /-- How many receive calls were made. -/
  calls : Nat
  overflowed : Bool

namespace Inbox

variable (inbox : Inbox)

/-- An inbox that has been told nothing. -/
def new (limit : Nat) : Inbox where
  limit := limit
  accepted := []
  calls := 0
  overflowed := false

/-- The messages handed out. -/
def handed : List Message := inbox.accepted.take inbox.calls

/-- The messages accepted and not handed out. -/
def queued : List Message := inbox.accepted.drop inbox.calls

/-- How many calls are left over. -/
def unanswered : Nat := inbox.calls - inbox.accepted.length

/-- The error of the calls that are left over. -/
def endError : Error := if inbox.overflowed then .receiveBufferOverflow else .closed

/-- A message arrives. -/
def arrive (message : Message) : Inbox :=
  if inbox.overflowed then inbox
  else if totalLen inbox.queued + message.payloadLen > inbox.limit then
    { inbox with overflowed := true }
  else { inbox with accepted := inbox.accepted ++ [message] }

/-- A receive call is made. -/
def call : Inbox := { inbox with calls := inbox.calls + 1 }

/-- The inbox after an event. -/
def apply : InboxEvent → Inbox
  | .message message => inbox.arrive message
  | .receive => inbox.call

/-- The inbox after some events. -/
def run (events : List InboxEvent) : Inbox := events.foldl apply inbox

theorem run_append (before after : List InboxEvent) :
    inbox.run (before ++ after) = (inbox.run before).run after :=
  List.foldl_append

@[simp] theorem apply_limit (event : InboxEvent) : (inbox.apply event).limit = inbox.limit := by
  cases event with
  | receive => rfl
  | message message =>
    unfold apply arrive
    dsimp only
    split
    · rfl
    · split <;> rfl

@[simp] theorem run_limit (events : List InboxEvent) : (inbox.run events).limit = inbox.limit := by
  induction events generalizing inbox with
  | nil => rfl
  | cons event events ih => exact (ih (inbox.apply event)).trans (inbox.apply_limit event)

variable {inbox}

/-- A queue that has handed out a part of what was accepted and holds the rest is at the state of
the inbox, when no call waits beside a queued message. -/
theorem at_rest {returned queue : List Message} (haccepted : returned ++ queue = inbox.accepted)
    (hcalls : returned.length ≤ inbox.calls) (hrest : queue = [] ∨ inbox.calls = returned.length) :
    inbox.handed = returned ∧ inbox.queued = queue ∧
      inbox.unanswered = inbox.calls - returned.length := by
  unfold handed queued unanswered
  rw [← haccepted]
  rcases hrest with rfl | hcalls
  · rw [List.append_nil]
    exact ⟨List.take_of_length_le hcalls, List.drop_of_length_le hcalls, rfl⟩
  · rw [hcalls, List.length_append]
    exact ⟨List.take_left, List.drop_left, by omega⟩

/-- What an arrival does to an inbox with `queue` queued. -/
theorem arrive_cases (message : Message) {queue : List Message} (hqueue : inbox.queued = queue) :
    (inbox.overflowed = true ∧ inbox.arrive message = inbox) ∨
    (inbox.overflowed = false ∧ inbox.limit < totalLen queue + message.payloadLen ∧
      inbox.arrive message = { inbox with overflowed := true }) ∨
    (inbox.overflowed = false ∧ totalLen queue + message.payloadLen ≤ inbox.limit ∧
      inbox.arrive message = { inbox with accepted := inbox.accepted ++ [message] }) := by
  unfold arrive
  rw [hqueue]
  cases inbox.overflowed with
  | true => exact .inl ⟨rfl, rfl⟩
  | false =>
    by_cases hover : totalLen queue + message.payloadLen > inbox.limit
    · exact .inr (.inl ⟨rfl, hover, if_pos hover⟩)
    · exact .inr (.inr ⟨rfl, by omega, if_neg hover⟩)

end Inbox

end Polymorph
