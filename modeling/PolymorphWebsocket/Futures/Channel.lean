import Mathlib.Tactic.TypeStar

/-!
# Unbounded channels and their arm in a `select!`

The receiving half of an unbounded single-consumer channel, as an async task polls it.  A receiver
that has handed out the end of its channel is *terminated*; a select loop does not poll the future
of a terminated stream again, so an arm on such a receiver contributes nothing to the select.
Polling the receiver directly (outside a select) has no such filter and reports the end again.

The field `terminated_nil` records that only a drained channel without a live sender terminates.
-/

namespace Futures

/-- The result of polling a future once. -/
inductive Poll (α : Type*)
  | ready (value : α)
  | pending
  deriving DecidableEq, Repr

/-- The receiving half of an unbounded channel together with the buffered messages. -/
structure Receiver (α : Type*) where
  /-- Messages sent and not yet received, oldest first. -/
  items : List α
  /-- Some sender of the channel is still alive. -/
  senderLive : Bool
  /-- The end of the channel has been handed out. -/
  terminated : Bool
  /-- Only a drained channel without a live sender has an end to hand out. -/
  terminated_nil : terminated = true → items = [] ∧ senderLive = false

namespace Receiver

variable {α : Type*}

/-- A fresh channel: empty, with a live sender. -/
def new : Receiver α where
  items := []
  senderLive := true
  terminated := false
  terminated_nil := by simp

/-- `unbounded_send`: buffer a message; a channel without a live sender is left alone. -/
def push (r : Receiver α) (x : α) : Receiver α where
  items := if r.senderLive then r.items ++ [x] else r.items
  senderLive := r.senderLive
  terminated := r.terminated
  terminated_nil h := by
    obtain ⟨h₁, h₂⟩ := r.terminated_nil h
    simp [h₁, h₂]

/-- Drop the last sender: the channel ends once it is drained. -/
def dropSender (r : Receiver α) : Receiver α where
  items := r.items
  senderLive := false
  terminated := r.terminated
  terminated_nil h := ⟨(r.terminated_nil h).1, rfl⟩

/-- Take the oldest message away; the rest of the channel is unchanged. -/
def advance (r : Receiver α) (rest : List α) (h : r.terminated = false) : Receiver α where
  items := rest
  senderLive := r.senderLive
  terminated := r.terminated
  terminated_nil h' := by simp [h] at h'

/-- `poll_next`: the oldest message, the end of a drained channel without a sender, or nothing
yet.  Handing out the end terminates the receiver. -/
def pollNext (r : Receiver α) : Poll (Option α) × Receiver α :=
  match hi : r.items with
  | x :: rest =>
    (.ready (some x), r.advance rest (by
      cases ht : r.terminated with
      | false => rfl
      | true => simp [(r.terminated_nil ht).1] at hi))
  | [] =>
    if hs : r.senderLive = true then (.pending, r)
    else (.ready none,
      { items := [], senderLive := false, terminated := true,
        terminated_nil := fun _ => ⟨rfl, rfl⟩ })

/-- The arm `rx.next()` of a `select!`: the future of a terminated stream is skipped. -/
def pollArm (r : Receiver α) : Poll (Option α) × Receiver α :=
  if r.terminated then (.pending, r) else r.pollNext

@[simp] theorem new_items : (new : Receiver α).items = [] := rfl
@[simp] theorem new_senderLive : (new : Receiver α).senderLive = true := rfl
@[simp] theorem new_terminated : (new : Receiver α).terminated = false := rfl
@[simp] theorem push_senderLive (r : Receiver α) (x : α) :
    (r.push x).senderLive = r.senderLive := rfl
@[simp] theorem dropSender_items (r : Receiver α) : r.dropSender.items = r.items := rfl
@[simp] theorem dropSender_senderLive (r : Receiver α) : r.dropSender.senderLive = false := rfl
@[simp] theorem dropSender_terminated (r : Receiver α) :
    r.dropSender.terminated = r.terminated := rfl

/-- Sending on a channel with a live sender appends the message. -/
theorem push_items_of_live {r : Receiver α} (h : r.senderLive = true) (x : α) :
    (r.push x).items = r.items ++ [x] := by
  simp [push, h]

/-- A receiver with a buffered message is not terminated. -/
theorem terminated_eq_false_of_cons {r : Receiver α} {x : α} {rest : List α}
    (h : r.items = x :: rest) : r.terminated = false := by
  cases ht : r.terminated with
  | false => rfl
  | true => simp [(r.terminated_nil ht).1] at h

/-- A poll that hands out a message takes the oldest one. -/
theorem pollNext_some {r r' : Receiver α} {x : α} (h : r.pollNext = (.ready (some x), r')) :
    r.items = x :: r'.items ∧ r'.senderLive = r.senderLive := by
  unfold pollNext at h
  split at h
  · next y rest hi =>
    obtain ⟨hx, rfl⟩ := Prod.mk.inj h
    obtain rfl : y = x := by simpa using hx
    exact ⟨hi, rfl⟩
  · split at h
    · cases h
    · cases h

/-- A poll that hands out the end finds the channel drained and without a sender. -/
theorem pollNext_none {r r' : Receiver α} (h : r.pollNext = (.ready none, r')) :
    r.items = [] ∧ r.senderLive = false ∧ r'.items = [] ∧ r'.senderLive = false := by
  unfold pollNext at h
  split at h
  · cases h
  · next hi =>
    split at h
    · cases h
    · next hs =>
      obtain ⟨-, rfl⟩ := Prod.mk.inj h
      exact ⟨hi, Bool.eq_false_iff.mpr hs, rfl, rfl⟩

/-- What a poll hands out of a drained channel. -/
theorem pollNext_of_nil {r : Receiver α} (h : r.items = []) :
    r.pollNext.1 = if r.senderLive then .pending else .ready none := by
  unfold pollNext
  split
  · next hi => cases h.symm.trans hi
  · split <;> rfl

/-- A poll hands out the oldest message. -/
theorem pollNext_of_cons {r : Receiver α} {x : α} {rest : List α} (h : r.items = x :: rest) :
    r.pollNext.1 = .ready (some x) := by
  unfold pollNext
  split
  · next hi =>
    obtain ⟨rfl, -⟩ := List.cons.inj (h.symm.trans hi)
    rfl
  · next hi => cases h.symm.trans hi

/-- What a poll of the select arm can do: hand out the oldest message, find the channel empty but
open, hand out the end for the first time, or be skipped because the end was handed out before. -/
theorem pollArm_cases (r : Receiver α) :
    (∃ x r', r.pollArm = (.ready (some x), r') ∧ r.items = x :: r'.items ∧
      r'.senderLive = r.senderLive ∧ r'.terminated = r.terminated) ∨
    (r.pollArm = (.pending, r) ∧ r.items = [] ∧ r.senderLive = true) ∨
    (∃ r', r.pollArm = (.ready none, r') ∧ r.items = [] ∧ r.senderLive = false ∧
      r.terminated = false ∧ r'.items = [] ∧ r'.senderLive = false ∧ r'.terminated = true) ∨
    (r.pollArm = (.pending, r) ∧ r.items = [] ∧ r.senderLive = false ∧ r.terminated = true) := by
  by_cases ht : r.terminated = true
  · obtain ⟨h₁, h₂⟩ := r.terminated_nil ht
    exact .inr (.inr (.inr ⟨by simp [pollArm, ht], h₁, h₂, ht⟩))
  · have hp : r.pollArm = r.pollNext := by simp [pollArm, ht]
    rw [hp]
    unfold pollNext
    split
    · next x rest hi => exact .inl ⟨x, _, rfl, hi, rfl, rfl⟩
    · next hi =>
      split
      · next hs => exact .inr (.inl ⟨rfl, hi, hs⟩)
      · next hs => exact .inr (.inr (.inl ⟨_, rfl, hi, by simpa using hs, by simpa using ht,
          rfl, rfl, rfl⟩))

end Receiver

end Futures
