import PolymorphWebsocket.Futures.SendAll
import PolymorphWebsocket.Provider.SendViaStream

/-!
# The guest provider: what a sending via a stream returns

The books of `send_via_stream` say which elements were sent.  Here is what the call returns, with the
text of its error: unless it has seen a local close, it is what a sender returns that takes one element
after the other and makes of each what `outcome` says.  That holds of every stream, also of one whose
elements wrap.
-/

namespace Polymorph.Provider

open Futures Transition

/-- What the call makes of an element once its payload has ended: a message, or its error. -/
def StreamMessage.outcome (item : StreamMessage) : Except Error Message :=
  let bytes := (payload? item.data).getD []
  messageOf item (bytes.take item.length.toNat) ((bytes.length - item.length.toNat) % usizeRange)

/-- What the call makes of a payload that it has collected. -/
theorem StreamMessage.outcome_eq {item : StreamMessage} {data : Bytes} {excess : Nat}
    (h : collectPayload item.length.toNat .empty item.data = some (data, excess)) :
    messageOf item data excess = item.outcome := by
  rw [collectPayload_empty] at h
  obtain ⟨bytes, hbytes, hcollected⟩ := Option.map_eq_some_iff.mp h
  obtain ⟨rfl, rfl⟩ := Prod.mk.inj hcollected
  rw [StreamMessage.outcome, hbytes]
  rfl

variable {messages : List (StreamResult × Option StreamMessage)} {items : List StreamMessage}
  {item : StreamMessage} {s s' : Sending}

namespace Sending

/-- What the call makes of the elements of a stream. -/
abbrev outcomes (items : List StreamMessage) : List (Except Error Message) :=
  items.map StreamMessage.outcome

/-- The call returns what it should: a local close that it has seen ended it, or it returns what a
sender returns that takes one element after the other. -/
def Plain (items : List StreamMessage) (s : Sending) (result : Except SendViaStreamError Unit) : Prop :=
  (s.localClosed = true ∧ result = .error { error := .closed, sent := s.sent } ∧
    s.results = List.replicate s.sent (.ok ())) ∨
  sendAll (outcomes items) s.results 0 = some (result.mapError fun err => (err.error, err.sent))

/-- The call has sent these messages, and this is ahead of it. -/
structure Ahead (items : List StreamMessage) (handed : List Message)
    (ahead : List (Except Error Message)) (s : Sending) : Prop where
  sent : Sent (outcomes items) handed ahead s.results
  count : s.sent = handed.length

/-- What the call knows, by where it is. -/
def Progress (items : List StreamMessage) (s : Sending) : Prop :=
  match s.pc with
  | .reading => s.Ahead items s.handed (outcomes (elements s.messages))
  | .collecting item data c =>
    s.Ahead items s.handed (item.outcome :: outcomes (elements s.messages)) ∧
      collectPayload item.length.toNat c data = collectPayload item.length.toNat .empty item.data
  | .sending =>
    ∃ handed message, s.handed = handed ++ [message] ∧
      s.Ahead items handed (.ok message :: outcomes (elements s.messages))
  | .returned result => s.handed.map .ok <+: outcomes items ∧ s.Plain items result

namespace Ahead

variable {handed : List Message} {ahead : List (Except Error Message)} {message : Message}

/-- The call sees a local close. -/
theorem closed (h : s.Ahead items s.handed ahead) (hclosed : s.localClosed = true) :
    (s.fails .closed).Progress items := by
  refine ⟨h.sent.isPrefix, .inl ⟨hclosed, rfl, ?_⟩⟩
  show s.results = List.replicate s.sent (.ok ())
  rw [h.sent.answers, h.count]

/-- The next element is no message. -/
theorem stops {error : Error} (h : s.Ahead items s.handed (.error error :: ahead)) :
    (s.fails error).Progress items := by
  refine ⟨h.sent.isPrefix, .inr ?_⟩
  rw [show (s.fails error).results = s.results from rfl, h.sent.stops, h.count]
  rfl

/-- A `send` of the next element returns. -/
theorem sendReturns (h : s.Ahead items handed (.ok message :: outcomes (elements s.messages)))
    (hinit : s.handed.map .ok <+: outcomes items) {result : Except Error Unit}
    (hok : result = .ok () → s.handed = handed ++ [message]) :
    (s.sendReturns result).Progress items := by
  cases result with
  | error error =>
    refine ⟨hinit, .inr ?_⟩
    have hfails := h.sent.fails error
    rw [← h.count] at hfails
    exact hfails
  | ok u =>
    have hhanded := hok rfl
    refine ⟨?_, ?_⟩
    · show Sent _ s.handed _ (s.results ++ [.ok ()])
      rw [hhanded]
      exact h.sent.snoc
    · show s.sent + 1 = s.handed.length
      rw [hhanded, h.count, List.length_append, List.length_singleton]

/-- The call hands the message of the next element over. -/
theorem send (h : s.Ahead items s.handed (.ok message :: outcomes (elements s.messages))) :
    (s.send message).Progress items := by
  unfold Sending.send
  split
  · apply h.sendReturns h.sent.isPrefix
    intro hok
    cases hok
  · exact ⟨s.handed, message, rfl, h.sent, h.count⟩

end Ahead

/-- One read of the stream. -/
theorem Ahead.readOne (hpc : s.pc = .reading) {read : StreamResult × Option StreamMessage}
    (h : s.Ahead items s.handed (outcomes (elements (read :: s.messages)))) :
    (s.readOne read).Progress items := by
  obtain ⟨status, element⟩ := read
  obtain ⟨hsent, hcount⟩ := h
  unfold Sending.readOne
  cases element with
  | some item => exact ⟨⟨hsent, hcount⟩, rfl⟩
  | none =>
    unfold elements at hsent
    dsimp only at hsent ⊢
    by_cases hends : status.ends = true
    · rw [if_pos hends] at hsent
      rw [if_pos hends]
      exact ⟨hsent.isPrefix, .inr hsent.ends⟩
    · rw [if_neg hends] at hsent
      rw [if_neg hends]
      unfold Progress
      rw [hpc]
      exact ⟨hsent, hcount⟩

/-- One read of a payload. -/
theorem Ahead.collect (h : s.Ahead items s.handed (item.outcome :: outcomes (elements s.messages)))
    {data : List (StreamResult × Bytes)} {c : Collecting} {read : StreamResult × Bytes}
    (hcollect : collectPayload item.length.toNat c (read :: data) =
      collectPayload item.length.toNat .empty item.data) :
    (s.collect item data c read).Progress items := by
  obtain ⟨status, chunk⟩ := read
  rw [collectPayload] at hcollect
  unfold Sending.collect
  dsimp only at hcollect ⊢
  by_cases hends : status.ends = true
  · rw [if_pos hends] at hcollect
    rw [if_pos hends, StreamMessage.outcome_eq hcollect.symm]
    -- the payload is whole: the element is a message or ends the call
    split
    · next message hmessage =>
      rw [hmessage] at h
      exact h.send
    · next error herror =>
      rw [herror] at h
      exact h.stops
  · rw [if_neg hends] at hcollect
    rw [if_neg hends]
    exact ⟨⟨h.sent, h.count⟩, hcollect⟩

namespace Progress

/-- One poll of the call. -/
theorem poll (h : s.Progress items) (hs : s.poll = some s') : s'.Progress items := by
  unfold Progress at h
  unfold Sending.poll at hs
  split at hs
  · next hpc =>
    rw [hpc] at h
    by_cases hclosed : s.localClosed = true
    · rw [if_pos hclosed] at hs
      obtain rfl := Option.some.inj hs
      exact h.closed hclosed
    · rw [if_neg hclosed] at hs
      split at hs
      · next read messages hmessages =>
        obtain rfl := Option.some.inj hs
        rw [hmessages] at h
        exact Ahead.readOne (s := { s with messages := messages }) hpc ⟨h.sent, h.count⟩
      · cases hs
  · next item data c hpc =>
    rw [hpc] at h
    obtain ⟨hahead, hcollect⟩ := h
    by_cases hclosed : s.localClosed = true
    · rw [if_pos hclosed] at hs
      obtain rfl := Option.some.inj hs
      exact hahead.closed hclosed
    · rw [if_neg hclosed] at hs
      split at hs
      · obtain rfl := Option.some.inj hs
        exact hahead.collect hcollect
      · cases hs
  all_goals cases hs

/-- What happens beside the call leaves it where it is, and a local close stays. -/
theorem congr (h : s.Progress items) {localClosed pumpGone : Bool}
    (hclosed : s.localClosed = true → localClosed = true) :
    ({ s with localClosed := localClosed, pumpGone := pumpGone } : Sending).Progress items := by
  unfold Progress at h ⊢
  dsimp only
  split at h
  · exact ⟨h.sent, h.count⟩
  · exact ⟨⟨h.1.sent, h.1.count⟩, h.2⟩
  · obtain ⟨handed, message, hhanded, hahead⟩ := h
    exact ⟨handed, message, hhanded, hahead.sent, hahead.count⟩
  · obtain ⟨hinit, hplain⟩ := h
    exact ⟨hinit, hplain.imp (fun h => ⟨hclosed h.1, h.2⟩) id⟩

/-- Every move of the call, and of the connection beside it. -/
theorem step (h : s.Progress items) {a : SendAction} (hs : sendStep s a = some s') :
    s'.Progress items := by
  cases a with
  | poll => exact h.poll hs
  | acknowledged result =>
    unfold sendStep at hs
    dsimp only at hs
    split at hs
    · next hpc =>
      obtain rfl := Option.some.inj hs
      unfold Progress at h
      rw [hpc] at h
      obtain ⟨handed, message, hhanded, hahead⟩ := h
      refine hahead.sendReturns ?_ fun _ => hhanded
      rw [hhanded]
      exact hahead.sent.snoc.isPrefix
    all_goals cases hs
  | close =>
    obtain rfl := Option.some.inj hs
    exact h.congr fun _ => rfl
  | pumpExits =>
    obtain rfl := Option.some.inj hs
    exact h.congr id

/-- What has been handed over, wherever the call is. -/
theorem isPrefix (h : s.Progress items) : s.handed.map .ok <+: outcomes items := by
  unfold Progress at h
  split at h
  · exact h.sent.isPrefix
  · exact h.1.sent.isPrefix
  · obtain ⟨handed, message, hhanded, hahead⟩ := h
    rw [hhanded]
    exact hahead.sent.snoc.isPrefix
  · exact h.1

end Progress

/-- A call that begins. -/
theorem start_progress (localClosed pumpGone : Bool)
    (messages : List (StreamResult × Option StreamMessage)) :
    (start localClosed pumpGone messages).Progress (elements messages) := by
  have hnil : Sent (outcomes (elements messages)) [] (outcomes (elements messages)) [] := .nil _
  by_cases hclosed : localClosed = true
  · rw [start, if_pos hclosed]
    exact Ahead.closed ⟨hnil, rfl⟩ hclosed
  · rw [start, if_neg hclosed]
    exact ⟨hnil, rfl⟩

end Sending

/-- Where a call is, in every run. -/
theorem sending_progress (h : (sendSystem messages).Reachable s) : s.Progress (elements messages) := by
  refine h.induction (I := fun s => s.Progress (elements messages)) ?_ fun s a s' _ hi hs => hi.step hs
  rintro s ⟨localClosed, pumpGone, rfl⟩
  exact Sending.start_progress localClosed pumpGone messages

end Polymorph.Provider
