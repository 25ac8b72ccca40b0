import Mathlib.Data.List.Basic

/-!
# Sending the elements of a stream one after the other

A sender takes the elements of a stream in order, makes a message of each, hands it over and waits for
the answer before it turns to the next one.  An element that is no message ends it, and so does an
answer that is an error.

`sendAll` is what such a sender returns, by what its elements are and the answers it gets.  `Sent` is
what an implementation of it knows once it has sent some elements, however far it has read ahead;
`Sent.sendAll` says what is left to send.
-/

namespace Futures

variable {μ ε : Type*}

/-- What a sender of these elements that gets these answers returns, having sent some others before;
`none` while it waits for an answer.  An error comes with the number of elements sent. -/
def sendAll : List (Except ε μ) → List (Except ε Unit) → Nat → Option (Except (ε × Nat) Unit)
  | [], _, _ => some (.ok ())
  | .error error :: _, _, sent => some (.error (error, sent))
  | .ok _ :: _, [], _ => none
  | .ok _ :: _, .error error :: _, sent => some (.error (error, sent))
  | .ok _ :: items, .ok () :: answers, sent => sendAll items answers (sent + 1)

/-- The messages that have been handed over, the elements ahead, and the answers, which were good. -/
structure Sent (items : List (Except ε μ)) (handed : List μ) (ahead : List (Except ε μ))
    (answers : List (Except ε Unit)) : Prop where
  items : items = handed.map .ok ++ ahead
  answers : answers = List.replicate handed.length (.ok ())

variable {items ahead : List (Except ε μ)} {handed : List μ} {message : μ}
  {answers : List (Except ε Unit)}

/-- A sender that has sent some messages goes on with the rest of the elements and of the answers. -/
theorem sendAll_append (handed : List μ) (ahead : List (Except ε μ)) (more : List (Except ε Unit))
    (sent : Nat) :
    sendAll (handed.map .ok ++ ahead) (List.replicate handed.length (.ok ()) ++ more) sent =
      sendAll ahead more (sent + handed.length) := by
  induction handed generalizing sent with
  | nil => rfl
  | cons message handed ih =>
    rw [List.map_cons, List.length_cons, List.replicate_succ, List.cons_append, List.cons_append,
      sendAll, ih, Nat.add_right_comm, Nat.add_assoc]

/-- A sender that has returned has no use for further answers. -/
theorem sendAll_mono {items : List (Except ε μ)} {answers : List (Except ε Unit)} {sent : Nat}
    {result : Except (ε × Nat) Unit} (h : sendAll items answers sent = some result)
    {more : List (Except ε Unit)} (hmore : answers <+: more) : sendAll items more sent = some result := by
  obtain ⟨rest, rfl⟩ := hmore
  induction items generalizing answers sent with
  | nil => exact h
  | cons item items ih =>
    rcases item with error | message
    · exact h
    · rcases answers with - | ⟨error | u, answers⟩
      · cases h
      · exact h
      · exact ih h

/-- Two senders of the same elements hand over the same messages, as far as each has got. -/
theorem prefix_or_prefix {handed' : List μ} (h : handed.map .ok <+: items)
    (h' : handed'.map .ok <+: items) : handed <+: handed' ∨ handed' <+: handed := by
  have hok : Function.Injective (Except.ok : μ → Except ε μ) := by
    intro a b hab
    exact Except.ok.inj hab
  have hof {l l' : List μ} (hle : l.map (Except.ok (ε := ε)) <+: l'.map .ok) : l <+: l' := by
    obtain ⟨front, hfront, hmap⟩ := List.prefix_map_iff.mp hle
    rwa [hok.list_map hmap]
  exact (List.prefix_or_prefix_of_prefix h h').imp hof hof

namespace Sent

theorem nil (items : List (Except ε μ)) : Sent items [] items [] := ⟨rfl, rfl⟩

/-- What has been handed over are the messages of the first elements, in order and each once. -/
theorem isPrefix (h : Sent items handed ahead answers) : handed.map .ok <+: items :=
  ⟨ahead, h.items.symm⟩

/-- One element more has been sent. -/
theorem snoc (h : Sent items handed (.ok message :: ahead) answers) :
    Sent items (handed ++ [message]) ahead (answers ++ [.ok ()]) := by
  refine ⟨?_, ?_⟩
  · rw [h.items, List.map_append, List.append_assoc]
    rfl
  · rw [h.answers, List.length_append, List.length_singleton, List.replicate_succ']

/-- What the sender returns from here on. -/
theorem sendAll (h : Sent items handed ahead answers) (more : List (Except ε Unit)) :
    Futures.sendAll items (answers ++ more) 0 = Futures.sendAll ahead more handed.length := by
  rw [h.items, h.answers, sendAll_append, Nat.zero_add]

/-- At the end of the stream the sender has sent everything. -/
theorem ends (h : Sent items handed [] answers) : Futures.sendAll items answers 0 = some (.ok ()) := by
  have hrest := h.sendAll []
  rwa [List.append_nil, Futures.sendAll] at hrest

/-- The sender stops at an element that is no message. -/
theorem stops {error : ε} (h : Sent items handed (.error error :: ahead) answers) :
    Futures.sendAll items answers 0 = some (.error (error, handed.length)) := by
  have hrest := h.sendAll []
  rwa [List.append_nil, Futures.sendAll] at hrest

/-- The sender stops at an answer that is an error. -/
theorem fails (h : Sent items handed (.ok message :: ahead) answers) (error : ε) :
    Futures.sendAll items (answers ++ [.error error]) 0 = some (.error (error, handed.length)) := by
  have hrest := h.sendAll [.error error]
  rwa [Futures.sendAll] at hrest

end Sent

end Futures
