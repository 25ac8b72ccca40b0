import Mathlib.Tactic.ByContra
import Mathlib.Tactic.TypeStar

/-!
# A readable stream over a pull source

A `ReadableStream` with its default controller and the counting strategy, as its consumer reads it
and its source feeds it.  The stream calls the source's `pull` while it has fewer chunks than its
high-water mark or a read waits, one call at a time: a need that arises during a call is noted and
served after it.  Chunks that are queued when the source closes the stream stay readable.

An operation returns what it does to the outside besides the new stream: the reads it answers
(`none` is the end of the stream), and whether it calls the source's `pull`.
-/

namespace Web

/-- A readable stream with the queue of its default controller. -/
structure ReadableStream (α : Type*) where
  highWaterMark : Nat
  queue : List α
  /-- The reads that wait for a chunk, oldest first. -/
  readRequests : List Nat
  started : Bool
  /-- A call of the source's `pull` has not been fulfilled yet. -/
  pulling : Bool
  /-- The need for another call arose during this one. -/
  pullAgain : Bool
  closeRequested : Bool
  closed : Bool
  /-- A read waits only when nothing is queued. -/
  requests_nil : queue ≠ [] → readRequests = []
  /-- A closed stream has nothing to hand out and nobody to hand it to. -/
  closed_nil : closed = true → closeRequested = true ∧ queue = [] ∧ readRequests = []
  /-- A stream told to close is closed once its queue is empty. -/
  closes : closeRequested = true → closed = true ∨ queue ≠ []

/-- What an operation on a stream does. -/
structure Outcome (α : Type*) where
  stream : ReadableStream α
  /-- The reads it answers. -/
  answers : List (Nat × Option α)
  /-- It calls the source's `pull`. -/
  pulls : Bool

namespace ReadableStream

variable {α : Type*}

/-- A stream before its source has started. -/
def new (highWaterMark : Nat) : ReadableStream α where
  highWaterMark := highWaterMark
  queue := []
  readRequests := []
  started := false
  pulling := false
  pullAgain := false
  closeRequested := false
  closed := false
  requests_nil h := absurd rfl h
  closed_nil h := by cases h
  closes h := by cases h

/-- `ReadableStreamDefaultControllerShouldCallPull`. -/
def shouldCallPull (r : ReadableStream α) : Bool :=
  !r.closeRequested && r.started &&
    (!r.readRequests.isEmpty || decide (r.queue.length < r.highWaterMark))

/-- `ReadableStreamDefaultControllerCallPullIfNeeded`. -/
def callPullIfNeeded (r : ReadableStream α) : Bool × ReadableStream α :=
  if r.shouldCallPull then
    if r.pulling then (false, { r with pullAgain := true })
    else (true, { r with pulling := true })
  else (false, r)

/-- `pull` is called when it should be and no call is under way; a need that arises during a call is
noted. -/
theorem callPullIfNeeded_eq (r : ReadableStream α) :
    r.callPullIfNeeded = (r.shouldCallPull && !r.pulling,
      { r with
        pulling := r.pulling || r.shouldCallPull
        pullAgain := r.pullAgain || (r.shouldCallPull && r.pulling) }) := by
  obtain ⟨_, _, _, _, pulling, _, _, _, _, _, _⟩ := r
  unfold callPullIfNeeded
  split
  · next hs => cases pulling <;> simp [hs]
  · next hs =>
    rw [Bool.not_eq_true] at hs
    simp [hs]

/-- The outcome of an operation that ends by calling `pull` if needed. -/
def pullingOutcome (r : ReadableStream α) (answers : List (Nat × Option α)) : Outcome α where
  stream := r.callPullIfNeeded.2
  answers := answers
  pulls := r.callPullIfNeeded.1

/-- The source's `start` has been fulfilled. -/
def start (r : ReadableStream α) : Outcome α := pullingOutcome { r with started := true } []

/-- The call of the source's `pull` has been fulfilled. -/
def pullFulfilled (r : ReadableStream α) : Outcome α :=
  if r.pullAgain then pullingOutcome { r with pulling := false, pullAgain := false } []
  else { stream := { r with pulling := false }, answers := [], pulls := false }

/-- `controller.enqueue(chunk)`: to the oldest waiting read, or into the queue; refused once the
stream has been told to close. -/
def enqueue (r : ReadableStream α) (chunk : α) : Outcome α :=
  match hr : r.readRequests with
  | id :: rest =>
    have hnil : r.queue = [] := by
      by_contra hne
      simp [r.requests_nil hne] at hr
    pullingOutcome
      { r with
        readRequests := rest
        requests_nil := fun hne => absurd hnil hne
        closed_nil := fun hc => by simp [(r.closed_nil hc).2.2] at hr }
      [(id, some chunk)]
  | [] =>
    if ho : r.closeRequested = true then { stream := r, answers := [], pulls := false }
    else
      pullingOutcome
        { r with
          queue := r.queue ++ [chunk]
          requests_nil := fun _ => hr
          closed_nil := fun hc => absurd (r.closed_nil hc).1 ho
          closes := fun hc => absurd hc ho }
        []

/-- `controller.close()`: at once when nothing is queued, after the queued chunks otherwise. -/
def close (r : ReadableStream α) : Outcome α :=
  if hq : r.queue = [] then
    { stream := { r with
        readRequests := []
        closeRequested := true
        closed := true
        requests_nil := fun _ => rfl
        closed_nil := fun _ => ⟨rfl, hq, rfl⟩
        closes := fun _ => .inl rfl }
      answers := r.readRequests.map fun id => (id, none)
      pulls := false }
  else
    { stream := { r with
        closeRequested := true
        closed_nil := fun hc => absurd (r.closed_nil hc).2.1 hq
        closes := fun _ => .inr hq }
      answers := []
      pulls := false }

/-- `reader.read()` by the read `id`. -/
def read (r : ReadableStream α) (id : Nat) : Outcome α :=
  if ho : r.closed = true then { stream := r, answers := [(id, none)], pulls := false }
  else
    match hq : r.queue with
    | chunk :: rest =>
      have hnil : r.readRequests = [] := r.requests_nil (by simp [hq])
      if hc : r.closeRequested = true ∧ rest = [] then
        { stream := { r with
            queue := rest
            closed := true
            requests_nil := fun _ => hnil
            closed_nil := fun _ => ⟨hc.1, hc.2, hnil⟩
            closes := fun _ => .inl rfl }
          answers := [(id, some chunk)]
          pulls := false }
      else
        pullingOutcome
          { r with
            queue := rest
            requests_nil := fun _ => hnil
            closed_nil := fun h => absurd h ho
            closes := fun h => .inr fun hrest => hc ⟨h, hrest⟩ }
          [(id, some chunk)]
    | [] =>
      pullingOutcome
        { r with
          readRequests := r.readRequests ++ [id]
          requests_nil := fun hne => absurd hq hne
          closed_nil := fun h => absurd h ho }
        []

@[simp] theorem start_queue (r : ReadableStream α) : r.start.stream.queue = r.queue := by
  unfold start pullingOutcome
  rw [callPullIfNeeded_eq]

@[simp] theorem pullFulfilled_queue (r : ReadableStream α) :
    r.pullFulfilled.stream.queue = r.queue := by
  unfold pullFulfilled
  split
  · unfold pullingOutcome
    rw [callPullIfNeeded_eq]
  · rfl

@[simp] theorem pullFulfilled_closed (r : ReadableStream α) :
    r.pullFulfilled.stream.closed = r.closed := by
  unfold pullFulfilled
  split
  · unfold pullingOutcome
    rw [callPullIfNeeded_eq]
  · rfl

@[simp] theorem pullFulfilled_answers (r : ReadableStream α) : r.pullFulfilled.answers = [] := by
  unfold pullFulfilled
  split <;> rfl

/-- A read with nothing queued sees the end or waits, and calls `pull` only outside of a call. -/
theorem read_of_nil {r : ReadableStream α} (hq : r.queue = []) (id : Nat) :
    (r.read id).stream.queue = [] ∧ (∀ a ∈ (r.read id).answers, a.2 = none) ∧
      (r.read id).stream.closed = r.closed ∧
      ((r.read id).pulls = true → r.closed = false ∧ r.started = true ∧ r.pulling = false) := by
  unfold read
  split
  · refine ⟨hq, fun a ha => ?_, rfl, nofun⟩
    obtain rfl := List.mem_singleton.mp ha
    rfl
  · next hc =>
    split
    · next hcons =>
      rw [hq] at hcons
      cases hcons
    · unfold pullingOutcome
      rw [callPullIfNeeded_eq]
      refine ⟨hq, nofun, rfl, fun hp => ?_⟩
      simp only [shouldCallPull, Bool.and_eq_true, Bool.not_eq_true'] at hp
      exact ⟨by simpa using hc, hp.1.1.2, hp.2⟩

/-- A read takes the oldest queued chunk. -/
theorem read_of_cons {r : ReadableStream α} {chunk : α} {rest : List α}
    (hq : r.queue = chunk :: rest) (id : Nat) : (r.read id).answers = [(id, some chunk)] := by
  unfold read
  split
  · next hc =>
    rw [(r.closed_nil hc).2.1] at hq
    cases hq
  · split
    · next chunk' rest' hq' =>
      rw [hq] at hq'
      cases hq'
      dsimp only
      split <;> rfl
    · next hnil =>
      rw [hq] at hnil
      cases hnil

/-- A chunk that is enqueued goes to a waiting read, or stays in the queue. -/
theorem enqueue_of_open {r : ReadableStream α} (ho : r.closeRequested = false) (chunk : α) :
    (∃ id, (r.enqueue chunk).answers = [(id, some chunk)]) ∨
      (r.enqueue chunk).stream.queue ≠ [] := by
  unfold enqueue
  split
  · next id rest hr => exact .inl ⟨id, rfl⟩
  · split
    · next hc =>
      rw [ho] at hc
      cases hc
    · refine .inr ?_
      unfold pullingOutcome
      rw [callPullIfNeeded_eq]
      exact List.append_ne_nil_of_right_ne_nil _ (List.cons_ne_nil _ _)

end ReadableStream

end Web
