import PolymorphWebsocket.Js.Queue

/-!
# The JavaScript host: the stream and its source

The `ReadableStream` of `receiveViaStream` and the `pull` that feeds it agree on where they are: the
stream calls `pull` once at a time and only with an empty queue, `pull` waits exactly while it is
among the waiters of the queue of the module, and the stream is told to close only at the end of a
call, when nothing is queued.
-/

namespace Polymorph.Js

open Web Transition

variable {s s' : State}

/-! ### The source and its stream -/

/-- The source is inside a call of `pull`. -/
def PullPc.inCall : PullPc → Bool
  | .waiting | .resolved _ | .rejected | .returned => true
  | .starting | .idle => false

/-- The source is inside a call of `pull`, which has not enqueued or closed yet. -/
def PullPc.awaiting : PullPc → Bool
  | .waiting | .resolved _ | .rejected => true
  | .starting | .idle | .returned => false

/-- The stream of a connection and its source agree on where they are. -/
structure Stream.Sound (st : Stream) : Prop where
  highWaterMark : st.readable.highWaterMark = 1
  started : st.readable.started = (st.pull != .starting)
  pulling : st.readable.pulling = st.pull.inCall
  /-- A source between two calls has nothing to do. -/
  served : st.pull = .idle → st.readable.shouldCallPull = false
  /-- A source that still has to do at the end of a call has noted it. -/
  again : st.pull = .returned → st.readable.shouldCallPull = true → st.readable.pullAgain = true
  empty : st.pull = .starting ∨ st.pull.awaiting = true → st.readable.queue = []
  /-- The source closes the stream with an empty queue, at the end of a call. -/
  closed : st.readable.closeRequested = true →
    st.readable.closed = true ∧ (st.pull = .returned ∨ st.pull = .idle)

namespace Stream.Sound

variable {st : Stream}

theorem new : Stream.new.Sound :=
  ⟨rfl, rfl, rfl, nofun, nofun, fun _ => rfl, nofun⟩

/-- A source that is waiting goes on with the answer. -/
theorem answered (h : st.Sound) (hw : st.pull = .waiting) {pc : PullPc}
    (hpc : pc.awaiting = true) : ({ st with pull := pc } : Stream).Sound := by
  have hempty : st.readable.queue = [] := h.empty (.inr (by rw [hw]; rfl))
  have hpulling := h.pulling
  have hstarted := h.started
  rw [hw] at hpulling hstarted
  refine ⟨h.highWaterMark, ?_, ?_, fun hpc' => ?_, fun hpc' => ?_, fun _ => hempty, fun hc => ?_⟩
  · cases pc <;> first | exact hstarted | cases hpc
  · cases pc <;> first | exact hpulling | cases hpc
  · rw [show pc = .idle from hpc'] at hpc
    cases hpc
  · rw [show pc = .returned from hpc'] at hpc
    cases hpc
  · rcases (h.closed hc).2 with hret | hidle
    · rw [hret] at hw
      cases hw
    · rw [hidle] at hw
      cases hw

/-- A stream that calls `pull` is inside the call, its queue empty. -/
theorem called {r : ReadableStream StreamMessage} (hwm : r.highWaterMark = 1)
    (hstarted : r.started = true) (hpulling : r.pulling = true) (hempty : r.queue = [])
    (hopen : r.closeRequested = false) {pc : PullPc} (hpc : pc.awaiting = true) :
    ({ readable := r, pull := pc } : Stream).Sound := by
  refine ⟨hwm, ?_, ?_, fun hpc' => ?_, fun hpc' => ?_, fun _ => hempty, fun hc => ?_⟩
  · cases pc <;> first | exact hstarted | cases hpc
  · cases pc <;> first | exact hpulling | cases hpc
  · rw [show pc = .idle from hpc'] at hpc
    cases hpc
  · rw [show pc = .returned from hpc'] at hpc
    cases hpc
  · change r.closeRequested = true at hc
    rw [hopen] at hc
    cases hc

end Stream.Sound

/-- After an operation the stream has called `pull`, and is in order wherever that call gets to, or
has not, and is in order with the source at `pc`. -/
def Served (o : Outcome StreamMessage) (pc : PullPc) : Prop :=
  (o.pulls = true ∧ ∀ pc' : PullPc, pc'.awaiting = true →
    ({ readable := o.stream, pull := pc' } : Stream).Sound) ∨
  (o.pulls = false ∧ ({ readable := o.stream, pull := pc } : Stream).Sound)

namespace Stream.Sound

variable {st : Stream}

/-- A stream that calls `pull` if needed, outside of a call, is served. -/
theorem served_of_idle {r : ReadableStream StreamMessage} (hwm : r.highWaterMark = 1)
    (hstarted : r.started = true) (hpulling : r.pulling = false)
    (hclosed : r.closeRequested = true → r.closed = true)
    (answers : List (Nat × Option StreamMessage)) : Served (r.pullingOutcome answers) .idle := by
  unfold Served ReadableStream.pullingOutcome
  rw [ReadableStream.callPullIfNeeded_eq]
  cases hs : r.shouldCallPull with
  | true =>
    refine .inl ⟨by simp [hpulling], fun pc hpc => ?_⟩
    have hopen : r.closeRequested = false := by
      cases hc : r.closeRequested with
      | false => rfl
      | true => simp [ReadableStream.shouldCallPull, hc] at hs
    have hempty : r.queue = [] := by
      by_contra hne
      have hlength : 0 < r.queue.length := List.length_pos_iff.mpr hne
      simp [ReadableStream.shouldCallPull, r.requests_nil hne, hwm, hne] at hs
    refine called ?_ ?_ ?_ ?_ ?_ hpc
    · exact hwm
    · exact hstarted
    · exact Bool.or_true _
    · exact hempty
    · exact hopen
  | false =>
    refine .inr ⟨rfl, hwm, hstarted, ?_, fun _ => hs, by rintro ⟨⟩, ?_,
      fun hc => ⟨hclosed hc, .inr rfl⟩⟩
    · show (r.pulling || false) = false
      rw [hpulling]
      rfl
    · rintro (hstart | hawait)
      · cases hstart
      · cases hawait

/-- The reaction to the fulfilled `start`. -/
theorem start (h : st.Sound) (hpc : st.pull = .starting) : Served st.readable.start .idle := by
  have hpulling := h.pulling
  rw [hpc] at hpulling
  exact served_of_idle (r := { st.readable with started := true }) h.highWaterMark rfl hpulling
    (fun hc => (h.closed hc).1) []

/-- The reaction to a fulfilled `pull`. -/
theorem pullFulfilled (h : st.Sound) (hpc : st.pull = .returned) :
    Served st.readable.pullFulfilled .idle := by
  have hstarted := h.started
  rw [hpc] at hstarted
  have hclosed (hc : st.readable.closeRequested = true) : st.readable.closed = true := (h.closed hc).1
  unfold ReadableStream.pullFulfilled
  split
  · exact served_of_idle (r := { st.readable with pulling := false, pullAgain := false })
      h.highWaterMark hstarted rfl hclosed []
  · next hagain =>
    have hserved : st.readable.shouldCallPull = false := by
      cases hs : st.readable.shouldCallPull with
      | false => rfl
      | true => exact absurd (h.again hpc hs) hagain
    refine .inr ⟨rfl, h.highWaterMark, hstarted, rfl, fun _ => hserved, by rintro ⟨⟩, ?_,
      fun hc => ⟨hclosed hc, .inr rfl⟩⟩
    rintro (hstart | hawait)
    · cases hstart
    · cases hawait

/-- A call of `pull` that has enqueued or closed returns, the need for another one noted. -/
theorem returning {r : ReadableStream StreamMessage} (hwm : r.highWaterMark = 1)
    (hstarted : r.started = true) (hpulling : r.pulling = true)
    (hclosed : r.closeRequested = true → r.closed = true)
    (hagain : r.shouldCallPull = true → r.pullAgain = true) :
    ({ readable := r, pull := .returned } : Stream).Sound := by
  refine ⟨hwm, hstarted, hpulling, nofun, fun _ => hagain, ?_, fun hc => ⟨hclosed hc, .inl rfl⟩⟩
  rintro (hstart | hawait)
  · cases hstart
  · cases hawait

/-- A stream that notes the need for a call of `pull` inside of one is served. -/
theorem served_in_call {r : ReadableStream StreamMessage} (hwm : r.highWaterMark = 1)
    (hstarted : r.started = true) (hpulling : r.pulling = true) (hopen : r.closeRequested = false)
    {pc : PullPc} (hpc : pc.inCall = true) (hempty : pc.awaiting = true → r.queue = [])
    (answers : List (Nat × Option StreamMessage)) : Served (r.pullingOutcome answers) pc := by
  unfold Served ReadableStream.pullingOutcome
  rw [ReadableStream.callPullIfNeeded_eq]
  refine .inr ⟨by simp [hpulling], hwm, ?_, ?_, fun hidle => ?_, fun _ hs => ?_, ?_, fun hc => ?_⟩
  · show r.started = (pc != .starting)
    rw [hstarted]
    cases pc <;> first | rfl | cases hpc
  · show (r.pulling || r.shouldCallPull) = pc.inCall
    rw [hpulling, hpc]
    rfl
  · rw [show pc = .idle from hidle] at hpc
    cases hpc
  · have hs' : r.shouldCallPull = true := hs
    simp [hs', hpulling]
  · rintro (hstart | hawait)
    · rw [show pc = .starting from hstart] at hpc
      cases hpc
    · exact hempty hawait
  · change r.closeRequested = true at hc
    rw [hopen] at hc
    cases hc

/-- The source enqueues a message. -/
theorem enqueue (h : st.Sound) {message : Message} (hpc : st.pull = .resolved message)
    (chunk : StreamMessage) : Served (st.readable.enqueue chunk) .returned := by
  have hpulling := h.pulling
  have hstarted := h.started
  rw [hpc] at hpulling hstarted
  have hopen : st.readable.closeRequested = false := by
    cases hc : st.readable.closeRequested with
    | false => rfl
    | true =>
      rcases (h.closed hc).2 with hret | hidle
      · rw [hpc] at hret
        cases hret
      · rw [hpc] at hidle
        cases hidle
  have hserved {r : ReadableStream StreamMessage} (hwm : r.highWaterMark = 1)
      (hst : r.started = true) (hp : r.pulling = true) (hc : r.closeRequested = false)
      (answers : List (Nat × Option StreamMessage)) :
      Served (r.pullingOutcome answers) .returned := by
    refine served_in_call hwm hst hp hc rfl (fun hawait => ?_) answers
    cases hawait
  unfold ReadableStream.enqueue
  split
  · apply hserved
    · exact h.highWaterMark
    · exact hstarted
    · exact hpulling
    · exact hopen
  · split
    · next hc =>
      rw [hopen] at hc
      cases hc
    · apply hserved
      · exact h.highWaterMark
      · exact hstarted
      · exact hpulling
      · exact hopen

/-- The source closes the stream: at once, nothing being queued. -/
theorem close (h : st.Sound) (hpc : st.pull = .rejected) :
    Served st.readable.close .returned ∧ st.readable.close.stream.closed = true ∧
      ∀ a ∈ st.readable.close.answers, a.2 = none := by
  have hpulling := h.pulling
  have hstarted := h.started
  rw [hpc] at hpulling hstarted
  have hempty : st.readable.queue = [] := h.empty (.inr (by rw [hpc]; rfl))
  unfold ReadableStream.close
  rw [dif_pos hempty]
  refine ⟨.inr ⟨rfl, returning h.highWaterMark hstarted hpulling (fun _ => rfl) fun hs => ?_⟩, rfl,
    fun a ha => ?_⟩
  · simp [ReadableStream.shouldCallPull] at hs
  · obtain ⟨id, -, rfl⟩ := List.mem_map.mp ha
    rfl

/-- The consumer reads. -/
theorem read (h : st.Sound) (id : Nat) : Served (st.readable.read id) st.pull := by
  have hclosed (hc : st.readable.closeRequested = true) : st.readable.closed = true := (h.closed hc).1
  have hpulling := h.pulling
  have hstarted := h.started
  unfold ReadableStream.read
  split
  · exact .inr ⟨rfl, h⟩
  · next hopen =>
    have hrequested : st.readable.closeRequested = false := by
      cases hc : st.readable.closeRequested with
      | false => rfl
      | true => exact absurd (hclosed hc) hopen
    split
    · next chunk rest hq =>
      -- With a chunk in the queue the source is between two calls, or at the end of one.
      have hne : ¬ (st.pull = .starting ∨ st.pull.awaiting = true) := by
        intro hpc
        rw [h.empty hpc] at hq
        cases hq
      dsimp only
      split
      · next hc =>
        rw [hrequested] at hc
        cases hc.1
      · cases hpc : st.pull with
        | idle =>
          rw [hpc] at hpulling hstarted
          apply served_of_idle
          · exact h.highWaterMark
          · exact hstarted
          · exact hpulling
          · exact hclosed
        | returned =>
          rw [hpc] at hpulling hstarted
          apply served_in_call
          · exact h.highWaterMark
          · exact hstarted
          · exact hpulling
          · exact hrequested
          · rfl
          · intro hawait
            cases hawait
        | starting => exact absurd (.inl hpc) hne
        | waiting | resolved | rejected => exact absurd (.inr (by rw [hpc]; rfl)) hne
    · next hq =>
      cases hpc : st.pull with
      | starting =>
        rw [hpc] at hpulling hstarted
        unfold Served ReadableStream.pullingOutcome
        have hs : ({ st.readable with
            readRequests := st.readable.readRequests ++ [id]
            requests_nil := fun hne => absurd hq hne
            closed_nil := fun hc => absurd hc hopen } : ReadableStream StreamMessage).shouldCallPull =
              false := by
          simp [ReadableStream.shouldCallPull, hstarted]
        rw [ReadableStream.callPullIfNeeded_eq, hs]
        refine .inr ⟨rfl, h.highWaterMark, hstarted, ?_, by rintro ⟨⟩, by rintro ⟨⟩, fun _ => hq,
          fun hc => ?_⟩
        · show (st.readable.pulling || false) = false
          rw [hpulling]
          rfl
        · change st.readable.closeRequested = true at hc
          rw [hrequested] at hc
          cases hc
      | idle =>
        rw [hpc] at hpulling hstarted
        apply served_of_idle
        · exact h.highWaterMark
        · exact hstarted
        · exact hpulling
        · exact hclosed
      | returned | waiting | resolved | rejected =>
        rw [hpc] at hpulling hstarted
        apply served_in_call
        · exact h.highWaterMark
        · exact hstarted
        · exact hpulling
        · exact hrequested
        · rfl
        · intro _
          exact hq

end Stream.Sound

/-- A read calls `pull` only outside of a call. -/
theorem pulling_of_read {r : ReadableStream StreamMessage} {id : Nat}
    (h : (r.read id).pulls = true) : r.pulling = false := by
  have hpulling (r' : ReadableStream StreamMessage) (answers : List (Nat × Option StreamMessage))
      (h : (r'.pullingOutcome answers).pulls = true) : r'.pulling = false := by
    unfold ReadableStream.pullingOutcome at h
    rw [ReadableStream.callPullIfNeeded_eq] at h
    cases hp : r'.pulling with
    | false => rfl
    | true => simp [hp] at h
  unfold ReadableStream.read at h
  split at h
  · cases h
  · split at h
    · dsimp only at h
      split at h
      · cases h
      · have hidle := hpulling _ _ h
        exact hidle
    · have hidle := hpulling _ _ h
      exact hidle

/-! ### The stream of a connection -/

/-- `pull` waits for the next message. -/
def State.pullWaiting (s : State) : Bool := s.stream.any fun stream => stream.pull == .waiting

/-- The stream of a connection is in order, and `pull` is among the waiters of the queue exactly
while it waits for the next message. -/
structure State.StreamSound (s : State) : Prop where
  stream : ∀ st, s.stream = some st → st.Sound
  unclaimed : s.streamClaimed = false → s.stream = none
  waiters : s.incoming.waiters.count .pull = s.pullWaiting.toNat

/-- Rejecting waiters rejects the `incoming.next()` of `pull` if it is among them. -/
theorem reject_stream (s : State) (waiters : List Waiter) (error : Error) :
    (s.answerAll (waiters.map fun waiter => (waiter, .error error))).stream =
      if waiters.count .pull = 0 then s.stream
      else s.stream.map fun stream => { stream with pull := .rejected } := by
  induction waiters generalizing s with
  | nil => rfl
  | cons waiter waiters ih =>
    change ((s.answer waiter (.error error)).answerAll _).stream = _
    rw [ih]
    cases waiter with
    | receive id =>
      rw [List.count_cons_of_ne (by simp)]
      rfl
    | pull =>
      rw [List.count_cons_self, if_neg (Nat.succ_ne_zero _)]
      show (if waiters.count .pull = 0 then s.stream.map fun stream => { stream with pull := .rejected }
        else (s.stream.map fun stream => { stream with pull := .rejected }).map _) = _
      split
      · rfl
      · rw [Option.map_map]
        rfl

namespace State.StreamSound

/-- A move that leaves the stream and the waiters alone. -/
theorem congr (h : s.StreamSound) (hstream : s'.stream = s.stream)
    (hclaimed : s'.streamClaimed = s.streamClaimed)
    (hwaiters : s'.incoming.waiters = s.incoming.waiters) : s'.StreamSound := by
  refine ⟨?_, ?_, ?_⟩
  · rw [hstream]
    exact h.stream
  · rw [hstream, hclaimed]
    exact h.unclaimed
  · rw [hwaiters, State.pullWaiting, hstream]
    exact h.waiters

/-- A stream whose source is at `pc` in place of where it was. -/
theorem moved (h : s.StreamSound) {st : Stream} (hst : st.Sound) (hs : s.stream ≠ none)
    (hstream : s'.stream = some st) (hclaimed : s'.streamClaimed = s.streamClaimed)
    (hwaiters : s'.incoming.waiters.count .pull = (st.pull == .waiting).toNat) :
    s'.StreamSound := by
  refine ⟨fun st' hst' => ?_, fun hc => ?_, ?_⟩
  · rw [hstream] at hst'
    cases hst'
    exact hst
  · exact absurd (h.unclaimed (hclaimed ▸ hc)) hs
  · rw [hwaiters, State.pullWaiting, hstream]
    rfl

/-- While `pull` is among the waiters, there is a stream whose source waits. -/
theorem waiting_of_count (h : s.StreamSound) (hcount : s.incoming.waiters.count .pull ≠ 0) :
    s.incoming.waiters.count .pull = 1 ∧ ∃ st, s.stream = some st ∧ st.pull = .waiting := by
  have hwaiters := h.waiters
  cases hw : s.pullWaiting with
  | false =>
    rw [hw] at hwaiters
    exact absurd hwaiters hcount
  | true =>
    rw [hw] at hwaiters
    refine ⟨hwaiters, ?_⟩
    unfold State.pullWaiting at hw
    cases hst : s.stream with
    | none =>
      rw [hst] at hw
      cases hw
    | some st =>
      rw [hst] at hw
      exact ⟨st, rfl, by simpa using hw⟩

/-- Rejecting the waiters. -/
theorem reject (h : s.StreamSound) {queue : IncomingQueue} (hq : queue.waiters = [])
    (error : Error) :
    (s.withQueue (s.incoming.waiters.map fun waiter => (waiter, .error error), queue)).StreamSound := by
  have hframe := AnswerFrame.answerAll { s with incoming := queue }
    (s.incoming.waiters.map fun waiter => (waiter, .error error))
  have hstream := reject_stream { s with incoming := queue } s.incoming.waiters error
  have hclaimed : (s.withQueue (s.incoming.waiters.map fun waiter => (waiter, .error error),
      queue)).streamClaimed = s.streamClaimed := by
    rw [State.withQueue, hframe]
  have hincoming := withQueue_incoming s
    (s.incoming.waiters.map fun waiter => (waiter, .error error), queue)
  by_cases hcount : s.incoming.waiters.count .pull = 0
  · rw [if_pos hcount] at hstream
    refine ⟨fun st hst => h.stream st (hstream ▸ hst), fun hc => ?_, ?_⟩
    · exact hstream.trans (h.unclaimed (hclaimed ▸ hc))
    · rw [hincoming, hq, State.pullWaiting]
      have hwaiters := h.waiters
      rw [hcount] at hwaiters
      change 0 = Bool.toNat (Option.any _ (State.answerAll _ _).stream)
      rw [hstream]
      exact hwaiters
  · rw [if_neg hcount] at hstream
    obtain ⟨-, st, hst, hpull⟩ := h.waiting_of_count hcount
    have hmoved : (s.withQueue (s.incoming.waiters.map fun waiter => (waiter, .error error),
        queue)).stream = some { st with pull := .rejected } := by
      refine hstream.trans ?_
      show s.stream.map _ = _
      rw [hst]
      rfl
    have hanswered : ({ st with pull := .rejected } : Stream).Sound :=
      (h.stream st hst).answered hpull rfl
    refine h.moved hanswered (by simp [hst]) hmoved hclaimed ?_
    rw [hincoming, hq]
    rfl

/-- A message goes to the oldest waiter or into the queue. -/
theorem push (h : s.StreamSound) (message : Message) (size : Nat) :
    (s.withQueue (s.incoming.push message size)).StreamSound := by
  unfold IncomingQueue.push
  split
  · next waiter rest hw =>
    cases waiter with
    | receive id =>
      refine ⟨h.stream, h.unclaimed, ?_⟩
      have hwaiters := h.waiters
      rw [hw, List.count_cons_of_ne (by simp)] at hwaiters
      exact hwaiters
    | pull =>
      have hcount : s.incoming.waiters.count .pull = rest.count .pull + 1 := by
        rw [hw, List.count_cons_self]
      obtain ⟨hone, st, hst, hpull⟩ := h.waiting_of_count (by omega)
      have hresolved : ({ st with pull := .resolved message } : Stream).Sound :=
        (h.stream st hst).answered hpull rfl
      refine h.moved hresolved (by simp [hst]) ?_ rfl ?_
      · show s.stream.map _ = _
        rw [hst]
        rfl
      · show rest.count .pull = 0
        omega
  · exact h.congr rfl rfl rfl

/-- A receive call asks for the next message. -/
theorem nextReceive (h : s.StreamSound) (id : Nat) : (s.next (.receive id)).StreamSound := by
  unfold State.next IncomingQueue.next
  split
  · next result queue hnext =>
    split at hnext
    · cases hnext
      exact h.congr rfl rfl rfl
    · split at hnext
      · cases hnext
        exact h.congr rfl rfl rfl
      · split at hnext
        · cases hnext
          exact h.congr rfl rfl rfl
        · cases hnext
  · next queue hnext =>
    split at hnext
    · cases hnext
    · split at hnext
      · cases hnext
      · split at hnext
        · cases hnext
        · cases hnext
          refine ⟨h.stream, h.unclaimed, ?_⟩
          show (s.incoming.waiters ++ [Waiter.receive id]).count .pull = _
          rw [List.count_append]
          exact h.waiters

/-- A call of `pull` asks for the next message: it is there, the queue has failed, or `pull` waits
for it. -/
theorem nextPull {r : ReadableStream StreamMessage}
    (hs : s.stream = some { readable := r, pull := .waiting })
    (hcount : s.incoming.waiters.count .pull = 0) :
    ∃ pc : PullPc, pc.awaiting = true ∧
      (s.next .pull).stream = some { readable := r, pull := pc } ∧
      (s.next .pull).incoming.waiters.count .pull = (pc == .waiting).toNat ∧
      (pc = .rejected ∨ s.incoming.messages ≠ [] ∨
        s.incoming.overflowed = false ∧ s.incoming.closed = false) := by
  have hresolved (queue : IncomingQueue) (message : Message) :
      ({ s with incoming := queue }.answer .pull (.ok message)).stream =
        some { readable := r, pull := .resolved message } := by
    show s.stream.map _ = _
    rw [hs]
    rfl
  have hrejected (queue : IncomingQueue) (err : Error) :
      ({ s with incoming := queue }.answer .pull (.error err)).stream =
        some { readable := r, pull := .rejected } := by
    show s.stream.map _ = _
    rw [hs]
    rfl
  unfold State.next IncomingQueue.next
  cases hm : s.incoming.messages with
  | cons head rest =>
    exact ⟨.resolved head.message, rfl, hresolved _ _, hcount, .inr (.inl (by rintro ⟨⟩))⟩
  | nil =>
    dsimp only
    split
    · next result queue hnext =>
      split at hnext
      · cases hnext
        exact ⟨.rejected, rfl, hrejected _ _, hcount, .inl rfl⟩
      · split at hnext
        · cases hnext
          exact ⟨.rejected, rfl, hrejected _ _, hcount, .inl rfl⟩
        · cases hnext
    · next queue hnext =>
      split at hnext
      · cases hnext
      · next ho =>
        split at hnext
        · cases hnext
        · next hc =>
          cases hnext
          refine ⟨.waiting, rfl, hs, ?_, .inr (.inr ⟨by simpa using ho, by simpa using hc⟩)⟩
          show (s.incoming.waiters ++ [Waiter.pull]).count .pull = 1
          rw [List.count_append, hcount]
          rfl

/-- An operation of the stream. -/
theorem withStream (h : s.StreamSound) {st : Stream} (hst : s.stream = some st) {pc : PullPc}
    {o : Outcome StreamMessage} (hserved : Served o pc) (hcalls : o.pulls = true → st.pull ≠ .waiting)
    (hpc : pc = .waiting ↔ st.pull = .waiting) : (s.withStream pc o).StreamSound := by
  have hwaiting : s.pullWaiting = (st.pull == .waiting) := by
    rw [State.pullWaiting, hst]
    rfl
  rcases hserved with ⟨hpulls, hsound⟩ | ⟨hpulls, hsound⟩
  · have hcount : s.incoming.waiters.count .pull = 0 := by
      rw [h.waiters, hwaiting]
      simpa using hcalls hpulls
    unfold State.withStream
    rw [if_pos hpulls, if_pos hpulls]
    obtain ⟨pc', hawait, hstream, hcount', -⟩ := nextPull
      (s := { s with
        stream := some { readable := o.stream, pull := .waiting }
        hist := { s.hist with reads := s.hist.reads ++ o.answers } }) rfl hcount
    refine h.moved (hsound pc' hawait) (by simp [hst]) hstream ?_ hcount'
    rw [InboundFrame.next_claimed]
  · unfold State.withStream
    rw [if_neg (by simp [hpulls]), if_neg (by simp [hpulls])]
    refine h.moved hsound (by simp [hst]) rfl rfl ?_
    show s.incoming.waiters.count .pull = (pc == .waiting).toNat
    rw [h.waiters, hwaiting]
    by_cases hw : st.pull = .waiting
    · rw [hw, hpc.mpr hw]
    · have hw' : pc ≠ .waiting := fun hpc' => hw (hpc.mp hpc')
      rw [beq_eq_false_iff_ne.mpr hw, beq_eq_false_iff_ne.mpr hw']

/-- One promise reaction of the stream. -/
theorem react (h : s.StreamSound) {st : Stream} (hst : s.stream = some st)
    (hs : s.react st = some s') : s'.StreamSound := by
  have hsound := h.stream st hst
  have hidle {pc pc' : PullPc} (hpc : st.pull = pc) (hne : pc ≠ .waiting) (hne' : pc' ≠ .waiting) :
      pc' = .waiting ↔ st.pull = .waiting := by
    rw [hpc]
    exact iff_of_false hne' hne
  unfold State.react at hs
  split at hs
  · next hpc =>
    cases hs
    exact h.withStream hst (hsound.start hpc) (fun _ => by rw [hpc]; nofun)
      (hidle hpc nofun nofun)
  · next message hpc =>
    cases hs
    exact h.withStream hst (hsound.enqueue hpc _) (fun _ => by rw [hpc]; nofun)
      (hidle hpc nofun nofun)
  · next hpc =>
    cases hs
    exact h.withStream hst (hsound.close hpc).1 (fun _ => by rw [hpc]; nofun)
      (hidle hpc nofun nofun)
  · next hpc =>
    cases hs
    exact h.withStream hst (hsound.pullFulfilled hpc) (fun _ => by rw [hpc]; nofun)
      (hidle hpc nofun nofun)
  · cases hs
  · cases hs

/-- The consumer reads. -/
theorem read (h : s.StreamSound) {st : Stream} (hst : s.stream = some st) :
    (s.read st).StreamSound := by
  have hsound := h.stream st hst
  have hnext : ({ s with nextId := s.nextId + 1 } : State).StreamSound := h.congr rfl rfl rfl
  refine hnext.withStream hst (hsound.read s.nextId) (fun hpulls hw => ?_) Iff.rfl
  have hpulling := hsound.pulling
  rw [pulling_of_read hpulls, hw] at hpulling
  cases hpulling

theorem endQueue (h : s.StreamSound) : (s.withQueue s.incoming.endQueue).StreamSound := by
  unfold IncomingQueue.endQueue
  split
  · exact h.congr rfl rfl rfl
  · exact h.reject rfl _

theorem settleClosed (h : s.StreamSound) (event : Option (UInt16 × String)) :
    (s.settleClosed event).StreamSound := by
  unfold State.settleClosed
  split
  · exact h
  · have hlatch : ({ s with
        closeSettled := true
        timers := s.timers.filter fun timer => s.closeDeadline != some timer.handle
        closeDeadline := none } : State).StreamSound := h.congr rfl rfl rfl
    exact hlatch.endQueue.congr rfl rfl rfl

theorem close (h : s.StreamSound) (code : Option UInt16) (reason : String) :
    (s.close code reason).2.StreamSound := by
  rcases close_cases s code reason with ⟨-, hk⟩ | ⟨-, -, hk⟩ <;> rw [hk]
  · exact h
  · have hlocal : ({ s with localClosed := true } : State).StreamSound := h.congr rfl rfl rfl
    have hdiscard : ({ s with localClosed := true }.withQueue s.incoming.discard).StreamSound :=
      hlocal.reject rfl .closed
    exact hdiscard.congr rfl rfl rfl

theorem step {a : Action} (h : s.StreamSound) (hs : step s a = some s') : s'.StreamSound := by
  cases a with
  | receive =>
    obtain ⟨-, rfl⟩ := guestCall_eq_some.mp hs
    unfold State.receive
    dsimp only
    split
    · exact h.congr rfl rfl rfl
    · split
      · exact h.congr rfl rfl rfl
      · apply nextReceive
        exact h.congr rfl rfl rfl
  | receiveViaStream =>
    obtain ⟨-, rfl⟩ := guestCall_eq_some.mp hs
    unfold State.receiveViaStream
    split
    · exact h
    · have hincoming := withQueue_incoming { s with streamClaimed := true }
        (s.incoming.rejectWaiters .receivingViaStream)
      have hframe := AnswerFrame.answerAll
        { s with
          streamClaimed := true
          incoming := (s.incoming.rejectWaiters .receivingViaStream).2 }
        (s.incoming.rejectWaiters .receivingViaStream).1
      refine ⟨fun st hst => ?_, fun hc => ?_, ?_⟩
      · cases hst
        exact .new
      · dsimp only at hc
        rw [State.withQueue, hframe] at hc
        cases hc
      · dsimp only
        rw [hincoming]
        rfl
  | state | waitClosed =>
    obtain ⟨-, rfl⟩ := guestCall_eq_some.mp hs
    first
    | exact h.congr rfl rfl rfl
    | unfold State.waitClosed
      dsimp only
      split <;> exact h.congr rfl rfl rfl
  | close code reason =>
    obtain ⟨-, rfl⟩ := guestCall_eq_some.mp hs
    exact h.close code reason
  | dispose =>
    obtain ⟨-, rfl⟩ := guestCall_eq_some.mp hs
    exact (h.close none "").congr rfl rfl rfl
  | configure | tick =>
    cases hs
    exact h.congr rfl rfl rfl
  | read =>
    obtain ⟨stream, hst, rfl⟩ := Option.map_eq_some_iff.mp hs
    exact h.read hst
  | react =>
    obtain ⟨stream, hst, hreact⟩ := Option.bind_eq_some_iff.mp hs
    exact h.react hst hreact
  | message message =>
    obtain ⟨-, rfl⟩ := platformEvent_eq_some.mp hs
    unfold State.onMessage
    dsimp only
    split
    · exact h
    · split
      · unfold State.transportClosing
        split <;> exact h.congr rfl rfl rfl
      · exact h.push message _
  | peerClosing | transportClosed =>
    obtain ⟨-, rfl⟩ := platformEvent_eq_some.mp hs
    exact h.congr rfl rfl rfl
  | errorEvent | closeEvent =>
    obtain ⟨-, rfl⟩ := platformEvent_eq_some.mp hs
    exact h.endQueue.congr rfl rfl rfl
  | closeSettles =>
    simp only [Js.step] at hs
    split at hs
    · obtain ⟨-, rfl⟩ := platformEvent_eq_some.mp hs
      exact (h.settleClosed _).congr rfl rfl rfl
    · cases hs
  | timer handle =>
    obtain ⟨-, rfl⟩ := platformEvent_eq_some.mp hs
    have hfired : ({ s with
        timers := s.timers.filter fun timer => timer.handle != handle } : State).StreamSound :=
      h.congr rfl rfl rfl
    exact hfired.settleClosed none

end State.StreamSound

/-- In every reachable state the stream is in order. -/
theorem stream_sound (h : system.Reachable s) : s.StreamSound := by
  refine System.Reachable.induction (I := State.StreamSound) ?_ ?_ h
  · rintro _ ⟨knobs, now, rfl⟩
    exact ⟨nofun, fun _ => rfl, rfl⟩
  · intro s a s' _ ih hs
    exact ih.step hs

end Polymorph.Js
