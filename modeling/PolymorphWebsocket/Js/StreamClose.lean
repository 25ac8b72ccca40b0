import PolymorphWebsocket.Js.Stream

/-!
# The JavaScript host: a local close ends the stream

`Drained` is what a local close leaves of the inbound side when it finds no message on its way to
the consumer beyond the queue of the module: a stream with nothing queued that is closed, or whose
source is about to find that the queue has ended.  Every later move keeps it, whatever the platform
still delivers, and hands nothing to the consumer.
-/

namespace Polymorph.Js

open Web Transition

variable {s s' : State}

/-- The messages handed to the consumer of the stream. -/
def History.handed (hist : History) : List StreamMessage := hist.reads.filterMap Prod.snd

/-- A message is on its way to the consumer beyond the queue of the module: in the queue of the
stream, or in the hands of `pull`. -/
def Stream.inFlight (st : Stream) : Bool :=
  !st.readable.queue.isEmpty ||
    match st.pull with
    | .resolved _ => true
    | .starting | .idle | .waiting | .rejected | .returned => false

/-- The action makes a local close. -/
def State.closesLocally (s : State) : Action → Bool
  | .close code reason => !s.localClosed && decide (validateCloseArgs code reason = .ok ())
  | .dispose => !s.localClosed
  | _ => false

/-- The inbound side after a local close that found no message on its way. -/
structure State.Drained (s : State) : Prop where
  localClosed : s.localClosed = true
  ended : s.incoming.closed = true
  empty : ∀ st, s.stream = some st → st.readable.queue = []
  source : ∀ st, s.stream = some st → st.readable.closed = true ∨
    (s.incoming.messages = [] ∧ st.pull.due = true ∧ ∀ message, st.pull ≠ .resolved message)

/-- What every move does to a drained connection: it stays so, and nothing is handed over. -/
structure Drains (s s' : State) : Prop where
  drained : s'.Drained
  handed : s'.hist.handed = s.hist.handed

/-! ### The stream -/

/-- A source between two calls, with nothing queued, has closed the stream. -/
theorem closed_of_idle {r : ReadableStream StreamMessage}
    (h : ({ readable := r, pull := .idle } : Stream).Sound) (hq : r.queue = []) :
    r.closed = true := by
  have hserved : r.shouldCallPull = false := h.served rfl
  have hstarted : r.started = true := h.started
  have hwm : r.highWaterMark = 1 := h.highWaterMark
  cases hc : r.closeRequested with
  | true => exact (h.closed hc).1
  | false => simp [ReadableStream.shouldCallPull, hc, hstarted, hq, hwm] at hserved

/-- A closed stream is at the end of a call, or past it. -/
theorem Stream.Sound.not_awaiting {st : Stream} (h : st.Sound) (hc : st.readable.closed = true) :
    st.pull = .returned ∨ st.pull = .idle :=
  (h.closed (st.readable.closed_nil hc).1).2

/-- Reads that see the end are handed nothing. -/
theorem handed_append {hist : History} {answers : List (Nat × Option StreamMessage)}
    (h : ∀ a ∈ answers, a.2 = none) :
    ({ hist with reads := hist.reads ++ answers } : History).handed = hist.handed := by
  have hnone : answers.filterMap Prod.snd = [] := List.filterMap_eq_nil_iff.mpr h
  rw [History.handed, List.filterMap_append, hnone, List.append_nil]
  rfl

namespace State.Drained

theorem congr (h : s.Drained) (hlocal : s'.localClosed = s.localClosed)
    (hincoming : s'.incoming = s.incoming) (hstream : s'.stream = s.stream) : s'.Drained := by
  refine ⟨hlocal.trans h.localClosed, ?_, ?_, ?_⟩
  · rw [hincoming]
    exact h.ended
  · rw [hstream]
    exact h.empty
  · rw [hincoming, hstream]
    exact h.source

/-- A move that leaves the inbound side and the consumer alone. -/
theorem drains (h : s.Drained) (hlocal : s'.localClosed = s.localClosed)
    (hincoming : s'.incoming = s.incoming) (hstream : s'.stream = s.stream)
    (hreads : s'.hist.reads = s.hist.reads) : Drains s s' :=
  ⟨h.congr hlocal hincoming hstream, by rw [History.handed, hreads]; rfl⟩

/-- An ended queue ends no more. -/
theorem endQueue (h : s.Drained) : s.withQueue s.incoming.endQueue = s := by
  unfold IncomingQueue.endQueue
  rw [if_pos h.ended]
  rfl

/-- An operation of the stream that calls `pull` finds the end of the queue. -/
theorem calls (h : s.Drained) (hm : s.incoming.messages = []) {pc : PullPc} {o : Outcome StreamMessage}
    (hpulls : o.pulls = true) (hq : o.stream.queue = [])
    (hanswers : ∀ a ∈ o.answers, a.2 = none) :
    Drains s (s.withStream pc o) ∧
      (s.withStream pc o).stream = some { readable := o.stream, pull := .rejected } := by
  have hnext : ∃ error, s.incoming.next .pull = (some (.error error), s.incoming) := by
    unfold IncomingQueue.next
    rw [hm]
    dsimp only
    split
    · exact ⟨_, rfl⟩
    · exact ⟨_, if_pos h.ended⟩
  obtain ⟨error, hnext⟩ := hnext
  have hresult : s.withStream pc o = { s with
      stream := some { readable := o.stream, pull := .rejected }
      hist := { s.hist with reads := s.hist.reads ++ o.answers } } := by
    unfold State.withStream State.next
    rw [if_pos hpulls, if_pos hpulls]
    dsimp only
    rw [hnext]
    rfl
  rw [hresult]
  refine ⟨⟨⟨h.localClosed, h.ended, fun st' hst' => ?_, fun st' hst' => ?_⟩, ?_⟩, rfl⟩
  · cases hst'
    exact hq
  · cases hst'
    exact .inr ⟨hm, rfl, nofun⟩
  · exact handed_append hanswers

/-- An operation of the stream that does not call `pull`. -/
theorem stays (h : s.Drained) {pc : PullPc} {o : Outcome StreamMessage} (hpulls : o.pulls = false)
    (hq : o.stream.queue = []) (hanswers : ∀ a ∈ o.answers, a.2 = none)
    (hsource : o.stream.closed = true ∨
      (s.incoming.messages = [] ∧ pc.due = true ∧ ∀ message, pc ≠ .resolved message)) :
    Drains s (s.withStream pc o) := by
  have hresult : s.withStream pc o = { s with
      stream := some { readable := o.stream, pull := pc }
      hist := { s.hist with reads := s.hist.reads ++ o.answers } } := by
    unfold State.withStream
    rw [if_neg (by simp [hpulls]), if_neg (by simp [hpulls])]
  rw [hresult]
  refine ⟨⟨h.localClosed, h.ended, fun st' hst' => ?_, fun st' hst' => ?_⟩, ?_⟩
  · cases hst'
    exact hq
  · cases hst'
    exact hsource
  · exact handed_append hanswers

/-- A read of a drained stream sees the end, or waits for it. -/
theorem read (h : s.Drained) {st : Stream} (hst : s.stream = some st) (hsound : st.Sound) :
    Drains s (s.read st) := by
  have hq := h.empty st hst
  obtain ⟨hq', hanswers, hclosed, hpulls⟩ := ReadableStream.read_of_nil hq s.nextId
  have hcalls : (st.readable.read s.nextId).pulls = false := by
    cases hp : (st.readable.read s.nextId).pulls with
    | false => rfl
    | true =>
      obtain ⟨hopen, hstarted, hpulling⟩ := hpulls hp
      have hpc := hsound.pulling
      have hpc' := hsound.started
      rw [hpulling] at hpc
      rw [hstarted] at hpc'
      rcases h.source st hst with hc | ⟨-, hdue, -⟩
      · rw [hopen] at hc
        cases hc
      · cases hpull : st.pull <;> rw [hpull] at hpc hpc' hdue <;>
          first | cases hpc; done | cases hpc'; done | cases hdue
  have hnext : ({ s with nextId := s.nextId + 1 } : State).Drained := h.congr rfl rfl rfl
  have hsource : (st.readable.read s.nextId).stream.closed = true ∨ (s.incoming.messages = [] ∧
      st.pull.due = true ∧ ∀ message, st.pull ≠ .resolved message) := by
    rw [hclosed]
    exact h.source st hst
  have hdrains := hnext.stays hcalls hq' hanswers hsource
  exact ⟨hdrains.drained, hdrains.handed⟩

/-- The source goes on: it finds the end of the queue, closes the stream, and is done. -/
theorem react (h : s.Drained) {st : Stream} (hst : s.stream = some st) (hsound : st.Sound)
    (hs : s.react st = some s') : Drains s s' := by
  have hq := h.empty st hst
  -- A call of `pull` outside of a closed stream finds the queue empty and ended.
  have hserved {o : Outcome StreamMessage} (ho : Served o .idle) (hq' : o.stream.queue = [])
      (hanswers : o.answers = [])
      (hsource : o.stream.closed = false → s.incoming.messages = []) :
      Drains s (s.withStream .idle o) := by
    have hnone : ∀ a ∈ o.answers, a.2 = none := by
      rw [hanswers]
      nofun
    rcases ho with ⟨hpulls, hcalled⟩ | ⟨hpulls, hidle⟩
    · have hopen : o.stream.closed = false := by
        cases hc : o.stream.closed with
        | false => rfl
        | true =>
          rcases (hcalled .waiting rfl).not_awaiting hc with hpc | hpc <;> cases hpc
      exact (h.calls (hsource hopen) hpulls hq' hnone).1
    · exact h.stays hpulls hq' hnone (.inl (closed_of_idle hidle hq'))
  have hsource {pc : PullPc} (hpc : st.pull = pc) (hne : pc ≠ .returned) (hne' : pc ≠ .idle) :
      s.incoming.messages = [] := by
    rcases h.source st hst with hc | ⟨hm, -⟩
    · rcases hsound.not_awaiting hc with hret | hidle
      · exact absurd (hpc.symm.trans hret) hne
      · exact absurd (hpc.symm.trans hidle) hne'
    · exact hm
  unfold State.react at hs
  split at hs
  · next hpc =>
    cases hs
    exact hserved (hsound.start hpc) (by simpa using hq) rfl
      fun _ => hsource hpc nofun nofun
  · next message hpc =>
    exfalso
    rcases h.source st hst with hc | ⟨-, -, hnot⟩
    · rcases hsound.not_awaiting hc with hret | hidle
      · rw [hpc] at hret
        cases hret
      · rw [hpc] at hidle
        cases hidle
    · exact hnot message hpc
  · next hpc =>
    cases hs
    obtain ⟨hserved', hclosed, hanswers⟩ := hsound.close hpc
    have hpulls : st.readable.close.pulls = false := by
      unfold ReadableStream.close
      split <;> rfl
    exact h.stays hpulls (st.readable.close.stream.closed_nil hclosed).2.1 hanswers (.inl hclosed)
  · next hpc =>
    cases hs
    refine hserved (hsound.pullFulfilled hpc) (by simpa using hq) (by simp) fun hopen => ?_
    rw [ReadableStream.pullFulfilled_closed] at hopen
    rcases h.source st hst with hc | ⟨hm, -⟩
    · rw [hopen] at hc
      cases hc
    · exact hm
  · cases hs
  · cases hs

/-- A message that still arrives stays in the queue of the module: nobody waits, and the stream is
closed. -/
theorem message (h : s.Drained) (hq : s.incoming.Sound) (hdue : s.reactionDue = false)
    (message : Message) : Drains s (s.onMessage message) := by
  have hclosed (st : Stream) (hst : s.stream = some st) : st.readable.closed = true := by
    rcases h.source st hst with hc | ⟨-, hd, -⟩
    · exact hc
    · rw [State.reactionDue, hst] at hdue
      change st.pull.due = false at hdue
      rw [hdue] at hd
      cases hd
  have hwaiters := hq.ended h.ended
  unfold State.onMessage
  dsimp only
  split
  · exact ⟨h, rfl⟩
  · split
    · unfold State.transportClosing
      split <;> exact ⟨⟨h.localClosed, h.ended, h.empty, fun st hst => .inl (hclosed st hst)⟩, rfl⟩
    · unfold IncomingQueue.push
      rw [hwaiters]
      exact ⟨⟨h.localClosed, h.ended, h.empty, fun st hst => .inl (hclosed st hst)⟩, rfl⟩

theorem settleClosed (h : s.Drained) (event : Option (UInt16 × String)) :
    Drains s (s.settleClosed event) := by
  unfold State.settleClosed
  split
  · exact ⟨h, rfl⟩
  · have hlatch : ({ s with
        closeSettled := true
        timers := s.timers.filter fun timer => s.closeDeadline != some timer.handle
        closeDeadline := none } : State).Drained := h.congr rfl rfl rfl
    dsimp only
    rw [hlatch.endQueue]
    exact h.drains rfl rfl rfl rfl

theorem close (h : s.Drained) (code : Option UInt16) (reason : String) :
    (s.close code reason).2 = s := by
  rcases close_cases s code reason with ⟨-, hk⟩ | ⟨hopen, -, -⟩
  · exact hk
  · rw [h.localClosed] at hopen
    cases hopen

theorem step (h : s.Drained) (hs : s.StreamSound) (hq : s.incoming.Sound) {a : Action}
    (hstep : step s a = some s') : Drains s s' := by
  cases a with
  | receive =>
    obtain ⟨-, rfl⟩ := guestCall_eq_some.mp hstep
    unfold State.receive
    dsimp only
    rw [if_pos h.localClosed]
    exact h.drains rfl rfl rfl rfl
  | receiveViaStream =>
    obtain ⟨-, rfl⟩ := guestCall_eq_some.mp hstep
    unfold State.receiveViaStream
    rw [if_pos (by simp [h.localClosed])]
    exact ⟨h, rfl⟩
  | state | waitClosed =>
    obtain ⟨-, rfl⟩ := guestCall_eq_some.mp hstep
    first
    | exact h.drains rfl rfl rfl rfl
    | unfold State.waitClosed
      dsimp only
      split <;> exact h.drains rfl rfl rfl rfl
  | close code reason =>
    obtain ⟨-, rfl⟩ := guestCall_eq_some.mp hstep
    rw [h.close]
    exact ⟨h, rfl⟩
  | dispose =>
    obtain ⟨-, rfl⟩ := guestCall_eq_some.mp hstep
    unfold State.dispose
    rw [h.close]
    exact h.drains rfl rfl rfl rfl
  | configure | tick =>
    cases hstep
    exact h.drains rfl rfl rfl rfl
  | read =>
    obtain ⟨st, hst, rfl⟩ := Option.map_eq_some_iff.mp hstep
    exact h.read hst (hs.stream st hst)
  | react =>
    obtain ⟨st, hst, hreact⟩ := Option.bind_eq_some_iff.mp hstep
    exact h.react hst (hs.stream st hst) hreact
  | message message =>
    obtain ⟨⟨hdue, -⟩, rfl⟩ := platformEvent_eq_some.mp hstep
    exact h.message hq hdue message
  | peerClosing | transportClosed =>
    obtain ⟨-, rfl⟩ := platformEvent_eq_some.mp hstep
    exact h.drains rfl rfl rfl rfl
  | errorEvent | closeEvent =>
    obtain ⟨-, rfl⟩ := platformEvent_eq_some.mp hstep
    unfold State.onEnd
    rw [h.endQueue]
    exact h.drains rfl rfl rfl rfl
  | closeSettles =>
    simp only [Js.step] at hstep
    split at hstep
    · next code reason _ =>
      obtain ⟨-, rfl⟩ := platformEvent_eq_some.mp hstep
      have hsettles := h.settleClosed (some (code, reason))
      exact ⟨hsettles.drained.congr rfl rfl rfl, hsettles.handed⟩
    · cases hstep
  | timer handle =>
    obtain ⟨-, rfl⟩ := platformEvent_eq_some.mp hstep
    have hfired : ({ s with
        timers := s.timers.filter fun timer => timer.handle != handle } : State).Drained :=
      h.congr rfl rfl rfl
    have hsettles := hfired.settleClosed none
    exact ⟨hsettles.drained, hsettles.handed⟩

end State.Drained

/-! ### A local close -/

/-- A local close that finds no message on its way to the consumer beyond the queue of the module
drains the connection. -/
theorem drained_of_close (hs : s.StreamSound) (hflight : s.stream.any Stream.inFlight = false)
    (frame : Option CloseFrame) : Drains s (s.localClose frame) := by
  have hstream : (s.localClose frame).stream =
      if s.incoming.waiters.count .pull = 0 then s.stream
      else s.stream.map fun stream => { stream with pull := .rejected } :=
    reject_stream { s with localClosed := true, incoming := s.incoming.discard.2 }
      s.incoming.waiters .closed
  have hincoming : (s.localClose frame).incoming = s.incoming.discard.2 := by
    rw [localClose_frame]
  have hfree (st : Stream) (hst : s.stream = some st) :
      st.readable.queue = [] ∧ ∀ message, st.pull ≠ .resolved message := by
    rw [hst] at hflight
    change st.inFlight = false at hflight
    obtain ⟨hempty, hpull⟩ := Bool.or_eq_false_iff.mp hflight
    refine ⟨by simpa using hempty, fun message hpc => ?_⟩
    rw [hpc] at hpull
    cases hpull
  refine ⟨⟨?_, ?_, fun st' hst' => ?_, fun st' hst' => ?_⟩, ?_⟩
  · rw [localClose_frame]
  · rw [hincoming]
    rfl
  · rw [hstream] at hst'
    split at hst'
    · exact (hfree st' hst').1
    · obtain ⟨st, hst, rfl⟩ := Option.map_eq_some_iff.mp hst'
      exact (hfree st hst).1
  · rw [hincoming]
    rw [hstream] at hst'
    split at hst'
    · next hcount =>
      obtain ⟨hempty, hnot⟩ := hfree st' hst'
      have hsound := hs.stream st' hst'
      have hwaiting : st'.pull ≠ .waiting := by
        have hwaiters := hs.waiters
        rw [hcount, State.pullWaiting, hst'] at hwaiters
        change 0 = (st'.pull == .waiting).toNat at hwaiters
        intro hpc
        rw [hpc] at hwaiters
        cases hwaiters
      cases hpc : st'.pull with
      | idle =>
        have hidle : ({ readable := st'.readable, pull := .idle } : Stream).Sound := hpc ▸ hsound
        exact .inl (closed_of_idle hidle hempty)
      | waiting => exact absurd hpc hwaiting
      | resolved message => exact absurd hpc (hnot message)
      | starting | rejected | returned => exact .inr ⟨rfl, rfl, by rintro message ⟨⟩⟩
    · obtain ⟨st, hst, rfl⟩ := Option.map_eq_some_iff.mp hst'
      exact .inr ⟨rfl, rfl, by rintro message ⟨⟩⟩
  · rw [localClose_frame]
    rfl

/-- The rest of a run of a drained connection keeps it so, and hands nothing over. -/
theorem State.Drained.run {actions : List Action} (h : s.Drained) (hr : system.Reachable s)
    (hrun : system.run s actions = some s') : Drains s s' := by
  induction actions generalizing s with
  | nil =>
    obtain rfl : s = s' := Option.some.inj hrun
    exact ⟨h, rfl⟩
  | cons a actions ih =>
    obtain ⟨s₁, hstep, hrest⟩ := Option.bind_eq_some_iff.mp hrun
    have hdrains := h.step (stream_sound hr) (queue_sound hr) hstep
    have hrun' := ih hdrains.drained (hr.next hstep) hrest
    exact ⟨hrun'.drained, hrun'.handed.trans hdrains.handed⟩

/-- A local close, by `close` with valid arguments or by the drop of the resource. -/
theorem localClose_of_step {a : Action} (hcloses : s.closesLocally a = true)
    (hstep : step s a = some s') :
    ∃ frame disposed, s' = { s.localClose frame with disposed := disposed } := by
  cases a with
  | close code reason =>
    obtain ⟨hopen, hvalid⟩ := Bool.and_eq_true_iff.mp hcloses
    obtain ⟨-, rfl⟩ := guestCall_eq_some.mp hstep
    rcases close_cases s code reason with ⟨hno | hno, -⟩ | ⟨-, -, hk⟩
    · simp [hno] at hopen
    · exact absurd (of_decide_eq_true hvalid) hno
    · exact ⟨_, (s.close code reason).2.disposed, by rw [hk]⟩
  | dispose =>
    obtain ⟨-, rfl⟩ := guestCall_eq_some.mp hstep
    rcases close_cases s none "" with ⟨hno | hno, -⟩ | ⟨-, -, hk⟩
    · simp [State.closesLocally, hno] at hcloses
    · exact absurd rfl hno
    · exact ⟨_, true, by rw [State.dispose, hk]⟩
  | receive | receiveViaStream | state | waitClosed | configure | read | react | message
  | peerClosing | transportClosed | errorEvent | closeEvent | closeSettles | timer | tick =>
    cases hcloses

/-- With no reaction due, the stream of a drained connection is closed, and a read sees its end. -/
theorem State.Drained.read_end (h : s.Drained) (hdue : s.reactionDue = false) {st : Stream}
    (hst : s.stream = some st) :
    st.readable.readRequests = [] ∧ (s.read st).hist.reads = s.hist.reads ++ [(s.nextId, none)] := by
  have hclosed : st.readable.closed = true := by
    rcases h.source st hst with hc | ⟨-, hd, -⟩
    · exact hc
    · rw [State.reactionDue, hst] at hdue
      change st.pull.due = false at hdue
      rw [hdue] at hd
      cases hd
  refine ⟨(st.readable.closed_nil hclosed).2.2, ?_⟩
  have hread : st.readable.read s.nextId =
      { stream := st.readable, answers := [(s.nextId, none)], pulls := false } := dif_pos hclosed
  simp only [State.read, State.withStream, hread]
  rfl

/-- How many promise reactions are left until the source of a drained connection is done. -/
def Stream.reactions (st : Stream) : Nat :=
  match st.pull with
  | .starting => 3
  | .rejected => 2
  | .returned => if st.readable.closed then 1 else 3
  | .idle | .waiting | .resolved _ => 0

/-- A reaction of a drained connection that is due runs, and leaves fewer. -/
theorem reactions_of_drained (h : s.Drained) (hr : system.Reachable s) {st : Stream}
    (hst : s.stream = some st) (hdue : st.pull.due = true) :
    ∃ s' st', step s .react = some s' ∧ s'.stream = some st' ∧ st'.reactions < st.reactions := by
  have hsound := (stream_sound hr).stream st hst
  have hq := h.empty st hst
  have hstep {t : State} (ht : s.react st = some t) : step s .react = some t := by
    show s.stream.bind s.react = some t
    rw [hst]
    exact ht
  -- An operation after which the source has rejected, or is idle.
  have hserved {o : Outcome StreamMessage} (ho : Served o .idle) (hq' : o.stream.queue = [])
      (hanswers : o.answers = []) (hsource : o.pulls = true → s.incoming.messages = []) :
      ∃ st', (s.withStream .idle o).stream = some st' ∧ st'.reactions ≤ 2 ∧
        (o.pulls = false → st'.reactions = 0) := by
    rcases ho with ⟨hpulls, -⟩ | ⟨hpulls, -⟩
    · have hnone : ∀ a ∈ o.answers, a.2 = none := by
        rw [hanswers]
        nofun
      refine ⟨_, (h.calls (hsource hpulls) hpulls hq' hnone).2, le_rfl, fun hno => ?_⟩
      rw [hpulls] at hno
      cases hno
    · refine ⟨{ readable := o.stream, pull := .idle }, ?_, Nat.zero_le _, fun _ => rfl⟩
      unfold State.withStream
      rw [if_neg (by simp [hpulls]), if_neg (by simp [hpulls])]
  cases hpc : st.pull with
  | starting =>
    have hm : s.incoming.messages = [] := by
      rcases h.source st hst with hc | ⟨hm, -⟩
      · rcases hsound.not_awaiting hc with hret | hidle
        · rw [hpc] at hret
          cases hret
        · rw [hpc] at hidle
          cases hidle
      · exact hm
    obtain ⟨st', hst', hle, -⟩ := hserved (hsound.start hpc) (by simpa using hq) rfl fun _ => hm
    refine ⟨_, st', hstep (by rw [State.react, hpc]), hst', ?_⟩
    simp only [Stream.reactions, hpc]
    simp only [Stream.reactions] at hle
    omega
  | rejected =>
    obtain ⟨-, hclosed, -⟩ := hsound.close hpc
    have hpulls : st.readable.close.pulls = false := by
      unfold ReadableStream.close
      split <;> rfl
    refine ⟨_, { readable := st.readable.close.stream, pull := .returned },
      hstep (by rw [State.react, hpc]), ?_, ?_⟩
    · unfold State.withStream
      rw [if_neg (by simp [hpulls]), if_neg (by simp [hpulls])]
    · simp [Stream.reactions, hpc, hclosed]
  | returned =>
    have hserve := hsound.pullFulfilled hpc
    cases hc : st.readable.closed with
    | true =>
      have hpulls : st.readable.pullFulfilled.pulls = false := by
        rcases hserve with ⟨-, hcalled⟩ | ⟨hpulls, -⟩
        · have hclosed : st.readable.pullFulfilled.stream.closed = true := by simpa using hc
          rcases (hcalled .waiting rfl).not_awaiting hclosed with hret | hidle
          · cases hret
          · cases hidle
        · exact hpulls
      obtain ⟨st', hst', -, hzero⟩ := hserved hserve (by simpa using hq) (by simp) fun hp => by
        rw [hpulls] at hp
        cases hp
      refine ⟨_, st', hstep (by rw [State.react, hpc]), hst', ?_⟩
      rw [hzero hpulls]
      simp [Stream.reactions, hpc, hc]
    | false =>
      have hm : s.incoming.messages = [] := by
        rcases h.source st hst with hc' | ⟨hm, -⟩
        · rw [hc] at hc'
          cases hc'
        · exact hm
      obtain ⟨st', hst', hle, -⟩ := hserved hserve (by simpa using hq) (by simp) fun _ => hm
      refine ⟨_, st', hstep (by rw [State.react, hpc]), hst', ?_⟩
      simp only [Stream.reactions, hpc, hc]
      simp only [Stream.reactions] at hle
      simp only [Bool.false_eq_true, if_false]
      omega
  | resolved message =>
    rcases h.source st hst with hc | ⟨-, -, hnot⟩
    · rcases hsound.not_awaiting hc with hret | hidle
      · rw [hpc] at hret
        cases hret
      · rw [hpc] at hidle
        cases hidle
    · exact absurd hpc (hnot message)
  | idle | waiting =>
    rw [hpc] at hdue
    cases hdue

/-- The promise reactions of a drained connection run out. -/
theorem reactions_run_out (h : s.Drained) (hr : system.Reachable s) :
    ∃ n s', system.run s (List.replicate n .react) = some s' ∧ s'.reactionDue = false := by
  cases hst : s.stream with
  | none => exact ⟨0, s, rfl, by rw [State.reactionDue, hst]; rfl⟩
  | some st =>
    induction hn : st.reactions using Nat.strong_induction_on generalizing s st with
    | _ n ih =>
      cases hdue : st.pull.due with
      | false => exact ⟨0, s, rfl, by rw [State.reactionDue, hst]; exact hdue⟩
      | true =>
        obtain ⟨s₁, st₁, hstep, hst₁, hlt⟩ := reactions_of_drained h hr hst hdue
        have hdrained := (h.step (stream_sound hr) (queue_sound hr) hstep).drained
        obtain ⟨k, s₂, hrun, hrest⟩ := ih st₁.reactions (hn ▸ hlt) hdrained (hr.next (a := .react) hstep) st₁
          hst₁ rfl
        refine ⟨k + 1, s₂, ?_, hrest⟩
        rw [List.replicate_succ, System.run_cons]
        exact Option.bind_eq_some_iff.mpr ⟨s₁, hstep, hrun⟩

/-! ### A message past the queue of the module -/

/-- Asking for a message answers no read, and leaves the queue of the stream alone. -/
theorem next_reads (s : State) (waiter : Waiter) :
    (s.next waiter).hist.reads = s.hist.reads ∧
      (s.next waiter).stream.map Stream.readable = s.stream.map Stream.readable := by
  unfold State.next
  rcases s.incoming.next waiter with ⟨_ | result, queue⟩
  · exact ⟨rfl, rfl⟩
  · cases waiter with
    | receive id => exact ⟨rfl, rfl⟩
    | pull =>
      refine ⟨rfl, ?_⟩
      show (s.stream.map _).map Stream.readable = _
      rw [Option.map_map]
      rfl

/-- What an operation of the stream hands over, and the stream it leaves. -/
theorem withStream_reads (s : State) (pc : PullPc) (o : Outcome StreamMessage) :
    (s.withStream pc o).hist.reads = s.hist.reads ++ o.answers ∧
      (s.withStream pc o).stream.map Stream.readable = some o.stream := by
  unfold State.withStream
  dsimp only
  split
  · exact next_reads { s with
      stream := some { readable := o.stream, pull := .waiting }
      hist := { s.hist with reads := s.hist.reads ++ o.answers } } .pull
  · exact ⟨rfl, rfl⟩

/-- An operation of the stream that answers a read with a message. -/
theorem handed_withStream {pc : PullPc} {o : Outcome StreamMessage} {id : Nat}
    {message : StreamMessage} (h : o.answers = [(id, some message)]) :
    (s.withStream pc o).hist.handed ≠ s.hist.handed := by
  intro heq
  rw [History.handed, (withStream_reads s pc o).1, h, List.filterMap_append] at heq
  exact absurd (List.append_right_eq_self.mp heq) (List.cons_ne_nil _ _)

/-- A queued message is handed over by the next read. -/
theorem hands_queued {r : ReadableStream StreamMessage}
    (hst : s.stream.map Stream.readable = some r) (hq : r.queue ≠ []) :
    ∃ t, Js.step s .read = some t ∧ t.hist.handed ≠ s.hist.handed := by
  obtain ⟨st, hstream, rfl⟩ := Option.map_eq_some_iff.mp hst
  obtain ⟨chunk, rest, hcons⟩ := List.exists_cons_of_ne_nil hq
  refine ⟨s.read st, Option.map_eq_some_iff.mpr ⟨st, hstream, rfl⟩, ?_⟩
  exact handed_withStream (s := { s with nextId := s.nextId + 1 })
    (ReadableStream.read_of_cons hcons _)

/-- A message on its way to the consumer beyond the queue of the module gets there, whatever became
of that queue. -/
theorem hands_inFlight (hs : s.StreamSound) (hflight : s.stream.any Stream.inFlight = true) :
    ∃ actions t, system.run s actions = some t ∧ t.hist.handed ≠ s.hist.handed := by
  obtain ⟨st, hst, hst'⟩ : ∃ st, s.stream = some st ∧ st.inFlight = true := by
    simpa [Option.any_eq_true_iff_get, Option.eq_some_iff_get_eq] using hflight
  by_cases hq : st.readable.queue = []
  · obtain ⟨message, hpc⟩ : ∃ message, st.pull = .resolved message := by
      rw [Stream.inFlight, hq] at hst'
      cases hpc : st.pull with
      | resolved message => exact ⟨message, rfl⟩
      | starting | idle | waiting | rejected | returned =>
        rw [hpc] at hst'
        cases hst'
    have hopen : st.readable.closeRequested = false := by
      cases hc : st.readable.closeRequested with
      | false => rfl
      | true =>
        rcases ((hs.stream st hst).closed hc).2 with hret | hidle
        · rw [hpc] at hret
          cases hret
        · rw [hpc] at hidle
          cases hidle
    let o := st.readable.enqueue (.ofMessage message)
    have hstep : Js.step s .react = some (s.withStream .returned o) := by
      rw [Js.step, hst]
      show s.react st = _
      rw [State.react, hpc]
    rcases ReadableStream.enqueue_of_open hopen (.ofMessage message) with ⟨id, hanswers⟩ | hqueue
    · exact ⟨[.react], _, Option.bind_eq_some_iff.mpr ⟨_, hstep, rfl⟩, handed_withStream hanswers⟩
    · obtain ⟨t, hread, hhanded⟩ :=
        hands_queued (withStream_reads s .returned o).2 hqueue
      by_cases hsame : (s.withStream .returned o).hist.handed = s.hist.handed
      · refine ⟨[.react, .read], t, ?_, hsame ▸ hhanded⟩
        exact Option.bind_eq_some_iff.mpr
          ⟨_, hstep, Option.bind_eq_some_iff.mpr ⟨_, hread, rfl⟩⟩
      · exact ⟨[.react], _, Option.bind_eq_some_iff.mpr ⟨_, hstep, rfl⟩, hsame⟩
  · obtain ⟨t, hread, hhanded⟩ := hands_queued (r := st.readable) (by rw [hst]; rfl) hq
    exact ⟨[.read], t, Option.bind_eq_some_iff.mpr ⟨_, hread, rfl⟩, hhanded⟩

/-- A local close leaves a message where it is that is past the queue of the module. -/
theorem inFlight_of_localClose (hs : s.StreamSound) (hflight : s.stream.any Stream.inFlight = true)
    (frame : Option CloseFrame) : (s.localClose frame).stream.any Stream.inFlight = true := by
  have hstream : (s.localClose frame).stream =
      if s.incoming.waiters.count .pull = 0 then s.stream
      else s.stream.map fun stream => { stream with pull := .rejected } :=
    reject_stream { s with localClosed := true, incoming := s.incoming.discard.2 }
      s.incoming.waiters .closed
  rw [hstream]
  split
  · exact hflight
  · next hcount =>
    obtain ⟨-, st, hst, hpc⟩ := hs.waiting_of_count hcount
    rw [hst] at hflight ⊢
    change st.inFlight = true at hflight
    rw [Stream.inFlight, hpc] at hflight
    exact hflight

/-- What a local close owes the consumer of the stream, in every state of the rest of the run: no
message is handed over any more, the reactions of the stream run out, and then no read waits and the
next one sees the end. -/
structure State.StreamEnds (s : State) : Prop where
  handed : ∀ actions t, system.run s actions = some t → t.hist.handed = s.hist.handed
  settles : ∀ actions t, system.run s actions = some t →
    ∃ n t', system.run t (List.replicate n .react) = some t' ∧ t'.reactionDue = false
  ended : ∀ actions t, system.run s actions = some t → t.reactionDue = false →
    ∀ st, t.stream = some st →
      st.readable.readRequests = [] ∧ (t.read st).hist.reads = t.hist.reads ++ [(t.nextId, none)]

/-- A local close ends the stream exactly when it finds no message on its way to the consumer beyond
the queue of the module. -/
theorem stream_ends (h : system.Reachable s) {a : Action} (hcloses : s.closesLocally a = true)
    (hstep : Js.step s a = some s') :
    s'.StreamEnds ↔ s.stream.any Stream.inFlight = false := by
  have hsound := stream_sound h
  have hr : system.Reachable s' := h.next hstep
  obtain ⟨frame, disposed, rfl⟩ := localClose_of_step hcloses hstep
  constructor
  · intro hends
    by_contra hflight
    rw [Bool.not_eq_false] at hflight
    obtain ⟨actions, t, hrun, hne⟩ :=
      hands_inFlight (stream_sound hr) (inFlight_of_localClose hsound hflight frame)
    exact hne (hends.handed actions t hrun)
  · intro hflight
    have hdrained : ({ s.localClose frame with disposed := disposed } : State).Drained :=
      (drained_of_close hsound hflight frame).drained.congr rfl rfl rfl
    constructor
    · intro actions t hrun
      exact (hdrained.run hr hrun).handed
    · intro actions t hrun
      exact reactions_run_out (hdrained.run hr hrun).drained (hr.run hrun)
    · intro actions t hrun hdue st hst
      exact (hdrained.run hr hrun).drained.read_end hdue hst

/-- A local close while `pull` waits for a message, after one has been read. -/
theorem stream_ends_waiting :
    ∃ s s', system.run (State.start .default 0)
        [.receiveViaStream, .react, .read, .message (.binary [7]), .react, .react] = some s ∧
      Js.step s (.close none "") = some s' ∧ s'.hist.handed.length = 1 ∧ s'.StreamEnds := by
  have hrun : system.run (State.start .default 0)
      [.receiveViaStream, .react, .read, .message (.binary [7]), .react, .react] = some _ := rfl
  have hstart : system.Reachable (State.start .default 0) := .of_init ⟨_, _, rfl⟩
  exact ⟨_, _, hrun, rfl, rfl,
    (stream_ends (a := .close none "") (hstart.run hrun) rfl rfl).mpr rfl⟩

/-- A message that `pull` has put into the queue of the stream is read after a local close. -/
theorem queued_message_survives_close :
    ¬ ∀ s a s', system.Reachable s → s.closesLocally a = true → Js.step s a = some s' →
      s'.StreamEnds := by
  intro hclaim
  have hrun : system.run (State.start .default 0)
      [.receiveViaStream, .react, .message (.binary [7]), .react, .react] = some _ := rfl
  have hstart : system.Reachable (State.start .default 0) := .of_init ⟨_, _, rfl⟩
  have hends := hclaim _ (.close none "") _ (hstart.run hrun) rfl rfl
  exact absurd (hends.handed [.read] _ rfl) (by decide)

end Polymorph.Js
