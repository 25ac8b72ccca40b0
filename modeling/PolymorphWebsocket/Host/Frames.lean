import PolymorphWebsocket.Host.Pump

/-!
# The wasmtime host: who changes what

The pump's own steps, the resolutions of its bounded writes and everything else (the guest's calls,
the readers, the transport, the clock) each change their own part of the state.  A frame equates
the state after a step with the state before it, that part apart.
-/

namespace Polymorph.Host

open Futures

variable {s s' s'' : State}

/-- The part of the state the pump changes by itself. -/
def PollFrame (s s' : State) : Prop :=
  s'.toConnection = { s.toConnection with
    shared := { s'.shared with
      localClosed := s.shared.localClosed, sendersGone := s.shared.sendersGone }
    pump := { s'.pump with writeDead := s.pump.writeDead, closeTimeout := s.pump.closeTimeout }
    inbound := s'.inbound
    hist := { s.hist with replies := s'.hist.replies, closeFrames := s'.hist.closeFrames } }

/-- The part of the state the resolutions of a bounded write change. -/
def WriteFrame (s s' : State) : Prop :=
  s'.toConnection = { s.toConnection with
    pump := { s.pump with
      writeDead := s'.pump.writeDead, deadline := s'.pump.deadline, pc := s'.pump.pc }
    hist := { s.hist with
      handed := s'.hist.handed, completed := s'.hist.completed, replies := s'.hist.replies } }

/-- The part of the state everyone else changes. -/
def OuterFrame (s s' : State) : Prop :=
  s'.toConnection = { s.toConnection with
    shared := { s.shared with
      state := s'.shared.state, localClosed := s'.shared.localClosed, cmds := s'.shared.cmds
      sendersGone := s'.shared.sendersGone, queue := s'.shared.queue
      budget := { s.shared.budget with buffered := s'.shared.budget.buffered } }
    calls := s'.calls, inbound := s'.inbound, now := s'.now
    hist := { s.hist with
      enqueued := s'.hist.enqueued, replies := s'.hist.replies
      closeCall := s'.hist.closeCall } }

/-- The part of the state a bounded write changes when it is refused, starts or returns. -/
def PcFrame (s s' : State) : Prop :=
  s'.toConnection = { s.toConnection with
    pump := { s.pump with pc := s'.pump.pc }, hist := { s.hist with replies := s'.hist.replies } }

/-- Frames compose: what two pieces of the pump change lies in its part. -/
theorem PollFrame.trans (h₁ : PollFrame s s') (h₂ : PollFrame s' s'') : PollFrame s s'' := by
  unfold PollFrame at *
  rw [h₁] at h₂
  exact h₂

/-- Frames of a bounded write compose. -/
theorem WriteFrame.trans (h₁ : WriteFrame s s') (h₂ : WriteFrame s' s'') : WriteFrame s s'' := by
  unfold WriteFrame at *
  rw [h₁] at h₂
  exact h₂

/-! ### The pump's steps -/

/-- Going on moves the pump and answers a send. -/
theorem PcFrame.goes (s : State) (result : Except Error Unit) (next : Next) :
    PcFrame s (s.goes result next) := by
  cases next <;> rfl

/-- Starting a bounded write, or failing it on a dead transport, moves the pump only. -/
theorem PcFrame.boundedWrite (s : State) (write : Write) (next : Next) :
    PcFrame s (s.boundedWrite write next) := by
  unfold State.boundedWrite
  split
  · exact goes s _ next
  · rfl

/-- Moving the pump lies in its part. -/
theorem PollFrame.of_pc (h : PcFrame s s') : PollFrame s s' := by
  unfold PollFrame
  rw [h]

/-- What beginning a close can do: nothing when the handshake has begun, or begin it and write the
close frame. -/
theorem beginClose_cases (s : State) (frame : Option CloseFrame) (next : Next) :
    (s.pump.wireClosing = true ∧ s.beginClose frame next = s.goes (.ok ()) next) ∨
    (s.pump.wireClosing = false ∧ s.beginClose frame next =
      (s.closing frame).boundedWrite (.send (.close frame) false) next) := by
  unfold State.beginClose
  cases s.pump.wireClosing with
  | true => exact .inl ⟨rfl, rfl⟩
  | false => exact .inr ⟨rfl, rfl⟩

/-- Beginning to close, and the write of the close frame. -/
theorem PollFrame.beginClose (s : State) (frame : Option CloseFrame) (next : Next) :
    PollFrame s (s.beginClose frame next) := by
  rcases beginClose_cases s frame next with ⟨-, h⟩ | ⟨-, h⟩ <;> rw [h]
  · exact .of_pc (.goes s _ next)
  · exact (show PollFrame s (s.closing frame) from rfl).trans (.of_pc (.boundedWrite _ _ _))

/-- A message that is read is dropped, queued or overflows. -/
theorem PollFrame.deliver (s : State) (message : Message) : PollFrame s (s.deliver message) := by
  unfold State.deliver
  split
  · rfl
  · split
    · rfl
    · exact (show PollFrame s (s.setBudget s.shared.budget.latchOverflow) from rfl).trans
        (beginClose _ _ _)

/-- A poll of each arm of the select. -/
theorem PollFrame.pollArm (s : State) (arm : Arm) : PollFrame s (s.pollArm arm) := by
  cases arm with
  | cmd =>
    simp only [State.pollArm]
    split
    · rfl
    · split
      · rfl
      · split <;> rfl
  | read =>
    simp only [State.pollArm]
    split <;> rfl
  | deadline => rfl

/-- What the command arm resolves to. -/
theorem PollFrame.onCmd (s : State) (cmd : Option Cmd) : PollFrame s (s.onCmd cmd) := by
  rcases cmd with - | cmd
  · exact (show PollFrame s { s with pump := { s.pump with cmdsDone := true } } from rfl).trans
      (beginClose _ _ _)
  cases cmd with
  | send id message =>
    simp only [State.onCmd]
    split
    · exact .of_pc (.goes s _ _)
    · exact .of_pc (.boundedWrite s _ _)
  | close code reason => exact beginClose s _ _

/-- What the read arm resolves to. -/
theorem PollFrame.onRead (s : State) (outcome : Inbound) : PollFrame s (s.onRead outcome) := by
  cases outcome with
  | text text => exact deliver s _
  | binary bytes => exact deliver s _
  | close frame =>
    simp only [State.onRead]
    split
    · rfl
    · exact (show PollFrame s (s.notePeerFrame frame).setWireClosing from rfl).trans
        (.of_pc (.boundedWrite _ _ _))
  | ping payload => exact .of_pc (.boundedWrite s _ _)
  | pong | frame | connectionClosed | error => rfl
  | capacity =>
    exact (show PollFrame s (s.setBudget s.shared.budget.latchOverflow) from rfl).trans
      (beginClose _ _ _)

/-- What a resolved select does leaves the command channel and the outcomes alone. -/
theorem onResolved_cmds (s : State) (r : Resolution) :
    (s.onResolved r).shared.cmds = s.shared.cmds ∧ (s.onResolved r).inbound = s.inbound := by
  have hwrite (t : State) (write : Write) (next : Next) :
      (t.boundedWrite write next).shared.cmds = t.shared.cmds ∧
        (t.boundedWrite write next).inbound = t.inbound := by
    rw [PcFrame.boundedWrite t write next]
    exact ⟨rfl, rfl⟩
  have hbegin (t : State) (frame : Option CloseFrame) (next : Next) :
      (t.beginClose frame next).shared.cmds = t.shared.cmds ∧
        (t.beginClose frame next).inbound = t.inbound := by
    rcases beginClose_cases t frame next with ⟨-, h⟩ | ⟨-, h⟩ <;> rw [h]
    · rw [PcFrame.goes t (.ok ()) next]
      exact ⟨rfl, rfl⟩
    · exact hwrite (t.closing frame) _ next
  have hdeliver (message : Message) :
      (s.deliver message).shared.cmds = s.shared.cmds ∧ (s.deliver message).inbound = s.inbound := by
    unfold State.deliver
    split
    · exact ⟨rfl, rfl⟩
    · split
      · exact ⟨rfl, rfl⟩
      · exact hbegin _ _ _
  cases r with
  | cmd cmd =>
    rcases cmd with - | cmd
    · exact hbegin _ _ _
    cases cmd with
    | send id message =>
      simp only [State.onResolved, State.onCmd]
      split
      · rw [PcFrame.goes s (.error .closed) (.reply id)]
        exact ⟨rfl, rfl⟩
      · exact hwrite s _ _
    | close code reason => exact hbegin _ _ _
  | deadline => exact ⟨rfl, rfl⟩
  | read outcome =>
    cases outcome with
    | text text => exact hdeliver _
    | binary bytes => exact hdeliver _
    | close frame =>
      simp only [State.onResolved, State.onRead]
      split
      · exact ⟨rfl, rfl⟩
      · exact hwrite (s.notePeerFrame frame).setWireClosing _ _
    | ping payload => exact hwrite s _ _
    | pong | frame | connectionClosed | error => exact ⟨rfl, rfl⟩
    | capacity => exact hbegin _ _ _

/-- The pump keeps to its part of the state. -/
theorem PollFrame.poll (h : s.poll = some s') : PollFrame s s' := by
  unfold State.poll at h
  split at h
  · cases h; exact pollArm s _
  · next r _ =>
    cases h
    cases r with
    | cmd cmd => exact onCmd s cmd
    | read outcome => exact onRead s outcome
    | deadline => rfl
  · cases h; rfl
  · cases h; rfl
  · cases h
  · next stage _ =>
    cases h
    cases stage with
    | drainCmds =>
      simp only [State.finalizeStep]
      split <;> rfl
    | closeInfo | endQueue | closeCmds | closing | closed | fire => rfl
  · cases h

/-! ### The resolutions of a bounded write -/

/-- A write that has returned lets the pump go on. -/
theorem WriteFrame.goes (s : State) (result : Except Error Unit) (next : Next) :
    WriteFrame s (s.goes result next) := by
  cases next <;> rfl

/-- A write that fails kills the transport for later ones and arms the deadline. -/
theorem WriteFrame.failWrite (s : State) (err : Error) (next : Next) :
    WriteFrame s (s.failWrite err next) :=
  (show WriteFrame s s.setWriteDead.armDeadline from rfl).trans (goes _ _ next)

/-- A resolution of a bounded write keeps to its part of the state. -/
theorem WriteFrame.step {a : Action} (h : step s a = some s')
    (ha : a = .hand ∨ a = .written ∨ (∃ err, a = .writeFailed err) ∨ a = .writeBound) :
    WriteFrame s s' := by
  rcases ha with rfl | rfl | ⟨err, rfl⟩ | rfl
  · simp only [Host.step, State.hand] at h
    split at h
    · cases h; rfl
    · cases h
  · simp only [Host.step, State.written] at h
    split at h
    · cases h
    · next write _ _ _ _ =>
      cases h
      have hnote : WriteFrame s (s.noteCompleted write) := by
        unfold State.noteCompleted
        split <;> rfl
      exact hnote.trans (goes _ _ _)
    · cases h
  · simp only [Host.step, State.writeFailed] at h
    split at h
    · cases h; exact failWrite s _ _
    · cases h
  · simp only [Host.step, State.writeBound] at h
    split at h
    · split at h
      · cases h; rfl
      · cases h
    · split at h
      · cases h; exact failWrite s _ _
      · cases h
    · cases h

/-- A bounded write resolves only while it is on its way. -/
theorem writing_of_step {a : Action} (h : step s a = some s')
    (ha : a = .hand ∨ a = .written ∨ (∃ err, a = .writeFailed err) ∨ a = .writeBound) :
    ∃ write bound next, s.pump.pc = .writing write bound next := by
  rcases ha with rfl | rfl | ⟨err, rfl⟩ | rfl
  · simp only [step, State.hand] at h
    split at h
    · next hpc => exact ⟨_, _, _, hpc⟩
    · cases h
  · simp only [step, State.written] at h
    split at h
    · next hpc => exact ⟨_, _, _, hpc⟩
    · next hpc => exact ⟨_, _, _, hpc⟩
    · cases h
  · simp only [step, State.writeFailed] at h
    split at h
    · next hpc => exact ⟨_, _, _, hpc⟩
    · cases h
  · simp only [step, State.writeBound] at h
    split at h
    · next hpc => exact ⟨_, _, _, hpc⟩
    · next hpc => exact ⟨_, _, _, hpc⟩
    · cases h

/-! ### Everyone else -/

/-- The state after an accepted `close` call, before its command enters the channel. -/
def State.closed (s : State) (code : Option UInt16) (reason : String) : State :=
  { s.advance .closing with
    shared := { (s.advance .closing).shared with localClosed := true }
    calls := { s.calls with closing := some (code, reason) }
    hist := { s.hist with
      closeCall := s.hist.closeCall.or (some
        { frame := closeFrameOf code reason
          fresh := s.pump.peerFrame.isNone && !s.shared.budget.overflowed && !s.pump.writeDead }) } }

/-- What a `close` call can do: nothing, when its arguments are refused or a local close has been
made, or make the local close. -/
theorem callClose_cases (s : State) (code : Option UInt16) (reason : String) :
    ((s.shared.localClosed = true ∨ validateCloseArgs code reason ≠ .ok ()) ∧
      s.callClose code reason = s) ∨
    (s.shared.localClosed = false ∧ validateCloseArgs code reason = .ok () ∧
      s.callClose code reason = s.closed code reason) := by
  unfold State.callClose
  cases hv : validateCloseArgs code reason with
  | error err => exact .inl ⟨.inr nofun, rfl⟩
  | ok u =>
    by_cases hl : s.shared.localClosed = true
    · exact .inl ⟨.inl hl, by simp [hl]⟩
    · exact .inr ⟨Bool.eq_false_iff.mpr hl, rfl, by simp [hl, State.closed, State.advance]⟩

/-- A `close` call sets the flag and keeps its command to be sent. -/
theorem OuterFrame.callClose (s : State) (code : Option UInt16) (reason : String) :
    OuterFrame s (s.callClose code reason) := by
  rcases callClose_cases s code reason with ⟨-, h⟩ | ⟨-, -, h⟩ <;> rw [h] <;> rfl

/-- The moves of everyone but the pump. -/
inductive OuterMove (s : State) : Action → State → Prop
  | send (message : Message) : OuterMove s (.send message) (s.callSend message)
  | enqueue {id : Nat} {message : Message} (hmem : (id, message) ∈ s.calls.checked) :
      OuterMove s (.enqueue id message) (s.enqueue id message)
  | close (code : Option UInt16) (reason : String) :
      OuterMove s (.close code reason) (s.callClose code reason)
  | enqueueClose {code : Option UInt16} {reason : String}
      (hc : s.calls.closing = some (code, reason)) :
      OuterMove s .enqueueClose (s.enqueueClose code reason)
  | drop : OuterMove s .drop s.callDrop
  | dropSenders (hd : s.calls.dropped = true) (hs : s.calls.checked = [])
      (hc : s.calls.closing = none) :
      OuterMove s .dropSenders { s with shared := { s.shared with sendersGone := true } }
  /-- A reader takes a message or releases one. -/
  | reader {a : Action} (ha : a = .take ∨ a = .release) (queue : Receiver Message)
      (unreleased : Option Message) (buffered : Nat) :
      OuterMove s a { s with
        shared := { s.shared with
          queue := queue, budget := { s.shared.budget with buffered := buffered } }
        calls := { s.calls with unreleased := unreleased } }
  | arrive (outcomes : List Inbound) :
      OuterMove s (.arrive outcomes) { s with inbound := s.inbound ++ outcomes }
  | tick (dt : Nat)
      (hreaches : s.pump.deadline = none → s.now + dt + s.pump.closeTimeout.asNanos ≤ s.largest) :
      OuterMove s (.tick dt) { s with now := s.now + dt, reaches := hreaches }

/-- Everyone but the pump keeps to the rest of the state. -/
theorem OuterFrame.of_move {a : Action} (h : OuterMove s a s') : OuterFrame s s' := by
  cases h with
  | send message =>
    simp only [State.callSend]
    split <;> rfl
  | enqueue =>
    simp only [State.enqueue]
    split <;> rfl
  | close code reason => exact callClose s code reason
  | enqueueClose =>
    simp only [State.enqueueClose]
    split <;> rfl
  | drop =>
    have hclose := OuterFrame.callClose s none ""
    unfold OuterFrame State.callDrop at *
    dsimp only
    rw [hclose]
  | dropSenders | reader | arrive | tick => rfl

/-- The moves by who makes them. -/
inductive StepKind (s : State) : Action → State → Prop
  | poll {s' : State} (h : s.poll = some s') : StepKind s .poll s'
  | write {a : Action} {s' : State}
      (ha : a = .hand ∨ a = .written ∨ (∃ err, a = .writeFailed err) ∨ a = .writeBound)
      (h : step s a = some s') : StepKind s a s'
  | outer {a : Action} {s' : State} (h : OuterMove s a s') : StepKind s a s'

/-- Every step is one actor's move. -/
theorem step_kind {a : Action} (h : step s a = some s') : StepKind s a s' := by
  cases a with
  | poll => exact .poll h
  | hand => exact .write (.inl rfl) h
  | written => exact .write (.inr (.inl rfl)) h
  | writeFailed err => exact .write (.inr (.inr (.inl ⟨err, rfl⟩))) h
  | writeBound => exact .write (.inr (.inr (.inr rfl))) h
  | send | close | drop =>
    obtain ⟨-, rfl⟩ := guestCall_eq_some.mp h
    exact .outer (by constructor)
  | enqueue id message =>
    simp only [step] at h
    split at h
    · next hmem => cases h; exact .outer (.enqueue hmem)
    · cases h
  | enqueueClose =>
    simp only [step] at h
    split at h
    · next hc => cases h; exact .outer (.enqueueClose hc)
    · cases h
  | dropSenders =>
    simp only [step] at h
    split at h
    · next hd => cases h; exact .outer (.dropSenders hd.1 hd.2.1 hd.2.2)
    · cases h
  | take =>
    simp only [step] at h
    split at h
    · next message queue _ _ =>
      cases h
      exact .outer (.reader (.inl rfl) queue (some message) s.shared.budget.buffered)
    · cases h
  | release =>
    simp only [step] at h
    split at h
    · next message _ =>
      cases h
      exact .outer (.reader (.inr rfl) s.shared.queue none
        (s.shared.budget.fetchSub wordBits message.payloadLen).buffered)
    · cases h
  | arrive outcomes => cases h; exact .outer (.arrive outcomes)
  | tick dt =>
    obtain ⟨hreaches, rfl⟩ := State.eq_of_tick h
    exact .outer (.tick dt hreaches)

end Polymorph.Host
