import PolymorphWebsocket.Host.Frames

/-!
# The wasmtime host: what `closed` says about the state

The handle of the resource reads the state on another thread than the pump, so every store of the
finalization is visible by itself: the queue ends and the command channel closes before the state
moves on, and a call may find either.  A write that fails leaves the state alone as well, and the
next `send` finds the write half dead.  A local close, a closing handshake and a write that is given
up at the deadline come with a state that is no longer open.
-/

namespace Polymorph.Host

open Futures

variable {s s' : State}

/-! ### Calls that have failed with `closed` -/

/-- How many `send` calls have failed with `closed`. -/
def State.closedReplies (s : State) : Nat :=
  s.hist.replies.countP fun reply => failsClosed reply.2

/-- The pump answers a `send` call when its write returns. -/
def Next.replies : Next → Bool
  | .reply _ => true
  | .loop | .leave => false

/-- The branches that fail a `send` call with `closed` without a look at the state: the channel is
closed or drained by the finalization, the write half is dead, or the write of the call fails. -/
def State.refuses (s : State) : Action → Bool
  | .enqueue _ _ => s.shared.cmdsClosed
  | .poll =>
    match s.pump.pc, s.shared.cmds with
    | .resolved (.cmd (some (.send _ _))), _ => s.pump.writeDead
    | .finalize .drainCmds, .send _ _ :: _ => true
    | _, _ => false
  | .writeFailed err =>
    match s.pump.pc with
    | .writing _ _ next => next.replies && failsClosed (.error (mapWriteErr err) : Except Error Unit)
    | _ => false
  | _ => false

/-! ### An open connection -/

/-- The pump gives its write until the deadline. -/
def Pc.timed : Pc → Bool
  | .writing _ .deadline _ => true
  | _ => false

/-- What an open state says: no local close has been made, the closing handshake has not begun, and a
deadline is armed only for a write half that is dead. -/
structure State.OpenSound (s : State) : Prop where
  localClosed : s.shared.localClosed = false
  wireClosing : s.pump.wireClosing = false
  deadline : s.pump.deadline.isSome = true → s.pump.writeDead = true
  timed : s.pump.pc.timed = false

/-- A piece of a step that answers `n` calls on an open connection with `closed`. -/
structure Answers (s s' : State) (n : Nat) : Prop where
  state : s'.shared.state = .open → s.shared.state = .open
  replies : s.shared.state = .open → s.OpenSound → s'.closedReplies = s.closedReplies + n
  sound : s.OpenSound → s'.shared.state = .open → s'.OpenSound

/-- A connection that has moved on is not open. -/
theorem advance_ne_open (state : WsState) {next : WsState} (hnext : next ≠ .open) :
    state.advance next ≠ .open := by
  cases state <;> cases next <;> first | exact absurd rfl hnext | decide

namespace Answers

/-- What closes the connection answers nobody. -/
theorem of_closed (hreplies : s'.hist.replies = s.hist.replies) (hstate : s'.shared.state ≠ .open) :
    Answers s s' 0 := by
  refine ⟨fun hopen => absurd hopen hstate, fun _ _ => ?_, fun _ hopen => absurd hopen hstate⟩
  unfold State.closedReplies
  rw [hreplies]
  rfl

/-- What leaves the flags alone answers nobody. -/
theorem of_eq (hreplies : s'.hist.replies = s.hist.replies)
    (hstate : s'.shared.state = s.shared.state)
    (hlocal : s'.shared.localClosed = s.shared.localClosed)
    (hclosing : s'.pump.wireClosing = s.pump.wireClosing)
    (hdeadline : s'.pump.deadline = s.pump.deadline) (hdead : s'.pump.writeDead = s.pump.writeDead)
    (htimed : s.pump.pc.timed = false → s'.pump.pc.timed = false) : Answers s s' 0 := by
  refine ⟨fun hopen => hstate ▸ hopen, fun _ _ => ?_, fun h _ => ?_⟩
  · unfold State.closedReplies
    rw [hreplies]
    rfl
  · refine ⟨hlocal.trans h.localClosed, hclosing.trans h.wireClosing, ?_, htimed h.timed⟩
    rw [hdeadline, hdead]
    exact h.deadline

/-- The pump goes on at a point that is no write. -/
theorem setPc (s : State) {pc : Pc} (hpc : pc.timed = false) : Answers s (s.setPc pc) 0 :=
  .of_eq rfl rfl rfl rfl rfl rfl fun _ => hpc

/-- One piece after another that leaves the state alone. -/
theorem after {s'' : State} {n : Nat} (h₁ : Answers s s' 0)
    (hstate : s'.shared.state = s.shared.state) (h₂ : Answers s' s'' n) : Answers s s'' n := by
  refine ⟨fun hopen => h₁.state (h₂.state hopen), fun hopen h => ?_, fun h hopen => ?_⟩
  · have hopen' := hstate.trans hopen
    rw [h₂.replies hopen' (h₁.sound h hopen'), h₁.replies hopen h]
    rfl
  · exact h₂.sound (h₁.sound h (h₂.state hopen)) hopen

/-- A `send` call is answered. -/
theorem reply (s : State) (id : Nat) (result : Except Error Unit) :
    Answers s (s.reply id result) (failsClosed result).toNat := by
  refine ⟨fun hopen => hopen, fun _ _ => ?_, fun h _ => ⟨h.localClosed, h.wireClosing, h.deadline, h.timed⟩⟩
  unfold State.closedReplies State.reply
  rw [List.countP_append, List.countP_singleton]
  cases failsClosed result <;> rfl

/-- A bounded write returns. -/
theorem goes (s : State) (result : Except Error Unit) (next : Next) :
    Answers s (s.goes result next) (next.replies && failsClosed result).toNat := by
  cases next with
  | reply id =>
    have hpc : Answers s (s.setPc (.select .cmd)) 0 := setPc s rfl
    exact hpc.after rfl (reply (s.setPc (.select .cmd)) id result)
  | loop => exact setPc s rfl
  | leave => exact setPc s rfl

/-- A bounded write starts, unless the write half is dead. -/
theorem boundedWrite (s : State) (write : Write) (next : Next) :
    Answers s (s.boundedWrite write next) (next.replies && s.pump.writeDead).toNat := by
  unfold State.boundedWrite
  cases hdead : s.pump.writeDead with
  | true => exact goes s _ next
  | false =>
    rw [Bool.and_false]
    refine ⟨fun hopen => hopen, fun _ _ => rfl, fun h _ => ?_⟩
    refine ⟨h.localClosed, h.wireClosing, h.deadline, ?_⟩
    cases hdeadline : s.pump.deadline with
    | none => rfl
    | some deadline =>
      have hdead' := h.deadline (by rw [hdeadline]; rfl)
      rw [hdead] at hdead'
      cases hdead'

/-- The closing handshake begins. -/
theorem beginClose (s : State) (frame : Option CloseFrame) {next : Next}
    (hnext : next.replies = false) : Answers s (s.beginClose frame next) 0 := by
  rcases beginClose_cases s frame next with ⟨-, h⟩ | ⟨-, h⟩ <;> rw [h]
  · have hgoes := goes s (.ok ()) next
    rw [hnext] at hgoes
    exact hgoes
  · apply of_closed
    · unfold State.boundedWrite
      cases next with
      | reply id => cases hnext
      | loop | leave => split <;> rfl
    · rw [PcFrame.boundedWrite (s.closing frame)]
      exact advance_ne_open _ nofun

/-- The reader's message is dropped, reserved, or begins the close of an overflow. -/
theorem deliver (s : State) (message : Message) : Answers s (s.deliver message) 0 := by
  unfold State.deliver
  split
  · exact setPc s rfl
  · split
    · exact setPc s rfl
    · have hlatch : Answers s (s.setBudget s.shared.budget.latchOverflow) 0 :=
        .of_eq rfl rfl rfl rfl rfl rfl id
      exact hlatch.after rfl (beginClose _ none rfl)

theorem pollArm (s : State) (arm : Arm) : Answers s (s.pollArm arm) 0 := by
  have hcmds (cmds : List Cmd) (pc : Pc) (hpc : pc.timed = false) :
      Answers s ({ s with shared := { s.shared with cmds := cmds } }.setPc pc) 0 :=
    .of_eq rfl rfl rfl rfl rfl rfl fun _ => hpc
  cases arm with
  | cmd =>
    simp only [State.pollArm]
    split
    · exact setPc s rfl
    · split
      · exact hcmds _ _ rfl
      · split <;> exact setPc s rfl
  | read =>
    simp only [State.pollArm]
    split
    · exact .of_eq rfl rfl rfl rfl rfl rfl fun _ => rfl
    · exact setPc s rfl
  | deadline =>
    simp only [State.pollArm]
    split <;> exact setPc s rfl

/-- A `send` command is refused when the write half is dead: on an open connection the closing
handshake has not begun. -/
theorem onCmd_send (s : State) (id : Nat) (message : Message) :
    Answers s (s.onCmd (some (.send id message))) s.pump.writeDead.toNat := by
  have hgoes := goes s (.error .closed) (.reply id)
  have hwrite := boundedWrite s (.send (.data id message) false) (.reply id)
  simp only [State.onCmd]
  cases hdead : s.pump.writeDead with
  | true =>
    rw [Bool.or_true, if_pos rfl]
    exact hgoes
  | false =>
    rw [Bool.or_false]
    rw [hdead] at hwrite
    cases hclosing : s.pump.wireClosing with
    | true =>
      refine ⟨hgoes.state, fun _ h => ?_, hgoes.sound⟩
      have hfalse := h.wireClosing
      rw [hclosing] at hfalse
      cases hfalse
    | false => exact hwrite

theorem onCmd (s : State) (cmd : Option Cmd) (hsend : ∀ id message, cmd ≠ some (.send id message)) :
    Answers s (s.onCmd cmd) 0 := by
  rcases cmd with - | cmd
  · have hdone : Answers s { s with pump := { s.pump with cmdsDone := true } } 0 :=
      .of_eq rfl rfl rfl rfl rfl rfl id
    exact hdone.after rfl (beginClose _ none rfl)
  · cases cmd with
    | send id message => exact absurd rfl (hsend id message)
    | close code reason => exact beginClose s _ rfl

theorem onRead (s : State) (outcome : Inbound) : Answers s (s.onRead outcome) 0 := by
  cases outcome with
  | text text => exact deliver s _
  | binary bytes => exact deliver s _
  | close frame =>
    have hnoted : (s.notePeerFrame frame).shared.state ≠ .open := advance_ne_open _ nofun
    apply of_closed
    · simp only [State.onRead]
      split
      · rfl
      · unfold State.boundedWrite
        split <;> rfl
    · simp only [State.onRead]
      split
      · exact hnoted
      · rw [PcFrame.boundedWrite (s.notePeerFrame frame).setWireClosing]
        exact hnoted
  | ping payload => exact boundedWrite s _ .loop
  | pong | frame | connectionClosed | error => exact setPc s rfl
  | capacity =>
    have hlatch : Answers s (s.setBudget s.shared.budget.latchOverflow) 0 :=
      .of_eq rfl rfl rfl rfl rfl rfl id
    exact hlatch.after rfl (beginClose _ none rfl)

/-- A stage of the finalization answers a command that is drained. -/
theorem finalizeStep {stage : Finalize} (hpc : s.pump.pc = .finalize stage) :
    Answers s (s.finalizeStep stage) (s.refuses .poll).toNat := by
  unfold State.refuses
  rw [hpc]
  cases stage with
  | closeInfo | endQueue | closeCmds => exact .of_eq rfl rfl rfl rfl rfl rfl fun _ => rfl
  | drainCmds =>
    simp only [State.finalizeStep]
    cases hcmds : s.shared.cmds with
    | nil => exact setPc s rfl
    | cons cmd rest =>
      have hrest : Answers s { s with shared := { s.shared with cmds := rest } } 0 :=
        .of_eq rfl rfl rfl rfl rfl rfl id
      cases cmd with
      | send id message => exact hrest.after rfl (reply _ id (.error .closed))
      | close code reason => exact hrest
  | closing => exact of_closed rfl (advance_ne_open _ (by rintro ⟨⟩))
  | closed => exact of_closed rfl (advance_ne_open _ (by rintro ⟨⟩))
  | fire => exact .of_eq rfl rfl rfl rfl rfl rfl fun _ => rfl

/-- A step of the pump. -/
theorem poll (h : s.poll = some s') : Answers s s' (s.refuses .poll).toNat := by
  unfold State.poll at h
  split at h
  · next arm hpc =>
    obtain rfl := Option.some.inj h
    unfold State.refuses
    rw [hpc]
    exact pollArm s arm
  · next r hpc =>
    obtain rfl := Option.some.inj h
    unfold State.refuses
    rw [hpc]
    cases r with
    | cmd cmd =>
      rcases cmd with - | cmd
      · exact onCmd s none nofun
      · cases cmd with
        | send id message => exact onCmd_send s id message
        | close code reason => exact onCmd s (some (.close code reason)) nofun
    | read outcome => exact onRead s outcome
    | deadline => exact setPc s rfl
  · next message hpc =>
    obtain rfl := Option.some.inj h
    unfold State.refuses
    rw [hpc]
    exact .of_eq rfl rfl rfl rfl rfl rfl fun _ => rfl
  · next message hpc =>
    obtain rfl := Option.some.inj h
    unfold State.refuses
    rw [hpc]
    exact .of_eq rfl rfl rfl rfl rfl rfl fun _ => rfl
  · cases h
  · next stage hpc =>
    obtain rfl := Option.some.inj h
    exact finalizeStep hpc
  · cases h

/-- The write of a call fails. -/
theorem failWrite (s : State) (err : Error) (next : Next) :
    Answers s (s.failWrite err next)
      (next.replies && failsClosed (.error err : Except Error Unit)).toNat := by
  have hdead : Answers s s.setWriteDead.armDeadline 0 := by
    refine ⟨id, fun _ _ => rfl, fun h _ => ⟨h.localClosed, h.wireClosing, fun _ => rfl, h.timed⟩⟩
  exact hdead.after rfl (goes _ (.error err) next)

/-- A resolution of a bounded write, the failures of a call's own write apart. -/
theorem hand (h : s.hand = some s') : Answers s s' 0 := by
  unfold State.hand at h
  split at h
  · next frame bound next hpc =>
    obtain rfl := Option.some.inj h
    refine .of_eq rfl rfl rfl rfl rfl rfl fun htimed => ?_
    rw [hpc] at htimed
    cases bound with
    | localClose => rfl
    | deadline => cases htimed
  · cases h

theorem written (h : s.written = some s') : Answers s s' 0 := by
  have hnote (write : Write) : Answers s (s.noteCompleted write) 0 ∧
      (s.noteCompleted write).shared.state = s.shared.state := by
    rcases write with ⟨⟨id, message⟩ | frame, handed⟩ | - <;>
      exact ⟨.of_eq rfl rfl rfl rfl rfl rfl fun htimed => htimed, rfl⟩
  unfold State.written at h
  split at h
  · cases h
  · next write bound next _ hpc =>
    obtain rfl := Option.some.inj h
    obtain ⟨hcompleted, hstate⟩ := hnote write
    have hgoes := goes (s.noteCompleted write) (.ok ()) next
    have hok : failsClosed (.ok () : Except Error Unit) = false := rfl
    rw [hok, Bool.and_false] at hgoes
    exact hcompleted.after hstate hgoes
  · cases h

theorem writeFailed {err : TungsteniteError} (h : s.writeFailed err = some s') :
    Answers s s' (s.refuses (.writeFailed err)).toNat := by
  unfold State.writeFailed at h
  split at h
  · next write bound next hpc =>
    obtain rfl := Option.some.inj h
    simp only [State.refuses, hpc]
    exact failWrite s (mapWriteErr err) next
  · cases h

/-- On an open connection no write is bounded by a close. -/
theorem writeBound (h : s.writeBound = some s') : Answers s s' 0 := by
  unfold State.writeBound at h
  split at h
  · next write next hpc =>
    split at h
    · next hlocal =>
      obtain rfl := Option.some.inj h
      refine ⟨id, fun _ _ => rfl, fun hi _ => ?_⟩
      rw [hi.localClosed] at hlocal
      cases hlocal
    · cases h
  · next write next hpc =>
    have htimed (hi : s.OpenSound) : False := by
      have hfalse := hi.timed
      rw [hpc] at hfalse
      cases hfalse
    split at h
    · obtain rfl := Option.some.inj h
      exact ⟨(failWrite s .closed next).state, fun _ hi => (htimed hi).elim,
        fun hi _ => (htimed hi).elim⟩
    · cases h
  · cases h

/-- A close call moves the state on with the local close. -/
theorem callClose (s : State) (code : Option UInt16) (reason : String) :
    Answers s (s.callClose code reason) 0 := by
  rcases callClose_cases s code reason with ⟨-, h⟩ | ⟨-, -, h⟩ <;> rw [h]
  · exact .of_eq rfl rfl rfl rfl rfl rfl id
  · exact of_closed rfl (advance_ne_open _ nofun)

/-- Everyone else: only a command that finds the channel closed is answered. -/
theorem outer {a : Action} (h : OuterMove s a s') : Answers s s' (s.refuses a).toNat := by
  cases h with
  | send message =>
    unfold State.callSend
    dsimp only
    split
    · next hlocal =>
      refine ⟨id, fun _ hi => ?_, fun hi _ => ?_⟩ <;> rw [hi.localClosed] at hlocal <;> cases hlocal
    · exact .of_eq rfl rfl rfl rfl rfl rfl id
  | @enqueue id message hmem =>
    let called : State :=
      { s with calls := { s.calls with checked := s.calls.checked.erase (id, message) } }
    have hcall : Answers s called 0 := .of_eq rfl rfl rfl rfl rfl rfl fun htimed => htimed
    unfold State.enqueue
    simp only [State.refuses]
    split
    · next hclosed =>
      rw [hclosed]
      exact hcall.after rfl (reply called id (.error .closed))
    · next hopen =>
      rw [Bool.eq_false_iff.mpr hopen]
      exact .of_eq rfl rfl rfl rfl rfl rfl fun htimed => htimed
  | close code reason => exact callClose s code reason
  | drop =>
    have hclose := callClose s none ""
    refine ⟨hclose.state, hclose.replies, fun hi hopen => ?_⟩
    have hi' := hclose.sound hi hopen
    exact ⟨hi'.localClosed, hi'.wireClosing, hi'.deadline, hi'.timed⟩
  | enqueueClose =>
    unfold State.enqueueClose
    dsimp only
    split <;> exact .of_eq rfl rfl rfl rfl rfl rfl id
  | dropSenders | arrive | tick => exact .of_eq rfl rfl rfl rfl rfl rfl id
  | reader ha =>
    rcases ha with rfl | rfl <;> exact .of_eq rfl rfl rfl rfl rfl rfl id

/-- On an open connection a step answers a `send` call with `closed` exactly when it is one of the
branches that refuse it. -/
theorem step {a : Action} (h : Host.step s a = some s') : Answers s s' (s.refuses a).toNat := by
  cases step_kind h with
  | poll h => exact poll h
  | write ha h =>
    rcases ha with rfl | rfl | ⟨err, rfl⟩ | rfl
    · exact hand h
    · exact written h
    · exact writeFailed h
    · exact writeBound h
  | outer h => exact outer h

end Answers

/-! ### The readers -/

/-- A connection with the `receive` calls that have failed with `closed`. -/
structure Received where
  conn : State
  closedReceives : Nat

/-- The moves of a connection, and of a `receive` call that fails with `closed`. -/
inductive ReceivedAction
  | conn (a : Action)
  /-- The call finds that a local close has been made. -/
  | localClosed
  /-- The call, with the lock of the queue, finds its end and no overflow latched. -/
  | ended
  deriving DecidableEq, Repr

/-- The state after a move, if the move is possible. -/
def receivedStep (r : Received) : ReceivedAction → Option Received
  | .conn a => (step r.conn a).map fun conn => { r with conn := conn }
  | .localClosed =>
    if r.conn.shared.localClosed then some { r with closedReceives := r.closedReceives + 1 } else none
  | .ended =>
    match r.conn.calls.unreleased, r.conn.shared.queue.pollNext with
    | none, (.ready none, queue) =>
      if r.conn.shared.budget.overflowed then none
      else some { r with
        conn := { r.conn with shared := { r.conn.shared with queue := queue } }
        closedReceives := r.closedReceives + 1 }
    | _, _ => none

/-- The connections with their failed `receive` calls. -/
def receivedSystem : Transition.System Received ReceivedAction where
  init r := system.init r.conn ∧ r.closedReceives = 0
  step := receivedStep

/-- How many `send` and `receive` calls have failed with `closed`. -/
def Received.closedAnswers (r : Received) : Nat := r.conn.closedReplies + r.closedReceives

/-- The branches that fail a call with `closed` without a look at the state: those of the `send`
calls, and the end of the queue. -/
def Received.refuses (r : Received) : ReceivedAction → Bool
  | .conn a => r.conn.refuses a
  | .localClosed => false
  | .ended => true

/-- The condition on a step: while the state is open, no call is refused. -/
def RefusesClosing (r : Received) (a : ReceivedAction) : Prop :=
  r.conn.shared.state = .open → r.refuses a = false

instance (r : Received) (a : ReceivedAction) : Decidable (RefusesClosing r a) :=
  inferInstanceAs (Decidable (_ → _))

section Receives

variable {r r' : Received} {a : ReceivedAction}

/-- On an open connection a step answers a call with `closed` exactly when it is one of the branches
that refuse one; and a step leaves a state that is not open. -/
theorem received_step (hi : r.conn.shared.state = .open → r.conn.OpenSound)
    (hs : receivedStep r a = some r') :
    (r'.conn.shared.state = .open → r.conn.shared.state = .open ∧ r'.conn.OpenSound) ∧
    (r.conn.shared.state = .open → r'.closedAnswers = r.closedAnswers + (r.refuses a).toNat) := by
  cases a with
  | conn a =>
    obtain ⟨conn, hconn, rfl⟩ := Option.map_eq_some_iff.mp hs
    have hanswers := Answers.step hconn
    constructor
    · intro hopen
      have hopen' := hanswers.state hopen
      exact ⟨hopen', hanswers.sound (hi hopen') hopen⟩
    · intro hopen
      have hreplies := hanswers.replies hopen (hi hopen)
      show conn.closedReplies + r.closedReceives = _
      rw [hreplies]
      exact Nat.add_right_comm _ _ _
  | localClosed =>
    unfold receivedStep at hs
    dsimp only at hs
    split at hs
    · next hlocal =>
      obtain rfl := Option.some.inj hs
      have hclosed (hopen : r.conn.shared.state = .open) : False := by
        rw [(hi hopen).localClosed] at hlocal
        cases hlocal
      exact ⟨fun hopen => (hclosed hopen).elim, fun hopen => (hclosed hopen).elim⟩
    · cases hs
  | ended =>
    unfold receivedStep at hs
    dsimp only at hs
    split at hs
    · split at hs
      · cases hs
      · obtain rfl := Option.some.inj hs
        refine ⟨fun hopen => ⟨hopen, ?_⟩, fun _ => rfl⟩
        have hsound := hi hopen
        exact ⟨hsound.localClosed, hsound.wireClosing, hsound.deadline, hsound.timed⟩
    · cases hs

/-- What an open state says holds in every state of every run. -/
theorem received_sound (h : receivedSystem.Reachable r) :
    r.conn.shared.state = .open → r.conn.OpenSound := by
  refine Transition.System.Reachable.induction
    (I := fun r => r.conn.shared.state = .open → r.conn.OpenSound) ?_ ?_ h
  · rintro r ⟨⟨closeTimeout, limit, now, largest, hreaches, -, hstart⟩, -⟩ -
    rw [hstart]
    exact ⟨rfl, rfl, nofun, rfl⟩
  · intro r a r' _ hi hs hopen
    exact ((received_step hi hs).1 hopen).2

/-- No call has failed with `closed` while the state is open, in a run that refuses no call then. -/
theorem closed_not_open (h : receivedSystem.ReachableUnder RefusesClosing r)
    (hf : 0 < r.closedAnswers) : r.conn.shared.state ≠ .open := by
  suffices hnone : r.conn.shared.state = .open → r.closedAnswers = 0 from
    fun hopen => absurd (hnone hopen) (Nat.ne_of_gt hf)
  refine h.induction (I := fun r => r.conn.shared.state = .open → r.closedAnswers = 0) ?_ ?_
  · rintro r ⟨⟨closeTimeout, limit, now, largest, hreaches, -, hstart⟩, hzero⟩ -
    unfold Received.closedAnswers
    rw [hstart, hzero]
    rfl
  · intro r a r' hreach hi hc hs hopen'
    have hstep := received_step (received_sound hreach.reachable) hs
    obtain ⟨hopen, -⟩ := hstep.1 hopen'
    rw [hstep.2 hopen, hi hopen, hc hopen]
    rfl

end Receives

end Polymorph.Host
