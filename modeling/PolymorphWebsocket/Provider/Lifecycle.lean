import PolymorphWebsocket.Provider.Inbound
import PolymorphWebsocket.Provider.Ownership

/-!
# The guest provider: what `closed` says about the state

A call fails with `closed` because of a local close, at the end of the queue, because the closing
handshake has begun, or because the write half is dead.  The first two come with a state that is no
longer open.  The other two do not: `begin_close` leaves the state alone, so a handshake that an
overflow begins is not seen in it, and neither is a write that failed or stalled out.

`State.refuses` is the branch of a step that fails a `send` call for one of these two reasons.
While the state is open it is the only source of `closed`.
-/

namespace Polymorph.Provider

open Futures

variable {T : Tungstenite} {s s' : State T}

/-! ### Calls that have failed with `closed` -/

/-- How many `send` and `receive` calls have failed with `closed`. -/
def State.closedAnswers (s : State T) : Nat :=
  s.hist.replies.countP (fun reply => failsClosed reply.2) +
    s.hist.received.countP fun reply => failsClosed reply.2

/-- tungstenite refuses the message as sent after a close. -/
def Tungstenite.refuses (T : Tungstenite) (ws : T.Ctx) (message : Message) : Bool :=
  match (T.send ws message).1 with
  | .ok _ => false
  | .error err => failsClosed (.error (mapWriteErr err) : Except Error Unit)

/-- The command task flushes the frame of a `send` call. -/
def CmdPc.replies : CmdPc → Bool
  | .flushing _ (.reply _) => true
  | .flushing _ .live | .flushing _ .exit | .live | .drained | .exited => false

/-- The next command is a `send` that is refused: the handshake has begun, the write half is dead,
or tungstenite is closing. -/
def State.refusesSend (s : State T) : Bool :=
  match s.shared.cmds with
  | .send _ message :: _ => s.flags.wireClosing || s.flags.writeDead || T.refuses s.ws message
  | _ => false

/-- The branches that fail a `send` call with `closed` without a look at the state: the call's
command is refused, its flush finds the write half dead, or its write fails or stalls out. -/
def State.refuses (s : State T) : Action → Bool
  | .cmd => s.cmd == .live && !s.flags.pumpDone && s.refusesSend
  | .lock .cmd => s.cmd.replies && s.flags.writeDead
  | .writeBound .cmd =>
    s.cmd.replies && match s.flush .cmd with
      | some (.write _ .deadline) => true
      | _ => false
  | .refuse => s.writeLock == some .cmd && s.cmd.replies
  | _ => false

/-- The condition on a step: while the state is open, no call is refused. -/
def RefusesClosing (s : State T) (a : Action) : Prop := s.shared.state = .open → s.refuses a = false

instance (s : State T) (a : Action) : Decidable (RefusesClosing s a) :=
  inferInstanceAs (Decidable (_ → _))

/-! ### An open connection -/

/-- What an open state says: no local close has been made, the queue has its sender, and the reader
task has not told the command task that it is done. -/
structure State.OpenSound (s : State T) : Prop where
  localClosed : s.shared.localClosed = false
  senderLive : s.shared.queue.senderLive = true
  pumpDone : s.flags.pumpDone = false
  cmd : s.cmd ≠ .drained

/-- If the state is open after a step it was open before, and the step left the queue its sender. -/
def KeepsOpen (s s' : State T) : Prop :=
  s'.shared.state = .open → s.shared.state = .open ∧
    s'.shared.queue.senderLive = s.shared.queue.senderLive ∧ s'.flags.pumpDone = s.flags.pumpDone

theorem KeepsOpen.trans {s'' : State T} (h₁ : KeepsOpen s s') (h₂ : KeepsOpen s' s'') :
    KeepsOpen s s'' := by
  intro hopen
  obtain ⟨hopen', hsender₂, hdone₂⟩ := h₂ hopen
  obtain ⟨hopen'', hsender₁, hdone₁⟩ := h₁ hopen'
  exact ⟨hopen'', hsender₂.trans hsender₁, hdone₂.trans hdone₁⟩

/-- What leaves the state, the queue's sender and the flag alone keeps the connection open. -/
theorem KeepsOpen.of_eq (hstate : s'.shared.state = s.shared.state)
    (hsender : s'.shared.queue.senderLive = s.shared.queue.senderLive)
    (hdone : s'.flags.pumpDone = s.flags.pumpDone) : KeepsOpen s s' :=
  fun hopen => ⟨hstate ▸ hopen, hsender, hdone⟩

/-- A connection that has moved on is not open. -/
theorem advance_ne_open (s : State T) {next : WsState} (hnext : next ≠ .open) :
    (s.advance next).shared.state ≠ .open := by
  show s.shared.state.advance next ≠ .open
  cases s.shared.state <;> cases next <;> first | exact absurd rfl hnext | decide

theorem KeepsOpen.beginClose (s : State T) (frame : Option CloseFrame) :
    KeepsOpen s (s.beginClose frame).2 := by
  rw [CmdFrame.beginClose s frame]
  exact .of_eq rfl rfl rfl

theorem KeepsOpen.deliver (s : State T) (message : Message) : KeepsOpen s (s.deliver message) := by
  rcases deliver_cases s message with ⟨-, h⟩ | ⟨-, _, -, h⟩ | ⟨-, _, -, h⟩ <;> rw [h] <;>
    exact .of_eq rfl rfl rfl

theorem KeepsOpen.readData (s : State T) (message : Message) : KeepsOpen s (s.readData message) := by
  have hdeliver := KeepsOpen.deliver s message
  simp only [State.readData]
  split
  · exact (hdeliver.trans (beginClose _ none)).trans (.of_eq rfl rfl rfl)
  · exact hdeliver.trans (.of_eq rfl rfl rfl)

theorem KeepsOpen.drainRead (s : State T) (read : Option Inbound) : KeepsOpen s (s.drainRead read) := by
  rcases read with - | i
  · exact .of_eq rfl rfl rfl
  cases i with
  | binary bytes => exact readData s _
  | text text => exact readData s _
  | close frame =>
    intro hopen
    exact absurd hopen (advance_ne_open (s.notePeerFrame frame) nofun)
  | capacity =>
    have hlatch : KeepsOpen s (s.latchOverflow.noteCut s.hist.data.length) := .of_eq rfl rfl rfl
    exact (hlatch.trans (beginClose _ none)).trans (.of_eq rfl rfl rfl)
  | ping | pong | frame | connectionClosed | error => exact .of_eq rfl rfl rfl

theorem KeepsOpen.lastDrainRead (s : State T) (read : Option Inbound) :
    KeepsOpen s (s.lastDrainRead read) := by
  rcases read with - | i
  · exact .of_eq rfl rfl rfl
  cases i with
  | binary bytes => exact deliver s _
  | text text => exact deliver s _
  | close | ping | pong | frame | capacity | connectionClosed | error => exact .of_eq rfl rfl rfl

/-- A step of the reader task keeps the connection open, or the state says otherwise. -/
theorem KeepsOpen.reader (h : s.readerStep = some s') : KeepsOpen s s' := by
  have hread : KeepsOpen s s.webSocketRead.2 := .of_eq rfl rfl rfl
  unfold State.readerStep at h
  split at h
  · obtain rfl := Option.some.inj h
    exact hread.trans (drainRead _ _)
  · obtain rfl := Option.some.inj h
    exact hread.trans (lastDrainRead _ _)
  · obtain rfl := Option.some.inj h
    intro hopen
    exact absurd hopen (advance_ne_open { s with shared := { s.shared with closeInfo := _ } } nofun)
  · split at h
    · obtain rfl := Option.some.inj h
      exact .of_eq rfl rfl rfl
    · cases h
  · cases h
  · cases h

/-- The queue keeps its sender while messages are taken from it. -/
theorem KeepsOpen.of_receives {id : Nat} (hf : InboxFrame s s') (h : Receives s id s') :
    KeepsOpen s s' := by
  have hstate : s'.shared.state = s.shared.state := by rw [hf]
  have hdone : s'.flags.pumpDone = s.flags.pumpDone := by rw [hf]
  cases h with
  | claimed _ hq | closed _ hq | waits _ _ _ hq => exact .of_eq hstate (by rw [hq]) hdone
  | message _ _ _ hq => exact .of_eq hstate hq.1 hdone
  | ended _ _ hl _ hq => exact .of_eq hstate (hq.2.1.trans hl.symm) hdone

theorem KeepsOpen.feederSelect (h : s.feederSelect = some s') : KeepsOpen s s' := by
  have hf := InboxFrame.feederSelect h
  have hstate : s'.shared.state = s.shared.state := by rw [hf]
  have hdone : s'.flags.pumpDone = s.flags.pumpDone := by rw [hf]
  unfold State.feederSelect at h
  split at h
  · obtain rfl := Option.some.inj h
    exact .of_eq rfl rfl rfl
  · rcases s.shared.queue.pollArm_cases with
      ⟨m, q, hp, -, hlive, -⟩ | ⟨hp, -, -⟩ | ⟨q, hp, -, hl, -, -, hl', -⟩ | ⟨hp, -, -, -⟩ <;>
      rw [hp] at h <;> cases h
    · exact .of_eq hstate hlive hdone
    · exact .of_eq hstate (hl'.trans hl.symm) hdone

/-- A close call moves the state on with the local close. -/
theorem KeepsOpen.callClose (s : State T) (code : Option UInt16) (reason : String) :
    KeepsOpen s (s.callClose code reason) ∧ ((s.callClose code reason).shared.state = .open →
      (s.callClose code reason).shared.localClosed = s.shared.localClosed) := by
  have hclosed : (s.closed code reason).shared.state ≠ .open := by
    have hadvance : (s.advance .closing).shared.state ≠ .open := advance_ne_open s nofun
    exact hadvance
  rcases callClose_cases s code reason with ⟨-, h⟩ | ⟨-, -, -, h⟩ | ⟨-, -, -, h⟩ <;> rw [h]
  · exact ⟨.of_eq rfl rfl rfl, fun _ => rfl⟩
  · exact ⟨fun hopen => absurd hopen hclosed, fun hopen => absurd hopen hclosed⟩
  · exact ⟨fun hopen => absurd hopen hclosed, fun hopen => absurd hopen hclosed⟩

/-- The guest's side keeps the connection open, or closes it locally. -/
theorem KeepsOpen.guest {a : Action} (h : GuestMove s a s') :
    KeepsOpen s s' ∧ (s'.shared.state = .open → s'.shared.localClosed = s.shared.localClosed) := by
  cases h with
  | send message =>
    simp only [State.callSend]
    split <;> exact ⟨.of_eq rfl rfl rfl, fun _ => rfl⟩
  | receive =>
    simp only [State.callReceive]
    split
    · exact ⟨.of_eq rfl rfl rfl, fun _ => rfl⟩
    · split <;> exact ⟨.of_eq rfl rfl rfl, fun _ => rfl⟩
  | receiveViaStream =>
    simp only [State.callReceiveViaStream]
    split
    · exact ⟨.of_eq rfl rfl rfl, fun _ => rfl⟩
    · split <;> exact ⟨.of_eq rfl rfl rfl, fun _ => rfl⟩
  | close code reason => exact callClose s code reason
  | drop =>
    obtain ⟨hkeeps, hlocal⟩ := callClose s none ""
    exact ⟨hkeeps, hlocal⟩
  | pollReceive hp =>
    have hf := InboxFrame.pollReceive hp
    exact ⟨of_receives hf (receives_of_poll hp), fun _ => by rw [hf]⟩
  | feederNext _ hs =>
    have hf := InboxFrame.feederSelect hs
    exact ⟨feederSelect hs, fun _ => by rw [hf]⟩
  | feederLock | taken | dropped => exact ⟨.of_eq rfl rfl rfl, fun _ => rfl⟩

/-- The command task enters its second phase once the reader task is done. -/
theorem cmdStep_drained (h : s.cmdStep = some s') (hdone : s.flags.pumpDone = false)
    (hcmd : s.cmd ≠ .drained) : s'.cmd ≠ .drained := by
  have hgoes (c : State T) (flush : Bool) (next : CmdNext) : (c.cmdGoes flush next).cmd ≠ .drained := by
    cases flush <;> cases next <;> exact nofun
  unfold State.cmdStep at h
  split at h
  · next hlive =>
    rw [hdone] at h
    split at h
    · next hfalse => cases hfalse
    · split at h
      · next cmd rest _ =>
        cases h
        cases cmd with
        | send id message =>
          simp only [State.cmdLive, State.cmdSend, State.webSocketSend]
          split
          · exact hcmd
          · rcases T.send (s.popCmd rest).ws message with ⟨err | frame, ws⟩
            · exact hcmd
            · exact hgoes _ true _
        | close code reason => exact hgoes _ _ _
        | claimStream => exact hcmd
      · split at h
        · cases h
        · cases h
          exact hgoes _ _ _
  · next hdrained => exact absurd hdrained hcmd
  · cases h
  · cases h

/-- Every step keeps what an open state says. -/
theorem openSound_step (h : s.shared.state = .open → s.OpenSound) {a : Action}
    (hs : step s a = some s') (hopen : s'.shared.state = .open) :
    s.shared.state = .open ∧ s'.OpenSound := by
  have hof (hkeeps : KeepsOpen s s') (hlocal : s'.shared.localClosed = s.shared.localClosed)
      (hcmd : s.OpenSound → s'.cmd ≠ .drained) : s.shared.state = .open ∧ s'.OpenSound := by
    obtain ⟨hopen', hsender, hdone⟩ := hkeeps hopen
    have hi := h hopen'
    exact ⟨hopen', hlocal.trans hi.localClosed, hsender.trans hi.senderLive, hdone.trans hi.pumpDone,
      hcmd hi⟩
  cases step_kind hs with
  | reader hr =>
    have hf := ReaderFrame.step hr
    refine hof (.reader hr) (by rw [hf]) fun hi => ?_
    rw [hf.cmd]
    exact hi.cmd
  | cmd hc =>
    have hf := CmdFrame.step hc
    exact hof (.of_eq (by rw [hf]) (by rw [hf]) (by rw [hf])) (by rw [hf])
      fun hi => cmdStep_drained hc hi.pumpDone hi.cmd
  | flush t hfl =>
    have hf := FlushFrame.of_flushes hfl
    refine hof (.of_eq (by rw [hf]) (by rw [hf]) (by rw [hf])) (by rw [hf]) fun hi => ?_
    cases t with
    | reader =>
      rw [hfl.reader_pc.1]
      exact hi.cmd
    | cmd =>
      obtain ⟨-, f, next, -, hnext⟩ := hfl.cmd_pc
      rcases hnext with hnext | ⟨g, hnext⟩ <;> rw [hnext]
      · cases next <;> exact nofun
      · exact nofun
  | transport ht _ =>
    refine hof (.of_eq (by rw [ht]) (by rw [ht]) (by rw [ht])) (by rw [ht]) fun hi => ?_
    rw [ht]
    exact hi.cmd
  | guest hg =>
    obtain ⟨hkeeps, hlocal⟩ := KeepsOpen.guest hg
    refine hof hkeeps (hlocal hopen) fun hi => ?_
    rw [GuestFrame.of_move hg]
    exact hi.cmd

/-- What an open state says holds in every state of every run. -/
theorem open_sound (h : (system T).Reachable s) : s.shared.state = .open → s.OpenSound := by
  refine Transition.System.Reachable.induction
    (I := fun s => s.shared.state = .open → s.OpenSound) ?_ ?_ h
  · rintro s ⟨config, ws, io, now, -, heof, rfl⟩ -
    exact ⟨rfl, rfl, rfl, nofun⟩
  · intro s a s' _ hi hs hopen
    exact (openSound_step hi hs hopen).2

/-! ### Where `closed` comes from -/

/-- No call is answered. -/
theorem closedAnswers_of_eq (hreplies : s'.hist.replies = s.hist.replies)
    (hreceived : s'.hist.received = s.hist.received) : s'.closedAnswers = s.closedAnswers := by
  unfold State.closedAnswers
  rw [hreplies, hreceived]

/-- A `send` call is answered. -/
theorem closedAnswers_reply {id : Nat} (result : Except Error Unit)
    (hreplies : s'.hist.replies = s.hist.replies ++ [(id, result)])
    (hreceived : s'.hist.received = s.hist.received) :
    s'.closedAnswers = s.closedAnswers + (failsClosed result).toNat := by
  unfold State.closedAnswers
  rw [hreplies, hreceived, List.countP_append, List.countP_singleton]
  cases failsClosed result with
  | true => exact Nat.add_right_comm _ _ _
  | false => rfl

/-- A `receive` call is answered. -/
theorem closedAnswers_received {id : Nat} (result : Except Error Message)
    (hreplies : s'.hist.replies = s.hist.replies)
    (hreceived : s'.hist.received = s.hist.received ++ [(id, result)]) :
    s'.closedAnswers = s.closedAnswers + (failsClosed result).toNat := by
  unfold State.closedAnswers
  rw [hreplies, hreceived, List.countP_append, List.countP_singleton]
  cases failsClosed result with
  | true => exact (Nat.add_assoc _ _ _).symm
  | false => rfl

/-- The command task answers a `send` call with `closed` exactly when it refuses it. -/
theorem closedAnswers_cmd (hi : s.OpenSound) (hs : s.cmdStep = some s') :
    s'.closedAnswers = s.closedAnswers + (s.refuses .cmd).toNat := by
  have hkeeps (c : State T) (frame : Option CloseFrame) :
      (c.beginClose frame).2.closedAnswers = c.closedAnswers := by
    apply closedAnswers_of_eq <;> rw [ReaderFrame.beginClose c frame]
  unfold State.cmdStep at hs
  unfold State.refuses
  split at hs
  · next hlive =>
    rw [hi.pumpDone] at hs ⊢
    split at hs
    · next hfalse => cases hfalse
    · rw [hlive]
      unfold State.refusesSend
      split at hs
      · next cmd rest hcmds =>
        obtain rfl := Option.some.inj hs
        rw [hcmds]
        cases cmd with
        | send id message =>
          simp only [State.cmdLive, State.cmdSend]
          have hpop : (s.popCmd rest).flags = s.flags := rfl
          rw [hpop]
          cases hrefuses : s.flags.wireClosing || s.flags.writeDead with
          | true => exact closedAnswers_reply (.error .closed) rfl rfl
          | false =>
            have hws : (s.popCmd rest).ws = s.ws := rfl
            simp only [State.webSocketSend, Tungstenite.refuses, hws]
            rcases T.send s.ws message with ⟨err | frame, ws⟩
            · exact closedAnswers_reply (.error (mapWriteErr err)) rfl rfl
            · rfl
        | close code reason => exact hkeeps (s.popCmd rest) _
        | claimStream => rfl
      · next hcmds =>
        rw [hcmds]
        split at hs
        · cases hs
        · obtain rfl := Option.some.inj hs
          exact hkeeps s none
  · next hdrained => exact absurd hdrained hi.cmd
  · cases hs
  · cases hs

/-- The flush of the command task answers its `send` call with the result. -/
theorem closedAnswers_resume {f : FlushPc} {next : CmdNext} (hpc : s.cmd = .flushing f next)
    (result : Except Error Unit) : (s.resume .cmd result).closedAnswers =
      s.closedAnswers + (s.cmd.replies && failsClosed result).toNat := by
  rw [resume_cmd hpc, hpc]
  cases next with
  | reply id => exact closedAnswers_reply result rfl rfl
  | live | exit => exact closedAnswers_of_eq (List.append_nil _) rfl

/-- The flushes of the reader task answer nobody. -/
theorem closedAnswers_resume_reader (s : State T) (result : Except Error Unit) :
    (s.resume .reader result).closedAnswers = s.closedAnswers := by
  unfold State.resume
  dsimp only
  split <;> rfl

/-- Moving on inside a flush answers nobody. -/
theorem closedAnswers_setFlush (s : State T) (t : Task) (f : FlushPc) :
    (s.setFlush t f).closedAnswers = s.closedAnswers := by
  unfold State.setFlush
  split <;> split <;> rfl

/-- A flush that has the lock answers with `closed` when the write half is dead. -/
theorem closedAnswers_lock {t : Task} (hf : s.flush t = some .lock) :
    (s.flushLocked t).closedAnswers = s.closedAnswers + (s.refuses (.lock t)).toNat := by
  unfold State.flushLocked
  have hdrained : s.drainOutbound.2.closedAnswers = s.closedAnswers := rfl
  have hdead : s.drainOutbound.2.flags.writeDead = s.flags.writeDead := rfl
  cases t with
  | reader =>
    dsimp only
    split
    · exact (closedAnswers_resume_reader _ _).trans hdrained
    · split
      · exact (closedAnswers_resume_reader _ _).trans hdrained
      · exact (closedAnswers_setFlush _ _ _).trans hdrained
  | cmd =>
    obtain ⟨next, hpc⟩ := flush_cmd.mp hf
    have hpc' : s.drainOutbound.2.cmd = .flushing .lock next := hpc
    have hcmd : s.drainOutbound.2.cmd = s.cmd := rfl
    simp only [State.refuses]
    split
    · rw [closedAnswers_resume hpc', hdrained, hdead, hcmd]
      cases s.flags.writeDead <;> rfl
    · split
      · next hdead' =>
        rw [closedAnswers_resume hpc', hdrained, hcmd, ← hdead, hdead']
        rfl
      · next hdead' =>
        rw [closedAnswers_setFlush, ← hdead, Bool.eq_false_iff.mpr hdead', Bool.and_false]
        exact hdrained

/-- A write that fails or stalls out answers the `send` call whose frame it writes. -/
theorem closedAnswers_failWrite {t : Task} {f : FlushPc} (hf : s.flush t = some f) :
    (s.failWrite t).closedAnswers = s.closedAnswers + (t == .cmd && s.cmd.replies).toNat := by
  unfold State.failWrite
  have hkeeps : s.releaseLock.markWriteDead.armDeadline.closedAnswers = s.closedAnswers := rfl
  cases t with
  | reader => exact (closedAnswers_resume_reader _ _).trans hkeeps
  | cmd =>
    obtain ⟨next, hpc⟩ := flush_cmd.mp hf
    have hpc' : s.releaseLock.markWriteDead.armDeadline.cmd = .flushing f next := hpc
    rw [closedAnswers_resume hpc', hkeeps, hpc', hpc]
    cases next <;> rfl

/-- A pending `receive` call on an open connection does not fail with `closed`. -/
theorem closedAnswers_pollReceive (hi : s.OpenSound) {id : Nat} (h : s.pollReceive id = some s') :
    s'.closedAnswers = s.closedAnswers := by
  have hreplies : s'.hist.replies = s.hist.replies := by rw [InboxFrame.pollReceive h]
  cases receives_of_poll h with
  | claimed _ _ _ _ hr => exact closedAnswers_received (.error .receivingViaStream) hreplies hr
  | closed hl =>
    rw [hi.localClosed] at hl
    cases hl
  | message m _ _ _ _ _ hr => exact closedAnswers_received (.ok m) hreplies hr
  | ended _ _ hl =>
    rw [hi.senderLive] at hl
    cases hl
  | waits _ _ _ _ _ _ hr => exact closedAnswers_of_eq hreplies hr

/-- The feeder answers nobody. -/
theorem closedAnswers_feederNext (hi : s.OpenSound) (h : s.feederSelect = some s') :
    s'.closedAnswers = s.closedAnswers := by
  have hreplies : s'.hist.replies = s.hist.replies := by rw [InboxFrame.feederSelect h]
  cases feeds_of_select h with
  | closed hl =>
    rw [hi.localClosed] at hl
    cases hl
  | message _ _ _ _ _ hr => exact closedAnswers_of_eq hreplies hr
  | ended _ _ _ _ _ hr => exact closedAnswers_of_eq hreplies hr

/-- A call that the guest makes on an open connection does not fail with `closed`. -/
theorem closedAnswers_guest (hi : s.OpenSound) (hserving : s.cmd.serving = true) {a : Action}
    (h : GuestMove s a s') : s'.closedAnswers = s.closedAnswers := by
  have hexited : (s.cmd == .exited) = false := by
    simpa using ne_exited_of_serving hserving
  have hclose (code : Option UInt16) (reason : String) :
      (s.callClose code reason).closedAnswers = s.closedAnswers := by
    rcases callClose_cases s code reason with ⟨-, h⟩ | ⟨-, -, -, h⟩ | ⟨-, -, -, h⟩ <;> rw [h] <;> rfl
  cases h with
  | send message =>
    simp only [State.callSend, hi.localClosed, hexited]
    rfl
  | receive =>
    simp only [State.callReceive, hi.localClosed]
    split
    · next hfalse => cases hfalse
    · split
      · exact closedAnswers_received (.error .receivingViaStream) rfl rfl
      · rfl
  | receiveViaStream =>
    simp only [State.callReceiveViaStream]
    split
    · rfl
    · split <;> rfl
  | close code reason => exact hclose code reason
  | drop => exact hclose none ""
  | pollReceive hp => exact closedAnswers_pollReceive hi hp
  | feederNext _ hs => exact closedAnswers_feederNext hi hs
  | feederLock | taken | dropped => rfl

/-- On an open connection a step answers a call with `closed` exactly when it is one of the branches
that refuse a `send`. -/
theorem closedAnswers_step (hi : s.OpenSound) (hserving : s.cmd.serving = true) {a : Action}
    (hs : step s a = some s') : s'.closedAnswers = s.closedAnswers + (s.refuses a).toNat := by
  have hguest (hnot : s.refuses a = false) (h : GuestMove s a s') :
      s'.closedAnswers = s.closedAnswers + (s.refuses a).toNat := by
    rw [hnot]
    exact closedAnswers_guest hi hserving h
  cases a with
  | send | receive | receiveViaStream | close | drop =>
    obtain ⟨-, rfl⟩ := guestCall_eq_some.mp hs
    exact hguest rfl (by constructor)
  | pollReceive id => exact closedAnswers_pollReceive hi hs
  | reader =>
    have hf := ReaderFrame.step hs
    exact closedAnswers_of_eq (by rw [hf]) (by rw [hf])
  | cmd => exact closedAnswers_cmd hi hs
  | lock t =>
    simp only [step] at hs
    split at hs
    · next hl =>
      obtain rfl := Option.some.inj hs
      exact closedAnswers_lock hl.2
    · cases hs
  | writeDone t =>
    simp only [step] at hs
    split at hs
    · next hf =>
      obtain rfl := Option.some.inj hs
      cases t with
      | reader => exact closedAnswers_resume_reader _ _
      | cmd =>
        obtain ⟨next, hpc⟩ := flush_cmd.mp hf
        have hpc' : s.releaseLock.cmd = .flushing (.write [] _) next := hpc
        have hok : failsClosed (.ok () : Except Error Unit) = false := rfl
        rw [closedAnswers_resume hpc', hok, Bool.and_false]
        rfl
    · cases hs
  | writeBound t =>
    simp only [step] at hs
    split at hs
    · next hf =>
      split at hs
      · obtain rfl := Option.some.inj hs
        rw [closedAnswers_setFlush]
        cases t with
        | reader => rfl
        | cmd =>
          simp only [State.refuses, hf, Bool.and_false]
          rfl
      · cases hs
    · next hf =>
      split at hs
      · obtain rfl := Option.some.inj hs
        rw [closedAnswers_failWrite hf]
        cases t with
        | reader => rfl
        | cmd =>
          simp only [State.refuses, hf, Bool.and_true]
          rfl
      · cases hs
    · cases hs
  | accept n =>
    simp only [step] at hs
    split at hs
    · split at hs
      · obtain rfl := Option.some.inj hs
        exact closedAnswers_setFlush _ _ _
      · cases hs
    · cases hs
  | refuse =>
    simp only [step] at hs
    split at hs
    · next t hl =>
      split at hs
      · next hf =>
        obtain rfl := Option.some.inj hs
        rw [closedAnswers_failWrite hf]
        simp only [State.refuses, hl]
        rfl
      · cases hs
    · cases hs
  | chunk frames =>
    simp only [step] at hs
    split at hs
    · obtain rfl := Option.some.inj hs
      rfl
    · cases hs
  | transportEnd =>
    simp only [step] at hs
    split at hs
    · obtain rfl := Option.some.inj hs
      rfl
    · cases hs
  | feederNext =>
    simp only [step] at hs
    split at hs
    · exact closedAnswers_feederNext hi hs
    · cases hs
  | feederLock | elementTaken | streamDropped | payloadTaken | payloadDone | payloadDropped =>
    simp only [step] at hs
    split at hs
    · obtain rfl := Option.some.inj hs
      rfl
    · cases hs
  | tick dt =>
    obtain rfl := Option.some.inj hs
    rfl

/-- No call has failed with `closed` while the state is open, in a run that refuses no call then. -/
theorem closed_not_open (h : (system T).ReachableUnder RefusesClosing s) (hf : 0 < s.closedAnswers) :
    s.shared.state ≠ .open := by
  suffices hnone : s.shared.state = .open → s.closedAnswers = 0 from
    fun hopen => absurd (hnone hopen) (Nat.ne_of_gt hf)
  refine h.induction (I := fun s => s.shared.state = .open → s.closedAnswers = 0) ?_ ?_
  · rintro s ⟨config, ws, io, now, -, heof, rfl⟩ -
    rfl
  · intro s a s' hreach hi hc hs hopen'
    have hsound := open_sound hreach.reachable
    obtain ⟨hopen, -⟩ := openSound_step hsound hs hopen'
    rw [closedAnswers_step (hsound hopen) (cmd_serving hreach.reachable) hs, hi hopen, hc hopen]
    rfl

end Polymorph.Provider
