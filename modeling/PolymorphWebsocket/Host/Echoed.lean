import PolymorphWebsocket.Host.Delivery
import PolymorphWebsocket.Host.Echo

/-!
# The wasmtime host: what comes back from a peer that echoes

The three legs of an echo put together: the commands that the pump hands over, the frames on the two
streams, and the messages that the guest takes.  No leg reorders, drops or doubles anything, whatever
else happens: a close or a drop of the guest, an overflow, a transport that fails or stalls out.  So the
guest gets its own messages back, in the order in which it sent them, up to some point.

The invariant of `EchoState.Sound` ends with the first message that does not fit the inbound limit; here
every run counts.
-/

namespace Polymorph.Host

open Futures Transition

variable {s s' : State}

/-! ### The commands -/

/-- The messages handed over are the first ones that entered the channel; as long as the pump writes, the
others are on their way. -/
structure State.HandsFirst (s : State) : Prop where
  isPrefix : s.ledger.sent <+: s.hist.enqueued
  rest : s.pump.wireClosing = false → s.pump.writeDead = false → s.pump.pc.left = false →
    s.ledger.sent ++ (s.pump.pc.unhanded ++ s.ledger.queued) = s.hist.enqueued

/-- The pump goes on with the message of a command, or has none in its hands, as long as it writes. -/
theorem unhanded_onResolved {r : Resolution} (hwire : (s.onResolved r).pump.wireClosing = false)
    (hdead : s.pump.writeDead = false) (hleft : (s.onResolved r).pump.pc.left = false) :
    (s.onResolved r).pump.pc.unhanded = (Pc.resolved r).unhanded := by
  have hwrites (write : Write) (next : Next) :
      (s.boundedWrite write next).pump.pc.unhanded = write.unhanded.filterMap Frame.data? := by
    unfold State.boundedWrite
    rw [hdead]
    rfl
  have hdeliver (message : Message) (hopen : (s.deliver message).pump.wireClosing = false) :
      (s.deliver message).pump.pc.unhanded = [] := by
    rw [Conveys.deliver_reserves s message hopen]
    rfl
  have hcloses {t : State} {frame : Option CloseFrame} {next : Next}
      (hopen : (t.beginClose frame next).pump.wireClosing = false) :
      (t.beginClose frame next).pump.pc.unhanded = [] := by
    rw [Conveys.beginClose_wire] at hopen
    cases hopen
  cases r with
  | cmd cmd =>
    rcases cmd with - | ⟨id, message⟩ | ⟨code, reason⟩
    · exact hcloses hwire
    · unfold State.onResolved State.onCmd at hwire ⊢
      dsimp only at hwire ⊢
      have hopen : s.pump.wireClosing = false := by
        split at hwire
        · exact hwire
        · rwa [PcFrame.boundedWrite s _ _] at hwire
      rw [hopen, hdead]
      exact hwrites _ _
    · exact hcloses hwire
  | deadline => rfl
  | read outcome =>
    cases outcome with
    | text data => exact hdeliver _ hwire
    | binary data => exact hdeliver _ hwire
    | close frame =>
      unfold State.onResolved State.onRead at hwire
      dsimp only at hwire
      split at hwire
      · next hclosing => exact absurd (hclosing.symm.trans hwire) nofun
      · rw [PcFrame.boundedWrite (s.notePeerFrame frame).setWireClosing _ _] at hwire
        cases hwire
    | ping payload => exact hwrites _ _
    | pong | frame | connectionClosed | error => rfl
    | capacity => exact hcloses hwire

namespace State.HandsFirst

/-- What leaves the channel and the frames alone. -/
theorem congr (h : s.HandsFirst) (hledger : s'.ledger.sent = s.ledger.sent)
    (henqueued : s'.hist.enqueued = s.hist.enqueued)
    (hrest : s'.pump.wireClosing = false → s'.pump.writeDead = false → s'.pump.pc.left = false →
      s.pump.wireClosing = false ∧ s.pump.writeDead = false ∧ s.pump.pc.left = false ∧
        s'.pump.pc.unhanded ++ s'.ledger.queued = s.pump.pc.unhanded ++ s.ledger.queued) :
    s'.HandsFirst := by
  refine ⟨?_, fun hwire hdead hleft => ?_⟩
  · rw [hledger, henqueued]
    exact h.isPrefix
  · obtain ⟨hwire', hdead', hleft', hsame⟩ := hrest hwire hdead hleft
    rw [hledger, hsame, henqueued]
    exact h.rest hwire' hdead' hleft'

/-- One poll of an arm of the select: a command keeps its place. -/
theorem pollArm {arm : Arm} (hpc : s.pump.pc = .select arm) :
    (s.pollArm arm).pump.pc.unhanded ++ (s.pollArm arm).ledger.queued =
        s.pump.pc.unhanded ++ s.ledger.queued ∧
      (s.pollArm arm).pump.wireClosing = s.pump.wireClosing := by
  rw [hpc]
  cases arm with
  | cmd =>
    unfold State.pollArm
    dsimp only
    split
    · exact ⟨rfl, rfl⟩
    · split
      · next cmd rest hcmds =>
        refine ⟨?_, rfl⟩
        unfold Ledger.queued State.ledger
        dsimp only
        rw [hcmds]
        cases cmd <;> rfl
      · split <;> exact ⟨rfl, rfl⟩
  | read =>
    unfold State.pollArm
    dsimp only
    split <;> exact ⟨rfl, rfl⟩
  | deadline =>
    unfold State.pollArm
    dsimp only
    split <;> exact ⟨rfl, rfl⟩

/-- A step of the pump. -/
theorem poll (h : s.HandsFirst) (hwires : s.pump.wireClosing = true → s'.pump.wireClosing = true)
    (hs : s.poll = some s') : s'.HandsFirst := by
  have hframe := PollFrame.poll hs
  have hledger : s'.ledger.sent = s.ledger.sent := by
    unfold Ledger.sent State.ledger
    rw [hframe]
  have hdead : s'.pump.writeDead = s.pump.writeDead := by rw [hframe]
  refine h.congr hledger (by rw [hframe]) fun hwire' hdead' hleft' => ?_
  rw [hdead] at hdead'
  unfold State.poll at hs
  cases hpc : s.pump.pc with
  | select arm =>
    rw [hpc] at hs
    obtain rfl := Option.some.inj hs
    obtain ⟨hsame, hwire⟩ := pollArm hpc
    rw [hpc] at hsame
    exact ⟨hwire.symm.trans hwire', hdead', rfl, hsame⟩
  | resolved r =>
    rw [hpc] at hs
    obtain rfl := Option.some.inj hs
    have hopen : s.pump.wireClosing = false := by
      by_contra hclosing
      exact absurd ((hwires (Bool.not_eq_false _ ▸ hclosing)).symm.trans hwire') nofun
    refine ⟨hopen, hdead', rfl, ?_⟩
    rw [unhanded_onResolved hwire' hdead' hleft']
    unfold Ledger.queued State.ledger
    dsimp only
    rw [(onResolved_cmds s r).1]
  | reserved message | counted message =>
    rw [hpc] at hs
    obtain rfl := Option.some.inj hs
    exact ⟨hwire', hdead', rfl, rfl⟩
  | writing write bound next =>
    rw [hpc] at hs
    cases hs
  | finalize stage =>
    rw [hpc] at hs
    obtain rfl := Option.some.inj hs
    have hstays : (s.finalizeStep stage).pump.pc.left = true := by
      cases stage with
      | drainCmds =>
        unfold State.finalizeStep
        dsimp only
        split
        · exact congrArg Pc.left hpc
        · exact congrArg Pc.left hpc
        · rfl
      | closeInfo | endQueue | closeCmds | closing | closed | fire => rfl
    exact absurd (hstays.symm.trans hleft') nofun
  | done =>
    rw [hpc] at hs
    cases hs

/-- A step of the write under way: a frame is handed over in its turn. -/
theorem write (h : s.HandsFirst) (hsound : s.CommandsSound) {a : Action} (hs : step s a = some s')
    (ha : a = .hand ∨ a = .written ∨ (∃ err, a = .writeFailed err) ∨ a = .writeBound) :
    s'.HandsFirst := by
  obtain ⟨write, bound, next, hpc⟩ := writing_of_step hs ha
  have hwrite := hsound.write write bound next hpc
  have hleft : s.pump.pc.left = false := by rw [hpc]; rfl
  have hdead : s.pump.writeDead = false := hwrite.alive
  -- a write that fails leaves the write half dead
  have hfails (err : Error) : (s.failWrite err next).HandsFirst := by
    have hframe : (s.failWrite err next).pump.writeDead = true := by
      unfold State.failWrite
      rw [PcFrame.goes _ _ next]
      rfl
    refine h.congr ?_ ?_ fun _ hdead' => absurd (hframe.symm.trans hdead') nofun
    · unfold State.failWrite Ledger.sent State.ledger
      rw [PcFrame.goes _ _ next]
      rfl
    · unfold State.failWrite
      rw [PcFrame.goes _ _ next]
      rfl
  rcases ha with rfl | rfl | ⟨err, rfl⟩ | rfl
  · simp only [Host.step, State.hand, hpc] at hs
    cases write with
    | flush => cases hs
    | send frame handed =>
      cases handed with
      | true => cases hs
      | false =>
        obtain rfl := Option.some.inj hs
        cases frame with
        | close frame =>
          refine h.congr ?_ rfl fun hwire' _ _ => ?_
          · show (s.hist.handed ++ [Frame.close frame]).filterMap Frame.data? = _
            rw [List.filterMap_append]
            exact List.append_nil _
          · -- a close frame goes out in the closing handshake
            have hclosing := (hwrite.close frame List.mem_cons_self).1
            exact absurd (hclosing.symm.trans hwire') nofun
        | data id message =>
          have hwire := hwrite.data id message List.mem_cons_self
          have hrest := h.rest hwire hdead hleft
          rw [hpc] at hrest
          have hsent : ({ s with hist := { s.hist with handed := s.hist.handed ++ [Frame.data id message] } }.setPc
              (.writing (.send (.data id message) true) bound next)).ledger.sent =
                s.ledger.sent ++ [(id, message)] := List.filterMap_append
          have hall : (s.ledger.sent ++ [(id, message)]) ++ ([] ++ s.ledger.queued) = s.hist.enqueued := by
            rw [List.append_assoc]
            exact hrest
          refine ⟨?_, fun _ _ _ => ?_⟩
          · rw [hsent]
            exact ⟨_, hall⟩
          · rw [hsent]
            exact hall
  · simp only [Host.step, State.written, hpc] at hs
    have hgoes (t : State) (hledger : t.ledger.sent = s.ledger.sent)
        (hqueued : t.ledger.queued = s.ledger.queued) (henqueued : t.hist.enqueued = s.hist.enqueued)
        (hpump : t.pump = s.pump) (hunhanded : write.unhanded = []) :
        (t.goes (.ok ()) next).HandsFirst := by
      have hframe := PcFrame.goes t (.ok ()) next
      have hkeeps : (t.goes (.ok ()) next).ledger.sent = t.ledger.sent ∧
          (t.goes (.ok ()) next).ledger.queued = t.ledger.queued := by
        cases next <;> exact ⟨rfl, rfl⟩
      refine h.congr ?_ ?_ fun hwire' hdead' _ => ?_
      · exact hkeeps.1.trans hledger
      · rw [hframe]
        exact henqueued
      · rw [hframe] at hwire' hdead'
        refine ⟨hpump ▸ hwire', hpump ▸ hdead', hleft, ?_⟩
        have hnone : (t.goes (.ok ()) next).pump.pc.unhanded = [] := by
          cases next <;> rfl
        rw [hnone, hpc, Pc.unhanded, hunhanded]
        show [] ++ (t.goes (.ok ()) next).ledger.queued = [] ++ s.ledger.queued
        rw [hkeeps.2, hqueued]
    cases write with
    | flush =>
      obtain rfl := Option.some.inj hs
      exact hgoes _ rfl rfl rfl rfl rfl
    | send frame handed =>
      cases handed with
      | false => cases hs
      | true =>
        obtain rfl := Option.some.inj hs
        cases frame with
        | data => exact hgoes _ rfl rfl rfl rfl rfl
        | close => exact hgoes _ rfl rfl rfl rfl rfl
  · simp only [Host.step, State.writeFailed, hpc] at hs
    obtain rfl := Option.some.inj hs
    exact hfails _
  · simp only [Host.step, State.writeBound, hpc] at hs
    cases bound with
    | localClose =>
      dsimp only at hs
      split at hs
      · obtain rfl := Option.some.inj hs
        refine h.congr rfl rfl fun hwire' hdead' _ => ⟨hwire', hdead', hleft, ?_⟩
        rw [hpc]
        rfl
      · cases hs
    | deadline =>
      dsimp only at hs
      split at hs
      · obtain rfl := Option.some.inj hs
        exact hfails _
      · cases hs

/-- A move of everyone else: an accepted send is the last one in the channel. -/
theorem outer (h : s.HandsFirst) {a : Action} (hm : OuterMove s a s') : s'.HandsFirst := by
  have hframe := OuterFrame.of_move hm
  have hpump : s'.pump = s.pump := by rw [hframe]
  have hsame (h' : s'.hist.enqueued = s.hist.enqueued ∧ s'.hist.handed = s.hist.handed ∧
      s'.ledger.queued = s.ledger.queued) : s'.HandsFirst := by
    obtain ⟨henqueued, hhanded, hqueued⟩ := h'
    refine h.congr (congrArg (List.filterMap Frame.data?) hhanded) henqueued fun hwire hdead hleft => ?_
    rw [hpump] at hwire hdead hleft ⊢
    rw [hqueued]
    exact ⟨hwire, hdead, hleft, rfl⟩
  have hclose (code : Option UInt16) (reason : String) :
      (s.callClose code reason).hist.enqueued = s.hist.enqueued ∧
        (s.callClose code reason).hist.handed = s.hist.handed ∧
        (s.callClose code reason).ledger.queued = s.ledger.queued := by
    rcases callClose_cases s code reason with ⟨-, hk⟩ | ⟨-, -, hk⟩
    · rw [hk]
      exact ⟨rfl, rfl, rfl⟩
    · rw [hk]
      exact ⟨rfl, rfl, rfl⟩
  cases hm with
  | send message =>
    have hsend : (s.callSend message).hist.enqueued = s.hist.enqueued ∧
        (s.callSend message).hist.handed = s.hist.handed ∧
        (s.callSend message).ledger.queued = s.ledger.queued := by
      unfold State.callSend
      dsimp only
      split <;> exact ⟨rfl, rfl, rfl⟩
    exact hsame hsend
  | @enqueue id message hmem =>
    by_cases hclosed : s.shared.cmdsClosed = true
    · have henqueue : (s.enqueue id message).hist.enqueued = s.hist.enqueued ∧
          (s.enqueue id message).hist.handed = s.hist.handed ∧
          (s.enqueue id message).ledger.queued = s.ledger.queued := by
        unfold State.enqueue
        dsimp only
        rw [if_pos hclosed]
        exact ⟨rfl, rfl, rfl⟩
      exact hsame henqueue
    · have henqueue : (s.enqueue id message).ledger.queued = s.ledger.queued ++ [(id, message)] ∧
          (s.enqueue id message).hist.enqueued = s.hist.enqueued ++ [(id, message)] ∧
          (s.enqueue id message).ledger.sent = s.ledger.sent := by
        unfold State.enqueue
        dsimp only
        rw [if_neg hclosed]
        exact ⟨List.filterMap_append, rfl, rfl⟩
      obtain ⟨hqueued, henqueued, hsent⟩ := henqueue
      refine ⟨?_, fun hwire hdead hleft => ?_⟩
      · rw [hsent, henqueued]
        exact h.isPrefix.trans (List.prefix_append _ _)
      · rw [hpump] at hwire hdead hleft ⊢
        rw [hqueued, hsent, henqueued, ← List.append_assoc, ← List.append_assoc,
          List.append_assoc s.ledger.sent, h.rest hwire hdead hleft]
  | close code reason =>
    exact hsame (hclose code reason)
  | drop =>
    exact hsame (hclose none "")
  | @enqueueClose code reason hc =>
    have henqueue : (s.enqueueClose code reason).hist.enqueued = s.hist.enqueued ∧
        (s.enqueueClose code reason).hist.handed = s.hist.handed ∧
        (s.enqueueClose code reason).ledger.queued = s.ledger.queued := by
      unfold State.enqueueClose
      dsimp only
      split
      · exact ⟨rfl, rfl, rfl⟩
      · refine ⟨rfl, rfl, ?_⟩
        unfold Ledger.queued State.ledger
        dsimp only
        rw [List.filterMap_append]
        exact List.append_nil _
    exact hsame henqueue
  | dropSenders | reader | arrive | tick => exact hsame ⟨rfl, rfl, rfl⟩

end State.HandsFirst

/-- The messages are handed over in the order of the channel, and none is left out. -/
theorem hands_first (h : system.Reachable s) : s.HandsFirst := by
  refine System.Reachable.induction (I := State.HandsFirst) ?_ ?_ h
  · rintro _ ⟨closeTimeout, limit, now, largest, hreaches, -, rfl⟩
    exact ⟨List.nil_prefix, fun _ _ _ => rfl⟩
  · intro s a s' hr ih hs
    cases step_kind hs with
    | poll hp => exact ih.poll (conveys_of_step (a := .poll) hr hp).wire hp
    | write ha hw => exact ih.write (commands_sound hr) hw ha
    | outer hm => exact ih.outer hm

/-! ### The connection ends while messages are on their way -/

/-- The moves of the echo, and those that end the connection. -/
inductive EndingMove
  | echo (a : EchoAction)
  | close (code : Option UInt16) (reason : String)
  | enqueueClose
  | drop
  | dropSenders
  /-- The transport fails under a write. -/
  | writeFailed (err : TungsteniteError)
  /-- The transport fails under a read. -/
  | readFailed
  deriving DecidableEq, Repr

/-- The state after a move, if the move is possible: a `receive` call after a local close takes nothing. -/
def endingStep (net : Streams) (e : EchoState) : EndingMove → Option EchoState
  | .echo a =>
    if a = .receive ∧ e.host.shared.localClosed = true then none else echoStep net e a
  | .close code reason => e.hostStep (.close code reason)
  | .enqueueClose => e.hostStep .enqueueClose
  | .drop => e.hostStep .drop
  | .dropSenders => e.hostStep .dropSenders
  | .writeFailed err => e.hostStep (.writeFailed err)
  | .readFailed => e.hostStep (.arrive [.error])

/-- The pump against the echoing peer, until the connection ends in one of its ways. -/
def endingEcho (net : Streams) : Transition.System EchoState EndingMove where
  init := (echoSystem net).init
  step := endingStep net

/-- A frame that the `WebSocketStream` has accepted is being written, or nothing will be any more. -/
def State.Flushes (s : State) : Prop :=
  (∃ frame bound next, s.pump.pc = .writing (.send frame true) bound next) ∨ s.pump.writeDead = true

/-- Only the acceptance of a frame hands something over. -/
theorem handed_of_step {a : Action} (h : step s a = some s') (ha : a ≠ .hand) :
    s'.hist.handed = s.hist.handed := by
  have hgoes (t : State) (result : Except Error Unit) (next : Next) :
      (t.goes result next).hist.handed = t.hist.handed := by rw [PcFrame.goes t result next]
  cases step_kind h with
  | poll hp => rw [PollFrame.poll hp]
  | outer hm => rw [OuterFrame.of_move hm]
  | write hw hs =>
    rcases hw with rfl | rfl | ⟨err, rfl⟩ | rfl
    · exact absurd rfl ha
    · simp only [step, State.written] at hs
      split at hs
      · cases hs
      · next write bound next _ _ =>
        obtain rfl := Option.some.inj hs
        rw [hgoes]
        rcases write with ⟨⟨id, message⟩ | frame, handed⟩ | - <;> rfl
      · cases hs
    · simp only [step, State.writeFailed] at hs
      split at hs
      · obtain rfl := Option.some.inj hs
        exact hgoes _ _ _
      · cases hs
    · simp only [step, State.writeBound] at hs
      split at hs
      · split at hs
        · obtain rfl := Option.some.inj hs
          rfl
        · cases hs
      · split at hs
        · obtain rfl := Option.some.inj hs
          exact hgoes _ _ _
        · cases hs
      · cases hs

/-- The queue grows at its end, unless a reader takes its first message. -/
theorem items_of_step (hr : system.Reachable s) {a : Action} (h : step s a = some s') (ha : a ≠ .take) :
    s'.shared.queue.items = s.shared.queue.items ++ s.queues a := by
  have hwaiting := (conveys_of_step hr h).waiting
  unfold State.waiting State.hands at hwaiting
  by_cases hrelease : a = .release
  · subst hrelease
    rw [if_pos rfl] at hwaiting
    simp only [step] at h
    split at h
    · next message hsome =>
      obtain rfl := Option.some.inj h
      exact (List.append_nil _).symm
    · cases h
  · have hreader : a.isReader = false := by
      cases a with
      | take => exact absurd rfl ha
      | release => exact absurd rfl hrelease
      | send | enqueue | close | enqueueClose | drop | dropSenders | poll | hand | written | writeFailed
      | writeBound | arrive | tick => rfl
    rw [if_neg hrelease, unreleased_of_step h hreader, List.nil_append, List.append_assoc] at hwaiting
    exact List.append_cancel_left hwaiting

/-- Only its completion ends a write that does not fail. -/
theorem State.Flushes.step {a : Action} (hf : s.Flushes) (h : Host.step s a = some s')
    (ha : a ≠ .written) : s'.Flushes := by
  have hdies (err : Error) (next : Next) : (s.failWrite err next).Flushes := by
    right
    unfold State.failWrite
    rw [PcFrame.goes _ _ next]
    rfl
  cases step_kind h with
  | outer hm =>
    unfold State.Flushes
    rw [OuterFrame.of_move hm]
    exact hf
  | poll hp =>
    rcases hf with ⟨frame, bound, next, hpc⟩ | hdead
    · rw [State.poll, hpc] at hp
      cases hp
    · right
      rw [PollFrame.poll hp]
      exact hdead
  | write hw hs =>
    rcases hw with rfl | rfl | ⟨err, rfl⟩ | rfl
    · -- a frame is accepted once, and none by a dead write half
      simp only [Host.step, State.hand] at hs
      split at hs
      · next frame bound next hpc =>
        obtain rfl := Option.some.inj hs
        exact .inl ⟨frame, bound, next, rfl⟩
      · cases hs
    · exact absurd rfl ha
    · simp only [Host.step, State.writeFailed] at hs
      split at hs
      · obtain rfl := Option.some.inj hs
        exact hdies _ _
      · cases hs
    · simp only [Host.step, State.writeBound] at hs
      split at hs
      · next write next hpc =>
        split at hs
        · obtain rfl := Option.some.inj hs
          rcases hf with ⟨frame, bound, next', hpc'⟩ | hdead
          · rw [hpc] at hpc'
            cases hpc'
            exact .inl ⟨frame, .deadline, next, rfl⟩
          · exact .inr hdead
        · cases hs
      · split at hs
        · obtain rfl := Option.some.inj hs
          exact hdies _ _
        · cases hs
      · cases hs

/-! ### The invariant -/

/-- What comes back from the peer is what the pump has handed over, in its order: the frames that the host
has read, and then those on the streams. -/
structure EchoState.Echoed (e : EchoState) : Prop where
  reachable : system.Reachable e.host
  pending : e.pending ≠ [] → e.host.Flushes
  frames : ∃ wires : List Wire,
    e.host.Queues (e.taken ++ e.host.shared.queue.items) (dataOf (wires.map Wire.inbound)) ∧
      e.host.hist.handed.map Frame.wire =
        wires ++ Cell.frames (e.back ++ e.echo ++ (e.out ++ e.pending))

namespace EchoState.Echoed

variable {net : Streams} {e e' : EchoState}

/-- A move of the host that takes nothing from the streams and gives them nothing. -/
theorem host (h : e.Echoed) {a : Action} (ha : a ≠ .hand ∧ a ≠ .take) (harrived : dataOf a.arrived = [])
    (hwritten : a = .written → e.pending = []) {host : State} (hs : step e.host a = some host) :
    ({ e with host := host } : EchoState).Echoed := by
  obtain ⟨wires, hqueues, hframes⟩ := h.frames
  refine ⟨h.reachable.next hs, fun hne => (h.pending hne).step hs fun hw => hne (hwritten hw),
    wires, ?_, ?_⟩
  · have hstep := hqueues.step h.reachable hs
    rw [harrived, List.append_nil, List.append_assoc] at hstep
    show host.Queues (e.taken ++ host.shared.queue.items) _
    rw [items_of_step h.reachable hs ha.2]
    exact hstep
  · show host.hist.handed.map Frame.wire = _
    rw [handed_of_step hs ha.1]
    exact hframes

/-- A frame goes on along the streams. -/
theorem streams (h : e.Echoed) (hhost : e'.host = e.host) (htaken : e'.taken = e.taken)
    (hframes : Cell.frames (e'.back ++ e'.echo ++ (e'.out ++ e'.pending)) =
      Cell.frames (e.back ++ e.echo ++ (e.out ++ e.pending)))
    (hpending : e.pending = [] → e'.pending = []) : e'.Echoed := by
  obtain ⟨wires, hqueues, hhanded⟩ := h.frames
  refine ⟨?_, fun hne => ?_, wires, ?_, ?_⟩
  · rw [hhost]
    exact h.reachable
  · rw [hhost]
    exact h.pending fun hnil => hne (hpending hnil)
  · rw [hhost, htaken]
    exact hqueues
  · rw [hhost, hframes]
    exact hhanded

/-- The `WebSocketStream` accepts a frame. -/
theorem hand (h : e.Echoed) (hs : e.hand net = some e') : e'.Echoed := by
  unfold EchoState.hand at hs
  split at hs
  · next frame bound next hpc =>
    obtain ⟨host, hhost, rfl⟩ := Option.map_eq_some_iff.mp hs
    obtain ⟨wires, hqueues, hframes⟩ := h.frames
    have halive := ((commands_sound h.reachable).write _ bound next hpc).alive
    -- the write before has been completed
    have hnil : e.pending = [] := by
      by_contra hne
      rcases h.pending hne with ⟨frame', bound', next', hpc'⟩ | hdead
      · rw [hpc] at hpc'
        cases hpc'
      · exact absurd (halive.symm.trans hdead) nofun
    have hstep : step e.host .hand = some host := hhost
    have hnext := hqueues.step h.reachable hstep
    rw [show e.host.queues .hand = [] from rfl, show dataOf Action.hand.arrived = [] from rfl,
      List.append_nil, List.append_nil] at hnext
    have hitems := items_of_step h.reachable hstep (by decide)
    rw [show e.host.queues .hand = [] from rfl, List.append_nil] at hitems
    have hreach : system.Reachable host := h.reachable.next (a := .hand) hstep
    rw [State.hand, hpc] at hhost
    obtain rfl := Option.some.inj hhost
    refine ⟨hreach, fun _ => .inl ⟨frame, bound, next, rfl⟩, wires, ?_, ?_⟩
    · show State.Queues _ (e.taken ++ _) _
      rw [hitems]
      exact hnext
    · show (e.host.hist.handed ++ [frame]).map Frame.wire =
        wires ++ Cell.frames (e.back ++ e.echo ++ (e.out ++ Cell.encode net.client frame.wire))
      rw [List.map_append, hframes, hnil]
      simp
  · cases hs

/-- `ws.next()` takes a byte, or the end. -/
theorem read (h : e.Echoed) (hs : e.read = some e') : e'.Echoed := by
  unfold EchoState.read at hs
  split at hs
  · split at hs
    · next rest hback =>
      obtain rfl := Option.some.inj hs
      refine h.streams rfl rfl ?_ id
      rw [hback]
      rfl
    · next wire rest hback =>
      obtain ⟨host, hhost, rfl⟩ := Option.map_eq_some_iff.mp hs
      obtain ⟨wires, hqueues, hframes⟩ := h.frames
      have hreach : system.Reachable host := h.reachable.next (a := .arrive _) hhost
      have hnext := hqueues.step h.reachable hhost
      have hitems := items_of_step h.reachable hhost (by rintro ⟨⟩)
      rw [show e.host.queues (.arrive [wire.inbound]) = [] from rfl, List.append_nil] at hnext hitems
      refine ⟨hreach, fun hne => (h.pending hne).step hhost (by rintro ⟨⟩), wires ++ [wire], ?_, ?_⟩
      · show host.Queues (e.taken ++ host.shared.queue.items) _
        rw [hitems, List.map_append, dataOf_append]
        exact hnext
      · show host.hist.handed.map Frame.wire = _
        rw [handed_of_step hhost (by rintro ⟨⟩), hframes, hback]
        simp
    · obtain ⟨host, hhost, rfl⟩ := Option.map_eq_some_iff.mp hs
      exact h.host ⟨by rintro ⟨⟩, by rintro ⟨⟩⟩ rfl (by rintro ⟨⟩) hhost
  · cases hs

/-- The peer reads a byte. -/
theorem hear (h : e.Echoed) (hs : e.hear net = some e') : e'.Echoed := by
  unfold EchoState.hear at hs
  split at hs
  · next hfree =>
    split at hs
    · next rest hout =>
      obtain rfl := Option.some.inj hs
      refine h.streams rfl rfl ?_ id
      rw [hout]
      simp
    · next wire rest hout =>
      obtain rfl := Option.some.inj hs
      refine h.streams rfl rfl ?_ id
      rw [hout, hfree.1]
      simp
    · cases hs
  · cases hs

/-- A `receive` call takes the first message of the queue. -/
theorem receive (h : e.Echoed) (hs : e.receive = some e') : e'.Echoed := by
  unfold EchoState.receive at hs
  split at hs
  · next receives message rest hreceives hitems =>
    obtain ⟨host, hhost, rfl⟩ := Option.map_eq_some_iff.mp hs
    obtain ⟨wires, hqueues, hframes⟩ := h.frames
    have hnext := hqueues.step h.reachable hhost
    rw [show e.host.queues .take = [] from rfl, show dataOf Action.take.arrived = [] from rfl,
      List.append_nil, List.append_nil, hitems] at hnext
    have hreach : system.Reachable host := h.reachable.next (a := .take) hhost
    have hrest : host.shared.queue.items = rest := by
      simp only [step] at hhost
      split at hhost
      · next message' queue hnone hpoll =>
        obtain rfl := Option.some.inj hhost
        have hsome := (Receiver.pollNext_some hpoll).1
        rw [hitems] at hsome
        exact (List.cons.inj hsome).2.symm
      · cases hhost
    refine ⟨hreach, fun hne => (h.pending hne).step hhost (by rintro ⟨⟩), wires, ?_, ?_⟩
    · show host.Queues (e.taken ++ [message] ++ host.shared.queue.items) _
      rw [hrest, List.append_assoc]
      exact hnext
    · show host.hist.handed.map Frame.wire = _
      rw [handed_of_step hhost (by rintro ⟨⟩)]
      exact hframes
  · cases hs

/-- A move of the host beside the streams. -/
theorem hostStep (h : e.Echoed) {a : Action} (ha : a ≠ .hand ∧ a ≠ .take ∧ a ≠ .written)
    (harrived : dataOf a.arrived = []) (hs : e.hostStep a = some e') : e'.Echoed := by
  obtain ⟨host, hhost, rfl⟩ := Option.map_eq_some_iff.mp hs
  exact h.host ⟨ha.1, ha.2.1⟩ harrived (fun hw => absurd hw ha.2.2) hhost

/-- Every move of the echo keeps the invariant. -/
theorem echo (h : e.Echoed) {a : EchoAction} (hs : echoStep net e a = some e') : e'.Echoed := by
  cases a with
  | send =>
    simp only [echoStep, EchoState.callSend] at hs
    split at hs
    · obtain ⟨host, hhost, rfl⟩ := Option.map_eq_some_iff.mp hs
      have hmoved := h.host ⟨by rintro ⟨⟩, by rintro ⟨⟩⟩ rfl (by rintro ⟨⟩) hhost
      exact ⟨hmoved.reachable, hmoved.pending, hmoved.frames⟩
    · cases hs
  | enqueue | release | writeBound | tick => exact h.hostStep ⟨by rintro ⟨⟩, by rintro ⟨⟩, by rintro ⟨⟩⟩ rfl hs
  | receive => exact h.receive hs
  | poll =>
    simp only [echoStep, EchoState.poll] at hs
    split at hs
    · obtain ⟨host, hhost, rfl⟩ := Option.map_eq_some_iff.mp hs
      exact h.host (a := .poll) ⟨by rintro ⟨⟩, by rintro ⟨⟩⟩ rfl (by rintro ⟨⟩) hhost
    · cases hs
  | hand => exact h.hand hs
  | flush =>
    simp only [echoStep, EchoState.flush] at hs
    split at hs
    · next cell rest hpending =>
      split at hs
      · obtain rfl := Option.some.inj hs
        refine h.streams rfl rfl ?_ fun hnil => absurd (hpending.symm.trans hnil) nofun
        rw [hpending]
        simp
      · cases hs
    · cases hs
  | written =>
    simp only [echoStep, EchoState.written] at hs
    split at hs
    · next hnil =>
      obtain ⟨host, hhost, rfl⟩ := Option.map_eq_some_iff.mp hs
      exact h.host (a := .written) ⟨by rintro ⟨⟩, by rintro ⟨⟩⟩ rfl (fun _ => hnil) hhost
    · cases hs
  | read => exact h.read hs
  | hear => exact h.hear hs
  | reply =>
    simp only [echoStep, EchoState.reply] at hs
    split at hs
    · next cell rest hecho =>
      split at hs
      · obtain rfl := Option.some.inj hs
        refine h.streams rfl rfl ?_ id
        rw [hecho]
        simp
      · cases hs
    · cases hs

end EchoState.Echoed

/-- The invariant holds in every run. -/
theorem echoed {net : Streams} {e : EchoState} (h : (endingEcho net).Reachable e) : e.Echoed := by
  refine Transition.System.Reachable.induction (I := EchoState.Echoed) ?_ ?_ h
  · rintro _ ⟨closeTimeout, limit, now, largest, hreaches, sends, receives, hlimit, rfl⟩
    refine ⟨.of_init ⟨closeTimeout, limit, now, largest, hreaches, hlimit, rfl⟩,
      fun hne => absurd rfl hne, [], ⟨?_, ?_⟩, rfl⟩
    · exact List.nil_prefix
    · intro _
      rfl
  · intro e a e' _ ih hs
    cases a with
    | echo a =>
      simp only [endingEcho, endingStep] at hs
      split at hs
      · cases hs
      · exact ih.echo hs
    | close code reason =>
      exact ih.hostStep (a := .close code reason) ⟨by rintro ⟨⟩, by rintro ⟨⟩, by rintro ⟨⟩⟩ rfl hs
    | enqueueClose => exact ih.hostStep (a := .enqueueClose) (by decide) rfl hs
    | drop => exact ih.hostStep (a := .drop) (by decide) rfl hs
    | dropSenders => exact ih.hostStep (a := .dropSenders) (by decide) rfl hs
    | writeFailed err =>
      exact ih.hostStep (a := .writeFailed err) ⟨by rintro ⟨⟩, by rintro ⟨⟩, by rintro ⟨⟩⟩ rfl hs
    | readFailed => exact ih.hostStep (a := .arrive [.error]) (by decide) rfl hs

/-! ### The guest and its own messages -/

/-- The data messages among some frames. -/
def Wire.message? : Wire → Option Message
  | .data message => some message
  | .close _ => none

theorem dataOf_wires (wires : List Wire) : dataOf (wires.map Wire.inbound) = wires.filterMap Wire.message? := by
  unfold dataOf
  rw [List.filterMap_map]
  congr
  funext wire
  rcases wire with (bytes | text) | frame <;> rfl

theorem sent_messages (frames : List Frame) :
    (frames.map Frame.wire).filterMap Wire.message? = (frames.filterMap Frame.data?).map Prod.snd := by
  rw [List.filterMap_map, List.map_filterMap]
  congr
  funext frame
  cases frame <;> rfl

/-- The messages on the streams between the pump and its peer. -/
def EchoState.onStreams (e : EchoState) : List Message :=
  (Cell.frames (e.back ++ e.echo ++ (e.out ++ e.pending))).filterMap Wire.message?

/-- The messages that the pump has not handed over. -/
def State.unsent (s : State) : List Message := (s.pump.pc.unhanded ++ s.ledger.queued).map Prod.snd

/-- Whatever ends the connection, and when, the guest gets back its own messages, each once and in the
order in which it sent them, from the first one on without a hole.  Until the closing handshake begins,
a write fails or the pump leaves its loop, every message that it has not got is on its way. -/
theorem echoed_in_order {net : Streams} {e : EchoState} (h : (endingEcho net).Reachable e) :
    e.taken ++ e.host.shared.queue.items <+: e.host.hist.enqueued.map Prod.snd ∧
      (e.host.pump.wireClosing = false → e.host.pump.writeDead = false → e.host.pump.pc.left = false →
        e.taken ++ e.host.shared.queue.items ++ e.host.flight ++ e.onStreams ++ e.host.unsent =
          e.host.hist.enqueued.map Prod.snd) := by
  have hechoed := echoed h
  obtain ⟨wires, hqueues, hframes⟩ := hechoed.frames
  have hfirst := hands_first hechoed.reachable
  have hsent : e.host.ledger.sent.map Prod.snd = dataOf (wires.map Wire.inbound) ++ e.onStreams := by
    rw [dataOf_wires, EchoState.onStreams, ← List.filterMap_append, ← hframes, sent_messages]
    rfl
  refine ⟨?_, fun hwire hdead hleft => ?_⟩
  · calc e.taken ++ e.host.shared.queue.items
        <+: dataOf (wires.map Wire.inbound) := hqueues.isPrefix
      _ <+: e.host.ledger.sent.map Prod.snd := by
        rw [hsent]
        exact List.prefix_append _ _
      _ <+: e.host.hist.enqueued.map Prod.snd := hfirst.isPrefix.map Prod.snd
  · rw [hqueues.flight hwire, ← hsent, State.unsent, ← List.map_append, hfirst.rest hwire hdead hleft]

/-- A message that has come back and one that has not, when the guest closes the connection. -/
theorem echoed_in_order_closed :
    ∃ e, (endingEcho (.websocket 16 16 (by decide) (by decide))).Reachable e ∧
      e.host.shared.localClosed = true ∧ e.taken = [.binary [1]] ∧
      e.taken ++ e.host.shared.queue.items <+: e.host.hist.enqueued.map Prod.snd ∧
      e.taken ++ e.host.shared.queue.items ++ e.host.flight ++ e.onStreams ++ e.host.unsent =
        e.host.hist.enqueued.map Prod.snd := by
  have hrun : ((endingEcho (.websocket 16 16 (by decide) (by decide))).run
      (EchoState.start ⟨0, 10, by decide⟩ 100 0 1000 (by decide) [.binary [1], .binary [2]] 2)
      [.echo .send, .echo .send, .echo (.enqueue 0 (.binary [1])), .echo (.enqueue 1 (.binary [2])),
        .echo .poll, .echo .poll, .echo .hand, .echo .flush, .echo .flush, .echo .flush, .echo .flush,
        .echo .flush, .echo .flush, .echo .flush, .echo .written, .echo .hear, .echo .hear, .echo .hear,
        .echo .hear, .echo .hear, .echo .hear, .echo .hear, .echo .reply, .echo .reply, .echo .reply,
        .echo .poll, .echo .poll, .echo .hand, .echo .flush, .echo .flush, .echo .flush, .echo .flush,
        .echo .flush, .echo .flush, .echo .flush, .echo .written, .echo .poll, .echo .read, .echo .read,
        .echo .read, .echo .poll, .echo .poll, .echo .poll, .echo .poll, .echo .receive, .echo .release,
        .close none ""]).any (fun e => e.host.shared.localClosed ∧ e.taken = [.binary [1]] ∧
          e.host.pump.wireClosing = false ∧ e.host.pump.writeDead = false ∧
          e.host.pump.pc.left = false) = true := by decide +kernel
  refine ((Option.any_eq_true _ _).mp hrun).imp fun e hran => ?_
  obtain ⟨hclosed, htaken, hwire, hdead, hleft⟩ := of_decide_eq_true hran.2
  have hstart : (endingEcho (.websocket 16 16 (by decide) (by decide))).Reachable
      (EchoState.start ⟨0, 10, by decide⟩ 100 0 1000 (by decide) [.binary [1], .binary [2]] 2) :=
    .of_init ⟨⟨0, 10, by decide⟩, 100, 0, 1000, by decide, _, 2, by decide, rfl⟩
  have hreach := hstart.run hran.1
  have horder := echoed_in_order hreach
  exact ⟨hreach, hclosed, htaken, horder.1, horder.2 hwire hdead hleft⟩

end Polymorph.Host
