import PolymorphWebsocket.Host.CloseFrame
import PolymorphWebsocket.Host.Deadline
import PolymorphWebsocket.Host.Progress

/-!
# The wasmtime host: the end of a connection

The finalization publishes the close details, ends the inbound queue and moves the state on, in this
order.  What an observer of the connection is told depends on how far it has come: a turn of the
pump's loop changes nothing of it but the state, which it moves on from open to closing.
-/

namespace Polymorph.Host

open Futures Transition

variable {s s' : State}

/-! ### How far the finalization has come -/

/-- How far a point of the finalization is. -/
def Finalize.stage : Finalize → Nat
  | .closeInfo => 1
  | .endQueue => 2
  | .closeCmds => 3
  | .drainCmds => 4
  | .closing => 5
  | .closed => 6
  | .fire => 7

/-- How far the pump has come with the end of the connection. -/
def Pc.stage : Pc → Nat
  | .finalize stage => stage.stage
  | .done => 8
  | _ => 0

/-- How far the pump of a connection has come. -/
def State.stage (s : State) : Nat := s.pump.pc.stage

/-- The pump has found room for a message and not queued it yet. -/
def Pc.reserving : Pc → Bool
  | .reserved _ | .counted _ => true
  | _ => false

/-- Before the finalization the pump is in its loop. -/
theorem Pc.stage_eq_zero {pc : Pc} : pc.stage = 0 ↔ pc.left = false := by
  cases pc with
  | finalize stage => cases stage <;> simp [Pc.stage, Finalize.stage, Pc.left]
  | _ => simp [Pc.stage, Pc.left]

/-- The last stage is the fired signal. -/
theorem Pc.stage_le (pc : Pc) : pc.stage ≤ 8 := by
  cases pc with
  | finalize stage => cases stage <;> decide
  | done => exact le_rfl
  | select | resolved | reserved | counted | writing => exact Nat.zero_le 8

/-- At a point of the finalization. -/
theorem stage_of_finalize {stage : Finalize} (hpc : s.pump.pc = .finalize stage) :
    s.stage = stage.stage := by
  unfold State.stage
  rw [hpc]
  rfl

/-- At a bounded write. -/
theorem stage_of_write {a : Action} (h : step s a = some s')
    (ha : a = .hand ∨ a = .written ∨ (∃ err, a = .writeFailed err) ∨ a = .writeBound) :
    s.stage = 0 := by
  obtain ⟨write, bound, next, hpc⟩ := writing_of_step h ha
  unfold State.stage
  rw [hpc]
  rfl

/-- A pump that has left its loop is polled at a point of the finalization. -/
theorem finalize_of_left (hleft : s.pump.pc.left = true) (h : s.poll = some s') :
    ∃ stage, s.pump.pc = .finalize stage ∧ s' = s.finalizeStep stage := by
  unfold State.poll at h
  cases hpc : s.pump.pc with
  | select | resolved | reserved | counted | writing =>
    rw [hpc] at hleft
    cases hleft
  | finalize stage =>
    rw [hpc] at h
    exact ⟨stage, rfl, (Option.some.inj h).symm⟩
  | done =>
    rw [hpc] at h
    cases h

/-- Going on stays in the loop or leaves it, and reserves nothing. -/
theorem stage_goes (s : State) (result : Except Error Unit) (next : Next) :
    (s.goes result next).stage ≤ 1 ∧ (s.goes result next).pump.pc.reserving = false := by
  cases next with
  | leave => exact ⟨le_rfl, rfl⟩
  | reply | loop => exact ⟨Nat.zero_le 1, rfl⟩

/-- So does a bounded write. -/
theorem stage_boundedWrite (s : State) (write : Write) (next : Next) :
    (s.boundedWrite write next).stage ≤ 1 ∧
      (s.boundedWrite write next).pump.pc.reserving = false := by
  unfold State.boundedWrite
  split
  · exact stage_goes s _ next
  · exact ⟨Nat.zero_le 1, rfl⟩

/-! ### A turn of the loop -/

/-- What a turn of the pump's loop leaves alone of the end, and how it moves the state on. -/
structure Turns (s s' : State) : Prop where
  closeInfo : s'.shared.closeInfo = s.shared.closeInfo
  closed : s'.shared.closed = s.shared.closed
  senderLive : s'.shared.queue.senderLive = s.shared.queue.senderLive
  wire : s.pump.wireClosing = true → s'.pump.wireClosing = true
  state : s'.shared.state = s.shared.state ∨
    s'.shared.state = s.shared.state.advance .closing ∧ s'.pump.wireClosing = true
  cmdsDone : s'.pump.cmdsDone = true → s.pump.cmdsDone = true ∨ s.shared.sendersGone = true
  stage : s'.stage ≤ 1
  reserving : s'.pump.pc.reserving = true → s'.pump.wireClosing = false

namespace Turns

/-- A turn that leaves all of it alone. -/
theorem of_eq (hshared : s'.shared.closeInfo = s.shared.closeInfo ∧
      s'.shared.closed = s.shared.closed ∧
      s'.shared.queue.senderLive = s.shared.queue.senderLive ∧ s'.shared.state = s.shared.state)
    (hwire : s'.pump.wireClosing = s.pump.wireClosing) (hdone : s'.pump.cmdsDone = s.pump.cmdsDone)
    (hstage : s'.stage ≤ 1)
    (hreserving : s'.pump.pc.reserving = true → s.pump.wireClosing = false) : Turns s s' := by
  obtain ⟨hinfo, hclosed, hlive, hstate⟩ := hshared
  refine ⟨hinfo, hclosed, hlive, fun h => hwire.trans h, .inl hstate, fun h => ?_, hstage,
    fun h => hwire.trans (hreserving h)⟩
  exact .inl (hdone.symm.trans h)

/-- A turn that moves the pump on, and no further than out of its loop. -/
theorem of_pc (hframe : PcFrame s s')
    (hpc : s'.stage ≤ 1 ∧ s'.pump.pc.reserving = false) : Turns s s' := by
  refine of_eq ⟨?_, ?_, ?_, ?_⟩ ?_ ?_ hpc.1 fun h => ?_
  · rw [hframe]
  · rw [hframe]
  · rw [hframe]
  · rw [hframe]
  · rw [hframe]
  · rw [hframe]
  · cases hpc.2.symm.trans h

/-- Going on is a turn of the loop. -/
theorem goes (s : State) (result : Except Error Unit) (next : Next) :
    Turns s (s.goes result next) :=
  of_pc (.goes s result next) (stage_goes s result next)

/-- Starting a bounded write is one. -/
theorem boundedWrite (s : State) (write : Write) (next : Next) :
    Turns s (s.boundedWrite write next) :=
  of_pc (.boundedWrite s write next) (stage_boundedWrite s write next)

/-- The pump goes on at a point of its loop, or at the start of the finalization. -/
theorem setPc (s : State) {pc : Pc} (hstage : pc.stage ≤ 1) (hreserving : pc.reserving = false) :
    Turns s (s.setPc pc) :=
  of_pc rfl ⟨hstage, hreserving⟩

/-- A turn that begins with changes of other things. -/
theorem after {t : State} (h : Turns t s') (hcloseInfo : t.shared.closeInfo = s.shared.closeInfo)
    (hclosed : t.shared.closed = s.shared.closed)
    (hlive : t.shared.queue.senderLive = s.shared.queue.senderLive)
    (hwire : t.pump.wireClosing = s.pump.wireClosing)
    (hstate : t.shared.state = s.shared.state) (hgone : t.shared.sendersGone = s.shared.sendersGone)
    (hdone : t.pump.cmdsDone = true → s.pump.cmdsDone = true ∨ s.shared.sendersGone = true) :
    Turns s s' := by
  refine ⟨h.closeInfo.trans hcloseInfo, h.closed.trans hclosed, h.senderLive.trans hlive,
    fun hw => h.wire (hwire.trans hw), hstate ▸ h.state, fun hd => ?_, h.stage, h.reserving⟩
  rcases h.cmdsDone hd with hd' | hg
  · exact hdone hd'
  · exact .inr (hgone.symm.trans hg)

/-- A turn that begins with the closing handshake. -/
theorem closing {t : State} (h : Turns t s') (hcloseInfo : t.shared.closeInfo = s.shared.closeInfo)
    (hclosed : t.shared.closed = s.shared.closed)
    (hlive : t.shared.queue.senderLive = s.shared.queue.senderLive)
    (hwire : t.pump.wireClosing = true)
    (hstate : t.shared.state = s.shared.state.advance .closing)
    (hgone : t.shared.sendersGone = s.shared.sendersGone)
    (hdone : t.pump.cmdsDone = s.pump.cmdsDone) : Turns s s' := by
  refine ⟨h.closeInfo.trans hcloseInfo, h.closed.trans hclosed, h.senderLive.trans hlive,
    fun _ => h.wire hwire, .inr ⟨?_, h.wire hwire⟩, fun hd => ?_, h.stage, h.reserving⟩
  · rcases h.state with hsame | ⟨hadvance, -⟩
    · exact hsame.trans hstate
    · rw [hadvance, hstate]
      cases s.shared.state <;> rfl
  · rcases h.cmdsDone hd with hd' | hg
    · exact .inl (hdone.symm.trans hd')
    · exact .inr (hgone.symm.trans hg)

/-- Beginning to close is one. -/
theorem beginClose (s : State) (frame : Option CloseFrame) (next : Next) :
    Turns s (s.beginClose frame next) := by
  rcases beginClose_cases s frame next with ⟨-, h⟩ | ⟨-, h⟩ <;> rw [h]
  · exact goes s _ next
  · exact (boundedWrite (s.closing frame) _ next).closing rfl rfl rfl rfl rfl rfl rfl

/-- So is the close an overflow begins. -/
theorem overflow (s : State) (next : Next) :
    Turns s ((s.setBudget s.shared.budget.latchOverflow).beginClose none next) :=
  (beginClose (s.setBudget s.shared.budget.latchOverflow) none next).after rfl rfl rfl rfl rfl rfl
    .inl

/-- So is what becomes of a message. -/
theorem deliver (s : State) (message : Message) : Turns s (s.deliver message) := by
  unfold State.deliver
  split
  · exact setPc s (Nat.zero_le 1) rfl
  · next hwire =>
    split
    · exact of_eq ⟨rfl, rfl, rfl, rfl⟩ rfl rfl (Nat.zero_le 1) fun _ => Bool.eq_false_iff.mpr hwire
    · exact overflow s .loop

/-- So is what the command arm resolves to, the senders being gone when it ends. -/
theorem onCmd (s : State) {cmd : Option Cmd} (hgone : cmd = none → s.shared.sendersGone = true) :
    Turns s (s.onCmd cmd) := by
  rcases cmd with - | cmd
  · exact (beginClose { s with pump := { s.pump with cmdsDone := true } } none .loop).after rfl rfl
      rfl rfl rfl rfl fun _ => .inr (hgone rfl)
  cases cmd with
  | send id message =>
    simp only [State.onCmd]
    split
    · exact goes s _ _
    · exact boundedWrite s _ _
  | close code reason => exact beginClose s _ _

/-- So is what the read arm resolves to. -/
theorem onRead (s : State) (outcome : Inbound) : Turns s (s.onRead outcome) := by
  cases outcome with
  | text text => exact deliver s _
  | binary bytes => exact deliver s _
  | close frame =>
    have hpasses : Turns (s.notePeerFrame frame) ((s.notePeerFrame frame).setPc (.select .cmd)) :=
      setPc _ (Nat.zero_le 1) rfl
    simp only [State.onRead]
    split
    · next hwire => exact hpasses.closing rfl rfl rfl hwire rfl rfl rfl
    · exact (boundedWrite (s.notePeerFrame frame).setWireClosing .flush .loop).closing rfl rfl rfl
        rfl rfl rfl rfl
  | ping payload => exact boundedWrite s _ _
  | pong | frame => exact setPc s (Nat.zero_le 1) rfl
  | connectionClosed | error => exact setPc s le_rfl rfl
  | capacity => exact overflow s .leave

/-- What an arm resolves to is a turn of the loop. -/
theorem onResolved (s : State) {r : Resolution}
    (hgone : r = .cmd none → s.shared.sendersGone = true) : Turns s (s.onResolved r) := by
  cases r with
  | cmd cmd => exact onCmd s fun h => hgone (congrArg _ h)
  | read outcome => exact onRead s outcome
  | deadline => exact setPc s le_rfl rfl

/-- So is a poll of an arm. -/
theorem pollArm (s : State) (arm : Arm) : Turns s (s.pollArm arm) := by
  have htakes (t : State) (hshared : t.shared.closeInfo = s.shared.closeInfo ∧
      t.shared.closed = s.shared.closed ∧
      t.shared.queue.senderLive = s.shared.queue.senderLive ∧ t.shared.state = s.shared.state)
      (hpump : t.pump.wireClosing = s.pump.wireClosing ∧ t.pump.cmdsDone = s.pump.cmdsDone)
      (hstage : t.stage ≤ 1) (hreserving : t.pump.pc.reserving = false) : Turns s t :=
    of_eq hshared hpump.1 hpump.2 hstage fun h => absurd (hreserving.symm.trans h) nofun
  cases arm with
  | cmd =>
    simp only [State.pollArm]
    split
    · exact setPc s (Nat.zero_le 1) rfl
    · split
      · exact htakes _ ⟨rfl, rfl, rfl, rfl⟩ ⟨rfl, rfl⟩ (Nat.zero_le 1) rfl
      · split <;> exact setPc s (Nat.zero_le 1) rfl
  | read =>
    simp only [State.pollArm]
    split
    · exact htakes _ ⟨rfl, rfl, rfl, rfl⟩ ⟨rfl, rfl⟩ (Nat.zero_le 1) rfl
    · exact setPc s (Nat.zero_le 1) rfl
  | deadline =>
    simp only [State.pollArm]
    split <;> exact setPc s (Nat.zero_le 1) rfl

/-- A step of the pump in its loop. -/
theorem poll (hleft : s.pump.pc.left = false)
    (hgone : s.pump.pc = .resolved (.cmd none) → s.shared.sendersGone = true)
    (hreserving : s.pump.pc.reserving = true → s.pump.wireClosing = false)
    (h : s.poll = some s') : Turns s s' := by
  unfold State.poll at h
  split at h
  · obtain rfl := Option.some.inj h
    exact pollArm s _
  · next r hpc =>
    obtain rfl := Option.some.inj h
    exact onResolved s fun hr => hgone (hpc.trans (congrArg _ hr))
  · next message hpc =>
    obtain rfl := Option.some.inj h
    exact of_eq ⟨rfl, rfl, rfl, rfl⟩ rfl rfl (Nat.zero_le 1) fun _ => hreserving (by rw [hpc]; rfl)
  · obtain rfl := Option.some.inj h
    exact of_eq ⟨rfl, rfl, Receiver.push_senderLive _ _, rfl⟩ rfl rfl (Nat.zero_le 1) nofun
  · cases h
  · next hpc =>
    rw [hpc] at hleft
    cases hleft
  · cases h

end Turns

/-- A bounded write that resolves is on its way, or leads back to the loop or out of it. -/
theorem stage_write {a : Action} (h : step s a = some s')
    (ha : a = .hand ∨ a = .written ∨ (∃ err, a = .writeFailed err) ∨ a = .writeBound) :
    s'.stage ≤ 1 ∧ s'.pump.pc.reserving = false := by
  rcases ha with rfl | rfl | ⟨err, rfl⟩ | rfl
  · simp only [step, State.hand] at h
    split at h
    · obtain rfl := Option.some.inj h
      exact ⟨Nat.zero_le 1, rfl⟩
    · cases h
  · simp only [step, State.written] at h
    split at h
    · cases h
    · obtain rfl := Option.some.inj h
      exact stage_goes _ _ _
    · cases h
  · simp only [step, State.writeFailed] at h
    split at h
    · obtain rfl := Option.some.inj h
      exact stage_goes _ _ _
    · cases h
  · simp only [step, State.writeBound] at h
    split at h
    · split at h
      · obtain rfl := Option.some.inj h
        exact ⟨Nat.zero_le 1, rfl⟩
      · cases h
    · split at h
      · obtain rfl := Option.some.inj h
        exact stage_goes _ _ _
      · cases h
    · cases h

/-! ### What the stage says -/

/-- No reader ends the queue. -/
theorem senderLive_of_reader {a : Action} (ha : a = .take ∨ a = .release)
    (h : step s a = some s') : s'.shared.queue.senderLive = s.shared.queue.senderLive := by
  rcases ha with rfl | rfl
  · simp only [step] at h
    split at h
    · next hpoll =>
      obtain rfl := Option.some.inj h
      exact (Receiver.pollNext_some hpoll).2
    · cases h
  · simp only [step] at h
    split at h
    · obtain rfl := Option.some.inj h
      rfl
    · cases h

/-- What has been stored of the end, by how far the pump has come with it. -/
structure State.EndSound (s : State) : Prop where
  closeInfo : 2 ≤ s.stage → s.shared.closeInfo = some s.pump.peerFrame
  ended : 3 ≤ s.stage → s.shared.queue.senderLive = false
  moved : 6 ≤ s.stage → s.shared.state ≠ .open
  stateClosed : s.shared.state = .closed ↔ 7 ≤ s.stage
  closed : s.shared.closed = true ↔ 8 ≤ s.stage
  /-- The state moves on with a local close, with the closing handshake or at the end. -/
  closing : s.shared.state ≠ .open →
    s.shared.localClosed = true ∨ s.pump.wireClosing = true ∨ 6 ≤ s.stage
  reserving : s.pump.pc.reserving = true → s.pump.wireClosing = false
  cmdsDone : s.pump.cmdsDone = true → s.shared.sendersGone = true
  sendersGone : s.shared.sendersGone = true → s.calls.dropped = true

/-- Moving on to closing is not moving on to closed. -/
theorem advance_closing_eq_closed {state : WsState} :
    state.advance .closing = .closed ↔ state = .closed := by
  cases state <;> decide

namespace State.EndSound

/-- A turn of the loop. -/
theorem turns (h : s.EndSound) (hleft : s.pump.pc.left = false) (ht : Turns s s')
    (hshared : s'.shared.localClosed = s.shared.localClosed ∧
      s'.shared.sendersGone = s.shared.sendersGone)
    (hdropped : s'.calls.dropped = s.calls.dropped) : s'.EndSound := by
  have hzero : s.stage = 0 := Pc.stage_eq_zero.mpr hleft
  have hle := ht.stage
  refine ⟨fun hs => ?_, fun hs => ?_, fun hs => ?_, ?_, ?_, fun hs => ?_, ht.reserving, fun hs => ?_,
    fun hs => ?_⟩
  · omega
  · omega
  · omega
  · have hopen : s.shared.state ≠ .closed := by
      rw [ne_eq, h.stateClosed]
      omega
    refine iff_of_false (fun hs => hopen ?_) (by omega)
    rcases ht.state with hsame | ⟨hadvance, -⟩
    · exact hsame.symm.trans hs
    · exact advance_closing_eq_closed.mp (hadvance.symm.trans hs)
  · rw [ht.closed, h.closed]
    exact iff_of_false (by omega) (by omega)
  · rcases ht.state with hsame | ⟨-, hwire⟩
    · rw [hsame] at hs
      rcases h.closing hs with hlocal | hwire | hsix
      · exact .inl (hshared.1.trans hlocal)
      · exact .inr (.inl (ht.wire hwire))
      · omega
    · exact .inr (.inl hwire)
  · rw [hshared.2]
    exact (ht.cmdsDone hs).elim h.cmdsDone id
  · rw [hdropped]
    exact h.sendersGone (hshared.2.symm.trans hs)

/-- A step that leaves the state and the signals alone, and ends before the state moves on or leaves
the pump where it is. -/
theorem early (h : s.EndSound)
    (hshared : s'.shared.state = s.shared.state ∧ s'.shared.closed = s.shared.closed ∧
      s'.shared.localClosed = s.shared.localClosed)
    (hpump : s'.pump.wireClosing = s.pump.wireClosing ∧ s'.pump.cmdsDone = s.pump.cmdsDone)
    (hgone : s'.shared.sendersGone = true → s'.calls.dropped = true)
    (hkeeps : s.shared.sendersGone = true → s'.shared.sendersGone = true)
    (hstage : s.stage ≤ s'.stage) (hearly : s'.stage ≤ 5 ∨ s'.stage = s.stage)
    (hreserving : s'.pump.pc.reserving = true → s.pump.pc.reserving = true)
    (hinfo : 2 ≤ s'.stage → s'.shared.closeInfo = some s'.pump.peerFrame)
    (hended : 3 ≤ s'.stage → s'.shared.queue.senderLive = false) : s'.EndSound := by
  obtain ⟨hstate, hclosed, hlocal⟩ := hshared
  obtain ⟨hwire, hdone⟩ := hpump
  refine ⟨hinfo, hended, ?_, ?_, ?_, ?_, ?_, ?_, hgone⟩
  · rw [hstate]
    intro hs
    exact h.moved (by omega)
  · rw [hstate, h.stateClosed]
    omega
  · rw [hclosed, h.closed]
    omega
  · rw [hstate, hlocal, hwire]
    intro hs
    rcases h.closing hs with hl | hw | hsix
    · exact .inl hl
    · exact .inr (.inl hw)
    · exact .inr (.inr (by omega))
  · rw [hwire]
    intro hs
    exact h.reserving (hreserving hs)
  · rw [hdone]
    intro hs
    exact hkeeps (h.cmdsDone hs)

/-- A stage of the finalization. -/
theorem finalizeStep (h : s.EndSound) {stage : Finalize} (hpc : s.pump.pc = .finalize stage) :
    (s.finalizeStep stage).EndSound := by
  have hstage := stage_of_finalize hpc
  have hinfo := h.closeInfo
  have hended := h.ended
  -- the stages before the state moves on
  have hearly (t : State) (hshared : t.shared.state = s.shared.state ∧
        t.shared.closed = s.shared.closed ∧ t.shared.localClosed = s.shared.localClosed)
      (hpump : t.pump.wireClosing = s.pump.wireClosing ∧ t.pump.cmdsDone = s.pump.cmdsDone)
      (hcalls : t.shared.sendersGone = s.shared.sendersGone ∧ t.calls.dropped = s.calls.dropped)
      (hreserving : t.pump.pc.reserving = false) (hle : s.stage ≤ t.stage) (hfive : t.stage ≤ 5)
      (hinfo : 2 ≤ t.stage → t.shared.closeInfo = some t.pump.peerFrame)
      (hended : 3 ≤ t.stage → t.shared.queue.senderLive = false) : t.EndSound := by
    refine h.early hshared hpump (fun hg => ?_) (fun hg => hcalls.1.trans hg) hle (.inl hfive)
      (fun hr => ?_) hinfo hended
    · exact hcalls.2.trans (h.sendersGone (hcalls.1.symm.trans hg))
    · cases hreserving.symm.trans hr
  cases stage with
  | closeInfo =>
    have hnext : (s.finalizeStep .closeInfo).stage = 2 := rfl
    refine hearly _ ⟨rfl, rfl, rfl⟩ ⟨rfl, rfl⟩ ⟨rfl, rfl⟩ rfl ?_ ?_ (fun _ => rfl) fun hs => ?_
    · rw [hstage]
      exact Nat.le_succ 1
    · exact Nat.le_of_ble_eq_true rfl
    · omega
  | endQueue =>
    refine hearly _ ⟨rfl, rfl, rfl⟩ ⟨rfl, rfl⟩ ⟨rfl, rfl⟩ rfl ?_ ?_ (fun _ => ?_) fun _ => rfl
    · rw [hstage]
      exact Nat.le_succ 2
    · exact Nat.le_of_ble_eq_true rfl
    · exact hinfo hstage.ge
  | closeCmds =>
    refine hearly _ ⟨rfl, rfl, rfl⟩ ⟨rfl, rfl⟩ ⟨rfl, rfl⟩ rfl ?_ ?_ (fun _ => ?_) fun _ => ?_
    · rw [hstage]
      exact Nat.le_succ 3
    · exact Nat.le_of_ble_eq_true rfl
    · exact hinfo (by rw [hstage]; decide)
    · exact hended hstage.ge
  | drainCmds =>
    have hinfo' := hinfo (by rw [hstage]; decide)
    have hended' := hended (by rw [hstage]; decide)
    have hfive : s.stage ≤ 5 := by
      rw [hstage]
      decide
    have hreserving : s.pump.pc.reserving = false := by
      rw [hpc]
      rfl
    simp only [State.finalizeStep]
    split
    · exact hearly _ ⟨rfl, rfl, rfl⟩ ⟨rfl, rfl⟩ ⟨rfl, rfl⟩ hreserving le_rfl hfive (fun _ => hinfo')
        fun _ => hended'
    · exact hearly _ ⟨rfl, rfl, rfl⟩ ⟨rfl, rfl⟩ ⟨rfl, rfl⟩ hreserving le_rfl hfive (fun _ => hinfo')
        fun _ => hended'
    · refine hearly _ ⟨rfl, rfl, rfl⟩ ⟨rfl, rfl⟩ ⟨rfl, rfl⟩ rfl ?_ le_rfl (fun _ => hinfo')
        fun _ => hended'
      rw [hstage]
      exact Nat.le_succ 4
  | closing =>
    have hnext : (s.finalizeStep .closing).stage = 6 := rfl
    refine ⟨fun _ => hinfo (by rw [hstage]; decide), fun _ => hended (by rw [hstage]; decide),
      fun _ => ?_, ?_, ?_, fun _ => .inr (.inr hnext.ge), by rintro ⟨⟩, h.cmdsDone, h.sendersGone⟩
    · show s.shared.state.advance .closing ≠ .open
      cases s.shared.state <;> decide
    · show s.shared.state.advance .closing = .closed ↔ _
      rw [advance_closing_eq_closed, h.stateClosed, hstage, hnext]
      decide
    · show s.shared.closed = true ↔ _
      rw [h.closed, hstage, hnext]
      decide
  | closed =>
    have hnext : (s.finalizeStep .closed).stage = 7 := rfl
    have hclosed : s.shared.state.advance .closed = .closed := by
      cases s.shared.state <;> rfl
    refine ⟨fun _ => hinfo (by rw [hstage]; decide), fun _ => hended (by rw [hstage]; decide),
      fun _ => ?_, iff_of_true hclosed hnext.ge, ?_, fun _ => .inr (.inr ?_), by rintro ⟨⟩,
      h.cmdsDone, h.sendersGone⟩
    · show s.shared.state.advance .closed ≠ .open
      rw [hclosed]
      decide
    · show s.shared.closed = true ↔ _
      rw [h.closed, hstage, hnext]
      decide
    · rw [hnext]
      decide
  | fire =>
    have hnext : (s.finalizeStep .fire).stage = 8 := rfl
    have hclosed : s.shared.state = .closed := h.stateClosed.mpr hstage.ge
    refine ⟨fun _ => hinfo (by rw [hstage]; decide), fun _ => hended (by rw [hstage]; decide),
      fun _ => ?_, iff_of_true hclosed ?_, iff_of_true rfl hnext.ge, fun _ => .inr (.inr ?_),
      by rintro ⟨⟩, h.cmdsDone, h.sendersGone⟩
    · show s.shared.state ≠ .open
      rw [hclosed]
      decide
    · rw [hnext]
      decide
    · rw [hnext]
      decide

/-- An accepted `close` call moves the state on. -/
theorem closed_call (h : s.EndSound) (code : Option UInt16) (reason : String) :
    (s.closed code reason).EndSound := by
  refine ⟨h.closeInfo, h.ended, fun _ => ?_, ?_, h.closed, fun _ => .inl rfl, h.reserving, h.cmdsDone,
    h.sendersGone⟩
  · show s.shared.state.advance .closing ≠ .open
    cases s.shared.state <;> decide
  · exact advance_closing_eq_closed.trans h.stateClosed

/-- A `close` call only moves the state on before the pump does. -/
theorem callClose (h : s.EndSound) (code : Option UInt16) (reason : String) :
    (s.callClose code reason).EndSound := by
  rcases callClose_cases s code reason with ⟨-, hc⟩ | ⟨-, -, hc⟩ <;> rw [hc]
  · exact h
  · exact h.closed_call code reason

/-- Everyone but the pump leaves the end alone, but for the state that a local close moves on. -/
theorem outer (h : s.EndSound) {a : Action} (hm : OuterMove s a s')
    (hlive : a = .take ∨ a = .release →
      s'.shared.queue.senderLive = s.shared.queue.senderLive) : s'.EndSound := by
  have hsame (t : State) (hstate : t.shared.state = s.shared.state ∧
        t.shared.closed = s.shared.closed ∧ t.shared.localClosed = s.shared.localClosed)
      (hpump : t.pump = s.pump) (hinfo : t.shared.closeInfo = s.shared.closeInfo)
      (hqueue : t.shared.queue.senderLive = s.shared.queue.senderLive)
      (hgone : t.shared.sendersGone = true → t.calls.dropped = true)
      (hkeeps : s.shared.sendersGone = true → t.shared.sendersGone = true) : t.EndSound := by
    have hstage : t.stage = s.stage := by
      unfold State.stage
      rw [hpump]
    refine h.early hstate ⟨by rw [hpump], by rw [hpump]⟩ hgone hkeeps hstage.ge (.inr hstage)
      (by rw [hpump]; exact id) ?_ ?_
    · rw [hstage, hinfo, hpump]
      exact h.closeInfo
    · rw [hstage, hqueue]
      exact h.ended
  cases hm with
  | send message =>
    simp only [State.callSend]
    split <;> exact hsame _ ⟨rfl, rfl, rfl⟩ rfl rfl rfl h.sendersGone id
  | enqueue =>
    simp only [State.enqueue]
    split <;> exact hsame _ ⟨rfl, rfl, rfl⟩ rfl rfl rfl h.sendersGone id
  | close code reason => exact h.callClose code reason
  | enqueueClose =>
    simp only [State.enqueueClose]
    split <;> exact hsame _ ⟨rfl, rfl, rfl⟩ rfl rfl rfl h.sendersGone id
  | drop =>
    have hclose := h.callClose none ""
    exact { hclose with sendersGone := fun _ => rfl }
  | dropSenders hd => exact hsame _ ⟨rfl, rfl, rfl⟩ rfl rfl rfl (fun _ => hd) fun _ => rfl
  | reader ha => exact hsame _ ⟨rfl, rfl, rfl⟩ rfl rfl (hlive ha) h.sendersGone id
  | arrive | tick => exact hsame _ ⟨rfl, rfl, rfl⟩ rfl rfl rfl h.sendersGone id

end State.EndSound

/-- What the stage says holds in every reachable state. -/
theorem end_sound (h : system.Reachable s) : s.EndSound := by
  refine System.Reachable.induction (I := State.EndSound) ?_ ?_ h
  · rintro _ ⟨closeTimeout, limit, now, largest, hreaches, -, rfl⟩
    refine ⟨nofun, nofun, nofun, ⟨nofun, nofun⟩, ⟨nofun, nofun⟩, fun hs => absurd rfl hs, nofun, nofun,
      nofun⟩
  · intro s a s' hr ih hs
    cases step_kind hs with
    | poll h =>
      have hframe := PollFrame.poll h
      cases hleft : s.pump.pc.left with
      | false =>
        have hturns := Turns.poll hleft (fun hpc => ((closeFrame_sound hr).ended hpc).1) ih.reserving h
        refine ih.turns hleft hturns ⟨?_, ?_⟩ ?_
        · rw [hframe]
        · rw [hframe]
        · rw [hframe]
      | true =>
        obtain ⟨stage, hpc, rfl⟩ := finalize_of_left hleft h
        exact ih.finalizeStep hpc
    | write ha h =>
      obtain ⟨hle, hreserving⟩ := stage_write h ha
      have hframe := WriteFrame.step h ha
      have hzero := stage_of_write h ha
      refine ih.early ⟨?_, ?_, ?_⟩ ⟨?_, ?_⟩ ?_ ?_ (by omega) (by omega) ?_ (by omega) (by omega)
      · rw [hframe]
      · rw [hframe]
      · rw [hframe]
      · rw [hframe]
      · rw [hframe]
      · rw [hframe]
        exact ih.sendersGone
      · rw [hframe]
        exact id
      · intro hr'
        cases hreserving.symm.trans hr'
    | outer hm => exact ih.outer hm fun ha => senderLive_of_reader ha hs

/-- A step takes the pump at most one stage further, and never back. -/
theorem stage_step (h : system.Reachable s) {a : Action} (hs : step s a = some s') :
    s.stage ≤ s'.stage ∧ s'.stage ≤ s.stage + 1 := by
  cases step_kind hs with
  | poll hp =>
    cases hleft : s.pump.pc.left with
    | false =>
      have hzero : s.stage = 0 := Pc.stage_eq_zero.mpr hleft
      have hturns := Turns.poll hleft (fun hpc => ((closeFrame_sound h).ended hpc).1)
        (end_sound h).reserving hp
      have hle := hturns.stage
      omega
    | true =>
      obtain ⟨stage, hpc, rfl⟩ := finalize_of_left hleft hp
      rw [stage_of_finalize hpc]
      cases stage with
      | drainCmds =>
        have hdrains (t : State) (ht : t.pump.pc = s.pump.pc) : 4 ≤ t.stage ∧ t.stage ≤ 5 := by
          unfold State.stage
          rw [ht, hpc]
          decide
        simp only [State.finalizeStep]
        split
        · exact hdrains _ rfl
        · exact hdrains _ rfl
        · exact ⟨Nat.le_succ 4, le_rfl⟩
      | closeInfo | endQueue | closeCmds | closing | closed | fire =>
        exact ⟨Nat.le_succ _, le_rfl⟩
  | write ha hw =>
    obtain ⟨hle, -⟩ := stage_write hw ha
    have hzero := stage_of_write hw ha
    omega
  | outer hm =>
    have hsame : s'.stage = s.stage := by
      unfold State.stage
      rw [OuterFrame.of_move hm]
    omega

end Polymorph.Host
