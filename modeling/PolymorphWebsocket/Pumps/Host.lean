import PolymorphWebsocket.Pumps.Conduct
import PolymorphWebsocket.Host.Commands
import PolymorphWebsocket.Host.Deadline
import PolymorphWebsocket.Transition.Drive

/-!
# The wasmtime host's pump, fed one event at a time

The pump of the wasmtime host as a `Drive`: its own steps are those of its select loop, of its
finalization and of writes that succeed, and it waits when every arm of its select is pending (or
when it is done).  Its outlook is what it has done, the rest of what it is in the middle of, the
commands in the channel, the outcomes that have arrived and the deadline if it has passed.
-/

namespace Polymorph.Host

open Futures Transition

variable {s s' : State} {pc : Pc}

/-! ### The drive -/

/-- The steps the pump takes by itself, with writes that succeed. -/
def Action.settles : Action → Bool
  | .poll | .hand | .written => true
  | _ => false

/-- The pump waits: every arm of its select is pending, or it is done. -/
def State.Waiting (s : State) : Prop :=
  s.pump.pc = .done ∨ (∃ arm, s.pump.pc = .select arm) ∧ s.shared.cmds = [] ∧ s.inbound = [] ∧
    s.expired = false

/-- The clock only moves once a deadline is armed. -/
theorem reaches_deadline (s : State) (hnone : s.pump.deadline = none) :
    max s.now (s.pump.deadline.getD s.now) + s.pump.closeTimeout.asNanos ≤ s.largest := by
  rw [hnone, Option.getD_none, Nat.max_self]
  exact s.reaches hnone

/-- An event reaches the pump: a command is sent on the channel, an outcome arrives, or the clock
gets to the armed deadline. -/
def State.fed (s : State) : Event → State
  | .send message => (s.callSend message).enqueue s.calls.nextId message
  | .close code reason => s.enqueueClose code reason
  | .inbound outcome => { s with inbound := s.inbound ++ [outcome] }
  | .endOfStream => { s with inbound := s.inbound ++ [.connectionClosed] }
  | .deadline =>
    { s with now := max s.now (s.pump.deadline.getD s.now), reaches := reaches_deadline s }

/-- The pump as a drive.  The clock stands still while the pump settles: no step of its own makes
the deadline pass. -/
def drive : Drive State Event where
  feed := State.fed
  settle s s' := ∃ a, a.settles = true ∧ step s a = some s' ∧ s'.expired = s.expired
  waiting := State.Waiting

/-! ### Conduct and outlook -/

/-- The close frame of a frame. -/
def Frame.close? : Frame → Option (Option CloseFrame)
  | .data _ _ => none
  | .close frame => some frame

/-- What the pump has done. -/
def State.conduct (s : State) : Conduct where
  limit := s.shared.budget.limit
  queue := s.shared.queue.items
  used := s.shared.budget.buffered
  overflowed := s.shared.budget.overflowed
  frames := s.hist.handed.filterMap Frame.data?
  closeFrames := s.hist.handed.filterMap Frame.close?
  replies := s.hist.replies
  nextId := s.calls.nextId
  wireClosing := s.pump.wireClosing
  peerFrame := s.pump.peerFrame
  finalized := s.shared.closed
  closeInfo := s.shared.closeInfo

/-- What a command does. -/
def Cmd.conduct (a : Conduct) : Cmd → Conduct
  | .send id message => a.send id message
  | .close code reason => a.close code reason

/-- What handing a frame over does. -/
def Frame.conduct (a : Conduct) : Frame → Conduct
  | .data id message => a.frame id message
  | .close frame => { a with closeFrames := a.closeFrames ++ [frame] }

/-- What a write still does. -/
def Write.conduct (a : Conduct) : Write → Conduct
  | .send frame false => frame.conduct a
  | .send _ true | .flush => a

/-- What follows a write that succeeds. -/
def Next.conduct (a : Conduct) : Next → Conduct
  | .reply id => a.reply id (.ok ())
  | .loop => a
  | .leave => a.finalize

/-- What the pump still does before it polls its select again. -/
def Pc.conduct (a : Conduct) : Pc → Conduct
  | .select _ | .done => a
  | .resolved (.cmd (some cmd)) => Cmd.conduct a cmd
  | .resolved (.cmd none) => a.beginClose none
  | .resolved (.read outcome) => a.read outcome
  | .resolved .deadline => a.finalize
  | .reserved message => (a.count message).push message
  | .counted message => a.push message
  | .writing write _ next => Next.conduct (Write.conduct a write) next
  | .finalize _ => a.finalize

/-- What the pump will have done before it polls its select again. -/
def State.after (s : State) : Conduct := Pc.conduct s.conduct s.pump.pc

/-- What the pump will have done once it waits. -/
def State.outlook (s : State) : Conduct :=
  (s.inbound.foldl Conduct.inbound (s.shared.cmds.foldl Cmd.conduct s.after)).endIf s.expired

/-! ### The invariant -/

/-- What the pump and its suspension points are about. -/
structure Gear where
  localClosed : Bool
  sendersGone : Bool
  writeDead : Bool
  cmdsDone : Bool
  armed : Bool
  wireClosing : Bool
  budget : InboundBudget
  cmds : List Cmd
  cmdsClosed : Bool
  closed : Bool
  senderLive : Bool
  inbound : List Inbound
  closeInfo : Option (Option CloseInfo)
  peerFrame : Option CloseInfo

/-- The gear of a connection. -/
def State.gear (s : State) : Gear where
  localClosed := s.shared.localClosed
  sendersGone := s.shared.sendersGone
  writeDead := s.pump.writeDead
  cmdsDone := s.pump.cmdsDone
  armed := s.pump.deadline.isSome
  wireClosing := s.pump.wireClosing
  budget := s.shared.budget
  cmds := s.shared.cmds
  cmdsClosed := s.shared.cmdsClosed
  closed := s.shared.closed
  senderLive := s.shared.queue.senderLive
  inbound := s.inbound
  closeInfo := s.shared.closeInfo
  peerFrame := s.pump.peerFrame

/-- The points of the loop are none of the finalization. -/
theorem Pc.of_left (h : pc.left = false) : pc.channelClosed = false ∧ pc.channelDrained = false ∧
    pc ≠ .done ∧ ∀ stage, pc ≠ .finalize stage := by
  cases pc with
  | finalize stage => cases h
  | done => cases h
  | select | resolved | reserved | counted | writing => exact ⟨rfl, rfl, nofun, nofun⟩

namespace Gear

variable {g : Gear}

/-- The invariant, with the pump at `pc`. -/
structure Sound (g : Gear) (pc : Pc) : Prop where
  localClosed : g.localClosed = false
  sendersGone : g.sendersGone = false
  writeDead : g.writeDead = false
  cmdsDone : g.cmdsDone = false
  armed : g.armed = g.wireClosing
  limit : g.budget.limit < wordSize - 1
  used : g.budget.buffered ≤ g.budget.limit
  reserved : ∀ message, pc = .reserved message →
    g.budget.buffered + message.payloadLen ≤ g.budget.limit
  channelClosed : g.cmdsClosed = pc.channelClosed
  drained : pc.channelDrained = true → g.cmds = []
  closed : g.closed = true ↔ pc = .done
  senderLive : pc.left = false → g.senderLive = true
  /-- Commands and outcomes do not wait at the same time. -/
  inbound : g.inbound ≠ [] → pc.left = false → g.cmds = []
  resolved : pc ≠ .resolved (.cmd none)
  closeInfo : ∀ stage, pc = .finalize stage → stage ≠ .closeInfo →
    g.closeInfo = some g.peerFrame

/-- The pump goes on inside of its loop: what it is about changes, but for the flags that tell which
connection it is. -/
theorem Sound.loops (h : g.Sound pc) (hpc : pc.left = false) {g' : Gear}
    (hframe : g' = { g with
      armed := g'.armed, wireClosing := g'.wireClosing, budget := g'.budget, cmds := g'.cmds
      inbound := g'.inbound, peerFrame := g'.peerFrame })
    (harmed : g'.armed = g'.wireClosing) (hlimit : g'.budget.limit = g.budget.limit)
    (hused : g'.budget.buffered ≤ g'.budget.limit) (hwait : g'.inbound ≠ [] → g'.cmds = [])
    {pc' : Pc} (hpc' : pc'.left = false) (hresolved : pc' ≠ .resolved (.cmd none))
    (hreserved : ∀ message, pc' = .reserved message →
      g'.budget.buffered + message.payloadLen ≤ g'.budget.limit) : g'.Sound pc' := by
  obtain ⟨hopen, -, hdone, -⟩ := Pc.of_left hpc
  obtain ⟨hopen', hdrained', hdone', hstage'⟩ := Pc.of_left hpc'
  have hclosed : g'.closed = false := by
    rw [hframe]
    exact Bool.eq_false_iff.mpr fun hclosed => hdone (h.closed.mp hclosed)
  constructor
  · rw [hframe]
    exact h.localClosed
  · rw [hframe]
    exact h.sendersGone
  · rw [hframe]
    exact h.writeDead
  · rw [hframe]
    exact h.cmdsDone
  · exact harmed
  · rw [hlimit]
    exact h.limit
  · exact hused
  · exact hreserved
  · rw [hframe, hopen']
    exact h.channelClosed.trans hopen
  · intro hdrained
    cases hdrained'.symm.trans hdrained
  · rw [hclosed]
    exact ⟨nofun, fun hdone => absurd hdone hdone'⟩
  · intro _
    rw [hframe]
    exact h.senderLive hpc
  · exact fun hne _ => hwait hne
  · exact hresolved
  · exact fun stage hstage => absurd hstage (hstage' stage)

/-- The pump goes from point to point inside of its loop. -/
theorem Sound.goes (h : g.Sound pc) (hpc : pc.left = false) {pc' : Pc} (hpc' : pc'.left = false)
    (hresolved : pc' ≠ .resolved (.cmd none)) (hreserved : ∀ message, pc' = .reserved message →
      g.budget.buffered + message.payloadLen ≤ g.budget.limit) : g.Sound pc' :=
  h.loops hpc rfl h.armed rfl h.used (fun hne => h.inbound hne hpc) hpc' hresolved hreserved

/-- The select is polled again, whatever has changed. -/
theorem Sound.stays (h : g.Sound (.select .cmd)) {g' : Gear}
    (hframe : g' = { g with
      armed := g'.armed, wireClosing := g'.wireClosing, budget := g'.budget, cmds := g'.cmds
      inbound := g'.inbound, peerFrame := g'.peerFrame })
    (harmed : g'.armed = g'.wireClosing) (hlimit : g'.budget.limit = g.budget.limit)
    (hused : g'.budget.buffered ≤ g'.budget.limit) (hwait : g'.inbound ≠ [] → g'.cmds = []) :
    g'.Sound (.select .cmd) :=
  h.loops rfl hframe harmed hlimit hused hwait rfl nofun nofun

/-- The pump leaves its loop. -/
theorem Sound.leaves (h : g.Sound pc) (hpc : pc.left = false) : g.Sound (.finalize .closeInfo) := by
  obtain ⟨hopen, -, hdone, -⟩ := Pc.of_left hpc
  refine ⟨h.localClosed, h.sendersGone, h.writeDead, h.cmdsDone, h.armed, h.limit, h.used, nofun,
    h.channelClosed.trans hopen, nofun, ⟨fun hclosed => absurd (h.closed.mp hclosed) hdone, nofun⟩,
    nofun, nofun, nofun, fun stage hstage hne => ?_⟩
  cases hstage
  exact absurd rfl hne

/-- The pump goes on outside of its loop. -/
theorem Sound.ends {stage : Finalize} (h : g.Sound (.finalize stage)) {g' : Gear}
    (hframe : g' = { g with
      cmds := g'.cmds, cmdsClosed := g'.cmdsClosed, closed := g'.closed
      senderLive := g'.senderLive, closeInfo := g'.closeInfo })
    {pc' : Pc} (hleft : pc'.left = true) (hopen : g'.cmdsClosed = pc'.channelClosed)
    (hdrained : pc'.channelDrained = true → g'.cmds = []) (hclosed : g'.closed = true ↔ pc' = .done)
    (hinfo : ∀ stage, pc' = .finalize stage → stage ≠ .closeInfo →
      g'.closeInfo = some g'.peerFrame) : g'.Sound pc' := by
  constructor
  · rw [hframe]
    exact h.localClosed
  · rw [hframe]
    exact h.sendersGone
  · rw [hframe]
    exact h.writeDead
  · rw [hframe]
    exact h.cmdsDone
  · rw [hframe]
    exact h.armed
  · rw [hframe]
    exact h.limit
  · rw [hframe]
    exact h.used
  · rintro message rfl
    cases hleft
  · exact hopen
  · exact hdrained
  · exact hclosed
  · intro hin
    cases hleft.symm.trans hin
  · intro _ hin
    cases hleft.symm.trans hin
  · rintro rfl
    cases hleft
  · exact hinfo

end Gear

/-- The invariant of a pump that is fed one event at a time. -/
structure State.Driven (s : State) : Prop where
  sound : s.gear.Sound s.pump.pc
  /-- Past the deadline nothing else waits for the pump. -/
  expired : s.expired = true → s.pump.pc.left = false → s.shared.cmds = [] ∧ s.inbound = []

/-! ### The body of the loop -/

/-- The pump is somewhere in its loop. -/
def State.Looping (s : State) : Prop := s.gear.Sound (.select .cmd)

theorem State.Driven.looping (h : s.Driven) (hleft : s.pump.pc.left = false) : s.Looping :=
  h.sound.goes hleft rfl nofun nofun

theorem State.Looping.closed (h : s.Looping) : s.shared.closed = false :=
  Bool.eq_false_iff.mpr fun hclosed => nomatch (Gear.Sound.closed h).mp hclosed

/-- One turn of the loop: from `s` the pump goes on at `s'`, takes no command and no outcome on the
way, and will have done `a`. -/
structure Turn (s s' : State) (a : Conduct) : Prop where
  sound : s'.gear.Sound s'.pump.pc
  after : s'.after = a
  cmds : s'.shared.cmds = s.shared.cmds
  inbound : s'.inbound = s.inbound

/-- A bounded write has returned. -/
theorem turn_goes (h : s.Looping) (next : Next) :
    Turn s (s.goes (.ok ()) next) (next.conduct s.conduct) := by
  cases next with
  | reply id => exact ⟨h, rfl, rfl, rfl⟩
  | loop => exact ⟨h, rfl, rfl, rfl⟩
  | leave => exact ⟨h.leaves rfl, rfl, rfl, rfl⟩

/-- A `send` call is refused. -/
theorem turn_refused (h : s.Looping) (id : Nat) :
    Turn s (s.goes (.error .closed) (.reply id)) (s.conduct.reply id (.error .closed)) :=
  ⟨h, rfl, rfl, rfl⟩

/-- `bounded_write`. -/
theorem turn_boundedWrite (h : s.Looping) (write : Write) (next : Next) :
    Turn s (s.boundedWrite write next) (next.conduct (write.conduct s.conduct)) := by
  have hwrite : s.boundedWrite write next = s.setPc (.writing write
      (if s.pump.deadline.isSome then .deadline else .localClose) next) :=
    if_neg (Bool.eq_false_iff.mp h.writeDead)
  rw [hwrite]
  exact ⟨h.goes rfl rfl nofun nofun, rfl, rfl, rfl⟩

/-- The closing handshake begins: the deadline is armed. -/
theorem looping_closing (h : s.Looping) (frame : Option CloseFrame) : (s.closing frame).Looping := by
  refine Gear.Sound.stays h rfl ?_ rfl h.used fun hne => h.inbound hne rfl
  exact s.isSome_armed

/-- `begin_close`. -/
theorem turn_beginClose (h : s.Looping) (frame : Option CloseFrame) (next : Next) :
    Turn s (s.beginClose frame next) (next.conduct (s.conduct.beginClose frame)) := by
  unfold Conduct.beginClose
  rcases beginClose_cases s frame next with ⟨hw, hb⟩ | ⟨hw, hb⟩
  · rw [hb, if_pos (show s.conduct.wireClosing = true from hw)]
    exact turn_goes h next
  · rw [hb, if_neg (show ¬ s.conduct.wireClosing = true from Bool.eq_false_iff.mp hw)]
    have hturn := turn_boundedWrite (looping_closing h frame) (.send (.close frame) false) next
    exact ⟨hturn.sound, hturn.after, hturn.cmds, hturn.inbound⟩

/-- The overflow latch changes nothing that the invariant is about. -/
theorem looping_latchOverflow (h : s.Looping) :
    (s.setBudget s.shared.budget.latchOverflow).Looping :=
  Gear.Sound.stays h rfl h.armed rfl h.used fun hne => h.inbound hne rfl

/-- An overflow begins a close. -/
theorem turn_overflow (h : s.Looping) (next : Next) :
    Turn s ((s.setBudget s.shared.budget.latchOverflow).beginClose none next)
      (next.conduct (s.conduct.latchOverflow.beginClose none)) := by
  have hturn := turn_beginClose (looping_latchOverflow h) none next
  exact ⟨hturn.sound, hturn.after, hturn.cmds, hturn.inbound⟩

/-- `deliver`. -/
theorem turn_deliver (h : s.Looping) (message : Message) :
    Turn s (s.deliver message) (s.conduct.deliver message) := by
  have hfits := InboundBudget.fits_iff
    (show s.shared.budget.limit < wordSize - 1 from h.limit) message.payloadLen
  unfold State.deliver Conduct.deliver
  split
  · next hw =>
    rw [if_pos (show s.conduct.wireClosing = true from hw)]
    exact ⟨h, rfl, rfl, rfl⟩
  · next hw =>
    rw [if_neg (show ¬ s.conduct.wireClosing = true from hw)]
    split
    · next hf =>
      obtain ⟨hlive, hroom⟩ := hfits.mp hf
      rw [if_pos (show s.conduct.overflowed = false ∧
        s.conduct.used + message.payloadLen ≤ s.conduct.limit from ⟨hlive, hroom⟩)]
      refine ⟨h.goes rfl rfl nofun fun message' hpc => ?_, rfl, rfl, rfl⟩
      cases hpc
      exact hroom
    · next hf =>
      rw [if_neg (show ¬ (s.conduct.overflowed = false ∧
        s.conduct.used + message.payloadLen ≤ s.conduct.limit) from fun hroom => hf (hfits.mpr hroom))]
      exact turn_overflow h .loop

/-- The peer's close frame arms the deadline. -/
theorem looping_notePeerFrame (h : s.Looping) (frame : Option CloseFrame) :
    (s.notePeerFrame frame).setWireClosing.Looping := by
  refine Gear.Sound.stays h rfl ?_ rfl h.used fun hne => h.inbound hne rfl
  exact s.isSome_armed

/-- The command arm. -/
theorem turn_onCmd (h : s.Looping) (cmd : Cmd) :
    Turn s (s.onCmd (some cmd)) (Cmd.conduct s.conduct cmd) := by
  have hlive : s.conduct.finalized = false := h.closed
  cases cmd with
  | send id message =>
    show Turn s _ (s.conduct.send id message)
    unfold Conduct.send State.onCmd
    dsimp only
    rw [hlive, show s.pump.writeDead = false from h.writeDead, Bool.or_false, Bool.false_or]
    split
    · next hw =>
      rw [if_pos (show s.conduct.wireClosing = true from hw)]
      exact turn_refused h id
    · next hw =>
      rw [if_neg (show ¬ s.conduct.wireClosing = true from hw)]
      exact turn_boundedWrite h (.send (.data id message) false) (.reply id)
  | close code reason =>
    show Turn s _ (s.conduct.close code reason)
    unfold Conduct.close
    rw [hlive]
    exact turn_beginClose h (closeFrameOf code reason) .loop

/-- The read arm. -/
theorem turn_onRead (h : s.Looping) (outcome : Inbound) :
    Turn s (s.onRead outcome) (s.conduct.read outcome) := by
  cases outcome with
  | text text => exact turn_deliver h (.string text)
  | binary bytes => exact turn_deliver h (.binary bytes)
  | close frame =>
    have hnoted := looping_notePeerFrame h frame
    unfold State.onRead
    dsimp only
    split
    · next hw =>
      have hset : (s.notePeerFrame frame).setWireClosing = s.notePeerFrame frame := by
        show { s.notePeerFrame frame with pump := { (s.notePeerFrame frame).pump with
          wireClosing := true } } = s.notePeerFrame frame
        rw [← show (s.notePeerFrame frame).pump.wireClosing = true from hw]
      rw [hset] at hnoted
      refine ⟨hnoted, ?_, rfl, rfl⟩
      show (s.notePeerFrame frame).conduct = s.conduct.notePeerFrame frame
      rw [← hset]
      rfl
    · have hturn := turn_boundedWrite hnoted .flush .loop
      exact ⟨hturn.sound, hturn.after, hturn.cmds, hturn.inbound⟩
  | ping payload => exact turn_boundedWrite h .flush .loop
  | pong | frame => exact ⟨h, rfl, rfl, rfl⟩
  | capacity => exact turn_overflow h .leave
  | connectionClosed | error => exact ⟨h.leaves rfl, rfl, rfl, rfl⟩

/-! ### The steps of the pump -/

/-- What waits for the pump and the deadline being left alone, the outlook is what the pump will
have done before it polls its select again. -/
theorem outlook_congr (hafter : s'.after = s.after) (hcmds : s'.shared.cmds = s.shared.cmds)
    (hin : s'.inbound = s.inbound) (he : s'.expired = s.expired) : s'.outlook = s.outlook := by
  unfold State.outlook
  rw [hafter, hcmds, hin, he]

/-- A turn of the loop. -/
theorem driven_turn (h : s.Driven) (hleft : s.pump.pc.left = false) (hturn : Turn s s' s.after)
    (he : s'.expired = s.expired) : s'.Driven ∧ s'.outlook = s.outlook := by
  refine ⟨⟨hturn.sound, fun hexp _ => ?_⟩, outlook_congr hturn.after hturn.cmds hturn.inbound he⟩
  rw [hturn.cmds, hturn.inbound]
  exact h.expired (he.symm.trans hexp) hleft

/-- One poll of an arm of the select. -/
theorem driven_pollArm {arm : Arm} (h : s.Driven) (hpc : s.pump.pc = .select arm) :
    (s.pollArm arm).Driven ∧ (s.pollArm arm).outlook = s.outlook := by
  have hleft : s.pump.pc.left = false := by
    rw [hpc]
    rfl
  have hafter : s.after = s.conduct := by
    unfold State.after
    rw [hpc]
    rfl
  have hloop := h.looping hleft
  have hstays (arm' : Arm) : Turn s (s.setPc (.select arm')) s.after :=
    ⟨Gear.Sound.goes hloop rfl rfl nofun nofun, hafter.symm, rfl, rfl⟩
  cases arm with
  | cmd =>
    have hdone : s.pump.cmdsDone = false := h.sound.cmdsDone
    have hgone : s.shared.sendersGone = false := h.sound.sendersGone
    unfold State.pollArm
    dsimp only
    rw [hdone, if_neg Bool.false_ne_true]
    split
    · next cmd rest hcmds =>
      have hloop' : State.Looping { s with shared := { s.shared with cmds := rest } } := by
        refine Gear.Sound.stays hloop rfl hloop.armed rfl hloop.used fun hne => ?_
        cases hcmds.symm.trans (hloop.inbound hne rfl)
      refine ⟨⟨Gear.Sound.goes hloop' rfl rfl nofun nofun, fun hexp _ => ?_⟩, ?_⟩
      · cases hcmds.symm.trans (h.expired hexp hleft).1
      · show (s.inbound.foldl Conduct.inbound (rest.foldl Cmd.conduct
          (Cmd.conduct s.conduct cmd))).endIf s.expired = s.outlook
        unfold State.outlook
        rw [hafter, hcmds, List.foldl_cons]
    · rw [hgone, if_neg Bool.false_ne_true]
      exact driven_turn h hleft (hstays .read) rfl
  | read =>
    unfold State.pollArm
    dsimp only
    split
    · next outcome rest hin =>
      have hcmds : s.shared.cmds = [] := by
        refine hloop.inbound (fun hnil => ?_) rfl
        cases hin.symm.trans hnil
      have hloop' : State.Looping { s with inbound := rest } :=
        Gear.Sound.stays hloop rfl hloop.armed rfl hloop.used fun _ => hcmds
      refine ⟨⟨Gear.Sound.goes hloop' rfl rfl nofun nofun, fun hexp _ => ?_⟩, ?_⟩
      · cases hin.symm.trans (h.expired hexp hleft).2
      · show (rest.foldl Conduct.inbound (s.shared.cmds.foldl Cmd.conduct
          (s.conduct.read outcome))).endIf s.expired = s.outlook
        unfold State.outlook
        rw [hafter, hcmds, hin, List.foldl_nil, List.foldl_nil, List.foldl_cons,
          Conduct.inbound_of_live (State.Looping.closed hloop)]
    · exact driven_turn h hleft (hstays .deadline) rfl
  | deadline =>
    unfold State.pollArm
    dsimp only
    split
    · next hexp =>
      obtain ⟨hcmds, hin⟩ := h.expired hexp hleft
      refine ⟨⟨Gear.Sound.goes hloop rfl rfl nofun nofun, fun _ _ => ⟨hcmds, hin⟩⟩, ?_⟩
      show (s.inbound.foldl Conduct.inbound (s.shared.cmds.foldl Cmd.conduct
        s.conduct.finalize)).endIf s.expired = s.outlook
      unfold State.outlook
      rw [hafter, hcmds, hin, hexp]
      exact Conduct.finalize_finalize
    · exact driven_turn h hleft (hstays .cmd) rfl

/-- The body of the arm the select has resolved to. -/
theorem driven_onResolved {r : Resolution} (h : s.Driven) (hpc : s.pump.pc = .resolved r)
    (he : (s.onResolved r).expired = s.expired) :
    (s.onResolved r).Driven ∧ (s.onResolved r).outlook = s.outlook := by
  have hleft : s.pump.pc.left = false := by
    rw [hpc]
    rfl
  have hloop := h.looping hleft
  have hafter : s.after = Pc.conduct s.conduct (.resolved r) := by
    unfold State.after
    rw [hpc]
  refine driven_turn h hleft ?_ he
  rw [hafter]
  cases r with
  | cmd cmd =>
    cases cmd with
    | none => exact absurd hpc h.sound.resolved
    | some cmd => exact turn_onCmd hloop cmd
  | read outcome => exact turn_onRead hloop outcome
  | deadline => exact ⟨Gear.Sound.leaves hloop rfl, rfl, rfl, rfl⟩

/-- `reserve` adds the message to the counter. -/
theorem turn_reserved {message : Message} (h : s.Driven) (hpc : s.pump.pc = .reserved message) :
    Turn s ((s.setBudget (s.shared.budget.fetchAdd wordBits message.payloadLen)).setPc
      (.counted message))
      s.after := by
  have hroom : s.shared.budget.buffered + message.payloadLen ≤ s.shared.budget.limit :=
    h.sound.reserved message hpc
  have hlimit : s.shared.budget.limit < wordSize - 1 := h.sound.limit
  have hlt : s.shared.budget.buffered + message.payloadLen < wordSize := by omega
  have hadd := InboundBudget.fetchAdd_of_lt (w := wordBits) hlt
  have hleft : s.pump.pc.left = false := by
    rw [hpc]
    rfl
  have hloop := h.looping hleft
  rw [hadd]
  have hloop' : State.Looping (s.setBudget { s.shared.budget with
      buffered := s.shared.budget.buffered + message.payloadLen }) :=
    Gear.Sound.stays hloop rfl hloop.armed rfl hroom fun hne => hloop.inbound hne rfl
  refine ⟨Gear.Sound.goes hloop' rfl rfl nofun nofun, ?_, rfl, rfl⟩
  unfold State.after
  rw [hpc]
  rfl

/-- The message is queued. -/
theorem turn_counted {message : Message} (h : s.Driven) (hpc : s.pump.pc = .counted message) :
    Turn s ({ s with shared := { s.shared with
      queue := s.shared.queue.push message } }.setPc (.select .cmd)) s.after := by
  have hleft : s.pump.pc.left = false := by
    rw [hpc]
    rfl
  refine ⟨h.looping hleft, ?_, rfl, rfl⟩
  unfold State.after
  rw [hpc]
  show { s.conduct with queue := (s.shared.queue.push message).items } = s.conduct.push message
  rw [Receiver.push_items_of_live (h.sound.senderLive hleft)]
  rfl

/-- One step of the finalization. -/
theorem driven_finalizeStep {stage : Finalize} (h : s.Driven)
    (hpc : s.pump.pc = .finalize stage) :
    (s.finalizeStep stage).Driven ∧ (s.finalizeStep stage).outlook = s.outlook := by
  have hsound := h.sound
  rw [hpc] at hsound
  have hafter : s.after = s.conduct.finalize := by
    unfold State.after
    rw [hpc]
    rfl
  have hlive : s.shared.closed = false := Bool.eq_false_iff.mpr fun hclosed =>
    nomatch hsound.closed.mp hclosed
  have hopen (pc' : Pc) (hne : pc' ≠ .done) : s.gear.closed = true ↔ pc' = .done :=
    ⟨fun hclosed => absurd (hlive.symm.trans hclosed) Bool.false_ne_true,
      fun hdone => absurd hdone hne⟩
  have hfinalize : s.conduct.finalize =
      { s.conduct with finalized := true, closeInfo := some s.pump.peerFrame } :=
    if_neg (Bool.eq_false_iff.mp hlive)
  -- every step but those that drain the channel leaves the commands alone
  have hends (t : State) (hsound' : t.gear.Sound t.pump.pc) (hleft : t.pump.pc.left = true)
      (hafter' : t.after = s.conduct.finalize) (hcmds : t.shared.cmds = s.shared.cmds)
      (hin : t.inbound = s.inbound) (he : t.expired = s.expired) :
      t.Driven ∧ t.outlook = s.outlook :=
    ⟨⟨hsound', fun _ hin => nomatch hleft.symm.trans hin⟩,
      outlook_congr (hafter'.trans hafter.symm) hcmds hin he⟩
  have hdrains (cmd : Cmd) (rest : List Cmd) (t : State) (hcmds : s.shared.cmds = cmd :: rest)
      (hstage : stage = .drainCmds) (hgear : t.gear = { s.gear with cmds := rest })
      (hpc' : t.pump.pc = s.pump.pc) (he : t.expired = s.expired)
      (hafter' : t.conduct.finalize = Cmd.conduct s.conduct.finalize cmd) :
      t.Driven ∧ t.outlook = s.outlook := by
    subst hstage
    refine ⟨⟨?_, fun _ hin => ?_⟩, ?_⟩
    · rw [hgear, hpc', hpc]
      exact hsound.ends rfl rfl hsound.channelClosed nofun hsound.closed hsound.closeInfo
    · rw [hpc', hpc] at hin
      cases hin
    · unfold State.outlook
      rw [show t.inbound = s.inbound from congrArg Gear.inbound hgear, he, hafter,
        show t.shared.cmds = rest from congrArg Gear.cmds hgear, hcmds, List.foldl_cons, ← hafter']
      unfold State.after
      rw [hpc', hpc]
      rfl
  cases stage with
  | closeInfo =>
    refine hends _ ?_ rfl ?_ rfl rfl rfl
    · exact hsound.ends rfl rfl hsound.channelClosed nofun (hopen _ nofun)
        fun _ _ _ => rfl
    · rw [hfinalize]
      exact if_neg (Bool.eq_false_iff.mp hlive)
  | endQueue =>
    refine hends _ ?_ rfl rfl rfl rfl rfl
    exact hsound.ends rfl rfl hsound.channelClosed nofun (hopen _ nofun)
      fun _ _ _ => hsound.closeInfo .endQueue rfl nofun
  | closeCmds =>
    refine hends _ ?_ rfl rfl rfl rfl rfl
    exact hsound.ends rfl rfl rfl nofun (hopen _ nofun)
      fun _ _ _ => hsound.closeInfo .closeCmds rfl nofun
  | drainCmds =>
    unfold State.finalizeStep
    dsimp only
    split
    · next id message rest hcmds =>
      refine hdrains (.send id message) rest _ hcmds rfl rfl rfl rfl ?_
      refine Eq.trans ?_ (Conduct.send_of_finalized Conduct.finalized_finalize id message).symm
      rw [hfinalize]
      exact if_neg (Bool.eq_false_iff.mp hlive)
    · next code reason rest hcmds =>
      refine hdrains (.close code reason) rest _ hcmds rfl rfl rfl rfl ?_
      exact (Conduct.close_of_finalized Conduct.finalized_finalize code reason).symm
    · next hcmds =>
      refine hends _ ?_ rfl rfl rfl rfl rfl
      exact hsound.ends rfl rfl hsound.channelClosed (fun _ => hcmds) (hopen _ nofun)
        fun _ _ _ => hsound.closeInfo .drainCmds rfl nofun
  | closing =>
    refine hends _ ?_ rfl rfl rfl rfl rfl
    exact hsound.ends rfl rfl hsound.channelClosed hsound.drained (hopen _ nofun)
      fun _ _ _ => hsound.closeInfo .closing rfl nofun
  | closed =>
    refine hends _ ?_ rfl rfl rfl rfl rfl
    exact hsound.ends rfl rfl hsound.channelClosed hsound.drained (hopen _ nofun)
      fun _ _ _ => hsound.closeInfo .closed rfl nofun
  | fire =>
    refine hends _ ?_ rfl ?_ rfl rfl rfl
    · exact hsound.ends rfl rfl hsound.channelClosed hsound.drained ⟨fun _ => rfl, fun _ => rfl⟩ nofun
    · rw [hfinalize]
      show { s.conduct with finalized := true } = _
      rw [← show s.conduct.closeInfo = some s.pump.peerFrame from
        hsound.closeInfo .fire rfl nofun]

/-- The pump between two of its suspension points. -/
theorem driven_poll (h : s.Driven) (hs : s.poll = some s') (he : s'.expired = s.expired) :
    s'.Driven ∧ s'.outlook = s.outlook := by
  have hleft (pc : Pc) (hpc : s.pump.pc = pc) (hpc' : pc.left = false) : s.pump.pc.left = false := by
    rw [hpc]
    exact hpc'
  unfold State.poll at hs
  split at hs
  · next arm hpc =>
    obtain rfl := Option.some.inj hs
    exact driven_pollArm h hpc
  · next r hpc =>
    obtain rfl := Option.some.inj hs
    exact driven_onResolved h hpc he
  · next message hpc =>
    obtain rfl := Option.some.inj hs
    exact driven_turn h (hleft _ hpc rfl) (turn_reserved h hpc) he
  · next message hpc =>
    obtain rfl := Option.some.inj hs
    exact driven_turn h (hleft _ hpc rfl) (turn_counted h hpc) he
  · cases hs
  · next stage hpc =>
    obtain rfl := Option.some.inj hs
    exact driven_finalizeStep h hpc
  · cases hs

/-- The frame of the pending write is handed over. -/
theorem driven_hand (h : s.Driven) (hs : s.hand = some s') (he : s'.expired = s.expired) :
    s'.Driven ∧ s'.outlook = s.outlook := by
  unfold State.hand at hs
  split at hs
  · next frame bound next hpc =>
    obtain rfl := Option.some.inj hs
    have hleft : s.pump.pc.left = false := by
      rw [hpc]
      rfl
    have hloop := h.looping hleft
    refine driven_turn h hleft ⟨Gear.Sound.goes hloop rfl rfl nofun nofun, ?_, rfl, rfl⟩ he
    unfold State.after
    rw [hpc]
    show Next.conduct { s.conduct with
      frames := (s.hist.handed ++ [frame]).filterMap Frame.data?
      closeFrames := (s.hist.handed ++ [frame]).filterMap Frame.close? } next = _
    rw [List.filterMap_append, List.filterMap_append]
    cases frame with
    | data id message =>
      rw [show [Frame.data id message].filterMap Frame.close? = [] from rfl, List.append_nil]
      rfl
    | close frame =>
      rw [show [Frame.close frame].filterMap Frame.data? = [] from rfl, List.append_nil]
      rfl
  · cases hs

/-- The pending write completes. -/
theorem driven_written (h : s.Driven) (hs : s.written = some s') (he : s'.expired = s.expired) :
    s'.Driven ∧ s'.outlook = s.outlook := by
  unfold State.written at hs
  split at hs
  · cases hs
  · next write bound next hunhanded hpc =>
    obtain rfl := Option.some.inj hs
    have hleft : s.pump.pc.left = false := by
      rw [hpc]
      rfl
    have hloop := h.looping hleft
    have hnoted : (s.noteCompleted write).gear = s.gear ∧
        (s.noteCompleted write).conduct = s.conduct := by
      unfold State.noteCompleted
      split <;> exact ⟨rfl, rfl⟩
    have hwrite : write.conduct s.conduct = s.conduct := by
      rcases write with ⟨frame, - | -⟩ | -
      · exact absurd rfl (hunhanded frame)
      · rfl
      · rfl
    have hturn := turn_goes (s := s.noteCompleted write)
      (show (s.noteCompleted write).gear.Sound _ from hnoted.1 ▸ hloop) next
    refine driven_turn h hleft ⟨hturn.sound, ?_, ?_, ?_⟩ he
    · rw [hturn.after, hnoted.2]
      unfold State.after
      rw [hpc]
      show _ = Next.conduct (write.conduct s.conduct) next
      rw [hwrite]
    · exact hturn.cmds.trans (congrArg Gear.cmds hnoted.1)
    · exact hturn.inbound.trans (congrArg Gear.inbound hnoted.1)
  · cases hs

/-- Every step the pump takes by itself keeps the invariant and the outlook. -/
theorem driven_settle (h : s.Driven) (hs : drive.settle s s') :
    s'.Driven ∧ s'.outlook = s.outlook := by
  obtain ⟨a, ha, hstep, he⟩ := hs
  cases a with
  | poll => exact driven_poll h hstep he
  | hand => exact driven_hand h hstep he
  | written => exact driven_written h hstep he
  | send | enqueue | close | enqueueClose | drop | dropSenders | take | release | writeFailed
  | writeBound | arrive | tick => cases ha

/-! ### Events -/

/-- What a pump that is done will have done. -/
theorem outlook_of_done (h : s.Driven) (hpc : s.pump.pc = .done) : s.outlook = s.conduct := by
  have hfin : s.conduct.finalized = true := h.sound.closed.mpr hpc
  have hcmds : s.shared.cmds = [] := by
    refine h.sound.drained ?_
    rw [hpc]
    rfl
  have hafter : s.after = s.conduct := by
    unfold State.after
    rw [hpc]
    rfl
  unfold State.outlook
  rw [hafter, hcmds]
  show (s.inbound.foldl Conduct.inbound s.conduct).endIf s.expired = s.conduct
  rw [Conduct.foldl_inbound_of_finalized hfin, Conduct.endIf_of_finalized hfin]

/-- A pump that waits has done what it will have done. -/
theorem outlook_of_waiting (h : s.Driven) (hw : s.Waiting) : s.outlook = s.conduct := by
  rcases hw with hdone | ⟨⟨arm, hpc⟩, hcmds, hin, he⟩
  · exact outlook_of_done h hdone
  · unfold State.outlook State.after
    rw [hpc, hcmds, hin, he]
    rfl

/-- The pump as it starts has done nothing. -/
theorem driven_start {closeTimeout : Duration} {limit now largest : Nat}
    (hreaches : now + closeTimeout.asNanos ≤ largest) (hlimit : limit < wordSize - 1) :
    (State.start closeTimeout limit now largest hreaches).Driven ∧
      (State.start closeTimeout limit now largest hreaches).outlook = Conduct.start limit := by
  refine ⟨⟨⟨rfl, rfl, rfl, rfl, rfl, hlimit, Nat.zero_le limit, nofun, rfl, nofun, ⟨nofun, nofun⟩,
    fun _ => rfl, fun _ _ => rfl, nofun, nofun⟩, nofun⟩, rfl⟩

/-- Something reaches a pump whose select is pending. -/
theorem driven_arrives (h : s.Driven) {arm : Arm} (hpc : s.pump.pc = .select arm)
    (he : s.expired = false) (cmds : List Cmd) (inbound : List Inbound) {a : Conduct}
    (hgear : s'.gear = { s.gear with cmds := cmds, inbound := inbound })
    (hpc' : s'.pump.pc = s.pump.pc) (he' : s'.expired = s.expired)
    (hwait : inbound ≠ [] → cmds = [])
    (ha : inbound.foldl Conduct.inbound (cmds.foldl Cmd.conduct s'.conduct) = a) :
    s'.Driven ∧ s'.outlook = a := by
  have hloop : s.Looping := h.looping (by rw [hpc]; rfl)
  have hloop' : s'.Looping := by
    show s'.gear.Sound (.select .cmd)
    rw [hgear]
    exact Gear.Sound.stays hloop rfl hloop.armed rfl hloop.used hwait
  refine ⟨⟨?_, fun hexp => ?_⟩, ?_⟩
  · rw [hpc', hpc]
    exact Gear.Sound.goes hloop' rfl rfl nofun nofun
  · cases (he'.trans he).symm.trans hexp
  · unfold State.outlook State.after
    rw [hpc', hpc, show s'.shared.cmds = cmds from congrArg Gear.cmds hgear,
      show s'.inbound = inbound from congrArg Gear.inbound hgear, he', he]
    exact ha

/-- A pump that is done takes no notice of anything. -/
theorem driven_of_done (h : s.Driven) (hpc : s.pump.pc = .done) (inbound : List Inbound)
    {a : Conduct} (hgear : s'.gear = { s.gear with inbound := inbound })
    (hpc' : s'.pump.pc = s.pump.pc) (ha : s'.conduct = a) : s'.Driven ∧ s'.outlook = a := by
  have hsound := h.sound
  rw [hpc] at hsound
  have hdriven : s'.Driven := by
    refine ⟨?_, fun _ hin => ?_⟩
    · rw [hgear, hpc', hpc]
      exact ⟨hsound.localClosed, hsound.sendersGone, hsound.writeDead, hsound.cmdsDone,
        hsound.armed, hsound.limit, hsound.used, nofun, hsound.channelClosed, hsound.drained,
        hsound.closed, nofun, nofun, nofun, nofun⟩
    · rw [hpc', hpc] at hin
      cases hin
  exact ⟨hdriven, (outlook_of_done hdriven (hpc'.trans hpc)).trans ha⟩

/-- At the armed deadline it has passed; without one nothing has. -/
theorem expired_fed (h : s.Driven) : (s.fed .deadline).expired = s.pump.wireClosing := by
  have harmed : s.pump.deadline.isSome = s.pump.wireClosing := h.sound.armed
  show s.pump.deadline.any (· ≤ max s.now (s.pump.deadline.getD s.now)) = _
  rw [← harmed]
  cases s.pump.deadline with
  | none => rfl
  | some deadline => exact decide_eq_true (le_max_right s.now deadline)

/-- What an event does to the outlook of a pump that waits. -/
theorem driven_fed (h : s.Driven) (hw : s.Waiting) (e : Event) :
    (s.fed e).Driven ∧ (s.fed e).outlook = s.outlook.apply e := by
  rw [outlook_of_waiting h hw]
  have hlocal : s.shared.localClosed = false := h.sound.localClosed
  have hsend (message : Message) : s.fed (.send message) =
      State.enqueue { s with calls := { s.calls with
        nextId := s.calls.nextId + 1
        checked := s.calls.checked ++ [(s.calls.nextId, message)] } } s.calls.nextId message := by
    show (s.callSend message).enqueue s.calls.nextId message = _
    unfold State.callSend
    dsimp only
    rw [hlocal, if_neg Bool.false_ne_true]
  rcases hw with hdone | ⟨⟨arm, hpc⟩, hcmds, hin, he⟩
  · have hfin : s.conduct.finalized = true := h.sound.closed.mpr hdone
    have hclosed : s.shared.cmdsClosed = true := by
      refine h.sound.channelClosed.trans ?_
      rw [hdone]
      rfl
    cases e with
    | send message =>
      rw [hsend]
      unfold State.enqueue
      dsimp only
      rw [if_pos hclosed]
      refine driven_of_done h hdone s.inbound rfl rfl (Eq.symm ?_)
      exact Conduct.send_of_finalized (a := { s.conduct with nextId := s.calls.nextId + 1 }) hfin
        s.calls.nextId message
    | close code reason =>
      unfold State.fed State.enqueueClose
      dsimp only
      rw [if_pos hclosed]
      refine driven_of_done h hdone s.inbound rfl rfl (Eq.symm ?_)
      exact Conduct.close_of_finalized hfin code reason
    | inbound outcome =>
      refine driven_of_done h hdone (s.inbound ++ [outcome]) rfl rfl (Eq.symm ?_)
      exact Conduct.inbound_of_finalized hfin outcome
    | endOfStream =>
      refine driven_of_done h hdone (s.inbound ++ [.connectionClosed]) rfl rfl (Eq.symm ?_)
      exact Conduct.finalize_of_finalized hfin
    | deadline =>
      refine driven_of_done h hdone s.inbound rfl rfl (Eq.symm ?_)
      unfold Conduct.apply
      dsimp only
      rw [Conduct.finalize_of_finalized hfin, ite_self]
      rfl
  · have hlive : s.conduct.finalized = false := (h.looping (by rw [hpc]; rfl)).closed
    have hopen : s.shared.cmdsClosed = false := by
      refine h.sound.channelClosed.trans ?_
      rw [hpc]
      rfl
    cases e with
    | send message =>
      rw [hsend]
      unfold State.enqueue
      dsimp only
      rw [if_neg (Bool.eq_false_iff.mp hopen), hcmds]
      refine driven_arrives h hpc he [.send s.calls.nextId message] [] ?_ rfl rfl nofun rfl
      rw [← hin]
      rfl
    | close code reason =>
      unfold State.fed State.enqueueClose
      dsimp only
      rw [if_neg (Bool.eq_false_iff.mp hopen), hcmds]
      refine driven_arrives h hpc he [.close code reason] [] ?_ rfl rfl nofun rfl
      rw [← hin]
      rfl
    | inbound outcome =>
      unfold State.fed
      dsimp only
      rw [hin]
      refine driven_arrives h hpc he [] [outcome] ?_ rfl rfl (fun _ => rfl) rfl
      rw [← hcmds]
      rfl
    | endOfStream =>
      unfold State.fed
      dsimp only
      rw [hin]
      refine driven_arrives h hpc he [] [.connectionClosed] ?_ rfl rfl (fun _ => rfl) ?_
      · rw [← hcmds]
        rfl
      · exact Conduct.inbound_of_live hlive .connectionClosed
    | deadline =>
      refine ⟨⟨h.sound, fun _ _ => ⟨hcmds, hin⟩⟩, ?_⟩
      show (s.inbound.foldl Conduct.inbound (s.shared.cmds.foldl Cmd.conduct s.after)).endIf
        (s.fed .deadline).expired = _
      unfold State.after
      rw [hpc, hcmds, hin, expired_fed h]
      rfl

/-- The outlook of the pump follows the events. -/
theorem tracks : drive.Tracks State.Driven State.outlook Conduct.apply where
  settle _ _ h hs := driven_settle h hs
  feed _ e h hw := driven_fed h hw e

end Polymorph.Host
