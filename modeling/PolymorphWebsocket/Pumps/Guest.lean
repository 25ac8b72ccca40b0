import PolymorphWebsocket.Pumps.Conduct
import PolymorphWebsocket.Provider.Frames
import PolymorphWebsocket.Transition.Drive

/-!
# The guest provider's pump, fed one event at a time

The pump of the guest provider as a `Drive`: its own steps are those of its two tasks and of writes
that succeed, and it waits when the reader task is parked (or has finished) and the command task has
no command.  Its outlook is what it has done, the answer its command task is about to give, the
commands in the channel, the frames the reader task has not read and the end it is heading for.
-/

namespace Polymorph.Provider

open Futures Transition

variable {T : Tungstenite} {isOpen : T.Ctx → Prop} {s s' : State T}

/-- What the pump relies on in tungstenite: an open core sends without an error, and it stays open
until the closing handshake begins or the connection ends. -/
structure Tungstenite.StaysOpen (T : Tungstenite) (isOpen : T.Ctx → Prop) : Prop where
  send : ∀ c m, isOpen c → ∃ frame c', T.send c m = (.ok frame, c') ∧ isOpen c'
  read : ∀ c r, isOpen c → (∀ frame, r ≠ some (.close frame)) → r ≠ some .connectionClosed →
    r ≠ some .error → isOpen (T.read c r)

/-! ### The drive -/

/-- The steps the pump takes by itself, with writes that succeed. -/
def Action.settles : Action → Bool
  | .reader | .cmd | .lock _ | .accept _ | .writeDone _ => true
  | _ => false

/-- The pump waits: the reader is parked before the deadline or has finished, and the command task
waits for a command. -/
def State.Waiting (s : State T) : Prop :=
  (s.reader = .parked ∧ s.expired = false ∨ s.reader = .finished) ∧
    (s.cmd = .live ∧ s.flags.pumpDone = false ∨ s.cmd = .drained) ∧ s.shared.cmds = []

/-- An event reaches the pump: a command enters the channel, the transport hands over what it
decodes to, or the clock gets to the armed deadline. -/
def State.fed (s : State T) : Event → State T
  | .send message => s.callSend message
  | .close code reason => s.pushCmd (.close code reason)
  | .inbound outcome => (step s (.chunk [outcome])).getD s
  | .endOfStream => (step s .transportEnd).getD s
  | .deadline => { s with now := max s.now (s.flags.deadline.getD s.now) }

/-- The pump as a drive.  The clock stands still while the pump settles: no step of its own makes
the deadline pass. -/
def drive (T : Tungstenite) : Drive (State T) Event where
  feed := State.fed
  settle s s' := ∃ a, a.settles = true ∧ step s a = some s' ∧ s'.expired = s.expired
  waiting := State.Waiting

/-! ### Conduct and outlook -/

/-- What the pump has done. -/
def State.conduct (s : State T) : Conduct where
  limit := s.shared.budget.limit
  queue := s.shared.queue.items
  used := s.shared.budget.used
  overflowed := s.shared.budget.overflowed
  frames := s.hist.frames.map fun sent => (sent.id, sent.message)
  closeFrames := s.hist.closeFrames
  replies := s.hist.replies
  nextId := s.nextId
  wireClosing := s.flags.wireClosing
  peerFrame := s.peerFrame
  finalized := s.shared.closed
  closeInfo := s.shared.closeInfo

/-- What a command does. -/
def Cmd.conduct (a : Conduct) : Cmd → Conduct
  | .send id message => a.send id message
  | .close code reason => a.close code reason
  | .claimStream => a

/-- The answer the command task gives once its flush is over. -/
def CmdPc.answers (cmd : CmdPc) (a : Conduct) : Conduct :=
  match cmd with
  | .flushing _ (.reply id) => a.reply id (.ok ())
  | _ => a

/-- The reader is about to finalize. -/
def ReaderPc.ending : ReaderPc → Bool
  | .finalize | .flushing _ .finalize | .lastDrain => true
  | .drain | .flushing _ .drain | .parked | .finished => false

/-- What the pump will have done once it waits. -/
def State.outlook (s : State T) : Conduct :=
  (s.io.inbound.foldl Conduct.inbound
    (s.shared.cmds.foldl Cmd.conduct (s.cmd.answers s.conduct))).endIf
      (s.reader.ending || s.expired)

/-! ### The invariant -/

/-- What the pump's tasks and their suspension points are about. -/
structure Gear (T : Tungstenite) where
  reader : ReaderPc
  cmd : CmdPc
  cmds : List Cmd
  ws : T.Ctx
  inbound : List Inbound
  eof : Bool
  writeLock : Option Task
  flags : PumpFlags
  closed : Bool
  senderLive : Bool
  localClosed : Bool
  dropped : Bool

/-- The gear of a connection. -/
def State.gear (s : State T) : Gear T where
  reader := s.reader
  cmd := s.cmd
  cmds := s.shared.cmds
  ws := s.ws
  inbound := s.io.inbound
  eof := s.io.eof
  writeLock := s.writeLock
  flags := s.flags
  closed := s.shared.closed
  senderLive := s.shared.queue.senderLive
  localClosed := s.shared.localClosed
  dropped := s.dropped

/-- The reader is between two reads of the drain loop, or waits for more. -/
def ReaderPc.reading : ReaderPc → Bool
  | .drain | .flushing _ .drain | .parked => true
  | .finalize | .flushing _ .finalize | .lastDrain | .finished => false

/-- The task is inside a write. -/
def Gear.writes (g : Gear T) : Task → Bool
  | .reader =>
    match g.reader with
    | .flushing (.write _ _) _ => true
    | _ => false
  | .cmd =>
    match g.cmd with
    | .flushing (.write _ _) _ => true
    | _ => false

/-- The reader is outside of its select and has not finished. -/
def ReaderPc.busy : ReaderPc → Bool
  | .drain | .flushing _ _ | .lastDrain | .finalize => true
  | .parked | .finished => false

namespace Gear

/-- The invariant: one of the two tasks is at work. -/
structure Sound (isOpen : T.Ctx → Prop) (g : Gear T) : Prop where
  localClosed : g.localClosed = false
  dropped : g.dropped = false
  writeDead : g.flags.writeDead = false
  armed : g.flags.deadline.isSome = g.flags.wireClosing
  deadlineArmed : g.flags.deadlineArmed = g.flags.wireClosing
  pumpDone : g.flags.pumpDone = g.closed
  finished : g.closed = true ↔ g.reader = .finished
  senderLive : g.senderLive = !g.closed
  isOpen : g.flags.wireClosing = false → g.reader.reading = true → isOpen g.ws
  inbound : g.inbound = [] ∨ g.reader = .drain ∧ ∃ outcome, g.inbound = [outcome]
  eof : g.eof = true → g.reader.reading = false
  busy : g.reader.busy = true → g.cmd = .live ∧ g.cmds = []
  cmd : g.cmd = .live ∨ (∃ f next, g.cmd = .flushing f next ∧ next ≠ .exit ∧ g.reader = .parked) ∨
    g.cmd = .drained ∧ g.closed = true
  lock : ∀ t, g.writeLock = some t ↔ g.writes t = true

end Gear

/-- The invariant of a pump that is fed one event at a time. -/
structure State.Driven (isOpen : T.Ctx → Prop) (s : State T) : Prop where
  sound : s.gear.Sound isOpen
  /-- Past the deadline the command task has nothing to do. -/
  expired : s.expired = true → s.reader = .parked → s.cmd = .live ∧ s.shared.cmds = []

/-! ### The pieces of the tasks -/

theorem conduct_closing (s : State T) (frame : Option CloseFrame) : (s.closing frame).conduct =
    { s.conduct with wireClosing := true, closeFrames := s.conduct.closeFrames ++ [frame] } := by
  show { (s.closing frame).conduct with wireClosing := (s.closing frame).flags.wireClosing } = _
  rw [show (s.closing frame).flags.wireClosing = true from
    PumpFlags.armDeadline_wireClosing { s.flags with wireClosing := true } _ _]
  rfl

/-- `begin_close`. -/
theorem conduct_beginClose (s : State T) (frame : Option CloseFrame) :
    (s.beginClose frame).2.conduct = s.conduct.beginClose frame := by
  unfold Conduct.beginClose
  rcases beginClose_cases s frame with ⟨hw, h⟩ | ⟨hw, bytes, ws, -, h⟩ | ⟨hw, err, ws, -, h⟩
  · rw [h, if_pos (show s.conduct.wireClosing = true from hw)]
  · rw [h, if_neg (show ¬ s.conduct.wireClosing = true from Bool.eq_false_iff.mp hw)]
    exact conduct_closing s frame
  · rw [h, if_neg (show ¬ s.conduct.wireClosing = true from Bool.eq_false_iff.mp hw)]
    exact conduct_closing s frame

/-- The deadline is armed before or after `wire_closing` is set. -/
theorem armDeadline_wire (flags : PumpFlags) (now ns : Nat) :
    { flags.armDeadline now ns with wireClosing := true } =
      PumpFlags.armDeadline { flags with wireClosing := true } now ns := by
  unfold PumpFlags.armDeadline
  split <;> rfl

/-- The closing handshake begins: the deadline is armed, and the core need not stay open. -/
theorem Gear.Sound.closing {g : Gear T} (h : g.Sound isOpen) (now ns : Nat) (ws : T.Ctx) :
    Gear.Sound isOpen { g with
      flags := { g.flags with wireClosing := true }.armDeadline now ns
      ws := ws } := by
  have hdone : (PumpFlags.armDeadline { g.flags with wireClosing := true } now ns).deadlineArmed =
      true := by
    unfold PumpFlags.armDeadline
    split
    · rfl
    · next hsome =>
      have harmed := h.armed
      rw [show g.flags.deadline.isSome = true by
        cases hd : g.flags.deadline with
        | none => exact absurd (by rw [hd]; rfl) hsome
        | some => rfl] at harmed
      exact h.deadlineArmed.trans harmed.symm
  have hwire : (PumpFlags.armDeadline { g.flags with wireClosing := true } now ns).wireClosing =
      true := PumpFlags.armDeadline_wireClosing _ _ _
  refine { h with
    writeDead := ?_
    armed := ?_
    deadlineArmed := hdone.trans hwire.symm
    pumpDone := ?_
    isOpen := ?_ }
  · exact (PumpFlags.armDeadline_writeDead _ _ _).trans h.writeDead
  · rw [hwire]
    have hnone := PumpFlags.armDeadline_isNone { g.flags with wireClosing := true } now ns
    cases hd : (PumpFlags.armDeadline { g.flags with wireClosing := true } now ns).deadline with
    | none => rw [hd] at hnone; cases hnone
    | some => rfl
  · exact (PumpFlags.armDeadline_pumpDone _ _ _).trans h.pumpDone
  · exact fun hopen => absurd (hwire.symm.trans hopen) (by decide)

/-- `begin_close` keeps the invariant. -/
theorem sound_beginClose (h : s.gear.Sound isOpen) (frame : Option CloseFrame) :
    (s.beginClose frame).2.gear.Sound isOpen := by
  rcases beginClose_cases s frame with ⟨-, hb⟩ | ⟨-, bytes, ws, -, hb⟩ | ⟨-, err, ws, -, hb⟩
  · rw [hb]
    exact h
  · rw [hb]
    exact h.closing s.now s.closeTimeoutNs ws
  · rw [hb]
    exact h.closing s.now s.closeTimeoutNs ws

/-- Delivering a message changes neither the flags nor the tasks. -/
theorem gear_deliver (s : State T) (message : Message) : (s.deliver message).gear = s.gear := by
  rcases deliver_cases s message with ⟨-, h⟩ | ⟨-, _, -, h⟩ | ⟨-, _, -, h⟩
  · rw [h]
    rfl
  · rw [h]
    rfl
  · rw [h]
    rfl

/-- A reservation under the budget, as the conduct has it. -/
theorem reserve_cases (b : Budget) (len : Nat) :
    (b.overflowed = false ∧ b.used + len ≤ b.limit ∧ ∃ b', b.reserve len = (true, b') ∧
      b'.limit = b.limit ∧ b'.used = b.used + len ∧ b'.overflowed = false) ∨
    (¬ (b.overflowed = false ∧ b.used + len ≤ b.limit) ∧ ∃ b', b.reserve len = (false, b') ∧
      b'.limit = b.limit ∧ b'.used = b.used ∧ b'.overflowed = true) := by
  unfold Budget.reserve
  split
  · next ho =>
    refine .inr ⟨fun h => ?_, b, rfl, rfl, rfl, ho⟩
    rw [ho] at h
    cases h.1
  · next ho =>
    split
    · next hfull =>
      exact .inr ⟨fun h => absurd h.2 (Nat.not_le_of_gt hfull), _, rfl, rfl, rfl, rfl⟩
    · next hfits =>
      have hlive : b.overflowed = false := Bool.eq_false_iff.mpr ho
      exact .inl ⟨hlive, Nat.le_of_not_gt hfits, _, rfl, rfl, rfl, hlive⟩

/-- A message that is discarded or queued starts no close. -/
theorem readData_of_fits {message : Message}
    (h : (s.deliver message).shared.budget.overflowed = false ∨ s.flags.wireClosing = true) :
    s.readData message = (s.deliver message).readerGoes false .drain := by
  unfold State.readData
  refine if_neg fun hcond => ?_
  rw [deliver_flags] at hcond
  rcases h with h | h
  · rw [h] at hcond
    cases hcond
  · rw [h, Bool.not_true, Bool.and_false] at hcond
    cases hcond

/-- A message that overflows the budget starts a close. -/
theorem readData_of_overflow {message : Message}
    (ho : (s.deliver message).shared.budget.overflowed = true) (hw : s.flags.wireClosing = false) :
    s.readData message = ((s.deliver message).beginClose none).2.readerGoes
      ((s.deliver message).beginClose none).1 .drain := by
  unfold State.readData
  refine if_pos ?_
  rw [deliver_flags, ho, hw]
  rfl

/-- A data message in the drain loop. -/
theorem conduct_readData (hlive : s.shared.queue.senderLive = true) (message : Message) :
    (s.readData message).conduct = s.conduct.deliver message := by
  unfold Conduct.deliver
  rcases deliver_cases s message with ⟨hw, h⟩ | ⟨hw, b, hb, h⟩ | ⟨hw, b, hb, h⟩
  · rw [if_pos (show s.conduct.wireClosing = true from hw), readData_of_fits (.inr hw), h]
    rfl
  · rw [if_neg (show ¬ s.conduct.wireClosing = true from Bool.eq_false_iff.mp hw)]
    rcases reserve_cases s.shared.budget message.payloadLen with
      ⟨ho, hfits, b', hb', hlimit, hused, ho'⟩ | ⟨-, b', hb', -⟩
    · obtain rfl : b = b' := (Prod.ext_iff.mp (hb.symm.trans hb')).2
      have hover : (s.deliver message).shared.budget.overflowed = false := by rw [h, ← ho']
      rw [readData_of_fits (.inl hover), h]
      refine Eq.trans ?_ (if_pos ⟨ho, hfits⟩).symm
      show { s.conduct with
        limit := b.limit
        queue := (s.shared.queue.push message).items
        used := b.used
        overflowed := b.overflowed } = (s.conduct.count message).push message
      rw [hlimit, hused, ho', Receiver.push_items_of_live hlive, ← ho]
      rfl
    · rw [hb] at hb'
      cases hb'
  · rw [if_neg (show ¬ s.conduct.wireClosing = true from Bool.eq_false_iff.mp hw)]
    rcases reserve_cases s.shared.budget message.payloadLen with
      ⟨-, -, b', hb', -⟩ | ⟨hnot, b', hb', hlimit, hused, ho'⟩
    · rw [hb] at hb'
      cases hb'
    · obtain rfl : b = b' := (Prod.ext_iff.mp (hb.symm.trans hb')).2
      have hover : (s.deliver message).shared.budget.overflowed = true := by
        rw [h, ← ho']
        rfl
      have hlatched : (s.deliver message).conduct = s.conduct.latchOverflow := by
        rw [h]
        show { s.conduct with
          limit := b.limit
          used := b.used
          overflowed := b.overflowed } = s.conduct.latchOverflow
        rw [hlimit, hused, ho']
        rfl
      rw [readData_of_overflow hover hw]
      refine Eq.trans ?_ (if_neg hnot).symm
      rw [← hlatched]
      exact conduct_beginClose _ none

/-! ### The reader task -/

/-- What a `read()` of the drain loop does to the conduct, the end it may lead to included. -/
theorem conduct_drainRead (hlive : s.shared.queue.senderLive = true) (i : Inbound) :
    (s.drainRead (some i)).conduct.endIf (s.drainRead (some i)).reader.ending =
      s.conduct.read i := by
  have hgoes (c : State T) (flush : Bool) (next : ReaderNext) :
      (c.readerGoes flush next).reader.ending = (next == .finalize) := by
    cases flush <;> cases next <;> rfl
  have hdata (message : Message) : (s.readData message).reader.ending = false := by
    unfold State.readData
    dsimp only
    split
    · exact hgoes _ _ .drain
    · exact hgoes _ false .drain
  cases i with
  | binary bytes =>
    show (s.readData (.binary bytes)).conduct.endIf (s.readData (.binary bytes)).reader.ending = _
    rw [hdata]
    exact conduct_readData hlive (.binary bytes)
  | text text =>
    show (s.readData (.string text)).conduct.endIf (s.readData (.string text)).reader.ending = _
    rw [hdata]
    exact conduct_readData hlive (.string text)
  | close frame => rfl
  | ping | pong | frame => rfl
  | capacity =>
    have hending : (s.drainRead (some .capacity)).reader.ending = true := hgoes _ _ .finalize
    rw [hending]
    exact congrArg Conduct.finalize (conduct_beginClose _ none)
  | connectionClosed | error => rfl

/-- The reader has not finished. -/
theorem Gear.Sound.open_of_ne {g : Gear T} (h : g.Sound isOpen) (hr : g.reader ≠ .finished) :
    g.closed = false := by
  by_contra hc
  exact hr (h.finished.mp (Bool.not_eq_false _ ▸ hc))

/-- The reader, the command task idle, goes on at another point, with the write lock as that point
has it. -/
theorem Gear.Sound.moves {g : Gear T} (h : g.Sound isOpen) (reader : ReaderPc)
    (writeLock : Option Task) (hidle : g.cmd = .live ∧ g.cmds = []) (hr : g.reader ≠ .finished)
    (hinbound : g.inbound = []) (hreading : reader.reading = true → g.reader.reading = true)
    (hfinished : reader ≠ .finished)
    (hlock : ∀ t, writeLock = some t ↔ Gear.writes { g with reader := reader } t = true) :
    Gear.Sound isOpen { g with reader := reader, writeLock := writeLock } := by
  refine ⟨h.localClosed, h.dropped, h.writeDead, h.armed, h.deadlineArmed, h.pumpDone, ?_,
    h.senderLive, fun hopen hr => h.isOpen hopen (hreading hr), .inl hinbound, fun heof => ?_,
    fun _ => hidle, .inl hidle.1, fun t => (hlock t).trans ?_⟩
  · rw [h.open_of_ne hr]
    exact ⟨nofun, fun hf => absurd hf hfinished⟩
  · by_contra hr
    exact absurd ((h.eof heof).symm.trans (hreading (Bool.not_eq_false _ ▸ hr))) (by decide)
  · cases t <;> rfl

/-- The reader goes on outside of a write. -/
theorem Gear.Sound.goes {g : Gear T} (h : g.Sound isOpen) (reader : ReaderPc)
    (hidle : g.cmd = .live ∧ g.cmds = []) (hr : g.reader ≠ .finished)
    (hwrites : g.writes .reader = false) (hinbound : g.inbound = [])
    (hreading : reader.reading = true → g.reader.reading = true) (hfinished : reader ≠ .finished)
    (hto : Gear.writes { g with reader := reader } .reader = false) :
    Gear.Sound isOpen { g with reader := reader } := by
  refine h.moves reader g.writeLock hidle hr hinbound hreading hfinished fun t => ?_
  rw [h.lock t]
  cases t with
  | reader => rw [hwrites, hto]
  | cmd => rfl

/-- The reader has taken what was decoded, and the core has moved on. -/
theorem Gear.Sound.readOpen {g : Gear T} (h : g.Sound isOpen) (ws : T.Ctx)
    (hws : g.flags.wireClosing = false → g.reader.reading = true → isOpen ws) :
    Gear.Sound isOpen { g with ws := ws, inbound := [] } :=
  { h with isOpen := hws, inbound := .inl rfl }

/-- A call on the `WebSocket` moves no task. -/
theorem beginClose_tasks (s : State T) (frame : Option CloseFrame) :
    (s.beginClose frame).2.reader = s.reader ∧ (s.beginClose frame).2.cmd = s.cmd ∧
      (s.beginClose frame).2.shared.cmds = s.shared.cmds ∧
      (s.beginClose frame).2.io.inbound = s.io.inbound := by
  rcases beginClose_cases s frame with ⟨-, h⟩ | ⟨-, bytes, ws, -, h⟩ | ⟨-, err, ws, -, h⟩
  · rw [h]
    exact ⟨rfl, rfl, rfl, rfl⟩
  · rw [h]
    exact ⟨rfl, rfl, rfl, rfl⟩
  · rw [h]
    exact ⟨rfl, rfl, rfl, rfl⟩

/-- The reader goes on from the drain loop, over a flush or not. -/
theorem sound_readerGoes (h : s.gear.Sound isOpen) (hdrain : s.reader = .drain)
    (hinbound : s.io.inbound = []) (flush : Bool) (next : ReaderNext) :
    (s.readerGoes flush next).gear.Sound isOpen := by
  have hr : s.gear.reader = .drain := hdrain
  refine h.goes (if flush then .flushing .lock next else next.pc) (h.busy ?_) ?_ ?_ hinbound ?_ ?_ ?_
  · rw [hr]
    rfl
  · rw [hr]
    decide
  · unfold Gear.writes
    rw [hr]
  · intro _
    rw [hr]
    rfl
  · cases flush <;> cases next <;> nofun
  · cases flush <;> cases next <;> rfl

theorem sound_readData (h : s.gear.Sound isOpen) (hdrain : s.reader = .drain)
    (hinbound : s.io.inbound = []) (message : Message) :
    (s.readData message).gear.Sound isOpen := by
  have hdeliver : (s.deliver message).gear.Sound isOpen := (gear_deliver s message).symm ▸ h
  have hr : (s.deliver message).reader = .drain := (deliver_reader s message).trans hdrain
  have hin : (s.deliver message).io.inbound = [] :=
    (congrArg Gear.inbound (gear_deliver s message)).trans hinbound
  unfold State.readData
  dsimp only
  split
  · obtain ⟨hr', -, -, hin'⟩ := beginClose_tasks (s.deliver message) none
    exact sound_readerGoes (sound_beginClose hdeliver none) (hr'.trans hr) (hin'.trans hin) _ .drain
  · exact sound_readerGoes hdeliver hr hin false .drain

/-- The match on a `read()` of the drain loop, from the gear before the `read()`. -/
theorem sound_drainRead {g : Gear T} (hT : T.StaysOpen isOpen) (h : g.Sound isOpen)
    (hdrain : g.reader = .drain) (i : Inbound)
    (hs : s.gear = { g with ws := T.read g.ws (some i), inbound := [] }) :
    (s.drainRead (some i)).gear.Sound isOpen := by
  have hr : s.reader = .drain := (congrArg Gear.reader hs).trans hdrain
  have hin : s.io.inbound = [] := congrArg Gear.inbound hs
  have hreading : g.reader.reading = true := by rw [hdrain]; rfl
  have hread (hi : ∀ frame, some i ≠ some (.close frame)) (hi' : some i ≠ some .connectionClosed)
      (hi'' : some i ≠ some .error) : s.gear.Sound isOpen := by
    rw [hs]
    exact h.readOpen _ fun hopen _ => hT.read _ _ (h.isOpen hopen hreading) hi hi' hi''
  have hend : Gear.Sound isOpen { s.gear with reader := .finalize } := by
    have hfinalize := (h.readOpen g.ws h.isOpen).goes .finalize
      (h.busy (by rw [hdrain]; rfl)) (by rw [hdrain]; decide)
      (by unfold Gear.writes; rw [hdrain]) rfl nofun nofun rfl
    rw [hs]
    exact hfinalize.readOpen _ nofun
  cases i with
  | binary bytes => exact sound_readData (hread nofun nofun nofun) hr hin _
  | text text => exact sound_readData (hread nofun nofun nofun) hr hin _
  | close frame =>
    have hclosing := h.closing s.now s.closeTimeoutNs (T.read g.ws (some (.close frame)))
    have hflags : { s.flags.armDeadline s.now s.closeTimeoutNs with wireClosing := true } =
        PumpFlags.armDeadline { g.flags with wireClosing := true } s.now s.closeTimeoutNs := by
      rw [show s.flags = g.flags from congrArg Gear.flags hs]
      exact armDeadline_wire g.flags s.now s.closeTimeoutNs
    have hgear : { s.gear with
        flags := { s.flags.armDeadline s.now s.closeTimeoutNs with wireClosing := true } } =
        Gear.mk g.reader g.cmd g.cmds (T.read g.ws (some (.close frame))) [] g.eof g.writeLock
          (PumpFlags.armDeadline { g.flags with wireClosing := true } s.now s.closeTimeoutNs)
          g.closed g.senderLive g.localClosed g.dropped := by
      rw [hflags, hs]
    have hnoted : Gear.Sound isOpen { s.gear with
        flags := { s.flags.armDeadline s.now s.closeTimeoutNs with wireClosing := true } } := by
      rw [hgear]
      exact hclosing.readOpen _ hclosing.isOpen
    exact sound_readerGoes (s := { (((s.notePeerFrame frame).advance .closing).armDeadline) with
      flags := { s.flags.armDeadline s.now s.closeTimeoutNs with wireClosing := true } }.noteCut
        s.hist.data.length) hnoted hr hin true .drain
  | ping | pong => exact sound_readerGoes (hread nofun nofun nofun) hr hin true .drain
  | frame => exact sound_readerGoes (hread nofun nofun nofun) hr hin false .drain
  | capacity =>
    have hlatched : (s.latchOverflow.noteCut s.hist.data.length).gear.Sound isOpen :=
      hread nofun nofun nofun
    obtain ⟨hr', -, -, hin'⟩ := beginClose_tasks (s.latchOverflow.noteCut s.hist.data.length) none
    exact sound_readerGoes (sound_beginClose hlatched none) (hr'.trans hr) (hin'.trans hin) _
      .finalize
  | connectionClosed | error => exact hend

/-- What has not been read stays where it is. -/
theorem drainRead_inbound (s : State T) (read : Option Inbound) :
    (s.drainRead read).io.inbound = s.io.inbound := by
  have hdata (message : Message) : (s.readData message).io.inbound = s.io.inbound := by
    have hdeliver : (s.deliver message).io.inbound = s.io.inbound :=
      congrArg Gear.inbound (gear_deliver s message)
    unfold State.readData
    dsimp only
    split
    · exact (beginClose_tasks _ none).2.2.2.trans hdeliver
    · exact hdeliver
  rcases read with - | i
  · rfl
  cases i with
  | binary bytes => exact hdata (.binary bytes)
  | text text => exact hdata (.string text)
  | capacity => exact (beginClose_tasks (s.latchOverflow.noteCut s.hist.data.length) none).2.2.2
  | close | ping | pong | frame | connectionClosed | error => rfl

/-- The gear after a `read()`. -/
theorem gear_webSocketRead {r : Option Inbound} {io : Buffers Inbound}
    (hnext : s.io.nextOutcome = (r, io)) : s.webSocketRead.1 = r ∧ s.webSocketRead.2.gear =
      { s.gear with ws := T.read s.ws r, inbound := io.inbound, eof := io.eof } := by
  refine ⟨congrArg Prod.fst hnext, ?_⟩
  show { s.gear with
    ws := T.read s.ws s.io.nextOutcome.1
    inbound := s.io.nextOutcome.2.inbound
    eof := s.io.nextOutcome.2.eof } = _
  rw [hnext]

/-- The outlook while the command task has nothing to do. -/
theorem outlook_of_live (hcmd : s.cmd = .live) (hcmds : s.shared.cmds = []) :
    s.outlook = (s.io.inbound.foldl Conduct.inbound s.conduct).endIf
      (s.reader.ending || s.expired) := by
  unfold State.outlook
  rw [hcmd, hcmds]
  rfl

/-- One iteration of the drain loop parks the reader, or reads the one outcome there is. -/
theorem readerDrain_cases (h : s.gear.Sound isOpen) (hdrain : s.reader = .drain) :
    (s.io.inbound = [] ∧ s.readerDrain = { s.webSocketRead.2 with reader := .parked } ∧
      s.webSocketRead.2.gear = { s.gear with ws := T.read s.ws none, inbound := [] }) ∨
    ∃ i, s.io.inbound = [i] ∧ s.readerDrain = s.webSocketRead.2.drainRead (some i) ∧
      s.webSocketRead.2.gear = { s.gear with ws := T.read s.ws (some i), inbound := [] } := by
  have hr : s.gear.reader = .drain := hdrain
  have heof : s.io.eof = false := by
    by_contra hne
    have hreading := h.eof (Bool.not_eq_false _ ▸ hne)
    rw [hr] at hreading
    cases hreading
  rcases h.inbound with hin | ⟨-, i, hin⟩
  · have hnext : s.io.nextOutcome = (none, s.io) := by
      unfold Buffers.nextOutcome
      rw [show s.io.inbound = [] from hin, heof]
      rfl
    obtain ⟨hread, hgear⟩ := gear_webSocketRead hnext
    refine .inl ⟨hin, ?_, ?_⟩
    · unfold State.readerDrain
      rw [hread]
      rfl
    · rw [hgear, show s.io.inbound = [] from hin]
      rfl
  · have hnext : s.io.nextOutcome = (some i, { s.io with inbound := [] }) := by
      unfold Buffers.nextOutcome
      rw [show s.io.inbound = [i] from hin]
    obtain ⟨hread, hgear⟩ := gear_webSocketRead hnext
    refine .inr ⟨i, hin, ?_, hgear⟩
    unfold State.readerDrain
    rw [hread]

/-- One iteration of the drain loop. -/
theorem driven_drain (hT : T.StaysOpen isOpen) (h : s.gear.Sound isOpen) (hdrain : s.reader = .drain)
    (he : s.readerDrain.expired = s.expired) :
    s.readerDrain.gear.Sound isOpen ∧ s.readerDrain.outlook = s.outlook := by
  have hr : s.gear.reader = .drain := hdrain
  obtain ⟨hcmd, hcmds⟩ := h.busy (by rw [hr]; rfl)
  have hreading : s.gear.reader.reading = true := by rw [hr]; rfl
  have hclosed : s.gear.closed = false := h.open_of_ne (by rw [hr]; decide)
  have hframe : ReaderFrame s s.readerDrain :=
    (ReaderFrame.read s).trans (ReaderFrame.drainRead _ _)
  have hcmd' : s.readerDrain.cmd = .live := hframe.cmd.trans hcmd
  have hcmds' : s.readerDrain.shared.cmds = [] := by
    rw [show s.readerDrain.shared.cmds = s.shared.cmds by rw [hframe]]
    exact hcmds
  rw [outlook_of_live hcmd hcmds, outlook_of_live hcmd' hcmds', he, hdrain]
  rcases readerDrain_cases h hdrain with ⟨hin, hstep, hgear⟩ | ⟨i, hin, hstep, hgear⟩
  · have hopen := h.readOpen (T.read s.ws none) fun hopen _ =>
      hT.read _ _ (h.isOpen hopen hreading) nofun nofun nofun
    have hpark := hopen.goes .parked ⟨hcmd, hcmds⟩ (by rw [hr]; decide)
      (by unfold Gear.writes; rw [hr]) rfl (fun _ => hreading) nofun rfl
    have hgear' : s.readerDrain.gear = { s.gear with
        ws := T.read s.ws none, inbound := [], reader := .parked } := by
      rw [hstep]
      exact congrArg (fun g : Gear T => { g with reader := .parked }) hgear
    refine ⟨hgear' ▸ hpark, ?_⟩
    rw [show s.readerDrain.io.inbound = [] from congrArg Gear.inbound hgear',
      show s.readerDrain.reader = .parked from congrArg Gear.reader hgear', hin, hstep]
    rfl
  · rw [hstep]
    refine ⟨sound_drainRead hT h hr i hgear, ?_⟩
    have hin' : (s.webSocketRead.2.drainRead (some i)).io.inbound = [] :=
      (drainRead_inbound _ _).trans (congrArg Gear.inbound hgear)
    have hlive : s.webSocketRead.2.shared.queue.senderLive = true := by
      show s.gear.senderLive = true
      rw [h.senderLive, hclosed]
      rfl
    have hconduct : s.webSocketRead.2.conduct = s.conduct := rfl
    rw [hin', hin, Conduct.endIf_or]
    show ((s.webSocketRead.2.drainRead (some i)).conduct.endIf _).endIf s.expired =
      (s.conduct.inbound i).endIf s.expired
    rw [conduct_drainRead hlive i, hconduct,
      Conduct.inbound_of_live (show s.conduct.finalized = false from hclosed)]

/-- Only the drain loop leaves something to read. -/
theorem Gear.Sound.inbound_of_ne {g : Gear T} (h : g.Sound isOpen) (hr : g.reader ≠ .drain) :
    g.inbound = [] :=
  h.inbound.resolve_right fun hd => hr hd.1

/-- The final drain is over at once: the stream has ended, and nothing is left to read. -/
theorem readerLastDrain_eq (h : s.gear.Sound isOpen) (hlast : s.reader = .lastDrain) :
    s.readerLastDrain = { s.webSocketRead.2 with reader := .finalize } ∧
      s.readerLastDrain.gear = { s.gear with
        reader := .finalize
        ws := T.read s.ws (if s.io.eof then some .error else none)
        inbound := [] } := by
  have hin : s.io.inbound = [] := h.inbound_of_ne (by rw [show s.gear.reader = _ from hlast]; decide)
  have hnext : s.io.nextOutcome = (if s.io.eof then some .error else none, s.io) := by
    unfold Buffers.nextOutcome
    rw [hin]
  obtain ⟨hread, hgear⟩ := gear_webSocketRead hnext
  have hstep : s.readerLastDrain = { s.webSocketRead.2 with reader := .finalize } := by
    unfold State.readerLastDrain
    rw [hread]
    split <;> rfl
  refine ⟨hstep, ?_⟩
  rw [hstep]
  show { s.webSocketRead.2.gear with reader := .finalize } = _
  rw [hgear, hin]
  rfl

/-- The end of the final drain. -/
theorem driven_lastDrain (h : s.gear.Sound isOpen) (hlast : s.reader = .lastDrain)
    (he : s.readerLastDrain.expired = s.expired) :
    s.readerLastDrain.gear.Sound isOpen ∧ s.readerLastDrain.outlook = s.outlook := by
  have hr : s.gear.reader = .lastDrain := hlast
  obtain ⟨hcmd, hcmds⟩ := h.busy (by rw [hr]; rfl)
  have hin : s.io.inbound = [] := h.inbound_of_ne (by rw [hr]; decide)
  obtain ⟨hstep, hgear⟩ := readerLastDrain_eq h hlast
  have hend := h.goes .finalize ⟨hcmd, hcmds⟩ (by rw [hr]; decide)
    (by unfold Gear.writes; rw [hr]) hin nofun nofun rfl
  refine ⟨hgear ▸ hend.readOpen _ nofun, ?_⟩
  rw [outlook_of_live ((congrArg Gear.cmd hgear).trans hcmd)
    ((congrArg Gear.cmds hgear).trans hcmds), outlook_of_live hcmd hcmds, he, hlast,
    show s.readerLastDrain.io.inbound = [] from congrArg Gear.inbound hgear, hin, hstep]
  rfl

/-- Finalization. -/
theorem driven_finalize (h : s.gear.Sound isOpen) (hfinalize : s.reader = .finalize)
    (he : s.readerFinalize.expired = s.expired) :
    s.readerFinalize.gear.Sound isOpen ∧ s.readerFinalize.outlook = s.outlook := by
  have hr : s.gear.reader = .finalize := hfinalize
  obtain ⟨hcmd, hcmds⟩ := h.busy (by rw [hr]; rfl)
  have hin : s.io.inbound = [] := h.inbound_of_ne (by rw [hr]; decide)
  have hclosed : s.shared.closed = false := h.open_of_ne (by rw [hr]; decide)
  constructor
  · refine ⟨h.localClosed, h.dropped, h.writeDead, h.armed, h.deadlineArmed, rfl,
      ⟨fun _ => rfl, fun _ => rfl⟩, rfl, nofun, .inl hin, fun _ => rfl, nofun, .inl hcmd,
      fun t => (h.lock t).trans ?_⟩
    cases t with
    | reader =>
      unfold Gear.writes
      rw [hr]
      rfl
    | cmd => rfl
  · have hconduct : s.readerFinalize.conduct = s.conduct.finalize := by
      unfold Conduct.finalize
      rw [if_neg (show ¬ s.conduct.finalized = true from Bool.eq_false_iff.mp hclosed)]
      rfl
    rw [outlook_of_live hcmd hcmds, outlook_of_live (s := s.readerFinalize) hcmd hcmds, he,
      hconduct, hfinalize, show s.readerFinalize.io.inbound = [] from hin, hin]
    show s.conduct.finalize.endIf s.expired = s.conduct.finalize
    exact Conduct.endIf_of_finalized Conduct.finalized_finalize _

/-- What the reader task does without waiting for anyone. -/
theorem driven_reader (hT : T.StaysOpen isOpen) (h : s.Driven isOpen) (hs : s.readerStep = some s')
    (he : s'.expired = s.expired) : s'.Driven isOpen ∧ s'.outlook = s.outlook := by
  have hframe := ReaderFrame.step hs
  have hcmd : s'.cmd = s.cmd := hframe.cmd
  have hcmds : s'.shared.cmds = s.shared.cmds := by rw [hframe]
  have hkeeps (hidle : s.cmd = .live ∧ s.shared.cmds = [])
      (hsound : s'.gear.Sound isOpen ∧ s'.outlook = s.outlook) :
      s'.Driven isOpen ∧ s'.outlook = s.outlook :=
    ⟨⟨hsound.1, fun _ _ => ⟨hcmd.trans hidle.1, hcmds.trans hidle.2⟩⟩, hsound.2⟩
  unfold State.readerStep at hs
  split at hs
  · next hdrain =>
    obtain rfl := Option.some.inj hs
    exact hkeeps (h.sound.busy (by rw [show s.gear.reader = _ from hdrain]; rfl))
      (driven_drain hT h.sound hdrain he)
  · next hlast =>
    obtain rfl := Option.some.inj hs
    exact hkeeps (h.sound.busy (by rw [show s.gear.reader = _ from hlast]; rfl))
      (driven_lastDrain h.sound hlast he)
  · next hfinalize =>
    obtain rfl := Option.some.inj hs
    exact hkeeps (h.sound.busy (by rw [show s.gear.reader = _ from hfinalize]; rfl))
      (driven_finalize h.sound hfinalize he)
  · next hparked =>
    split at hs
    · next hexpired =>
      obtain rfl := Option.some.inj hs
      have hidle := h.expired hexpired hparked
      have hr : s.gear.reader = .parked := hparked
      have hin : s.io.inbound = [] := h.sound.inbound_of_ne (by rw [hr]; decide)
      refine hkeeps hidle ⟨?_, ?_⟩
      · exact h.sound.goes .finalize hidle (by rw [hr]; decide) (by unfold Gear.writes; rw [hr]) hin
          nofun nofun rfl
      · rw [outlook_of_live hidle.1 hidle.2,
          outlook_of_live (s := { s with reader := .finalize }) hidle.1 hidle.2, he, hexpired,
          hparked]
        rfl
    · cases hs
  · cases hs
  · cases hs

/-! ### The command task -/

/-- A reader that is not at work is parked or has finished. -/
theorem ReaderPc.of_not_busy {reader : ReaderPc} (h : reader.busy = false) :
    reader = .parked ∨ reader = .finished := by
  cases reader with
  | parked => exact .inl rfl
  | finished => exact .inr rfl
  | drain | flushing | lastDrain | finalize => cases h

/-- The command task takes a command while the reader waits. -/
theorem Gear.Sound.pop {g : Gear T} (h : g.Sound isOpen) (hbusy : g.reader.busy = false)
    (cmds : List Cmd) : Gear.Sound isOpen { g with cmds := cmds } :=
  { h with busy := fun hb => absurd (hbusy.symm.trans hb) Bool.false_ne_true }

/-- The command task goes on at another point, with the write lock as that point has it; it flushes
only while the reader is parked. -/
theorem Gear.Sound.moveCmd {g : Gear T} (h : g.Sound isOpen) (cmd : CmdPc)
    (writeLock : Option Task) (hbusy : g.reader.busy = false)
    (hcmd : cmd = .live ∨ (∃ f next, cmd = .flushing f next ∧ next ≠ .exit ∧ g.reader = .parked) ∨
      cmd = .drained ∧ g.closed = true)
    (hlock : ∀ t, writeLock = some t ↔ Gear.writes { g with cmd := cmd } t = true) :
    Gear.Sound isOpen { g with cmd := cmd, writeLock := writeLock } := by
  refine { h with
    busy := fun hb => absurd (hbusy.symm.trans hb) Bool.false_ne_true
    cmd := hcmd
    lock := fun t => (hlock t).trans ?_ }
  cases t <;> rfl

/-- The command task goes on outside of a write. -/
theorem Gear.Sound.atCmd {g : Gear T} (h : g.Sound isOpen) (cmd : CmdPc)
    (hbusy : g.reader.busy = false) (hwrites : g.writes .cmd = false)
    (hto : Gear.writes { g with cmd := cmd } .cmd = false)
    (hcmd : cmd = .live ∨ (∃ f next, cmd = .flushing f next ∧ next ≠ .exit ∧ g.reader = .parked) ∨
      cmd = .drained ∧ g.closed = true) :
    Gear.Sound isOpen { g with cmd := cmd } := by
  refine h.moveCmd cmd g.writeLock hbusy hcmd fun t => ?_
  rw [h.lock t]
  cases t with
  | reader => rfl
  | cmd => rw [hwrites, hto]

/-- The core moves on and stays open. -/
theorem Gear.Sound.atWs {g : Gear T} (h : g.Sound isOpen) (ws : T.Ctx) (hws : isOpen ws) :
    Gear.Sound isOpen { g with ws := ws } :=
  ⟨h.localClosed, h.dropped, h.writeDead, h.armed, h.deadlineArmed, h.pumpDone, h.finished,
    h.senderLive, fun _ _ => hws, h.inbound, h.eof, h.busy, h.cmd, h.lock⟩

/-- A `send` the core takes. -/
theorem webSocketSend_ok {message : Message} {frame : Bytes} {ws : T.Ctx} (id : Nat)
    (h : T.send s.ws message = (.ok frame, ws)) :
    s.webSocketSend id message = (.ok (), (((s.noteFrame
      { id := id, message := message, before := s.hist.written, frame := frame }).writeFrame
        frame).writeQueued).setWs ws) := by
  unfold State.webSocketSend
  rw [h]

/-- A command of the live phase, with the reader parked: the invariant, and what it does with the
answer it owes. -/
theorem driven_cmdLive (hT : T.StaysOpen isOpen) (h : s.gear.Sound isOpen) (hcmd : s.cmd = .live)
    (hparked : s.reader = .parked) (c : Cmd) :
    (s.cmdLive c).gear.Sound isOpen ∧ (s.cmdLive c).shared.cmds = s.shared.cmds ∧
      (s.cmdLive c).cmd.answers (s.cmdLive c).conduct = Cmd.conduct s.conduct c := by
  have hr : s.gear.reader = .parked := hparked
  have hlive : s.gear.cmd = .live := hcmd
  have hbusy : s.gear.reader.busy = false := by rw [hr]; rfl
  have hwrites : s.gear.writes .cmd = false := by unfold Gear.writes; rw [hlive]
  have hclosed : s.conduct.finalized = false := h.open_of_ne (by rw [hr]; decide)
  cases c with
  | send id message =>
    show (s.cmdSend id message).gear.Sound isOpen ∧ (s.cmdSend id message).shared.cmds = _ ∧
      (s.cmdSend id message).cmd.answers (s.cmdSend id message).conduct =
        s.conduct.send id message
    unfold State.cmdSend Conduct.send
    rw [show s.flags.writeDead = false from h.writeDead, Bool.or_false, hclosed, Bool.false_or]
    split
    · next hwire =>
      rw [if_pos (show s.conduct.wireClosing = true from hwire)]
      refine ⟨h, rfl, ?_⟩
      rw [show (s.reply id (.error .closed)).cmd = .live from hcmd]
      rfl
    · next hwire =>
      rw [if_neg (show ¬ s.conduct.wireClosing = true from hwire)]
      obtain ⟨frame, ws, hsend, hws⟩ := hT.send s.ws message
        (h.isOpen (Bool.eq_false_iff.mpr hwire) (by rw [hr]; rfl))
      rw [webSocketSend_ok id hsend]
      dsimp only
      refine ⟨(h.atWs ws hws).atCmd (.flushing .lock (.reply id)) hbusy hwrites rfl
        (.inr (.inl ⟨_, _, rfl, nofun, hr⟩)), rfl, ?_⟩
      refine congrArg (Conduct.reply · id (.ok ())) ?_
      show { s.conduct with
        frames := (s.hist.frames ++ [SentFrame.mk id message s.hist.written frame]).map
          fun sent => (sent.id, sent.message) } = s.conduct.frame id message
      rw [List.map_append]
      rfl
  | close code reason =>
    have hgoes (c : State T) (hc : c.gear.Sound isOpen) (hr' : c.gear.reader = .parked)
        (hcmd' : c.gear.cmd = .live) (flush : Bool) : (c.cmdGoes flush .live).gear.Sound isOpen ∧
          (c.cmdGoes flush .live).cmd.answers (c.cmdGoes flush .live).conduct = c.conduct := by
      have hbusy' : c.gear.reader.busy = false := by rw [hr']; rfl
      have hwrites' : c.gear.writes .cmd = false := by unfold Gear.writes; rw [hcmd']
      cases flush with
      | true =>
        exact ⟨hc.atCmd (.flushing .lock .live) hbusy' hwrites' rfl
          (.inr (.inl ⟨_, _, rfl, nofun, hr'⟩)), rfl⟩
      | false => exact ⟨hc.atCmd .live hbusy' hwrites' rfl (.inl rfl), rfl⟩
    obtain ⟨hr', hcmd', hcmds', -⟩ := beginClose_tasks s (closeFrameOf code reason)
    obtain ⟨hsound, houtlook⟩ := hgoes (s.beginClose (closeFrameOf code reason)).2
      (sound_beginClose h _) (hr'.trans hparked) (hcmd'.trans hcmd)
      (s.beginClose (closeFrameOf code reason)).1
    refine ⟨hsound, hcmds', houtlook.trans ?_⟩
    unfold Cmd.conduct Conduct.close
    dsimp only
    rw [hclosed, if_neg Bool.false_ne_true]
    exact conduct_beginClose s _
  | claimStream =>
    refine ⟨h, rfl, ?_⟩
    show s.cmd.answers s.conduct = s.conduct
    rw [hcmd]
    rfl

/-- What the command task does without waiting for anyone. -/
theorem driven_cmd (hT : T.StaysOpen isOpen) (h : s.Driven isOpen) (hs : s.cmdStep = some s')
    (he : s'.expired = s.expired) : s'.Driven isOpen ∧ s'.outlook = s.outlook := by
  have hframe := CmdFrame.step hs
  have hreader : s'.reader = s.reader := hframe.reader
  have hinbound : s'.io.inbound = s.io.inbound := by rw [hframe]
  have hlive : s.cmdSenderLive = true := cmdSenderLive_of_resource h.sound.dropped
  unfold State.cmdStep at hs
  split at hs
  · next hcmd =>
    split at hs
    · next hdone =>
      obtain rfl := Option.some.inj hs
      have hclosed : s.shared.closed = true := h.sound.pumpDone.symm.trans hdone
      have hr : s.gear.reader = .finished := h.sound.finished.mp hclosed
      have hsound := h.sound.atCmd .drained (by rw [hr]; rfl)
        (by unfold Gear.writes; rw [show s.gear.cmd = .live from hcmd]) rfl (.inr (.inr ⟨rfl, hclosed⟩))
      refine ⟨⟨hsound, fun _ hp => ?_⟩, ?_⟩
      · rw [show s.reader = .finished from hr] at hp
        cases hp
      · unfold State.outlook
        rw [he, hcmd]
        rfl
    · next hopen =>
      split at hs
      · next c rest hcmds =>
        obtain rfl := Option.some.inj hs
        have hpending : s.gear.cmds ≠ [] := by
          rw [show s.gear.cmds = c :: rest from hcmds]
          exact List.cons_ne_nil _ _
        have hbusy : s.gear.reader.busy = false := by
          by_contra hb
          exact hpending (h.sound.busy (Bool.not_eq_false _ ▸ hb)).2
        have hfinished : s.gear.reader ≠ .finished := fun hf =>
          hopen (h.sound.pumpDone.trans (h.sound.finished.mpr hf))
        have hparked : s.reader = .parked :=
          (ReaderPc.of_not_busy hbusy).resolve_right hfinished
        obtain ⟨hsound, hcmds', hanswers⟩ := driven_cmdLive (s := s.popCmd rest) hT
          (h.sound.pop hbusy rest) hcmd hparked c
        refine ⟨⟨hsound, fun hexp _ => ?_⟩, ?_⟩
        · exact absurd (h.expired (he.symm.trans hexp) hparked).2 hpending
        · unfold State.outlook
          rw [he, hreader, hinbound, hcmds', hanswers, hcmd, hcmds]
          rfl
      · cases hs
  · next hcmd =>
    split at hs
    · next c rest hcmds =>
      obtain rfl := Option.some.inj hs
      have hclosed : s.conduct.finalized = true := by
        rcases h.sound.cmd with hc | ⟨f, next, hc, -⟩ | ⟨-, hc⟩
        · cases hc.symm.trans hcmd
        · cases hc.symm.trans hcmd
        · exact hc
      have hr : s.gear.reader = .finished := h.sound.finished.mp hclosed
      have hsound := h.sound.pop (by rw [hr]; rfl) rest
      have hanswers : ((s.popCmd rest).cmdDrained c).gear.Sound isOpen ∧
          ((s.popCmd rest).cmdDrained c).shared.cmds = rest ∧
          ((s.popCmd rest).cmdDrained c).cmd.answers ((s.popCmd rest).cmdDrained c).conduct =
            Cmd.conduct s.conduct c := by
        cases c with
        | send id message =>
          refine ⟨hsound, rfl, ?_⟩
          unfold Cmd.conduct Conduct.send
          rw [hclosed]
          show s.cmd.answers _ = _
          rw [hcmd]
          rfl
        | close code reason =>
          refine ⟨hsound, rfl, ?_⟩
          unfold Cmd.conduct Conduct.close
          dsimp only
          rw [if_pos hclosed]
          show s.cmd.answers _ = _
          rw [hcmd]
          rfl
        | claimStream =>
          refine ⟨hsound, rfl, ?_⟩
          show s.cmd.answers _ = _
          rw [hcmd]
          rfl
      obtain ⟨hsound', hcmds', hanswers'⟩ := hanswers
      refine ⟨⟨hsound', fun _ hp => ?_⟩, ?_⟩
      · cases (hreader.symm.trans hp).symm.trans hr
      · unfold State.outlook
        rw [he, hreader, hinbound, hcmds', hanswers', hcmd, hcmds]
        rfl
    · rw [if_pos hlive] at hs
      cases hs
  · cases hs
  · cases hs

/-! ### Flushes -/

/-- A flush of the reader goes on, with nothing done that the outlook sees. -/
theorem State.Driven.flushReader (h : s.Driven isOpen) {f : FlushPc} {next : ReaderNext}
    (reader : ReaderPc) (writeLock : Option Task) (hf : s.reader = .flushing f next)
    (hto : reader = next.pc ∨ ∃ g, reader = .flushing g next)
    (hgear : s'.gear = { s.gear with reader := reader, writeLock := writeLock })
    (hconduct : s'.conduct = s.conduct) (he : s'.expired = s.expired)
    (hlock : ∀ t, writeLock = some t ↔ Gear.writes { s.gear with reader := reader } t = true) :
    s'.Driven isOpen ∧ s'.outlook = s.outlook := by
  have hr : s.gear.reader = .flushing f next := hf
  have hidle := h.sound.busy (by rw [hr]; rfl)
  have hin : s.io.inbound = [] := h.sound.inbound_of_ne (by rw [hr]; nofun)
  have hcmd : s'.cmd = .live := (congrArg Gear.cmd hgear).trans hidle.1
  have hcmds : s'.shared.cmds = [] := (congrArg Gear.cmds hgear).trans hidle.2
  have hin' : s'.io.inbound = [] := (congrArg Gear.inbound hgear).trans hin
  have hreader : s'.reader = reader := congrArg Gear.reader hgear
  have hsame : reader.ending = s.reader.ending ∧ reader.reading = s.gear.reader.reading ∧
      reader ≠ .finished := by
    rw [hf, hr]
    rcases hto with rfl | ⟨g, rfl⟩ <;> cases next <;> exact ⟨rfl, rfl, nofun⟩
  refine ⟨⟨?_, fun _ _ => ⟨hcmd, hcmds⟩⟩, ?_⟩
  · rw [hgear]
    exact h.sound.moves reader writeLock hidle (by rw [hr]; nofun) hin
      (fun hreading => hsame.2.1 ▸ hreading) hsame.2.2 hlock
  · rw [outlook_of_live hcmd hcmds, outlook_of_live hidle.1 hidle.2, hin, hin', hconduct, he,
      hreader, hsame.1]

/-- A flush of the command task goes on, with the answer it owes owed or given. -/
theorem State.Driven.flushCmd (h : s.Driven isOpen) {f : FlushPc} {next : CmdNext} (cmd : CmdPc)
    (writeLock : Option Task) (hf : s.cmd = .flushing f next)
    (hto : cmd = next.pc ∨ ∃ g, cmd = .flushing g next)
    (hgear : s'.gear = { s.gear with cmd := cmd, writeLock := writeLock })
    (hanswers : s'.cmd.answers s'.conduct = s.cmd.answers s.conduct) (he : s'.expired = s.expired)
    (hlock : ∀ t, writeLock = some t ↔ Gear.writes { s.gear with cmd := cmd } t = true) :
    s'.Driven isOpen ∧ s'.outlook = s.outlook := by
  have hflushing : next ≠ .exit ∧ s.gear.reader = .parked := by
    rcases h.sound.cmd with hc | ⟨f', next', hc, hnext, hparked⟩ | ⟨hc, -⟩
    · cases hc.symm.trans hf
    · obtain ⟨rfl, rfl⟩ := CmdPc.flushing.inj (hc.symm.trans hf)
      exact ⟨hnext, hparked⟩
    · cases hc.symm.trans hf
  have hshape : cmd = .live ∨
      (∃ f next, cmd = .flushing f next ∧ next ≠ .exit ∧ s.gear.reader = .parked) ∨
        cmd = .drained ∧ s.gear.closed = true := by
    rcases hto with rfl | ⟨g, rfl⟩
    · cases next with
      | reply | live => exact .inl rfl
      | exit => exact absurd rfl hflushing.1
    · exact .inr (.inl ⟨g, next, rfl, hflushing⟩)
  refine ⟨⟨?_, fun hexp hp => ?_⟩, ?_⟩
  · rw [hgear]
    exact h.sound.moveCmd cmd writeLock (by rw [hflushing.2]; rfl) hshape hlock
  · have hlive := (h.expired (he.symm.trans hexp) ((congrArg Gear.reader hgear).symm.trans hp)).1
    cases hlive.symm.trans hf
  · unfold State.outlook
    rw [hanswers, he, show s'.io.inbound = s.io.inbound from congrArg Gear.inbound hgear,
      show s'.shared.cmds = s.shared.cmds from congrArg Gear.cmds hgear,
      show s'.reader = s.reader from congrArg Gear.reader hgear]

/-- Only the task that writes holds the lock. -/
theorem Gear.Sound.not_writes {g : Gear T} (h : g.Sound isOpen) (hl : g.writeLock = none)
    (t : Task) : g.writes t = false := by
  by_contra hw
  have hlock := (h.lock t).mpr (Bool.not_eq_false _ ▸ hw)
  cases hl.symm.trans hlock

/-- A flush returns to its task, with the lock free. -/
theorem driven_resume {t : Task} {f : FlushPc} {c : State T} (h : s.Driven isOpen)
    (hf : s.flush t = some f) (hgear : c.gear = { s.gear with writeLock := none })
    (hconduct : c.conduct = s.conduct) (hother : ∀ t', t' ≠ t → s.gear.writes t' = false)
    (he : (c.resume t (.ok ())).expired = s.expired) :
    (c.resume t (.ok ())).Driven isOpen ∧ (c.resume t (.ok ())).outlook = s.outlook := by
  cases t with
  | reader =>
    obtain ⟨next, hr⟩ := flush_reader.mp hf
    have hc : c.reader = .flushing f next := (congrArg Gear.reader hgear).trans hr
    rw [resume_reader hc] at *
    refine h.flushReader next.pc none hr (.inl rfl) ?_ hconduct he fun t' => ?_
    · exact congrArg (fun g : Gear T => { g with reader := next.pc }) hgear
    · cases t' with
      | reader => cases next <;> exact ⟨nofun, nofun⟩
      | cmd =>
        have hcmd := hother .cmd nofun
        exact ⟨nofun, fun hw => absurd (hcmd.symm.trans hw) Bool.false_ne_true⟩
  | cmd =>
    obtain ⟨next, hr⟩ := flush_cmd.mp hf
    have hc : c.cmd = .flushing f next := (congrArg Gear.cmd hgear).trans hr
    rw [resume_cmd hc] at *
    refine h.flushCmd next.pc none hr (.inl rfl) ?_ ?_ he fun t' => ?_
    · exact congrArg (fun g : Gear T => { g with cmd := next.pc }) hgear
    · show next.pc.answers { c.conduct with replies := c.conduct.replies ++ next.acks (.ok ()) } = _
      rw [hconduct, hr]
      cases next with
      | reply => rfl
      | live | exit =>
        show { s.conduct with replies := s.conduct.replies ++ [] } = s.conduct
        rw [List.append_nil]
    · cases t' with
      | cmd => cases next <;> exact ⟨nofun, nofun⟩
      | reader =>
        have hreader := hother .reader nofun
        exact ⟨nofun, fun hw => absurd (hreader.symm.trans hw) Bool.false_ne_true⟩

/-- A flush is inside its write, with the lock. -/
theorem driven_setFlush {t : Task} {f : FlushPc} {c : State T} (h : s.Driven isOpen)
    (hf : s.flush t = some f) (rest : Bytes) (bound : WriteBound)
    (hgear : c.gear = { s.gear with writeLock := some t }) (hconduct : c.conduct = s.conduct)
    (hother : ∀ t', t' ≠ t → s.gear.writes t' = false)
    (he : (c.setFlush t (.write rest bound)).expired = s.expired) :
    (c.setFlush t (.write rest bound)).Driven isOpen ∧
      (c.setFlush t (.write rest bound)).outlook = s.outlook := by
  cases t with
  | reader =>
    obtain ⟨next, hr⟩ := flush_reader.mp hf
    have hc : c.reader = .flushing f next := (congrArg Gear.reader hgear).trans hr
    rw [setFlush_reader hc] at *
    refine h.flushReader (.flushing (.write rest bound) next) (some .reader) hr (.inr ⟨_, rfl⟩) ?_
      hconduct he fun t' => ?_
    · exact congrArg (fun g : Gear T => { g with reader := .flushing (.write rest bound) next }) hgear
    · cases t' with
      | reader => exact ⟨fun _ => rfl, fun _ => rfl⟩
      | cmd =>
        have hcmd := hother .cmd nofun
        exact ⟨nofun, fun hw => absurd (hcmd.symm.trans hw) Bool.false_ne_true⟩
  | cmd =>
    obtain ⟨next, hr⟩ := flush_cmd.mp hf
    have hc : c.cmd = .flushing f next := (congrArg Gear.cmd hgear).trans hr
    rw [setFlush_cmd hc] at *
    refine h.flushCmd (.flushing (.write rest bound) next) (some .cmd) hr (.inr ⟨_, rfl⟩) ?_ ?_ he
      fun t' => ?_
    · exact congrArg (fun g : Gear T => { g with cmd := .flushing (.write rest bound) next }) hgear
    · show CmdPc.answers (.flushing (.write rest bound) next) c.conduct = _
      rw [hconduct, hr]
      cases next <;> rfl
    · cases t' with
      | cmd => exact ⟨fun _ => rfl, fun _ => rfl⟩
      | reader =>
        have hreader := hother .reader nofun
        exact ⟨nofun, fun hw => absurd (hreader.symm.trans hw) Bool.false_ne_true⟩

/-- A flush takes the free lock: it has nothing to write, or starts its write. -/
theorem driven_lock {t : Task} (h : s.Driven isOpen) (hl : s.writeLock = none)
    (hf : s.flush t = some .lock) (he : (s.flushLocked t).expired = s.expired) :
    (s.flushLocked t).Driven isOpen ∧ (s.flushLocked t).outlook = s.outlook := by
  have hdead : s.flags.writeDead = false := h.sound.writeDead
  have hother (t' : Task) (_ : t' ≠ t) : s.gear.writes t' = false := h.sound.not_writes hl t'
  have hgear : s.gear = { s.gear with writeLock := none } := by
    rw [← show s.gear.writeLock = none from hl]
  rw [State.flushLocked] at *
  dsimp only at *
  rw [show s.drainOutbound.2.flags.writeDead = false from hdead] at *
  split
  · next hb =>
    rw [if_pos hb] at he
    exact driven_resume h hf hgear rfl hother he
  · next hb =>
    rw [if_neg hb] at he
    exact driven_setFlush h hf _ _ rfl rfl hother he

/-- The outbound stream accepts bytes of the write. -/
theorem driven_accept {t : Task} {rest : Bytes} {bound : WriteBound} (n : Nat) (h : s.Driven isOpen)
    (hl : s.writeLock = some t) (hf : s.flush t = some (.write rest bound))
    (he : ((s.acceptBytes (rest.take n)).setFlush t (.write (rest.drop n) bound)).expired =
      s.expired) :
    ((s.acceptBytes (rest.take n)).setFlush t (.write (rest.drop n) bound)).Driven isOpen ∧
      ((s.acceptBytes (rest.take n)).setFlush t (.write (rest.drop n) bound)).outlook =
        s.outlook := by
  refine driven_setFlush h hf _ _ ?_ rfl (fun t' hne => ?_) he
  · show s.gear = { s.gear with writeLock := some t }
    rw [← show s.gear.writeLock = some t from hl]
  · by_contra hw
    have hlock := (h.sound.lock t').mpr (Bool.not_eq_false _ ▸ hw)
    exact hne (Option.some.inj (hlock.symm.trans hl))

/-- A flush inside its write has the lock. -/
theorem Gear.Sound.writeLock_of_flush {t : Task} {rest : Bytes} {bound : WriteBound}
    (h : s.gear.Sound isOpen) (hf : s.flush t = some (.write rest bound)) :
    s.writeLock = some t := by
  refine (h.lock t).mpr ?_
  cases t with
  | reader =>
    obtain ⟨next, hr⟩ := flush_reader.mp hf
    unfold Gear.writes
    rw [show s.gear.reader = _ from hr]
  | cmd =>
    obtain ⟨next, hc⟩ := flush_cmd.mp hf
    unfold Gear.writes
    rw [show s.gear.cmd = _ from hc]

/-- A flush sees its write complete. -/
theorem driven_writeDone {t : Task} {bound : WriteBound} (h : s.Driven isOpen)
    (hf : s.flush t = some (.write [] bound))
    (he : (s.releaseLock.resume t (.ok ())).expired = s.expired) :
    (s.releaseLock.resume t (.ok ())).Driven isOpen ∧
      (s.releaseLock.resume t (.ok ())).outlook = s.outlook := by
  refine driven_resume h hf rfl rfl (fun t' hne => ?_) he
  by_contra hw
  have hlock := (h.sound.lock t').mpr (Bool.not_eq_false _ ▸ hw)
  exact hne (Option.some.inj (hlock.symm.trans (h.sound.writeLock_of_flush hf)))

/-! ### Steps and events -/

/-- Every step the pump takes by itself keeps the invariant and the outlook. -/
theorem driven_settle (hT : T.StaysOpen isOpen) (h : s.Driven isOpen)
    (hs : (drive T).settle s s') : s'.Driven isOpen ∧ s'.outlook = s.outlook := by
  obtain ⟨a, ha, hstep, he⟩ := hs
  cases a with
  | reader => exact driven_reader hT h hstep he
  | cmd => exact driven_cmd hT h hstep he
  | lock t =>
    dsimp only [step] at hstep
    split at hstep
    · next hfree =>
      obtain rfl := Option.some.inj hstep
      exact driven_lock h hfree.1 hfree.2 he
    · cases hstep
  | writeDone t =>
    dsimp only [step] at hstep
    split at hstep
    · next bound hf =>
      obtain rfl := Option.some.inj hstep
      exact driven_writeDone h hf he
    · cases hstep
  | accept n =>
    dsimp only [step] at hstep
    split at hstep
    · next t hl =>
      split at hstep
      · next rest bound hf =>
        obtain rfl := Option.some.inj hstep
        exact driven_accept n h hl hf he
      · cases hstep
    · cases hstep
  | send | receive | receiveViaStream | close | drop | pollReceive | writeBound | refuse | chunk
  | transportEnd | feederLock | feederNext | elementTaken | streamDropped | payloadTaken
  | payloadDone | payloadDropped | tick => cases ha

/-- A pump that waits has nothing to read, to process or to answer. -/
theorem outlook_waiting (h : s.Driven isOpen) (hw : s.Waiting) :
    s.io.inbound.foldl Conduct.inbound
      (s.shared.cmds.foldl Cmd.conduct (s.cmd.answers s.conduct)) = s.conduct := by
  obtain ⟨hreader, hcmd, hcmds⟩ := hw
  have hin : s.io.inbound = [] := h.sound.inbound.resolve_right fun hd => by
    rcases hreader with ⟨hr, -⟩ | hr
    · cases hd.1.symm.trans hr
    · cases hd.1.symm.trans hr
  rw [hcmds, hin]
  rcases hcmd with ⟨hc, -⟩ | hc
  · rw [hc]
    rfl
  · rw [hc]
    rfl

/-- A pump that waits has done what it will have done. -/
theorem outlook_of_waiting (h : s.Driven isOpen) (hw : s.Waiting) : s.outlook = s.conduct := by
  unfold State.outlook
  rw [outlook_waiting h hw]
  rcases hw.1 with ⟨hr, he⟩ | hr
  · rw [hr, he]
    rfl
  · exact Conduct.endIf_of_finalized (h.sound.finished.mpr hr) _

/-- The pump as it starts has done nothing and has everything to read. -/
theorem driven_start (config : Config) {ws : T.Ctx} (hws : isOpen ws) (now : Nat) :
    (State.start config ws .empty now).Driven isOpen ∧
      (State.start config ws .empty now).outlook = Conduct.start config.maxInboundBufferBytes := by
  refine ⟨⟨⟨rfl, rfl, rfl, rfl, rfl, rfl, ⟨nofun, nofun⟩, rfl, fun _ _ => hws, .inl rfl, nofun,
    fun _ => ⟨rfl, rfl⟩, .inl rfl, fun t => ?_⟩, nofun⟩, rfl⟩
  cases t <;> exact ⟨nofun, nofun⟩

/-- The transport hands over what it decodes to. -/
theorem Gear.Sound.feed {g : Gear T} (h : g.Sound isOpen) (hdrain : g.reader = .drain)
    (outcome : Inbound) : Gear.Sound isOpen { g with inbound := [outcome] } :=
  { h with inbound := .inr ⟨hdrain, outcome, rfl⟩ }

/-- The transport ends. -/
theorem Gear.Sound.setEof {g : Gear T} (h : g.Sound isOpen) (hreading : g.reader.reading = false) :
    Gear.Sound isOpen { g with eof := true } :=
  ⟨h.localClosed, h.dropped, h.writeDead, h.armed, h.deadlineArmed, h.pumpDone, h.finished,
    h.senderLive, h.isOpen, h.inbound, fun _ => hreading, h.busy, h.cmd, h.lock⟩

/-- At the armed deadline it has passed; without one nothing has. -/
theorem expired_fed (h : s.gear.Sound isOpen) : (s.fed .deadline).expired = s.flags.wireClosing := by
  have harmed : s.flags.deadline.isSome = s.flags.wireClosing := h.armed
  show State.expired { s with now := max s.now (s.flags.deadline.getD s.now) } = _
  unfold State.expired
  dsimp only
  cases hd : s.flags.deadline with
  | none =>
    rw [hd] at harmed
    exact harmed
  | some deadline =>
    rw [hd] at harmed
    show (s.flags.deadlineArmed && decide (deadline ≤ max s.now deadline)) = _
    rw [show s.flags.deadlineArmed = s.flags.wireClosing from h.deadlineArmed, ← harmed,
      decide_eq_true (le_max_right s.now deadline)]
    rfl

/-- While the reader of a pump that waits is parked, so is everything else. -/
theorem live_of_parked (h : s.Driven isOpen) (hw : s.Waiting) (hp : s.reader = .parked) :
    s.cmd = .live ∧ s.shared.closed = false ∧ s.io.inbound = [] := by
  have hr : s.gear.reader = .parked := hp
  have hopen : s.shared.closed = false := h.sound.open_of_ne (by rw [hr]; decide)
  refine ⟨?_, hopen, h.sound.inbound.resolve_right fun hd => ?_⟩
  · rcases hw.2.1 with ⟨hc, -⟩ | hc
    · exact hc
    · rcases h.sound.cmd with hc' | ⟨f, next, hc', -⟩ | ⟨-, hclosed⟩
      · exact hc'
      · cases hc'.symm.trans hc
      · cases hclosed.symm.trans hopen
  · cases hd.1.symm.trans hr

/-- A command reaches a pump that waits. -/
theorem driven_command (h : s.Driven isOpen) (hw : s.Waiting) (c : Cmd) {a : Conduct}
    (hgear : s'.gear = { s.gear with cmds := [c] }) (he : s'.expired = s.expired)
    (hconduct : Cmd.conduct s'.conduct c = a) (hend : s.conduct.finalized = true → a.finalized = true) :
    s'.Driven isOpen ∧ s'.outlook = a := by
  obtain ⟨hreader, hcmd, hcmds⟩ := hw
  have hr : s'.reader = s.reader := congrArg Gear.reader hgear
  have hbusy : s.gear.reader.busy = false := by
    rcases hreader with ⟨hr, -⟩ | hr
    · rw [show s.gear.reader = _ from hr]
      rfl
    · rw [show s.gear.reader = _ from hr]
      rfl
  have hin : s'.io.inbound = [] := by
    refine (congrArg Gear.inbound hgear).trans (h.sound.inbound.resolve_right fun hd => ?_)
    rw [hd.1] at hbusy
    cases hbusy
  have hanswers : s'.cmd.answers s'.conduct = s'.conduct := by
    rw [show s'.cmd = s.cmd from congrArg Gear.cmd hgear]
    rcases hcmd with ⟨hc, -⟩ | hc
    · rw [hc]
      rfl
    · rw [hc]
      rfl
  refine ⟨⟨?_, fun hexp hp => ?_⟩, ?_⟩
  · rw [hgear]
    exact h.sound.pop hbusy [c]
  · rcases hreader with ⟨-, hno⟩ | hf
    · cases hno.symm.trans (he.symm.trans hexp)
    · cases hf.symm.trans (hr.symm.trans hp)
  · unfold State.outlook
    rw [hin, hanswers, show s'.shared.cmds = [c] from congrArg Gear.cmds hgear, hr, he]
    show (Cmd.conduct s'.conduct c).endIf _ = a
    rw [hconduct]
    rcases hreader with ⟨hp, hno⟩ | hf
    · rw [hp, hno]
      rfl
    · exact Conduct.endIf_of_finalized (hend (h.sound.finished.mpr hf)) _

/-- What an event does to the outlook of a pump that waits. -/
theorem driven_fed (h : s.Driven isOpen) (hw : s.Waiting) (e : Event) :
    (s.fed e).Driven isOpen ∧ (s.fed e).outlook = s.outlook.apply e := by
  have hout := outlook_of_waiting h hw
  obtain ⟨hreader, hcmd, hcmds⟩ := id hw
  cases e with
  | send message =>
    have hexited : (s.cmd == .exited) = false := by
      rcases hcmd with ⟨hc, -⟩ | hc <;> rw [hc] <;> rfl
    have hcall : s.fed (.send message) = State.pushCmd { s with
        nextId := s.nextId + 1
        hist := { s.hist with sends := s.hist.sends ++ [(s.nextId, message)] } }
          (.send s.nextId message) := by
      show s.callSend message = _
      unfold State.callSend
      dsimp only
      rw [show s.shared.localClosed = false from h.sound.localClosed, hexited]
      rfl
    rw [hcall, hout]
    refine driven_command h hw (.send s.nextId message) ?_ rfl rfl fun hfin => ?_
    · show { s.gear with cmds := s.shared.cmds ++ [Cmd.send s.nextId message] } = _
      rw [hcmds]
      rfl
    · show (Conduct.send { s.conduct with nextId := s.nextId + 1 } s.nextId message).finalized = true
      rw [Conduct.send_of_finalized (show Conduct.finalized { s.conduct with
        nextId := s.nextId + 1 } = true from hfin)]
      exact hfin
  | close code reason =>
    rw [hout]
    refine driven_command h hw (.close code reason) ?_ rfl rfl fun hfin => ?_
    · show { s.gear with cmds := s.shared.cmds ++ [Cmd.close code reason] } = _
      rw [hcmds]
      rfl
    · show (s.conduct.close code reason).finalized = true
      rw [Conduct.close_of_finalized hfin]
      exact hfin
  | inbound outcome =>
    rcases hreader with ⟨hp, hno⟩ | hf
    · obtain ⟨hlive, hnone, hin⟩ := live_of_parked h hw hp
      have hfed : s.fed (.inbound outcome) =
          { s with io := s.io.feed [outcome], reader := .drain } := by
        show (step s (.chunk [outcome])).getD s = _
        dsimp only [step]
        rw [if_pos ⟨hp, hno⟩]
        rfl
      have hdrain := h.sound.goes .drain ⟨hlive, hcmds⟩
        (by rw [show s.gear.reader = _ from hp]; decide)
        (by unfold Gear.writes; rw [show s.gear.reader = _ from hp]) hin
        (fun _ => by rw [show s.gear.reader = _ from hp]; rfl) nofun rfl
      have hgear : (s.fed (.inbound outcome)).gear =
          { s.gear with reader := .drain, inbound := [outcome] } := by
        rw [hfed]
        show { s.gear with reader := .drain, inbound := s.io.inbound ++ [outcome] } = _
        rw [hin]
        rfl
      refine ⟨⟨hgear ▸ hdrain.feed rfl outcome, fun _ hp' => ?_⟩, ?_⟩
      · cases hp'.symm.trans (congrArg Gear.reader hgear)
      · rw [outlook_of_live ((congrArg Gear.cmd hgear).trans hlive)
          ((congrArg Gear.cmds hgear).trans hcmds), hout,
          show (s.fed (.inbound outcome)).io.inbound = [outcome] from congrArg Gear.inbound hgear,
          show (s.fed (.inbound outcome)).reader = .drain from congrArg Gear.reader hgear, hfed]
        show (s.conduct.inbound outcome).endIf s.expired = s.conduct.inbound outcome
        rw [hno]
        rfl
    · have hfed : s.fed (.inbound outcome) = s := by
        show (step s (.chunk [outcome])).getD s = _
        dsimp only [step]
        rw [if_neg (by rw [hf]; exact fun hp => nomatch hp.1)]
        rfl
      rw [hfed, hout]
      exact ⟨h, (Conduct.inbound_of_finalized (h.sound.finished.mpr hf) outcome).symm⟩
  | endOfStream =>
    rcases hreader with ⟨hp, hno⟩ | hf
    · obtain ⟨hlive, hnone, hin⟩ := live_of_parked h hw hp
      have hfed : s.fed .endOfStream = { s with io := s.io.setEof, reader := .lastDrain } := by
        show (step s .transportEnd).getD s = _
        dsimp only [step]
        rw [if_pos ⟨hp, hno⟩]
        rfl
      have hlast := h.sound.goes .lastDrain ⟨hlive, hcmds⟩
        (by rw [show s.gear.reader = _ from hp]; decide)
        (by unfold Gear.writes; rw [show s.gear.reader = _ from hp]) hin nofun nofun rfl
      rw [hfed]
      refine ⟨⟨hlast.setEof rfl, nofun⟩, ?_⟩
      rw [outlook_of_live (s := { s with io := s.io.setEof, reader := .lastDrain }) hlive hcmds, hout,
        show ({ s with io := s.io.setEof, reader := .lastDrain } : State T).io.inbound = [] from hin]
      rfl
    · have hfed : s.fed .endOfStream = s := by
        show (step s .transportEnd).getD s = _
        dsimp only [step]
        rw [if_neg (by rw [hf]; exact fun hp => nomatch hp.1)]
        rfl
      rw [hfed, hout]
      exact ⟨h, (Conduct.finalize_of_finalized (h.sound.finished.mpr hf)).symm⟩
  | deadline =>
    refine ⟨⟨h.sound, fun _ hp => ⟨(live_of_parked h hw hp).1, hcmds⟩⟩, ?_⟩
    show Conduct.endIf (s.io.inbound.foldl Conduct.inbound
      (s.shared.cmds.foldl Cmd.conduct (s.cmd.answers s.conduct)))
        (s.reader.ending || (s.fed .deadline).expired) = _
    rw [outlook_waiting h hw, expired_fed h.sound, hout]
    rcases hreader with ⟨hp, -⟩ | hf
    · rw [hp]
      rfl
    · have hfin : s.conduct.finalized = true := h.sound.finished.mpr hf
      rw [Conduct.endIf_of_finalized hfin]
      exact (Conduct.endIf_of_finalized hfin _).symm

/-- The outlook of the pump follows the events. -/
theorem tracks (hT : T.StaysOpen isOpen) :
    (drive T).Tracks (State.Driven isOpen) State.outlook Conduct.apply where
  settle _ _ h hs := driven_settle hT h hs
  feed _ e h hw := driven_fed h hw e

end Polymorph.Provider
