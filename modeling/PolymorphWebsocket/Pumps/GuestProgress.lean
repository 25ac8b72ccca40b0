import PolymorphWebsocket.Pumps.Guest

/-!
# The guest provider's pump settles

A pump that is fed one event at a time and does not wait has a step to take by itself, and every
such step brings it nearer to waiting: the commands and frames that are left count most, then the
suspension points of the two tasks.  None of these steps makes the deadline pass, since a deadline
that gets armed is later than the clock.
-/

namespace Polymorph.Provider

open Futures Transition

variable {T : Tungstenite} {isOpen : T.Ctx → Prop} {s s' : State T}

/-! ### The deadline while the pump settles -/

/-- The deadline and the clock are left alone, or the deadline gets armed. -/
def Arms (s s' : State T) : Prop :=
  s'.now = s.now ∧ s'.closeTimeoutNs = s.closeTimeoutNs ∧
    (s'.flags.deadline = s.flags.deadline ∧ s'.flags.deadlineArmed = s.flags.deadlineArmed ∨
      s.flags.deadline = none ∧ s'.flags.deadline = some ((s.now + s.closeTimeoutNs) % 2 ^ 64))

/-- The clock is before the range of the deadline ends, and the deadline is later than the clock
when it gets armed. -/
structure State.Clocked (s : State T) : Prop where
  timeout : 0 < s.closeTimeoutNs
  range : s.flags.deadline = none → s.now + s.closeTimeoutNs < 2 ^ 64

/-- A deadline that gets armed has not passed. -/
theorem Arms.expired (harms : Arms s s') (h : s.Clocked) : s'.expired = s.expired := by
  obtain ⟨hnow, -, ⟨hd, ha⟩ | ⟨hnone, hd⟩⟩ := harms
  · unfold State.expired
    rw [hd, ha, hnow]
  · have hlate : ¬ s.now + s.closeTimeoutNs ≤ s.now := by
      have htimeout := h.timeout
      omega
    unfold State.expired
    rw [hnone, hd, hnow, Nat.mod_eq_of_lt (h.range hnone)]
    show (s'.flags.deadlineArmed && decide (s.now + s.closeTimeoutNs ≤ s.now)) = false
    rw [decide_eq_false hlate, Bool.and_false]

/-- The clock keeps its room for a deadline that is not armed yet. -/
theorem State.Clocked.arms (h : s.Clocked) (harms : Arms s s') : s'.Clocked := by
  obtain ⟨hnow, hns, hd⟩ := harms
  constructor
  · rw [hns]
    exact h.timeout
  · intro hnone
    rw [hnow, hns]
    rcases hd with ⟨hd, -⟩ | ⟨-, hd⟩
    · exact h.range (hd.symm.trans hnone)
    · cases hd.symm.trans hnone

/-- A step that changes the flags like this one arms the deadline like this one. -/
theorem Arms.of_flags {c c' : State T} (harms : Arms c c') (hflags : c.flags = s.flags)
    (hflags' : s'.flags = c'.flags) (hnow : c.now = s.now) (hnow' : s'.now = c'.now)
    (hns : c.closeTimeoutNs = s.closeTimeoutNs) (hns' : s'.closeTimeoutNs = c'.closeTimeoutNs) :
    Arms s s' := by
  unfold Arms at *
  rw [hflags', hnow', hns', ← hflags, ← hnow, ← hns]
  exact harms

/-- Nothing happens. -/
theorem arms_refl (s : State T) : Arms s s := ⟨rfl, rfl, .inl ⟨rfl, rfl⟩⟩

/-- Arming the deadline. -/
theorem arms_armDeadline (s : State T) : Arms s s.armDeadline := by
  have hflags : s.flags.armDeadline s.now s.closeTimeoutNs = s.flags ∨
      s.flags.deadline = none ∧ (s.flags.armDeadline s.now s.closeTimeoutNs).deadline =
        some ((s.now + s.closeTimeoutNs) % 2 ^ 64) := by
    unfold PumpFlags.armDeadline
    split
    · next hnone => exact .inr ⟨Option.isNone_iff_eq_none.mp hnone, rfl⟩
    · exact .inl rfl
  rcases hflags with hsame | hnew
  · exact ⟨rfl, rfl, .inl ⟨congrArg PumpFlags.deadline hsame,
      congrArg PumpFlags.deadlineArmed hsame⟩⟩
  · exact ⟨rfl, rfl, .inr hnew⟩

/-- Beginning to close arms the deadline, or finds the closing begun. -/
theorem arms_beginClose (s : State T) (frame : Option CloseFrame) :
    Arms s (s.beginClose frame).2 := by
  have hclosing : Arms s (s.closing frame) :=
    arms_armDeadline { s with flags := { s.flags with wireClosing := true } }
  rcases beginClose_cases s frame with ⟨-, h⟩ | ⟨-, bytes, ws, -, h⟩ | ⟨-, err, ws, -, h⟩
  · rw [h]
    exact arms_refl s
  · rw [h]
    exact hclosing
  · rw [h]
    exact hclosing

/-- A message that is delivered leaves the deadline alone. -/
theorem arms_deliver (s : State T) (message : Message) :
    (s.deliver message).flags = s.flags ∧ (s.deliver message).now = s.now ∧
      (s.deliver message).closeTimeoutNs = s.closeTimeoutNs := by
  rcases deliver_cases s message with ⟨-, h⟩ | ⟨-, _, -, h⟩ | ⟨-, _, -, h⟩
  · rw [h]
    exact ⟨rfl, rfl, rfl⟩
  · rw [h]
    exact ⟨rfl, rfl, rfl⟩
  · rw [h]
    exact ⟨rfl, rfl, rfl⟩

/-- A data frame may overflow the budget. -/
theorem arms_readData (s : State T) (message : Message) : Arms s (s.readData message) := by
  obtain ⟨hflags, hnow, hns⟩ := arms_deliver s message
  unfold State.readData
  dsimp only
  split
  · exact (arms_beginClose (s.deliver message) none).of_flags hflags rfl hnow rfl hns rfl
  · exact (arms_refl (s.deliver message)).of_flags hflags rfl hnow rfl hns rfl

/-- A read of the drain loop may overflow, and the peer's close frame arms the deadline. -/
theorem arms_drainRead (s : State T) (read : Option Inbound) : Arms s (s.drainRead read) := by
  rcases read with - | i
  · exact arms_refl s
  cases i with
  | binary bytes => exact arms_readData s _
  | text text => exact arms_readData s _
  | close frame => exact arms_armDeadline s
  | ping | pong | frame | connectionClosed | error => exact arms_refl s
  | capacity => exact arms_beginClose (s.latchOverflow.noteCut s.hist.data.length) none

/-- The one read after the loop leaves the deadline alone. -/
theorem arms_lastDrainRead (s : State T) (read : Option Inbound) :
    Arms s (s.lastDrainRead read) := by
  have hdata (message : Message) : Arms s (s.deliver message) := by
    obtain ⟨hflags, hnow, hns⟩ := arms_deliver s message
    exact (arms_refl (s.deliver message)).of_flags hflags rfl hnow rfl hns rfl
  rcases read with - | i
  · exact arms_refl s
  cases i with
  | binary bytes => exact hdata (.binary bytes)
  | text text => exact hdata (.string text)
  | close | ping | pong | frame | capacity | connectionClosed | error => exact arms_refl s

/-- The reader task leaves the deadline alone or arms it. -/
theorem arms_reader (hs : s.readerStep = some s') : Arms s s' := by
  unfold State.readerStep at hs
  split at hs
  · obtain rfl := Option.some.inj hs
    exact arms_drainRead s.webSocketRead.2 _
  · obtain rfl := Option.some.inj hs
    exact arms_lastDrainRead s.webSocketRead.2 _
  · obtain rfl := Option.some.inj hs
    exact arms_refl s
  · split at hs
    · obtain rfl := Option.some.inj hs
      exact arms_refl s
    · cases hs
  · cases hs
  · cases hs

/-- A send leaves the deadline alone. -/
theorem arms_cmdSend (s : State T) (id : Nat) (message : Message) :
    Arms s (s.cmdSend id message) := by
  unfold State.cmdSend
  split
  · exact arms_refl s
  · unfold State.webSocketSend
    rcases T.send s.ws message with ⟨err | frame, ws⟩
    · exact arms_refl s
    · exact arms_refl s

/-- The command task leaves the deadline alone or arms it. -/
theorem arms_cmd (hs : s.cmdStep = some s') : Arms s s' := by
  unfold State.cmdStep at hs
  split at hs
  · split at hs
    · obtain rfl := Option.some.inj hs
      exact arms_refl s
    · split at hs
      · next c rest _ =>
        obtain rfl := Option.some.inj hs
        cases c with
        | send id message => exact arms_cmdSend (s.popCmd rest) id message
        | close code reason => exact arms_beginClose (s.popCmd rest) _
        | claimStream => exact arms_refl s
      · split at hs
        · cases hs
        · obtain rfl := Option.some.inj hs
          exact arms_beginClose s none
  · split at hs
    · next c rest _ =>
      obtain rfl := Option.some.inj hs
      cases c <;> exact arms_refl s
    · split at hs
      · cases hs
      · obtain rfl := Option.some.inj hs
        exact arms_refl s
  · cases hs
  · cases hs

/-- A flush that goes on leaves the flags alone. -/
theorem arms_resume {c : State T} (t : Task) (result : Except Error Unit)
    (hflags : c.flags = s.flags) (hnow : c.now = s.now) (hns : c.closeTimeoutNs = s.closeTimeoutNs) :
    Arms s (c.resume t result) := by
  unfold State.resume
  split <;> split <;> exact (arms_refl c).of_flags hflags rfl hnow rfl hns rfl

/-- Moving on inside a flush leaves the deadline alone. -/
theorem arms_setFlush {c : State T} (t : Task) (f : FlushPc) (hflags : c.flags = s.flags)
    (hnow : c.now = s.now) (hns : c.closeTimeoutNs = s.closeTimeoutNs) :
    Arms s (c.setFlush t f) := by
  unfold State.setFlush
  split <;> split <;> exact (arms_refl c).of_flags hflags rfl hnow rfl hns rfl

/-- No step the pump takes by itself moves the clock or an armed deadline. -/
theorem arms_settles {a : Action} (ha : a.settles = true) (hs : step s a = some s') :
    Arms s s' := by
  cases a with
  | reader => exact arms_reader hs
  | cmd => exact arms_cmd hs
  | lock t =>
    dsimp only [step] at hs
    split at hs
    · obtain rfl := Option.some.inj hs
      unfold State.flushLocked
      dsimp only
      split
      · exact arms_resume t _ rfl rfl rfl
      · split
        · exact arms_resume t _ rfl rfl rfl
        · exact arms_setFlush t _ rfl rfl rfl
    · cases hs
  | writeDone t =>
    dsimp only [step] at hs
    split at hs
    · obtain rfl := Option.some.inj hs
      exact arms_resume t _ rfl rfl rfl
    · cases hs
  | accept n =>
    dsimp only [step] at hs
    split at hs
    · split at hs
      · obtain rfl := Option.some.inj hs
        exact arms_setFlush _ _ rfl rfl rfl
      · cases hs
    · cases hs
  | send | receive | receiveViaStream | close | drop | pollReceive | writeBound | refuse | chunk
  | transportEnd | feederLock | feederNext | elementTaken | streamDropped | payloadTaken
  | payloadDone | payloadDropped | tick => cases ha

/-! ### Nearer to waiting -/

/-- How far a flush is from its end. -/
def FlushPc.rank : FlushPc → Nat
  | .lock => 3
  | .write (_ :: _) _ => 2
  | .write [] _ => 1

/-- How far the reader is from waiting. -/
def ReaderPc.rank : ReaderPc → Nat
  | .flushing f _ => 4 + f.rank
  | .drain => 4
  | .parked | .lastDrain => 2
  | .finalize => 1
  | .finished => 0

/-- How far the command task is from waiting. -/
def CmdPc.rank : CmdPc → Nat
  | .flushing f _ => 2 + f.rank
  | .live => 1
  | .drained | .exited => 0

/-- How far the pump is from waiting. -/
def State.rank (s : State T) : Nat :=
  10 * (s.shared.cmds.length + s.io.inbound.length) + s.reader.rank + s.cmd.rank

theorem ReaderNext.rank_pc (next : ReaderNext) : next.pc.rank ≤ 4 := by
  cases next <;> decide

theorem CmdNext.rank_pc (next : CmdNext) : next.pc.rank ≤ 1 := by
  cases next with
  | reply | live => exact le_refl 1
  | exit => exact Nat.zero_le 1

/-- A step of the reader brings the pump nearer to waiting. -/
theorem rank_reader (h : s.Driven isOpen) (hs : s.readerStep = some s') : s'.rank < s.rank := by
  have hframe := ReaderFrame.step hs
  have hcmds : s'.shared.cmds = s.shared.cmds := by rw [hframe]
  have hnearer (hinbound : s'.io.inbound.length ≤ s.io.inbound.length)
      (hreader : s'.reader.rank + 10 * s'.io.inbound.length <
        s.reader.rank + 10 * s.io.inbound.length) : s'.rank < s.rank := by
    unfold State.rank
    rw [hframe.cmd, hcmds]
    omega
  unfold State.readerStep at hs
  split at hs
  · next hdrain =>
    obtain rfl := Option.some.inj hs
    rcases readerDrain_cases h.sound hdrain with ⟨hin, hstep, hgear⟩ | ⟨i, hin, hstep, hgear⟩
    · have hin' : s.readerDrain.io.inbound = [] := by
        rw [hstep]
        exact congrArg Gear.inbound hgear
      have hr' : s.readerDrain.reader = .parked := by rw [hstep]
      rw [hin, hin', hr', hdrain] at hnearer
      exact hnearer (le_refl _) (by decide)
    · have hin' : s.readerDrain.io.inbound = [] := by
        rw [hstep]
        exact (drainRead_inbound _ _).trans (congrArg Gear.inbound hgear)
      have hr' : s.readerDrain.reader.rank ≤ 7 := by
        obtain ⟨flush, next, hr⟩ := drainRead_reader s.webSocketRead.2 i
        rw [hstep, hr]
        cases flush <;> cases next <;> decide
      rw [hin, hin', hdrain] at hnearer
      refine hnearer (Nat.zero_le _) ?_
      show s.readerDrain.reader.rank + 0 < 4 + 10
      omega
  · next hlast =>
    obtain rfl := Option.some.inj hs
    obtain ⟨hstep, hgear⟩ := readerLastDrain_eq h.sound hlast
    have hin : s.io.inbound = [] :=
      h.sound.inbound_of_ne (by rw [show s.gear.reader = _ from hlast]; decide)
    have hin' : s.readerLastDrain.io.inbound = [] := congrArg Gear.inbound hgear
    have hr' : s.readerLastDrain.reader = .finalize := congrArg Gear.reader hgear
    rw [hin, hin', hr', hlast] at hnearer
    exact hnearer (le_refl _) (by decide)
  · next hfinalize =>
    obtain rfl := Option.some.inj hs
    rw [hfinalize] at hnearer
    exact hnearer (le_refl _) (Nat.add_lt_add_right Nat.zero_lt_one _)
  · next hparked =>
    split at hs
    · obtain rfl := Option.some.inj hs
      rw [hparked] at hnearer
      exact hnearer (le_refl _) (Nat.add_lt_add_right Nat.one_lt_two _)
    · cases hs
  · cases hs
  · cases hs

/-- After a command the command task is outside of a flush or about to take the lock for one. -/
theorem cmdLive_spec (s : State T) (hcmd : s.cmd = .live) (c : Cmd) :
    (s.cmdLive c).shared.cmds = s.shared.cmds ∧ (s.cmdLive c).cmd.rank ≤ 5 := by
  have hlive : s.cmd.rank ≤ 5 := by rw [hcmd]; decide
  cases c with
  | send id message =>
    show (s.cmdSend id message).shared.cmds = _ ∧ (s.cmdSend id message).cmd.rank ≤ 5
    unfold State.cmdSend
    split
    · exact ⟨rfl, hlive⟩
    · unfold State.webSocketSend
      rcases T.send s.ws message with ⟨err | frame, ws⟩
      · exact ⟨rfl, hlive⟩
      · exact ⟨rfl, le_refl 5⟩
  | close code reason =>
    obtain ⟨-, -, hcmds, -⟩ := beginClose_tasks s (closeFrameOf code reason)
    refine ⟨hcmds, ?_⟩
    show (State.cmdGoes _ (s.beginClose (closeFrameOf code reason)).1 .live).cmd.rank ≤ 5
    cases (s.beginClose (closeFrameOf code reason)).1 with
    | true => exact le_refl 5
    | false => exact Nat.le_of_ble_eq_true rfl
  | claimStream => exact ⟨rfl, hlive⟩

/-- A step of the command task brings the pump nearer to waiting. -/
theorem rank_cmd (h : s.Driven isOpen) (hs : s.cmdStep = some s') : s'.rank < s.rank := by
  have hframe := CmdFrame.step hs
  have hinbound : s'.io.inbound = s.io.inbound := by rw [hframe]
  have hnearer (hcmd : s'.cmd.rank + 10 * s'.shared.cmds.length <
      s.cmd.rank + 10 * s.shared.cmds.length) : s'.rank < s.rank := by
    unfold State.rank
    rw [hframe.reader, hinbound]
    omega
  have hlive : s.cmdSenderLive = true := cmdSenderLive_of_resource h.sound.dropped
  unfold State.cmdStep at hs
  split at hs
  · next hcmd =>
    split at hs
    · obtain rfl := Option.some.inj hs
      rw [hcmd] at hnearer
      exact hnearer (Nat.add_lt_add_right Nat.zero_lt_one _)
    · split at hs
      · next c rest hcmds =>
        obtain rfl := Option.some.inj hs
        obtain ⟨hcmds', hrank⟩ := cmdLive_spec (s.popCmd rest) hcmd c
        apply hnearer
        rw [hcmds', hcmds, hcmd]
        show _ + 10 * rest.length < 1 + 10 * (rest.length + 1)
        omega
      · cases hs
  · next hcmd =>
    split at hs
    · next c rest hcmds =>
      obtain rfl := Option.some.inj hs
      have hspec : ((s.popCmd rest).cmdDrained c).shared.cmds = rest ∧
          ((s.popCmd rest).cmdDrained c).cmd = s.cmd := by
        cases c <;> exact ⟨rfl, rfl⟩
      apply hnearer
      rw [hspec.1, hspec.2, hcmds]
      show _ + 10 * rest.length < _ + 10 * (rest.length + 1)
      omega
    · rw [if_pos hlive] at hs
      cases hs
  · cases hs
  · cases hs

theorem FlushPc.rank_pos (f : FlushPc) : 0 < f.rank := by
  rcases f with - | ⟨- | ⟨byte, rest⟩, bound⟩
  · exact Nat.zero_lt_succ 2
  · exact Nat.zero_lt_one
  · exact Nat.zero_lt_succ 1

/-- What a flush does to the rank: its task's suspension point moves, and nothing else. -/
theorem rank_flush {t : Task} {f : FlushPc} {c : State T} (hf : s.flush t = some f)
    (hreader : c.reader = s.reader) (hcmd : c.cmd = s.cmd) (hcmds : c.shared.cmds = s.shared.cmds)
    (hinbound : c.io.inbound = s.io.inbound) :
    (∀ result, (c.resume t result).rank < s.rank) ∧
      ∀ g : FlushPc, g.rank < f.rank → (c.setFlush t g).rank < s.rank := by
  have hpos := f.rank_pos
  cases t with
  | reader =>
    obtain ⟨next, hr⟩ := flush_reader.mp hf
    have hpc := next.rank_pc
    refine ⟨fun result => ?_, fun g hg => ?_⟩
    · rw [resume_reader (hreader.trans hr)]
      show 10 * (c.shared.cmds.length + c.io.inbound.length) + next.pc.rank + c.cmd.rank < s.rank
      unfold State.rank
      rw [hcmd, hcmds, hinbound, hr]
      unfold ReaderPc.rank at *
      dsimp only
      omega
    · rw [setFlush_reader (hreader.trans hr)]
      show 10 * (c.shared.cmds.length + c.io.inbound.length) + (4 + g.rank) + c.cmd.rank < s.rank
      unfold State.rank
      rw [hcmd, hcmds, hinbound, hr]
      show _ < _ + (4 + f.rank) + _
      omega
  | cmd =>
    obtain ⟨next, hc⟩ := flush_cmd.mp hf
    have hpc := next.rank_pc
    refine ⟨fun result => ?_, fun g hg => ?_⟩
    · rw [resume_cmd (hcmd.trans hc)]
      show 10 * (c.shared.cmds.length + c.io.inbound.length) + c.reader.rank + next.pc.rank < s.rank
      unfold State.rank
      rw [hreader, hcmds, hinbound, hc]
      show _ < _ + (2 + f.rank)
      omega
    · rw [setFlush_cmd (hcmd.trans hc)]
      show 10 * (c.shared.cmds.length + c.io.inbound.length) + c.reader.rank + (2 + g.rank) < s.rank
      unfold State.rank
      rw [hreader, hcmds, hinbound, hc]
      show _ < _ + (2 + f.rank)
      omega

/-- While a task waits for the lock, no task writes. -/
theorem lock_free {t : Task} (h : s.Driven isOpen) (hf : s.flush t = some .lock) :
    s.writeLock = none := by
  by_contra hl
  obtain ⟨t', hl⟩ := Option.ne_none_iff_exists'.mp hl
  have hw : s.gear.writes t' = true := (h.sound.lock t').mp hl
  have hcmd := h.sound.cmd
  cases t with
  | reader =>
    obtain ⟨next, hr⟩ := flush_reader.mp hf
    have hlive : s.gear.cmd = .live := (h.sound.busy (by
      rw [show s.gear.reader = _ from hr]
      rfl)).1
    cases t' with
    | reader =>
      unfold Gear.writes at hw
      rw [show s.gear.reader = _ from hr] at hw
      cases hw
    | cmd =>
      unfold Gear.writes at hw
      rw [hlive] at hw
      cases hw
  | cmd =>
    obtain ⟨next, hc⟩ := flush_cmd.mp hf
    have hparked : s.gear.reader = .parked := by
      rcases hcmd with hcmd | ⟨f', next', -, -, hparked⟩ | ⟨hcmd, -⟩
      · cases hcmd.symm.trans hc
      · exact hparked
      · cases hcmd.symm.trans hc
    cases t' with
    | reader =>
      unfold Gear.writes at hw
      rw [hparked] at hw
      cases hw
    | cmd =>
      unfold Gear.writes at hw
      rw [show s.gear.cmd = _ from hc] at hw
      cases hw

/-- A task inside a flush has a step to take. -/
theorem flush_progress {t : Task} {f : FlushPc} (h : s.Driven isOpen) (hf : s.flush t = some f) :
    ∃ a s', a.settles = true ∧ step s a = some s' ∧ s'.rank < s.rank := by
  rcases f with - | ⟨- | ⟨byte, rest⟩, bound⟩
  · have hl := lock_free h hf
    refine ⟨.lock t, s.flushLocked t, rfl, if_pos ⟨hl, hf⟩, ?_⟩
    obtain ⟨hresume, -⟩ := rank_flush (c := s.drainOutbound.2) hf rfl rfl rfl rfl
    unfold State.flushLocked
    dsimp only
    split
    · exact hresume _
    · split
      · exact hresume _
      · refine (rank_flush (c := s.drainOutbound.2.holdLock t s.drainOutbound.1) hf rfl rfl rfl
          rfl).2 _ ?_
        cases s.drainOutbound.1 with
        | nil => exact Nat.one_lt_succ_succ 1
        | cons => exact Nat.lt_succ_self 2
  · refine ⟨.writeDone t, s.releaseLock.resume t (.ok ()), rfl, ?_, ?_⟩
    · dsimp only [step]
      rw [hf]
    · exact (rank_flush (c := s.releaseLock) hf rfl rfl rfl rfl).1 _
  · have hl := h.sound.writeLock_of_flush hf
    have hrank := rank_flush (c := s.acceptBytes ((byte :: rest).take (byte :: rest).length)) hf rfl
      rfl rfl rfl
    refine ⟨.accept (byte :: rest).length, (s.acceptBytes ((byte :: rest).take
      (byte :: rest).length)).setFlush t (.write [] bound), rfl, ?_,
      hrank.2 (.write [] bound) (Nat.lt_succ_self 1)⟩
    dsimp only [step]
    rw [hl]
    dsimp only
    rw [hf]
    dsimp only
    rw [List.drop_length]

/-- A pump that does not wait has a step to take by itself. -/
theorem settles_progress (h : s.Driven isOpen) (hw : ¬ s.Waiting) :
    ∃ a s', a.settles = true ∧ step s a = some s' ∧ s'.rank < s.rank := by
  have hreader (c : State T) (hs : s.readerStep = some c) :
      ∃ a s', a.settles = true ∧ step s a = some s' ∧ s'.rank < s.rank :=
    ⟨.reader, c, rfl, hs, rank_reader h hs⟩
  have hcmd (c : State T) (hs : s.cmdStep = some c) :
      ∃ a s', a.settles = true ∧ step s a = some s' ∧ s'.rank < s.rank :=
    ⟨.cmd, c, rfl, hs, rank_cmd h hs⟩
  by_cases hidle : s.reader = .parked ∧ s.expired = false ∨ s.reader = .finished
  · -- The reader waits: the command task does not.
    cases hc : s.cmd with
    | live =>
      cases hdone : s.flags.pumpDone with
      | true =>
        refine hcmd { s with cmd := .drained } ?_
        unfold State.cmdStep
        rw [hc, hdone]
        rfl
      | false =>
        cases hcmds : s.shared.cmds with
        | nil => exact absurd ⟨hidle, .inl ⟨hc, hdone⟩, hcmds⟩ hw
        | cons c rest =>
          refine hcmd ((s.popCmd rest).cmdLive c) ?_
          unfold State.cmdStep
          rw [hc, hdone, hcmds]
          rfl
    | flushing f next => exact flush_progress h (flush_cmd.mpr ⟨next, hc⟩)
    | drained =>
      cases hcmds : s.shared.cmds with
      | nil => exact absurd ⟨hidle, .inr hc, hcmds⟩ hw
      | cons c rest =>
        refine hcmd ((s.popCmd rest).cmdDrained c) ?_
        unfold State.cmdStep
        rw [hc, hcmds]
    | exited =>
      rcases h.sound.cmd with hc' | ⟨f, next, hc', -⟩ | ⟨hc', -⟩
      · cases hc'.symm.trans hc
      · cases hc'.symm.trans hc
      · cases hc'.symm.trans hc
  · cases hr : s.reader with
    | drain =>
      refine hreader s.readerDrain ?_
      unfold State.readerStep
      rw [hr]
    | flushing f next => exact flush_progress h (flush_reader.mpr ⟨next, hr⟩)
    | parked =>
      have hexpired : s.expired = true := by
        by_contra hno
        exact hidle (.inl ⟨hr, Bool.eq_false_iff.mpr hno⟩)
      refine hreader { s with reader := .finalize } ?_
      unfold State.readerStep
      rw [hr, hexpired]
      rfl
    | lastDrain =>
      refine hreader s.readerLastDrain ?_
      unfold State.readerStep
      rw [hr]
    | finalize =>
      refine hreader s.readerFinalize ?_
      unfold State.readerStep
      rw [hr]
    | finished => exact absurd (.inr hr) hidle

/-- The pump settles, whatever it is fed. -/
theorem progresses (hT : T.StaysOpen isOpen) :
    (drive T).Progresses (fun s => s.Driven isOpen ∧ s.Clocked) State.rank := by
  rintro s ⟨h, hclock⟩ hw
  obtain ⟨a, s', ha, hs, hrank⟩ := settles_progress h hw
  have harms := arms_settles ha hs
  have hsettle : (drive T).settle s s' := ⟨a, ha, hs, harms.expired hclock⟩
  exact ⟨s', hsettle, ⟨(driven_settle hT h hsettle).1, hclock.arms harms⟩, hrank⟩

/-- The events leave the clock alone while no deadline is armed. -/
theorem clocked_fed (h : s.Clocked) (e : Event) : (s.fed e).Clocked := by
  cases e with
  | send message =>
    show (s.callSend message).Clocked
    unfold State.callSend
    dsimp only
    split <;> exact ⟨h.timeout, h.range⟩
  | close code reason => exact ⟨h.timeout, h.range⟩
  | inbound outcome =>
    show ((step s (.chunk [outcome])).getD s).Clocked
    dsimp only [step]
    split <;> exact ⟨h.timeout, h.range⟩
  | endOfStream =>
    show ((step s .transportEnd).getD s).Clocked
    dsimp only [step]
    split <;> exact ⟨h.timeout, h.range⟩
  | deadline =>
    refine ⟨h.timeout, fun hnone => ?_⟩
    have hsame : s.flags.deadline = none := hnone
    show max s.now (s.flags.deadline.getD s.now) + s.closeTimeoutNs < 2 ^ 64
    rw [hsame, Option.getD_none, max_self]
    exact h.range hsame

/-- Every list of events can be fed to the pump of a connection whose deadline is later than the
clock when it gets armed. -/
theorem exists_fed (hT : T.StaysOpen isOpen) (config : Config) {ws : T.Ctx} (hws : isOpen ws)
    (now : Nat) (htimeout : 0 < config.closeTimeoutNs)
    (hrange : now + config.closeTimeoutNs < 2 ^ 64) (events : List Event) :
    ∃ s, (drive T).Fed (State.start config ws .empty now) events s :=
  (progresses hT).exists_fed
    (fun _ e h hw => ⟨(driven_fed h.1 hw e).1, clocked_fed h.2 e⟩) events
    ⟨(driven_start config hws now).1, ⟨htimeout, fun _ => hrange⟩⟩

end Polymorph.Provider
