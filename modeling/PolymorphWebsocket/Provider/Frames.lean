import PolymorphWebsocket.Provider.Pump

/-!
# The guest provider: who changes what

The reader task, the command task, the flushes of either, the transport and the guest's side (the
calls, the pending receives, the stream feeder) each change their own part of the state.  A frame
says which part: it equates the state after a step with the state before it, the actor's own
fields apart.  An invariant about one part of the state then argues about the actors that change
that part, and the frames of the others carry it over.

`beginClose_cases`, `deliver_cases` and `Flushes` say once what the branching pieces of the two
tasks can do.
-/

namespace Polymorph.Provider

open Futures

variable {T : Tungstenite} {s s' s'' : State T}

/-! ### Frames -/

/-- The part of the state the reader task changes between two awaits. -/
def ReaderFrame (s s' : State T) : Prop :=
  s' = { s with
    shared := { s.shared with
      state := s'.shared.state, closed := s'.shared.closed, closeInfo := s'.shared.closeInfo
      queue := s'.shared.queue, budget := s'.shared.budget }
    flags := { s'.flags with writeDead := s.flags.writeDead }
    ws := s'.ws, io := s'.io, reader := s'.reader, peerFrame := s'.peerFrame
    hist := { s.hist with
      closeFrames := s'.hist.closeFrames, written := s'.hist.written
      replyEnd := s'.hist.replyEnd, owed := s'.hist.owed, data := s'.hist.data
      cut := s'.hist.cut } }

/-- The part of the state the command task changes between two awaits. -/
def CmdFrame (s s' : State T) : Prop :=
  s' = { s with
    shared := { s.shared with cmds := s'.shared.cmds }
    flags := { s'.flags with writeDead := s.flags.writeDead, pumpDone := s.flags.pumpDone }
    ws := s'.ws, io := { s.io with outbound := s'.io.outbound }, cmd := s'.cmd
    feeder := s'.feeder
    hist := { s.hist with
      replies := s'.hist.replies, frames := s'.hist.frames, closeFrames := s'.hist.closeFrames
      written := s'.hist.written, replyEnd := s'.hist.replyEnd, owed := s'.hist.owed
      cut := s'.hist.cut } }

/-- The part of the state a flush changes from taking the lock on. -/
def FlushFrame (s s' : State T) : Prop :=
  s' = { s with
    flags := { s'.flags with wireClosing := s.flags.wireClosing, pumpDone := s.flags.pumpDone }
    io := { s.io with outbound := s'.io.outbound }
    writeLock := s'.writeLock, reader := s'.reader, cmd := s'.cmd, accepted := s'.accepted
    hist := { s.hist with
      replies := s'.hist.replies, handed := s'.hist.handed, owed := s'.hist.owed } }

/-- The part of the state the guest's side changes. -/
def GuestFrame (s s' : State T) : Prop :=
  s' = { s with
    shared := { s'.shared with
      closed := s.shared.closed, closeInfo := s.shared.closeInfo
      budget := { s'.shared.budget with overflowed := s.shared.budget.overflowed } }
    receives := s'.receives, feeder := s'.feeder, dropped := s'.dropped, nextId := s'.nextId
    hist := { s.hist with
      sends := s'.hist.sends, replies := s'.hist.replies, taken := s'.hist.taken
      received := s'.hist.received, closeCall := s'.hist.closeCall
      elements := s'.hist.elements, payload := s'.hist.payload } }

/-- The part of the state that taking from the inbound queue changes. -/
def InboxFrame (s s' : State T) : Prop :=
  s' = { s with
    shared := { s.shared with
      queue := s'.shared.queue, queueLock := s'.shared.queueLock
      budget := { s'.shared.budget with overflowed := s.shared.budget.overflowed } }
    receives := s'.receives, feeder := s'.feeder
    hist := { s.hist with taken := s'.hist.taken, received := s'.hist.received } }

/-- The part of the state the inbound transport and the clock change. -/
def TransportFrame (s s' : State T) : Prop :=
  s' = { s with
    io := { s'.io with outbound := s.io.outbound }, reader := s'.reader, now := s'.now }

/-- Frames compose: what two pieces of the reader task change lies in its part. -/
theorem ReaderFrame.trans (h₁ : ReaderFrame s s') (h₂ : ReaderFrame s' s'') :
    ReaderFrame s s'' := by
  unfold ReaderFrame at *
  rw [h₁] at h₂
  exact h₂

/-- Frames of the command task compose. -/
theorem CmdFrame.trans (h₁ : CmdFrame s s') (h₂ : CmdFrame s' s'') : CmdFrame s s'' := by
  unfold CmdFrame at *
  rw [h₁] at h₂
  exact h₂

/-- Frames of a flush compose. -/
theorem FlushFrame.trans (h₁ : FlushFrame s s') (h₂ : FlushFrame s' s'') :
    FlushFrame s s'' := by
  unfold FlushFrame at *
  rw [h₁] at h₂
  exact h₂

/-- Frames of the guest's side compose. -/
theorem GuestFrame.trans (h₁ : GuestFrame s s') (h₂ : GuestFrame s' s'') : GuestFrame s s'' := by
  unfold GuestFrame at *
  rw [h₁] at h₂
  exact h₂

/-- Frames of the inbound queue compose. -/
theorem InboxFrame.trans (h₁ : InboxFrame s s') (h₂ : InboxFrame s' s'') : InboxFrame s s'' := by
  unfold InboxFrame at *
  rw [h₁] at h₂
  exact h₂

/-- Taking from the inbound queue belongs to the guest's side. -/
theorem GuestFrame.of_inbox (h : InboxFrame s s') : GuestFrame s s' := by
  rw [h]
  rfl

/-- The command task does not move the reader task. -/
theorem CmdFrame.reader (h : CmdFrame s s') : s'.reader = s.reader := by
  rw [h]

/-- The reader task does not move the command task. -/
theorem ReaderFrame.cmd (h : ReaderFrame s s') : s'.cmd = s.cmd := by
  rw [h]

/-! ### The branching pieces -/

/-- The state `beginClose` reaches when the closing handshake begins, before the call on the
WebSocket. -/
def State.closing (s : State T) (frame : Option CloseFrame) : State T :=
  ({ s with
    flags := { s.flags with wireClosing := true }
    hist := { s.hist with closeFrames := s.hist.closeFrames ++ [frame] } }.noteCut
      s.hist.data.length).armDeadline

/-- The resource is an owner of `Shared`. -/
theorem cmdSenderLive_of_resource (h : s.dropped = false) : s.cmdSenderLive = true := by
  simp [State.cmdSenderLive, h]

/-- What `beginClose` can do: nothing when the handshake has begun, begin it with a close frame in
the virtual transport, or begin it and have the call on the WebSocket fail. -/
theorem beginClose_cases (s : State T) (frame : Option CloseFrame) :
    (s.flags.wireClosing = true ∧ s.beginClose frame = (false, s)) ∨
    (s.flags.wireClosing = false ∧ ∃ bytes ws, T.close s.ws frame = (.ok bytes, ws) ∧
      s.beginClose frame = (true, (((s.closing frame).writeFrame bytes).writeQueued).setWs ws)) ∨
    (s.flags.wireClosing = false ∧ ∃ err ws, T.close s.ws frame = (.error err, ws) ∧
      s.beginClose frame = (false, { s.closing frame with ws := ws })) := by
  have hws : (s.closing frame).ws = s.ws := rfl
  by_cases hw : s.flags.wireClosing = true
  · exact .inl ⟨hw, by simp [State.beginClose, hw]⟩
  · have hw : s.flags.wireClosing = false := by simpa using hw
    rcases hclose : T.close s.ws frame with ⟨(err | bytes), ws⟩
    · have hfails : (s.closing frame).webSocketClose frame =
          (.error err, { s.closing frame with ws := ws }) := by
        simp [State.webSocketClose, hws, hclose]
      refine .inr (.inr ⟨hw, err, ws, rfl, ?_⟩)
      rw [State.beginClose, if_neg (by simp [hw])]
      dsimp only
      split
      · next hcloses => cases hcloses.symm.trans hfails
      · next hcloses =>
        cases hcloses.symm.trans hfails
        rfl
    · have hcloses : (s.closing frame).webSocketClose frame =
          (.ok (), (((s.closing frame).writeFrame bytes).writeQueued).setWs ws) := by
        simp [State.webSocketClose, hws, hclose]
      refine .inr (.inl ⟨hw, bytes, ws, rfl, ?_⟩)
      rw [State.beginClose, if_neg (by simp [hw])]
      dsimp only
      split
      · next hcloses' =>
        cases hcloses'.symm.trans hcloses
        rfl
      · next hfails => cases hfails.symm.trans hcloses

/-- What `deliver` can do with a message, noted in the history: discard it during the closing
handshake, queue it under the budget, or discard it with the overflow latched. -/
theorem deliver_cases (s : State T) (message : Message) :
    let noted : State T := { s with hist := { s.hist with data := s.hist.data ++ [message] } }
    (s.flags.wireClosing = true ∧ s.deliver message = noted) ∨
    (s.flags.wireClosing = false ∧ ∃ budget, s.shared.budget.reserve message.payloadLen =
        (true, budget) ∧ s.deliver message = { noted with shared := { noted.shared with
          budget := budget, queue := noted.shared.queue.push message } }) ∨
    (s.flags.wireClosing = false ∧ ∃ budget, s.shared.budget.reserve message.payloadLen =
        (false, budget) ∧ s.deliver message =
          { noted with shared := { noted.shared with budget := budget } }.noteCut
            s.hist.data.length) := by
  by_cases hw : s.flags.wireClosing = true
  · exact .inl ⟨hw, by simp [State.deliver, hw]⟩
  · have hw : s.flags.wireClosing = false := by simpa using hw
    rcases hr : s.shared.budget.reserve message.payloadLen with ⟨fits | fits, budget⟩
    · exact .inr (.inr ⟨hw, budget, rfl, by simp [State.deliver, hw, hr]⟩)
    · exact .inr (.inl ⟨hw, budget, rfl, by simp [State.deliver, hw, hr]⟩)

/-- Delivering a message suspends nobody. -/
theorem deliver_reader (s : State T) (message : Message) :
    (s.deliver message).reader = s.reader := by
  rcases deliver_cases s message with ⟨-, h⟩ | ⟨-, _, -, h⟩ | ⟨-, _, -, h⟩
  · rw [h]
  · rw [h]
  · rw [h]; rfl

@[simp] theorem deliver_flags (s : State T) (message : Message) :
    (s.deliver message).flags = s.flags := by
  rcases deliver_cases s message with ⟨-, h⟩ | ⟨-, _, -, h⟩ | ⟨-, _, -, h⟩
  · rw [h]
  · rw [h]
  · rw [h]; rfl

/-- After a `read()` of the drain loop that returned something, the reader calls a flush or goes on
at a point outside of one. -/
theorem drainRead_reader (s : State T) (i : Inbound) : ∃ (flush : Bool) (next : ReaderNext),
    (s.drainRead (some i)).reader = if flush then .flushing .lock next else next.pc := by
  cases i with
  | binary | text =>
    simp only [State.drainRead, State.readData]
    split
    · exact ⟨_, .drain, rfl⟩
    · exact ⟨false, .drain, rfl⟩
  | close | ping | pong => exact ⟨true, .drain, rfl⟩
  | frame => exact ⟨false, .drain, rfl⟩
  | capacity => exact ⟨_, .finalize, rfl⟩
  | connectionClosed | error => exact ⟨false, .finalize, rfl⟩

/-- After a `read()` of the final drain the reader reads on or finalizes. -/
theorem lastDrainRead_reader (hr : s.reader = .lastDrain) (read : Option Inbound) :
    (s.lastDrainRead read).reader = .lastDrain ∨ (s.lastDrainRead read).reader = .finalize := by
  rcases read with - | i
  · exact .inr rfl
  cases i with
  | binary bytes => exact .inl ((deliver_reader s _).trans hr)
  | text text => exact .inl ((deliver_reader s _).trans hr)
  | ping | pong | frame => exact .inl hr
  | close | capacity | connectionClosed | error => exact .inr rfl

/-! ### Flushes -/

/-- The reader task is inside `flush_outbound`. -/
theorem flush_reader {f : FlushPc} :
    s.flush .reader = some f ↔ ∃ next, s.reader = .flushing f next := by
  unfold State.flush
  cases s.reader <;> simp

/-- The command task is inside `flush_outbound`. -/
theorem flush_cmd {f : FlushPc} : s.flush .cmd = some f ↔ ∃ next, s.cmd = .flushing f next := by
  unfold State.flush
  cases s.cmd <;> simp

/-- The reader task goes on after its flush, whatever came of it. -/
theorem resume_reader {f : FlushPc} {next : ReaderNext} (h : s.reader = .flushing f next)
    (result : Except Error Unit) : s.resume .reader result = { s with reader := next.pc } := by
  simp [State.resume, h]

/-- The command task goes on after its flush, and may acknowledge a send with its result. -/
theorem resume_cmd {f : FlushPc} {next : CmdNext} (h : s.cmd = .flushing f next)
    (result : Except Error Unit) :
    s.resume .cmd result = { s with
      cmd := next.pc
      hist := { s.hist with replies := s.hist.replies ++ next.acks result } } := by
  simp [State.resume, h]

/-- The reader task moves on inside its flush. -/
theorem setFlush_reader {f : FlushPc} {next : ReaderNext} (h : s.reader = .flushing f next)
    (g : FlushPc) : s.setFlush .reader g = { s with reader := .flushing g next } := by
  simp [State.setFlush, h]

/-- The command task moves on inside its flush. -/
theorem setFlush_cmd {f : FlushPc} {next : CmdNext} (h : s.cmd = .flushing f next)
    (g : FlushPc) : s.setFlush .cmd g = { s with cmd := .flushing g next } := by
  simp [State.setFlush, h]

/-- A task that goes on after its flush leaves the flags and the shared state alone. -/
@[simp] theorem resume_flags (s : State T) (t : Task) (result : Except Error Unit) :
    (s.resume t result).flags = s.flags := by
  unfold State.resume
  split <;> split <;> rfl

@[simp] theorem resume_shared (s : State T) (t : Task) (result : Except Error Unit) :
    (s.resume t result).shared = s.shared := by
  unfold State.resume
  split <;> split <;> rfl

/-- So does one that moves on inside its flush. -/
@[simp] theorem setFlush_flags (s : State T) (t : Task) (f : FlushPc) :
    (s.setFlush t f).flags = s.flags := by
  unfold State.setFlush
  split <;> split <;> rfl

@[simp] theorem setFlush_shared (s : State T) (t : Task) (f : FlushPc) :
    (s.setFlush t f).shared = s.shared := by
  unfold State.setFlush
  split <;> split <;> rfl

/-- Returning from a flush takes its task out of `flush_outbound`, and no other task. -/
theorem flush_resume {t : Task} {f : FlushPc} (hf : s.flush t = some f)
    (result : Except Error Unit) (t' : Task) :
    (s.resume t result).flush t' = if t' = t then none else s.flush t' := by
  cases t with
  | reader =>
    obtain ⟨next, hr⟩ := flush_reader.mp hf
    rw [resume_reader hr]
    cases t' <;> cases next <;> rfl
  | cmd =>
    obtain ⟨next, hc⟩ := flush_cmd.mp hf
    rw [resume_cmd hc]
    cases t' <;> cases next <;> rfl

/-- Moving on inside `flush_outbound` moves this task only. -/
theorem flush_setFlush {t : Task} {f : FlushPc} (hf : s.flush t = some f) (g : FlushPc)
    (t' : Task) : (s.setFlush t g).flush t' = if t' = t then some g else s.flush t' := by
  cases t with
  | reader =>
    obtain ⟨next, hr⟩ := flush_reader.mp hf
    rw [setFlush_reader hr]
    cases t' <;> rfl
  | cmd =>
    obtain ⟨next, hc⟩ := flush_cmd.mp hf
    rw [setFlush_cmd hc]
    cases t' <;> rfl

/-- What a task that is inside `flush_outbound` can do, the outbound stream included. -/
inductive Flushes (s : State T) (t : Task) : State T → Prop
  /-- The lock is free and there is nothing to write. -/
  | empty (hl : s.writeLock = none) (hf : s.flush t = some .lock) (hb : s.io.outbound = []) :
      Flushes s t (s.drainOutbound.2.resume t
        (if s.flags.writeDead then .error .closed else .ok ()))
  /-- The lock is free, and the bytes drained have nowhere to go. -/
  | dead (hl : s.writeLock = none) (hf : s.flush t = some .lock) (hd : s.flags.writeDead = true) :
      Flushes s t (s.drainOutbound.2.resume t (.error .closed))
  /-- The lock is free, and the write starts. -/
  | start (hl : s.writeLock = none) (hf : s.flush t = some .lock) (hb : s.io.outbound ≠ [])
      (hd : s.flags.writeDead = false) :
      Flushes s t ((s.drainOutbound.2.holdLock t s.io.outbound).setFlush t
        (.write s.io.outbound (if s.flags.deadline.isNone then .localClose else .deadline)))
  | done {bound : WriteBound} (hf : s.flush t = some (.write [] bound)) :
      Flushes s t (s.releaseLock.resume t (.ok ()))
  /-- A local close was observed during the write. -/
  | localClose {byte : UInt8} {rest : Bytes}
      (hf : s.flush t = some (.write (byte :: rest) .localClose))
      (hc : s.shared.localClosed = true) :
      Flushes s t (s.armDeadline.setFlush t (.write (byte :: rest) .deadline))
  /-- The deadline passed, or the stream dropped its end. -/
  | fail {byte : UInt8} {rest : Bytes} {bound : WriteBound}
      (hf : s.flush t = some (.write (byte :: rest) bound))
      (he : s.writeLock = some t ∨ bound = .deadline ∧ s.expired = true) :
      Flushes s t (s.failWrite t)
  | accept (n : Nat) {rest : Bytes} {bound : WriteBound} (hl : s.writeLock = some t)
      (hf : s.flush t = some (.write rest bound)) :
      Flushes s t ((s.acceptBytes (rest.take n)).setFlush t (.write (rest.drop n) bound))

/-- The flush branch of a step from taking the lock on. -/
theorem flushes_of_lock {t : Task} (hl : s.writeLock = none) (hf : s.flush t = some .lock) :
    Flushes s t (s.flushLocked t) := by
  unfold State.flushLocked
  by_cases hb : s.io.outbound = []
  · have h := Flushes.empty hl hf hb
    simpa [State.drainOutbound, Buffers.drainOutbound, hb] using h
  · by_cases hd : s.flags.writeDead = true
    · have h := Flushes.dead hl hf hd
      simpa [State.drainOutbound, Buffers.drainOutbound, hb, hd] using h
    · have h := Flushes.start hl hf hb (by simpa using hd)
      simpa [State.drainOutbound, Buffers.drainOutbound, hb, hd] using h

/-- Where a flush of the reader task leaves the two tasks. -/
theorem Flushes.reader_pc (h : Flushes s .reader s') : s'.cmd = s.cmd ∧
    ∃ f next, s.reader = .flushing f next ∧
      (s'.reader = next.pc ∨ ∃ g, s'.reader = .flushing g next) := by
  have hresume {c : State T} {f : FlushPc} {next : ReaderNext} (hr : c.reader = .flushing f next)
      (result : Except Error Unit) :
      (c.resume .reader result).cmd = c.cmd ∧ (c.resume .reader result).reader = next.pc := by
    rw [resume_reader hr]
    exact ⟨rfl, rfl⟩
  have hset {c : State T} {f : FlushPc} {next : ReaderNext} (hr : c.reader = .flushing f next)
      (g : FlushPc) :
      (c.setFlush .reader g).cmd = c.cmd ∧ (c.setFlush .reader g).reader = .flushing g next := by
    rw [setFlush_reader hr]
    exact ⟨rfl, rfl⟩
  cases h with
  | empty _ hf | dead _ hf | done hf | fail hf =>
    obtain ⟨next, hr⟩ := flush_reader.mp hf
    exact ⟨(hresume (by exact hr) _).1, _, next, hr, .inl (hresume (by exact hr) _).2⟩
  | start _ hf | localClose hf | accept _ _ hf =>
    obtain ⟨next, hr⟩ := flush_reader.mp hf
    exact ⟨(hset (by exact hr) _).1, _, next, hr, .inr ⟨_, (hset (by exact hr) _).2⟩⟩

/-- Where a flush of the command task leaves the two tasks. -/
theorem Flushes.cmd_pc (h : Flushes s .cmd s') : s'.reader = s.reader ∧
    ∃ f next, s.cmd = .flushing f next ∧
      (s'.cmd = next.pc ∨ ∃ g, s'.cmd = .flushing g next) := by
  have hresume {c : State T} {f : FlushPc} {next : CmdNext} (hc : c.cmd = .flushing f next)
      (result : Except Error Unit) :
      (c.resume .cmd result).reader = c.reader ∧ (c.resume .cmd result).cmd = next.pc := by
    rw [resume_cmd hc]
    exact ⟨rfl, rfl⟩
  have hset {c : State T} {f : FlushPc} {next : CmdNext} (hc : c.cmd = .flushing f next)
      (g : FlushPc) :
      (c.setFlush .cmd g).reader = c.reader ∧ (c.setFlush .cmd g).cmd = .flushing g next := by
    rw [setFlush_cmd hc]
    exact ⟨rfl, rfl⟩
  cases h with
  | empty _ hf | dead _ hf | done hf | fail hf =>
    obtain ⟨next, hc⟩ := flush_cmd.mp hf
    exact ⟨(hresume (by exact hc) _).1, _, next, hc, .inl (hresume (by exact hc) _).2⟩
  | start _ hf | localClose hf | accept _ _ hf =>
    obtain ⟨next, hc⟩ := flush_cmd.mp hf
    exact ⟨(hset (by exact hc) _).1, _, next, hc, .inr ⟨_, (hset (by exact hc) _).2⟩⟩

/-! ### The frames hold -/

/-- Arming the deadline touches a flag of the pump only. -/
theorem ReaderFrame.armDeadline (s : State T) : ReaderFrame s s.armDeadline := by
  unfold State.armDeadline PumpFlags.armDeadline
  split <;> rfl

/-- What beginning to close does before the call on the WebSocket. -/
theorem ReaderFrame.closing (s : State T) (frame : Option CloseFrame) :
    ReaderFrame s (s.closing frame) := by
  unfold State.closing State.armDeadline PumpFlags.armDeadline
  split <;> rfl

/-- Beginning to close, by the reader task. -/
theorem ReaderFrame.beginClose (s : State T) (frame : Option CloseFrame) :
    ReaderFrame s (s.beginClose frame).2 := by
  have hclosing : ReaderFrame s (s.closing frame) := .closing s frame
  rcases beginClose_cases s frame with ⟨-, h⟩ | ⟨-, _, _, -, h⟩ | ⟨-, _, _, -, h⟩ <;> rw [h]
  · rfl
  · exact hclosing.trans rfl
  · exact hclosing.trans rfl

/-- A message that is read is queued, dropped or overflows. -/
theorem ReaderFrame.deliver (s : State T) (message : Message) :
    ReaderFrame s (s.deliver message) := by
  rcases deliver_cases s message with ⟨-, h⟩ | ⟨-, _, -, h⟩ | ⟨-, _, -, h⟩ <;> rw [h] <;> rfl

/-- A data frame that is read, with the close that an overflow begins. -/
theorem ReaderFrame.readData (s : State T) (message : Message) :
    ReaderFrame s (s.readData message) := by
  simp only [State.readData]
  split
  · exact ((deliver s message).trans (beginClose _ none)).trans rfl
  · exact (deliver s message).trans rfl

/-- Each result of a read of the drain loop. -/
theorem ReaderFrame.drainRead (s : State T) (read : Option Inbound) :
    ReaderFrame s (s.drainRead read) := by
  rcases read with - | i
  · rfl
  cases i with
  | binary bytes => exact readData s _
  | text text => exact readData s _
  | close frame =>
    exact (show ReaderFrame s ((s.notePeerFrame frame).advance .closing) from rfl).trans
      ((armDeadline _).trans rfl)
  | capacity =>
    have hlatch : ReaderFrame s (s.latchOverflow.noteCut s.hist.data.length) := rfl
    have hclose := hlatch.trans (beginClose _ none)
    exact hclose.trans rfl
  | ping | pong | frame | connectionClosed | error => rfl

/-- Each result of the one read after the loop. -/
theorem ReaderFrame.lastDrainRead (s : State T) (read : Option Inbound) :
    ReaderFrame s (s.lastDrainRead read) := by
  rcases read with - | i
  · rfl
  cases i with
  | binary bytes => exact deliver s _
  | text text => exact deliver s _
  | close | ping | pong | frame | capacity | connectionClosed | error => rfl

/-- The read itself moves the core and takes from the inbound bytes. -/
theorem ReaderFrame.read (s : State T) : ReaderFrame s s.webSocketRead.2 := rfl

/-- The reader task keeps to its part of the state. -/
theorem ReaderFrame.step (h : s.readerStep = some s') : ReaderFrame s s' := by
  unfold State.readerStep at h
  split at h
  · cases h; exact (read s).trans (drainRead _ _)
  · cases h; exact (read s).trans (lastDrainRead _ _)
  · cases h; rfl
  · split at h
    · cases h; rfl
    · cases h
  · cases h
  · cases h

/-- What beginning to close does before the call on the WebSocket. -/
theorem CmdFrame.closing (s : State T) (frame : Option CloseFrame) :
    CmdFrame s (s.closing frame) := by
  unfold State.closing State.armDeadline PumpFlags.armDeadline
  split <;> rfl

/-- Beginning to close, by the command task. -/
theorem CmdFrame.beginClose (s : State T) (frame : Option CloseFrame) :
    CmdFrame s (s.beginClose frame).2 := by
  have hclosing : CmdFrame s (s.closing frame) := .closing s frame
  rcases beginClose_cases s frame with ⟨-, h⟩ | ⟨-, _, _, -, h⟩ | ⟨-, _, _, -, h⟩ <;> rw [h]
  · rfl
  · exact hclosing.trans rfl
  · exact hclosing.trans rfl

/-- A send command is written, or answered at once. -/
theorem CmdFrame.send (s : State T) (id : Nat) (message : Message) :
    CmdFrame s (s.cmdSend id message) := by
  unfold State.cmdSend
  split
  · rfl
  · unfold State.webSocketSend
    rcases T.send s.ws message with ⟨err | frame, ws⟩ <;> rfl

/-- The command task keeps to its part of the state. -/
theorem CmdFrame.step (h : s.cmdStep = some s') : CmdFrame s s' := by
  unfold State.cmdStep at h
  split at h
  · split at h
    · cases h; rfl
    · split at h
      · next cmd rest _ =>
        cases h
        have hpop : CmdFrame s (s.popCmd rest) := rfl
        apply hpop.trans
        cases cmd with
        | send id message => exact send _ id message
        | close code reason => exact (beginClose _ _).trans rfl
        | claimStream => rfl
      · split at h
        · cases h
        · cases h
          exact (beginClose _ _).trans rfl
  · split at h
    · next cmd rest _ =>
      cases h
      cases cmd <;> rfl
    · split at h
      · cases h
      · cases h; rfl
  · cases h
  · cases h

/-- A flush keeps to its part of the state. -/
theorem FlushFrame.of_flushes {t : Task} (h : Flushes s t s') : FlushFrame s s' := by
  have hresume (s : State T) (r : Except Error Unit) : FlushFrame s (s.resume t r) := by
    unfold State.resume
    split <;> split <;> rfl
  have hset (s : State T) (f : FlushPc) : FlushFrame s (s.setFlush t f) := by
    unfold State.setFlush
    split <;> split <;> rfl
  have harm (s : State T) : FlushFrame s s.armDeadline := by
    unfold State.armDeadline PumpFlags.armDeadline
    split <;> rfl
  have hdrain : FlushFrame s s.drainOutbound.2 := rfl
  have hhold : FlushFrame s (s.drainOutbound.2.holdLock t s.io.outbound) := rfl
  have hunlock : FlushFrame s s.releaseLock := rfl
  have hdie : FlushFrame s s.releaseLock.markWriteDead := rfl
  have haccept (bytes : Bytes) : FlushFrame s (s.acceptBytes bytes) := rfl
  cases h with
  | empty | dead => exact hdrain.trans (hresume _ _)
  | start => exact hhold.trans (hset _ _)
  | done => exact hunlock.trans (hresume _ _)
  | localClose => exact (harm s).trans (hset _ _)
  | fail => exact (hdie.trans (harm _)).trans (hresume _ _)
  | accept => exact (haccept _).trans (hset _ _)

/-- A `close` call sets the flag, discards the queue and sends its command. -/
theorem GuestFrame.callClose (s : State T) (code : Option UInt16) (reason : String) :
    GuestFrame s (s.callClose code reason) := by
  unfold State.callClose
  split
  · rfl
  · simp only []
    split
    · rfl
    · split <;> rfl

/-- The select of a `receive` call takes from the queue, and answers the call or keeps the lock. -/
theorem InboxFrame.receiveSelect (s : State T) (id : Nat) :
    InboxFrame s (s.receiveSelect id) := by
  simp only [State.receiveSelect]
  split
  · rfl
  · split
    · rfl
    · split
      · next item queue _ => cases item <;> rfl
      · rfl

/-- A poll of a `receive` call. -/
theorem InboxFrame.pollReceive {id : Nat} (h : s.pollReceive id = some s') :
    InboxFrame s s' := by
  unfold State.pollReceive at h
  split at h
  · cases h; exact receiveSelect s id
  · split at h
    · cases h
      have htake : InboxFrame s { s with receives := s.receives.erase id } := rfl
      exact htake.trans (receiveSelect _ id)
    · cases h

/-- A receive call leaves the feeder where it is. -/
theorem pollReceive_feeder {id : Nat} (h : s.pollReceive id = some s') :
    s'.feeder = s.feeder := by
  have hselect (c : State T) : (c.receiveSelect id).feeder = c.feeder := by
    simp only [State.receiveSelect]
    split
    · rfl
    · split
      · rfl
      · split
        · next item queue _ => cases item <;> rfl
        · rfl
  unfold State.pollReceive at h
  split at h
  · cases h; exact hselect s
  · split at h
    · cases h; exact hselect _
    · cases h

/-- The select of the feeder takes from the queue, or ends it. -/
theorem InboxFrame.feederSelect (h : s.feederSelect = some s') : InboxFrame s s' := by
  unfold State.feederSelect at h
  split at h
  · cases h; rfl
  · split at h <;> cases h <;> rfl

/-- Outside of its flushes the reader task is in no write. -/
theorem readerStep_flush (h : s.readerStep = some s') (rest : Bytes) (bound : WriteBound) :
    s'.flush .reader ≠ some (.write rest bound) := by
  intro hf
  obtain ⟨next, hw⟩ := flush_reader.mp hf
  unfold State.readerStep at h
  split at h
  · cases h
    unfold State.readerDrain at hw
    generalize s.webSocketRead.1 = read at hw
    rcases read with - | i
    · cases hw
    · obtain ⟨flush, next', hr⟩ := drainRead_reader s.webSocketRead.2 i
      rw [hr] at hw
      cases flush <;> cases next' <;> cases hw
  · next hr =>
    cases h
    have hlast : s.webSocketRead.2.reader = .lastDrain := hr
    rcases lastDrainRead_reader hlast s.webSocketRead.1 with hc | hc
    · cases hc.symm.trans hw
    · cases hc.symm.trans hw
  · cases h; cases hw
  · split at h
    · cases h; cases hw
    · cases h
  · cases h
  · cases h

/-- Outside of its flushes the command task is in no write. -/
theorem cmdStep_flush (h : s.cmdStep = some s') (rest : Bytes) (bound : WriteBound) :
    s'.flush .cmd ≠ some (.write rest bound) := by
  have hgoes (c : State T) (flush : Bool) (next : CmdNext) :
      (c.cmdGoes flush next).flush .cmd ≠ some (.write rest bound) := by
    cases flush <;> cases next <;> simp [State.flush, State.cmdGoes, CmdNext.pc]
  unfold State.cmdStep at h
  split at h
  · next hc =>
    have hout : s.flush .cmd ≠ some (.write rest bound) := by simp [State.flush, hc]
    split at h
    · cases h; simp [State.flush]
    · split at h
      · next c rest' _ =>
        cases h
        cases c with
        | send id message =>
          simp only [State.cmdLive, State.cmdSend]
          split
          · exact hout
          · simp only [State.webSocketSend]
            rcases T.send (s.popCmd rest').ws message with ⟨err | frame, ws⟩
            · exact hout
            · exact hgoes _ _ _
        | close code reason => exact hgoes _ _ _
        | claimStream => exact hout
      · split at h
        · cases h
        · cases h; exact hgoes _ _ _
  · next hc =>
    have hout : s.flush .cmd ≠ some (.write rest bound) := by simp [State.flush, hc]
    split at h
    · next c rest' _ =>
      cases h
      cases c <;> exact hout
    · split at h
      · cases h
      · cases h; simp [State.flush]
  · cases h
  · cases h

/-! ### Steps by actor -/

/-- The moves of the guest's side. -/
inductive GuestMove (s : State T) : Action → State T → Prop
  | send (message : Message) : GuestMove s (.send message) (s.callSend message)
  | receive : GuestMove s .receive s.callReceive
  | receiveViaStream : GuestMove s .receiveViaStream s.callReceiveViaStream
  | close (code : Option UInt16) (reason : String) :
      GuestMove s (.close code reason) (s.callClose code reason)
  | drop : GuestMove s .drop s.callDrop
  | pollReceive {id : Nat} {s' : State T} (h : s.pollReceive id = some s') :
      GuestMove s (.pollReceive id) s'
  | feederLock (hf : s.feeder = .lock) (hl : s.shared.queueLock = none) :
      GuestMove s .feederLock
        { s with feeder := .next, shared := { s.shared with queueLock := some .feeder } }
  | feederNext {s' : State T} (hf : s.feeder = .next) (h : s.feederSelect = some s') :
      GuestMove s .feederNext s'
  /-- The stream consumer takes something. -/
  | taken {a : Action} (pc : FeederPc) (elements : List Message) (payload : Bytes)
      (hf : s.feeder.holdsQueue = true) (hpc : pc.holdsQueue = true) :
      GuestMove s a { s with
        feeder := pc, hist := { s.hist with elements := elements, payload := payload } }
  /-- The stream consumer drops a stream. -/
  | dropped {a : Action} (hf : s.feeder.holdsQueue = true) : GuestMove s a s.endFeeder

/-- The moves of the connection by the actor that makes them. -/
inductive StepKind (s : State T) : Action → State T → Prop
  | reader {s' : State T} (h : s.readerStep = some s') : StepKind s .reader s'
  | cmd {s' : State T} (h : s.cmdStep = some s') : StepKind s .cmd s'
  | flush {a : Action} {s' : State T} (t : Task) (h : Flushes s t s') : StepKind s a s'
  | transport {a : Action} {s' : State T} (h : TransportFrame s s')
      (hr : s'.reader = s.reader ∨ s.reader = .parked ∧ s.expired = false ∧
        (s'.reader = .drain ∨ s'.reader = .lastDrain)) : StepKind s a s'
  | guest {a : Action} {s' : State T} (h : GuestMove s a s') : StepKind s a s'

/-- A guest call is made on a live resource. -/
theorem guestCall_eq_some {t : State T} :
    guestCall s t = some s' ↔ s.dropped = false ∧ t = s' := by
  unfold guestCall
  cases s.dropped <;> simp

/-- The actions of a flush: those of its task, and those of the stream it writes to. -/
def Action.ofFlush : Action → Bool
  | .lock _ | .writeDone _ | .writeBound _ | .accept _ | .refuse => true
  | _ => false

/-- The actions of a flush do what a flush can do. -/
theorem flushes_of_step {a : Action} (ha : a.ofFlush = true) (h : step s a = some s') :
    ∃ t, Flushes s t s' := by
  cases a with
  | lock t =>
    simp only [step] at h
    split at h
    · next hl =>
      cases h
      exact ⟨t, flushes_of_lock hl.1 hl.2⟩
    · cases h
  | writeDone t =>
    simp only [step] at h
    split at h
    · next hf =>
      cases h
      exact ⟨t, .done hf⟩
    · cases h
  | writeBound t =>
    simp only [step] at h
    split at h
    · next hf =>
      split at h
      · next hc =>
        cases h
        exact ⟨t, .localClose hf hc⟩
      · cases h
    · next hf =>
      split at h
      · next he =>
        cases h
        exact ⟨t, .fail hf (.inr ⟨rfl, he⟩)⟩
      · cases h
    · cases h
  | accept n =>
    simp only [step] at h
    split at h
    · next t hl =>
      split at h
      · next hf =>
        cases h
        exact ⟨t, .accept n hl hf⟩
      · cases h
    · cases h
  | refuse =>
    simp only [step] at h
    split at h
    · next t hl =>
      split at h
      · next hf =>
        cases h
        exact ⟨t, .fail hf (.inl hl)⟩
      · cases h
    · cases h
  | send | receive | receiveViaStream | close | drop | pollReceive | reader | cmd | chunk
  | transportEnd | feederLock | feederNext | elementTaken | streamDropped | payloadTaken
  | payloadDone | payloadDropped | tick => cases ha

/-- Every step is one actor's move. -/
theorem step_kind {a : Action} (h : step s a = some s') : StepKind s a s' := by
  cases a with
  | send | receive | receiveViaStream | close | drop =>
    obtain ⟨-, rfl⟩ := guestCall_eq_some.mp h
    exact .guest (by constructor)
  | pollReceive id => exact .guest (.pollReceive h)
  | reader => exact .reader h
  | cmd => exact .cmd h
  | lock | writeDone | writeBound | accept | refuse =>
    obtain ⟨t, hf⟩ := flushes_of_step rfl h
    exact .flush t hf
  | chunk frames =>
    simp only [step] at h
    split at h
    · next hp =>
      cases h
      exact .transport rfl (.inr ⟨hp.1, hp.2, .inl rfl⟩)
    · cases h
  | transportEnd =>
    simp only [step] at h
    split at h
    · next hp =>
      cases h
      exact .transport rfl (.inr ⟨hp.1, hp.2, .inr rfl⟩)
    · cases h
  | feederLock =>
    simp only [step] at h
    split at h
    · next hf =>
      cases h
      exact .guest (.feederLock hf.1 hf.2)
    · cases h
  | feederNext =>
    simp only [step] at h
    split at h
    · next hf => exact .guest (.feederNext hf h)
    · cases h
  | elementTaken =>
    simp only [step] at h
    split at h
    · next message hf =>
      cases h
      exact .guest (.taken (.payload message.payload) _ s.hist.payload (by rw [hf]; rfl) rfl)
    · cases h
  | payloadTaken n =>
    simp only [step] at h
    split at h
    · next rest hf =>
      cases h
      exact .guest (.taken (.payload (rest.drop n)) s.hist.elements _ (by rw [hf]; rfl) rfl)
    · cases h
  | payloadDone =>
    simp only [step] at h
    split at h
    · next hf =>
      cases h
      exact .guest (.taken .next s.hist.elements s.hist.payload (by rw [hf]; rfl) rfl)
    · cases h
  | streamDropped | payloadDropped =>
    simp only [step] at h
    split at h
    · next hf =>
      cases h
      exact .guest (.dropped (by rw [hf]; rfl))
    · cases h
  | tick dt =>
    cases h
    exact .transport rfl (.inl rfl)

/-! ### Close calls and commands -/

/-- The state after an accepted `close` call, before its command enters the channel. -/
def State.closed (s : State T) (code : Option UInt16) (reason : String) : State T :=
  { s.advance .closing with
    shared := { (s.advance .closing).shared with localClosed := true }
    hist := { s.hist with
      closeCall := s.hist.closeCall.or (some
        { frame := closeFrameOf code reason
          fresh := s.peerFrame.isNone && !s.shared.budget.overflowed && !s.flags.writeDead }) } }

/-- What a `close` call can do: nothing, when its arguments are refused or a local close has been
made, or make the local close and send its command to a command task that has not exited. -/
theorem callClose_cases (s : State T) (code : Option UInt16) (reason : String) :
    ((s.shared.localClosed = true ∨ validateCloseArgs code reason ≠ .ok ()) ∧
      s.callClose code reason = s) ∨
    (s.shared.localClosed = false ∧ validateCloseArgs code reason = .ok () ∧
      s.cmd = .exited ∧ s.callClose code reason = s.closed code reason) ∨
    (s.shared.localClosed = false ∧ validateCloseArgs code reason = .ok () ∧
      s.cmd ≠ .exited ∧
      s.callClose code reason = (s.closed code reason).pushCmd (.close code reason)) := by
  unfold State.callClose
  cases hv : validateCloseArgs code reason with
  | error err => exact .inl ⟨.inr (by simp), rfl⟩
  | ok u =>
    by_cases hl : s.shared.localClosed = true
    · exact .inl ⟨.inl hl, by simp [hl]⟩
    · have hl : s.shared.localClosed = false := by simpa using hl
      by_cases hc : s.cmd = .exited
      · refine .inr (.inl ⟨hl, rfl, hc, ?_⟩)
        simp [hl, hc, State.closed, State.advance]
      · refine .inr (.inr ⟨hl, rfl, hc, ?_⟩)
        simp [hl, hc, State.closed, State.advance]

/-- What a `close` call does to the local close and to the commands. -/
theorem callClose_close (s : State T) (code : Option UInt16) (reason : String) :
    (s.shared.localClosed = true → (s.callClose code reason).shared.localClosed = true) ∧
    ∀ c ∈ (s.callClose code reason).shared.cmds, c ∈ s.shared.cmds ∨
      (c = .close code reason ∧ (s.callClose code reason).shared.localClosed = true) := by
  rcases callClose_cases s code reason with ⟨-, h⟩ | ⟨-, -, -, h⟩ | ⟨-, -, -, h⟩ <;> rw [h]
  · exact ⟨id, fun c hc => .inl hc⟩
  · exact ⟨fun _ => rfl, fun c hc => .inl hc⟩
  · refine ⟨fun _ => rfl, fun c hc => ?_⟩
    rcases List.mem_append.mp hc with hc | hc
    · exact .inl hc
    · exact .inr ⟨List.mem_singleton.mp hc, rfl⟩

/-- The guest never takes a local close back, and its close commands come with one. -/
theorem guest_close {a : Action} (h : GuestMove s a s') :
    (s.shared.localClosed = true → s'.shared.localClosed = true) ∧
    ∀ code reason, Cmd.close code reason ∈ s'.shared.cmds →
      Cmd.close code reason ∈ s.shared.cmds ∨ s'.shared.localClosed = true := by
  cases h with
  | send message =>
    simp only [State.callSend]
    split
    · exact ⟨id, fun _ _ hc => .inl hc⟩
    · exact ⟨id, fun _ _ hc => .inl (by simpa [State.pushCmd] using hc)⟩
  | receive =>
    simp only [State.callReceive]
    split
    · exact ⟨id, fun _ _ hc => .inl hc⟩
    · split <;> exact ⟨id, fun _ _ hc => .inl hc⟩
  | receiveViaStream =>
    simp only [State.callReceiveViaStream]
    split
    · exact ⟨id, fun _ _ hc => .inl hc⟩
    · split
      · exact ⟨id, fun _ _ hc => .inl hc⟩
      · exact ⟨id, fun _ _ hc => .inl (by simpa [State.pushCmd] using hc)⟩
  | close code reason =>
    obtain ⟨hmono, hcmds⟩ := callClose_close s code reason
    exact ⟨hmono, fun _ _ hc => (hcmds _ hc).imp id And.right⟩
  | drop =>
    obtain ⟨hmono, hcmds⟩ := callClose_close s none ""
    exact ⟨hmono, fun _ _ hc => (hcmds _ hc).imp id And.right⟩
  | pollReceive h => rw [InboxFrame.pollReceive h]; exact ⟨id, fun _ _ hc => .inl hc⟩
  | feederNext _ h => rw [InboxFrame.feederSelect h]; exact ⟨id, fun _ _ hc => .inl hc⟩
  | feederLock | taken | dropped => exact ⟨id, fun _ _ hc => .inl hc⟩

/-- What a step of the command task does to its channel and the feeder: it leaves both alone, which
it does with commands in the channel only on its way to the second phase, or takes a command out. -/
theorem cmdStep_takes (h : s.cmdStep = some s') :
    (s'.shared.cmds = s.shared.cmds ∧ s'.feeder = s.feeder ∧
      (s.shared.cmds ≠ [] → s.cmd = .live ∧ s'.cmd = .drained)) ∨
    ∃ c, s.shared.cmds = c :: s'.shared.cmds ∧
      s'.feeder = if c = .claimStream then .lock else s.feeder := by
  unfold State.cmdStep at h
  split at h
  · next hpc =>
    split at h
    · cases h
      exact .inl ⟨rfl, rfl, fun _ => ⟨hpc, rfl⟩⟩
    · split at h
      · next c rest hcmds =>
        cases h
        refine .inr ⟨c, ?_⟩
        rw [hcmds]
        cases c with
        | send id message =>
          simp only [State.cmdLive, State.cmdSend, State.webSocketSend]
          split
          · exact ⟨rfl, rfl⟩
          · rcases T.send (s.popCmd rest).ws message with ⟨err | frame, ws⟩ <;> exact ⟨rfl, rfl⟩
        | close code reason =>
          have hframe := ReaderFrame.beginClose (s.popCmd rest) (closeFrameOf code reason)
          have hcmds' := congrArg (fun c => c.shared.cmds) hframe
          have hfeeder := congrArg State.feeder hframe
          exact ⟨congrArg _ hcmds'.symm, hfeeder⟩
        | claimStream => exact ⟨rfl, rfl⟩
      · next hcmds =>
        split at h
        · cases h
        · cases h
          have hframe := ReaderFrame.beginClose s none
          have hcmds' := congrArg (fun c => c.shared.cmds) hframe
          have hfeeder := congrArg State.feeder hframe
          exact .inl ⟨hcmds', hfeeder, fun hne => absurd hcmds hne⟩
  · split at h
    · next c rest hcmds =>
      cases h
      refine .inr ⟨c, ?_⟩
      rw [hcmds]
      cases c <;> exact ⟨rfl, rfl⟩
    · next hcmds =>
      split at h
      · cases h
      · cases h
        exact .inl ⟨rfl, rfl, fun hne => absurd hcmds hne⟩
  · cases h
  · cases h

/-- The command task only takes commands out of its channel. -/
theorem cmdStep_cmds (h : s.cmdStep = some s') : ∀ c ∈ s'.shared.cmds, c ∈ s.shared.cmds := by
  intro c hmem
  rcases cmdStep_takes h with ⟨hcmds, -, -⟩ | ⟨taken, hcmds, -⟩
  · exact hcmds ▸ hmem
  · rw [hcmds]
    exact List.mem_cons_of_mem taken hmem

/-- The guest's side keeps to its part of the state. -/
theorem GuestFrame.of_move {a : Action} (h : GuestMove s a s') : GuestFrame s s' := by
  cases h with
  | send message =>
    simp only [State.callSend]
    split <;> rfl
  | receive =>
    simp only [State.callReceive]
    split
    · rfl
    · split <;> rfl
  | receiveViaStream =>
    simp only [State.callReceiveViaStream]
    split
    · rfl
    · split <;> rfl
  | close code reason => exact .callClose s code reason
  | drop =>
    have hclose := GuestFrame.callClose s none ""
    exact hclose.trans (show GuestFrame _ s.callDrop from rfl)
  | pollReceive h => exact .of_inbox (.pollReceive h)
  | feederNext _ h => exact .of_inbox (.feederSelect h)
  | feederLock | taken | dropped => rfl

end Polymorph.Provider
