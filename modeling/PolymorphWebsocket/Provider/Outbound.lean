import PolymorphWebsocket.Futures.FlushPipe
import PolymorphWebsocket.Provider.Frames
import PolymorphWebsocket.Provider.Protocol

/-!
# The guest provider: outbound integrity

The virtual transport with the wit outbound stream behind it is a flush pipe: the two tasks write
into it through tungstenite and flush it under `write_lock`.  `pipe_step` shows that every step of
the connection is a run of the pipe, so the pipe's invariant holds along every run.  On top of it,
`SendsSound` follows a `send` call from the guest through the command channel to its frame and its
acknowledgement.
-/

namespace Polymorph.Provider

open Futures Relation Transition

variable {T : Tungstenite} {s s' s'' : State T}

/-! ### The flush pipe of a connection -/

/-- What had been written when the task called `flush_outbound`: for a `send` command, everything
up to the end of its frame. -/
def State.mark (s : State T) : Task → Bytes
  | .reader => []
  | .cmd =>
    match s.cmd with
    | .flushing _ (.reply _) =>
      match s.hist.frames.getLast? with
      | some sent => sent.before ++ sent.frame
      | none => []
    | _ => []

/-- Where a task is inside `flush_outbound`, as a stage of the pipe. -/
def State.stage (s : State T) (t : Task) : FlushStage UInt8 :=
  match s.flush t with
  | none => .idle
  | some .lock => .waiting (s.mark t)
  | some (.write rest _) => .writing (s.mark t) rest

/-- The outbound half of a connection as a flush pipe. -/
def State.pipe (s : State T) : FlushPipe Task UInt8 where
  written := s.hist.written
  buffer := s.io.outbound
  accepted := s.accepted
  dead := s.flags.writeDead
  lock := s.writeLock
  stage := s.stage

/-- A task that waits for the write lock is waiting in the pipe. -/
theorem stage_of_lock {t : Task} (hf : s.flush t = some .lock) :
    s.stage t = .waiting (s.mark t) := by
  simp [State.stage, hf]

/-- A task that hands bytes over is writing in the pipe. -/
theorem stage_of_write {t : Task} {rest : Bytes} {bound : WriteBound}
    (hf : s.flush t = some (.write rest bound)) : s.stage t = .writing (s.mark t) rest := by
  simp [State.stage, hf]

/-- The pipe does not see the deadline. -/
theorem pipe_armDeadline (s : State T) : s.armDeadline.pipe = s.pipe := by
  have hd : s.armDeadline.flags.writeDead = s.flags.writeDead :=
    PumpFlags.armDeadline_writeDead ..
  change { s.pipe with dead := s.armDeadline.flags.writeDead } = s.pipe
  rw [hd]
  rfl

/-- A flush that returns leaves its task idle. -/
theorem pipe_resume (s : State T) {t : Task} {f : FlushPc} (hf : s.flush t = some f)
    (result : Except Error Unit) :
    (s.resume t result).pipe =
      { s.pipe with stage := Function.update s.pipe.stage t .idle } := by
  cases t with
  | reader =>
    obtain ⟨next, hr⟩ := flush_reader.mp hf
    rw [resume_reader hr]
    simp only [State.pipe, FlushPipe.mk.injEq, true_and]
    funext t
    cases t with
    | reader => cases next <;> rfl
    | cmd => rfl
  | cmd =>
    obtain ⟨next, hc⟩ := flush_cmd.mp hf
    rw [resume_cmd hc]
    simp only [State.pipe, FlushPipe.mk.injEq, true_and]
    funext t
    cases t with
    | reader => rfl
    | cmd => cases next <;> rfl

/-- A flush that moves on in its write. -/
theorem pipe_setFlush (s : State T) {t : Task} {f : FlushPc} (hf : s.flush t = some f)
    (rest : Bytes) (bound : WriteBound) :
    (s.setFlush t (.write rest bound)).pipe =
      { s.pipe with stage := Function.update s.pipe.stage t (.writing (s.mark t) rest) } := by
  cases t with
  | reader =>
    obtain ⟨next, hr⟩ := flush_reader.mp hf
    rw [setFlush_reader hr]
    simp only [State.pipe, FlushPipe.mk.injEq, true_and]
    funext t
    cases t <;> rfl
  | cmd =>
    obtain ⟨next, hc⟩ := flush_cmd.mp hf
    rw [setFlush_cmd hc]
    simp only [State.pipe, FlushPipe.mk.injEq, true_and]
    funext t
    cases t with
    | reader => rfl
    | cmd =>
      cases next <;>
        simp [State.stage, State.flush, State.mark, hc]

/-- Every move of a flush is a move of the pipe, or none. -/
theorem pipe_flushes {t : Task} (h : Flushes s t s') :
    s.pipe = s'.pipe ∨ FlushPipe.Step s.pipe s'.pipe := by
  cases h with
  | empty hl hf hb =>
    have hdrain : s.drainOutbound.2.pipe = s.pipe :=
      show { s.pipe with buffer := [] } = s.pipe from hb ▸ rfl
    rw [pipe_resume s.drainOutbound.2 hf, hdrain]
    exact .inr (.drainEmpty s.pipe hl (stage_of_lock hf) hb)
  | dead hl hf hd =>
    rw [pipe_resume s.drainOutbound.2 hf]
    exact .inr (.drainDead s.pipe hl (stage_of_lock hf) hd)
  | start hl hf hb hd =>
    rw [pipe_setFlush (s.drainOutbound.2.holdLock t s.io.outbound) hf]
    exact .inr (.start s.pipe hl (stage_of_lock hf) hd)
  | @done bound hf =>
    rw [pipe_resume s.releaseLock hf]
    exact .inr (.complete s.pipe (stage_of_write hf))
  | @localClose byte rest hf hc =>
    have hstage : Function.update s.pipe.stage t (.writing (s.mark t) (byte :: rest)) =
        s.pipe.stage := by
      rw [← stage_of_write hf]
      exact Function.update_eq_self t _
    rw [pipe_setFlush s.armDeadline hf, pipe_armDeadline]
    exact .inl (congrArg (fun stage => { s.pipe with stage := stage }) hstage.symm)
  | @fail byte rest bound hf he =>
    rw [State.failWrite, pipe_resume s.releaseLock.markWriteDead.armDeadline hf, pipe_armDeadline]
    exact .inr (.fail s.pipe (stage_of_write hf))
  | @accept n rest bound hl hf =>
    rw [pipe_setFlush (s.acceptBytes (rest.take n)) hf]
    exact .inr (.accept s.pipe n hl (stage_of_write hf))

/-! ### The tasks write and call the flush -/

/-- The flush pipe of one state runs into the flush pipe of another. -/
def PipeRun (s s' : State T) : Prop := ReflTransGen FlushPipe.Step s.pipe s'.pipe

/-- A piece that the pipe does not see. -/
theorem PipeRun.of_eq (h : s'.pipe = s.pipe) : PipeRun s s' := by
  rw [PipeRun, h]

/-- Pieces after one another. -/
theorem PipeRun.trans (h₁ : PipeRun s s') (h₂ : PipeRun s' s'') : PipeRun s s'' :=
  ReflTransGen.trans h₁ h₂

/-- The core appends a frame to the buffer. -/
theorem PipeRun.writeFrame (s : State T) (bytes : Bytes) : PipeRun s (s.writeFrame bytes) :=
  .single (.write s.pipe bytes)

/-- The core appends the replies it has queued. -/
theorem PipeRun.writeQueued (s : State T) : PipeRun s s.writeQueued :=
  .single (.write s.pipe (T.queued s.ws))

/-- The core by itself is not seen. -/
theorem PipeRun.setWs (s : State T) (ws : T.Ctx) : PipeRun s (s.setWs ws) :=
  .of_eq rfl

/-- A read takes inbound bytes, and may have the core append its replies. -/
theorem PipeRun.read (s : State T) : PipeRun s s.webSocketRead.2 := by
  have hnext : ({ s with io := s.io.nextOutcome.2 } : State T).pipe = s.pipe :=
    congrArg (fun buffer => { s.pipe with buffer := buffer }) s.io.nextOutcome_outbound
  exact ((PipeRun.of_eq hnext).trans (.writeQueued _)).trans (.setWs _ _)

/-- A call that writes its own bytes and then the queued reply. -/
theorem PipeRun.call (s : State T) (bytes : Bytes) (ws : T.Ctx) :
    PipeRun s (((s.writeFrame bytes).writeQueued).setWs ws) :=
  ((PipeRun.writeFrame s bytes).trans (.writeQueued _)).trans (.setWs _ ws)

/-- Beginning to close appends the close frame. -/
theorem PipeRun.beginClose (s : State T) (frame : Option CloseFrame) :
    PipeRun s (s.beginClose frame).2 := by
  have hclosing : PipeRun s (s.closing frame) := .of_eq (pipe_armDeadline _)
  rcases beginClose_cases s frame with ⟨-, h⟩ | ⟨-, bytes, ws, -, h⟩ | ⟨-, err, ws, -, h⟩ <;> rw [h]
  · exact .of_eq rfl
  · exact hclosing.trans (.call _ bytes ws)
  · exact hclosing.trans (.of_eq rfl)

/-- A message that is delivered is not seen. -/
theorem PipeRun.deliver (s : State T) (message : Message) : PipeRun s (s.deliver message) := by
  rcases deliver_cases s message with ⟨-, h⟩ | ⟨-, _, -, h⟩ | ⟨-, _, -, h⟩ <;> rw [h]
  all_goals exact .of_eq rfl

/-- A task outside `flush_outbound` is idle. -/
theorem stage_of_none {t : Task} (hf : s.flush t = none) : s.stage t = .idle := by
  simp [State.stage, hf]

/-- Going on at a point outside `flush_outbound`, or calling `flush_outbound`. -/
theorem PipeRun.readerPc (s : State T) (hf : s.flush .reader = none) (pc : ReaderPc)
    (hpc : ∀ f next, pc = .flushing f next → f = .lock) : PipeRun s { s with reader := pc } := by
  have hidle : s.pipe.stage .reader = .idle := stage_of_none hf
  have hcall := FlushPipe.Step.call s.pipe hidle List.nil_prefix
  have hpipe (stage : FlushStage UInt8)
      (hstage : ({ s with reader := pc } : State T).stage .reader = stage) :
      ({ s with reader := pc } : State T).pipe =
        { s.pipe with stage := Function.update s.pipe.stage .reader stage } := by
    refine congrArg (fun stage => { s.pipe with stage := stage }) ?_
    funext t
    cases t with
    | reader => simpa using hstage
    | cmd => rfl
  cases pc with
  | flushing f next =>
    obtain rfl : f = .lock := hpc f next rfl
    have hlock := hpipe (.waiting []) rfl
    rw [PipeRun, hlock]
    exact .single hcall
  | drain | parked | lastDrain | finalize | finished =>
    have hout := hpipe .idle rfl
    rw [← hidle, Function.update_eq_self] at hout
    exact .of_eq hout

/-- The command task moves on, and calls a flush at most. -/
theorem PipeRun.cmdPc (s : State T) (hf : s.flush .cmd = none) (pc : CmdPc)
    (hpc : ∀ f next, pc = .flushing f next → f = .lock)
    (hmark : ({ s with cmd := pc } : State T).mark .cmd <+: s.hist.written) :
    PipeRun s { s with cmd := pc } := by
  have hidle : s.pipe.stage .cmd = .idle := stage_of_none hf
  have hcall := FlushPipe.Step.call s.pipe hidle hmark
  have hpipe (stage : FlushStage UInt8)
      (hstage : ({ s with cmd := pc } : State T).stage .cmd = stage) :
      ({ s with cmd := pc } : State T).pipe =
        { s.pipe with stage := Function.update s.pipe.stage .cmd stage } := by
    refine congrArg (fun stage => { s.pipe with stage := stage }) ?_
    funext t
    cases t with
    | reader => rfl
    | cmd => simpa using hstage
  cases pc with
  | flushing f next =>
    obtain rfl : f = .lock := hpc f next rfl
    have hlock := hpipe (.waiting (({ s with cmd := .flushing .lock next } : State T).mark .cmd)) rfl
    rw [PipeRun, hlock]
    exact .single hcall
  | live | drained | exited =>
    have hout := hpipe .idle rfl
    rw [← hidle, Function.update_eq_self] at hout
    exact .of_eq hout

/-- The reader task moves on, and calls a flush if it owes one. -/
theorem PipeRun.readerGoes (s : State T) (hf : s.flush .reader = none) (flush : Bool)
    (next : ReaderNext) : PipeRun s (s.readerGoes flush next) := by
  refine .readerPc s hf _ fun f next' h => ?_
  cases flush <;> cases next <;> simp_all [ReaderNext.pc]

/-- Where the reader task is says whether it is in a flush. -/
theorem flush_reader_congr (h : s'.reader = s.reader) : s'.flush .reader = s.flush .reader := by
  simp [State.flush, h]

/-- Where the command task is says whether it is in a flush. -/
theorem flush_cmd_congr (h : s'.cmd = s.cmd) : s'.flush .cmd = s.flush .cmd := by
  simp [State.flush, h]

/-- Beginning the closing handshake and flushing the close frame. -/
theorem PipeRun.readerCloses (s : State T) (hf : s.flush .reader = none)
    (frame : Option CloseFrame) (next : ReaderNext) :
    PipeRun s ((s.beginClose frame).2.readerGoes (s.beginClose frame).1 next) := by
  have hreader : (s.beginClose frame).2.reader = s.reader :=
    (CmdFrame.beginClose s frame).reader
  exact (PipeRun.beginClose s frame).trans
    (.readerGoes _ ((flush_reader_congr hreader).trans hf) _ _)

/-- A data frame that is read, with the flush of a close that it begins. -/
theorem PipeRun.readData (s : State T) (hf : s.flush .reader = none) (message : Message) :
    PipeRun s (s.readData message) := by
  have hreader : (s.deliver message).flush .reader = none :=
    (flush_reader_congr (deliver_reader s message)).trans hf
  refine (PipeRun.deliver s message).trans ?_
  simp only [State.readData]
  split
  · exact .readerCloses _ hreader none .drain
  · exact .readerGoes _ hreader false .drain

/-- What a read of the drain loop makes the reader task write and flush. -/
theorem PipeRun.drainRead (s : State T) (hf : s.flush .reader = none) (read : Option Inbound) :
    PipeRun s (s.drainRead read) := by
  rcases read with - | i
  · exact .readerPc s hf _ (by simp)
  cases i with
  | binary bytes => exact .readData s hf _
  | text text => exact .readData s hf _
  | close frame =>
    have harm : PipeRun s ((s.notePeerFrame frame).advance .closing).armDeadline :=
      .of_eq (pipe_armDeadline _)
    refine harm.trans (.trans (.of_eq ?_) (.readerGoes _ ?_ true .drain))
    · rfl
    · exact hf
  | ping | pong => exact .readerGoes s hf true .drain
  | frame => exact .readerGoes s hf false .drain
  | capacity =>
    have hlatch : PipeRun s (s.latchOverflow.noteCut s.hist.data.length) := .of_eq rfl
    exact hlatch.trans (.readerCloses _ (by exact hf) none .finalize)
  | connectionClosed | error => exact .readerPc s hf _ (by simp)

/-- What the one read after the loop makes it flush. -/
theorem PipeRun.lastDrainRead (s : State T) (hf : s.flush .reader = none)
    (read : Option Inbound) : PipeRun s (s.lastDrainRead read) := by
  rcases read with - | i
  · exact .readerPc s hf _ (by simp)
  cases i with
  | binary bytes => exact .deliver s _
  | text text => exact .deliver s _
  | close frame =>
    have hnote : PipeRun s (s.notePeerFrame frame) := .of_eq rfl
    exact hnote.trans (.readerPc _ (by exact hf) .finalize (by simp))
  | ping | pong | frame => exact .of_eq rfl
  | capacity | connectionClosed | error => exact .readerPc s hf _ (by simp)

/-- Every step of the reader task is a run of the pipe. -/
theorem PipeRun.reader (h : s.readerStep = some s') : PipeRun s s' := by
  unfold State.readerStep at h
  split at h
  · next hr =>
    cases h
    have hf : s.flush .reader = none := by simp [State.flush, hr]
    exact (PipeRun.read s).trans (.drainRead _ (by exact hf) _)
  · next hr =>
    cases h
    have hf : s.flush .reader = none := by simp [State.flush, hr]
    exact (PipeRun.read s).trans (.lastDrainRead _ (by exact hf) _)
  · next hr =>
    cases h
    have hf : s.flush .reader = none := by simp [State.flush, hr]
    have hfinal := PipeRun.readerPc s hf .finished (by simp)
    exact hfinal.trans (.of_eq rfl)
  · next hr =>
    have hf : s.flush .reader = none := by simp [State.flush, hr]
    split at h
    · cases h
      exact .readerPc s hf _ (by simp)
    · cases h
  · cases h
  · cases h

/-- A frame is noted to be owed to the next flush. -/
theorem PipeRun.noteFrame (s : State T) (hf : s.flush .cmd = none) (frame : SentFrame) :
    PipeRun s (s.noteFrame frame) := by
  refine .of_eq (congrArg (fun stage => { s.pipe with stage := stage }) ?_)
  funext t
  cases t with
  | reader => rfl
  | cmd =>
    have hnote : (s.noteFrame frame).stage .cmd = .idle := stage_of_none (by exact hf)
    exact hnote.trans (stage_of_none hf).symm

/-- Awaiting a flush nobody is acknowledged for, or going on outside of one. -/
theorem PipeRun.cmdGoes (s : State T) (hf : s.flush .cmd = none) (flush : Bool) (next : CmdNext)
    (hnext : ∀ id, next ≠ .reply id) : PipeRun s (s.cmdGoes flush next) := by
  refine .cmdPc s hf _ (fun f next' h => ?_) ?_
  · cases flush <;> cases next <;> simp_all [CmdNext.pc]
  · cases flush <;> cases next <;> simp_all [CmdNext.pc, State.mark]

/-- A close of the command task writes its frame and calls the flush. -/
theorem PipeRun.cmdCloses (s : State T) (hf : s.flush .cmd = none) (frame : Option CloseFrame)
    (next : CmdNext) (hnext : ∀ id, next ≠ .reply id) :
    PipeRun s ((s.beginClose frame).2.cmdGoes (s.beginClose frame).1 next) := by
  have hcmd : (s.beginClose frame).2.cmd = s.cmd := (ReaderFrame.beginClose s frame).cmd
  exact (PipeRun.beginClose s frame).trans
    (.cmdGoes _ ((flush_cmd_congr hcmd).trans hf) _ _ hnext)

/-- A send of the command task writes its frame and calls the flush, or fails at once. -/
theorem PipeRun.cmdSend (s : State T) (hf : s.flush .cmd = none) (id : Nat) (message : Message) :
    PipeRun s (s.cmdSend id message) := by
  unfold State.cmdSend
  split
  · exact .of_eq rfl
  · unfold State.webSocketSend
    rcases T.send s.ws message with ⟨err | frame, ws⟩
    · exact .of_eq rfl
    · have hcall := PipeRun.noteFrame s hf
        { id := id, message := message, before := s.hist.written, frame := frame }
      refine (hcall.trans (.call _ frame ws)).trans (.cmdPc _ (by exact hf) _ (by simp) ?_)
      simp [State.mark, State.noteFrame, State.writeFrame, State.writeQueued, State.setWs]

/-- Every step of the command task is a run of the pipe. -/
theorem PipeRun.cmd (h : s.cmdStep = some s') : PipeRun s s' := by
  unfold State.cmdStep at h
  split at h
  · next hc =>
    have hf : s.flush .cmd = none := by simp [State.flush, hc]
    split at h
    · cases h
      exact .cmdPc s hf .drained (by simp) (by simp [State.mark])
    · split at h
      · next cmd rest _ =>
        cases h
        have hpop : PipeRun s (s.popCmd rest) := .of_eq rfl
        cases cmd with
        | send id message => exact hpop.trans (.cmdSend _ (by exact hf) id message)
        | close code reason => exact hpop.trans (.cmdCloses _ (by exact hf) _ .live (by simp))
        | claimStream => exact hpop.trans (.of_eq rfl)
      · split at h
        · cases h
        · cases h
          exact .cmdCloses s hf none .exit (by simp)
  · next hc =>
    have hf : s.flush .cmd = none := by simp [State.flush, hc]
    split at h
    · next cmd rest _ =>
      cases h
      cases cmd <;> exact .of_eq rfl
    · split at h
      · cases h
      · cases h
        exact .cmdPc s hf .exited (by simp) (by simp [State.mark])
  · cases h
  · cases h

/-! ### The refinement -/

/-- The inbound transport and the clock leave the pipe alone. -/
theorem PipeRun.transport (h : TransportFrame s s')
    (hr : s'.reader = s.reader ∨ s.reader = .parked ∧ s.expired = false ∧
      (s'.reader = .drain ∨ s'.reader = .lastDrain)) : PipeRun s s' := by
  have hflush : s'.flush .reader = s.flush .reader := by
    rcases hr with hr | ⟨hp, -, hr | hr⟩
    · exact flush_reader_congr hr
    · simp [State.flush, hp, hr]
    · simp [State.flush, hp, hr]
  have hstage : s'.stage = s.stage := by
    funext t
    cases t with
    | reader => simp only [State.stage, hflush]; rfl
    | cmd => rw [h]; rfl
  refine .of_eq ?_
  have hpipe : s'.pipe = { s.pipe with stage := s'.stage } := by rw [h]; rfl
  rw [hpipe, hstage]
  rfl

/-- Every step of a connection is a run of its flush pipe. -/
theorem pipe_step {a : Action} (h : step s a = some s') : PipeRun s s' := by
  cases step_kind h with
  | reader h => exact .reader h
  | cmd h => exact .cmd h
  | flush t h =>
    rcases pipe_flushes h with heq | hstep
    · exact .of_eq heq.symm
    · exact .single hstep
  | transport h hr => exact .transport h hr
  | guest h => exact .of_eq (by rw [GuestFrame.of_move h]; rfl)

/-- The pipe of a fresh connection. -/
theorem pipe_start_sound (config : Config) (ws : T.Ctx) (io : Buffers Inbound) (now : Nat) :
    (State.start config ws io now).pipe.Sound := by
  have hidle (t : Task) : (State.start config ws io now).pipe.stage t = .idle := by cases t <;> rfl
  constructor
  · intro t
    simp [hidle]
    simp [State.pipe, State.start]
  · simp [State.pipe, State.start]
  · exact List.nil_prefix
  · intro _ _; rfl
  all_goals simp [hidle]

/-- In every reachable state the flush pipe is sound. -/
theorem pipe_sound (h : (system T).Reachable s) : s.pipe.Sound := by
  refine System.Reachable.induction (I := fun s => s.pipe.Sound) ?_ ?_ h
  · rintro _ ⟨config, ws, io, now, -, heof, rfl⟩
    exact pipe_start_sound config ws io now
  · intro s a s' _ ih hstep
    exact ih.run (pipe_step hstep)

/-! ### What a send call turns into -/

/-- The `send` calls of a connection: who they are, what is still in the command channel, what was
put on the wire for them, and what an acknowledgement says. -/
structure State.SendsSound (s : State T) : Prop where
  ids_lt : ∀ call ∈ s.hist.sends, call.1 < s.nextId
  ids_nodup : (s.hist.sends.map Prod.fst).Nodup
  cmds : ∀ id message, Cmd.send id message ∈ s.shared.cmds → (id, message) ∈ s.hist.sends
  frames : ∀ sent ∈ s.hist.frames, (sent.id, sent.message) ∈ s.hist.sends ∧
    ∃ c c', T.send c sent.message = (.ok sent.frame, c')
  flushing : ∀ f id, s.cmd = .flushing f (.reply id) →
    ∃ sent, s.hist.frames.getLast? = some sent ∧ sent.id = id
  replies : ∀ id, (id, Except.ok ()) ∈ s.hist.replies →
    ∃ sent ∈ s.hist.frames, sent.id = id ∧ sent.before ++ sent.frame <+: s.accepted

namespace State.SendsSound

/-- A step that makes no call, puts no frame on the wire and acknowledges nothing keeps the
invariant. -/
theorem mono (h : s.SendsSound) (hsends : s'.hist.sends = s.hist.sends)
    (hnext : s.nextId ≤ s'.nextId)
    (hcmds : ∀ id message, Cmd.send id message ∈ s'.shared.cmds →
      Cmd.send id message ∈ s.shared.cmds)
    (hframes : s'.hist.frames = s.hist.frames)
    (hreplies : ∀ id, (id, Except.ok ()) ∈ s'.hist.replies → (id, Except.ok ()) ∈ s.hist.replies)
    (haccepted : s.accepted <+: s'.accepted)
    (hcmd : ∀ f id, s'.cmd = .flushing f (.reply id) → ∃ f', s.cmd = .flushing f' (.reply id)) :
    s'.SendsSound where
  ids_lt call hcall := (h.ids_lt call (hsends ▸ hcall)).trans_le hnext
  ids_nodup := hsends ▸ h.ids_nodup
  cmds id message hm := hsends ▸ h.cmds id message (hcmds id message hm)
  frames sent hsent := hsends ▸ h.frames sent (hframes ▸ hsent)
  flushing f id hf := by
    obtain ⟨f', hf'⟩ := hcmd f id hf
    exact hframes ▸ h.flushing f' id hf'
  replies id hid := by
    obtain ⟨sent, hsent, hsid, hacc⟩ := h.replies id (hreplies id hid)
    exact ⟨sent, hframes ▸ hsent, hsid, hacc.trans haccepted⟩

/-- Appending answers other than success acknowledges nothing. -/
theorem mem_ok_append {id : Nat} {replies acks : List (Nat × Except Error Unit)}
    (hacks : ∀ ack ∈ acks, ∃ err, ack.2 = .error err)
    (h : (id, Except.ok ()) ∈ replies ++ acks) : (id, Except.ok ()) ∈ replies := by
  rcases List.mem_append.mp h with h | h
  · exact h
  · obtain ⟨err, herr⟩ := hacks _ h
    cases herr

/-- The reader task answers no send. -/
theorem reader (h : s.SendsSound) (hf : ReaderFrame s s') : s'.SendsSound := by
  rw [hf]
  exact h.mono rfl le_rfl (fun _ _ hm => hm) rfl (fun _ hr => hr) List.prefix_rfl
    (fun f id hc => ⟨f, hc⟩)

/-- The transport and the clock answer no send. -/
theorem transport (h : s.SendsSound) (hf : TransportFrame s s') : s'.SendsSound := by
  rw [hf]
  exact h.mono rfl le_rfl (fun _ _ hm => hm) rfl (fun _ hr => hr) List.prefix_rfl
    (fun f id hc => ⟨f, hc⟩)

/-- A `close` call adds no `send` command. -/
theorem callClose (h : s.SendsSound) (code : Option UInt16) (reason : String) :
    (s.callClose code reason).SendsSound := by
  have hpush {c : State T} (hc : c.SendsSound) : (c.pushCmd (.close code reason)).SendsSound :=
    hc.mono rfl le_rfl (by simp [State.pushCmd]) rfl (fun _ hr => hr) List.prefix_rfl
      (fun f id hc => ⟨f, hc⟩)
  unfold State.callClose
  split
  · exact h
  · simp only []
    split
    · exact h
    · split
      · exact ⟨h.ids_lt, h.ids_nodup, h.cmds, h.frames, h.flushing, h.replies⟩
      · exact hpush ⟨h.ids_lt, h.ids_nodup, h.cmds, h.frames, h.flushing, h.replies⟩

/-- The inbound queue answers no send. -/
theorem inbox (h : s.SendsSound) (hf : InboxFrame s s') : s'.SendsSound := by
  rw [hf]
  exact ⟨h.ids_lt, h.ids_nodup, h.cmds, h.frames, h.flushing, h.replies⟩

/-- A `send` call is new, and either fails at once or enters the command channel. -/
theorem callSend (h : s.SendsSound) (message : Message) : (s.callSend message).SendsSound := by
  have hnew : ∀ call ∈ s.hist.sends ++ [(s.nextId, message)], call.1 < s.nextId + 1 := by
    intro call hcall
    rcases List.mem_append.mp hcall with hcall | hcall
    · exact (h.ids_lt call hcall).trans (Nat.lt_succ_self _)
    · simp [List.mem_singleton.mp hcall]
  have hnodup : ((s.hist.sends ++ [(s.nextId, message)]).map Prod.fst).Nodup := by
    rw [List.map_append, List.nodup_append]
    refine ⟨h.ids_nodup, by simp, fun id hid id' hid' => ?_⟩
    obtain ⟨call, hcall, rfl⟩ := List.mem_map.mp hid
    obtain rfl : id' = s.nextId := by simpa using hid'
    exact (h.ids_lt call hcall).ne
  have hold (call : Nat × Message) (hc : call ∈ s.hist.sends) :
      call ∈ s.hist.sends ++ [(s.nextId, message)] := List.mem_append_left _ hc
  have hframes : ∀ sent ∈ s.hist.frames,
      (sent.id, sent.message) ∈ s.hist.sends ++ [(s.nextId, message)] ∧
      ∃ c c', T.send c sent.message = (.ok sent.frame, c') :=
    fun sent hsent => ⟨hold _ (h.frames sent hsent).1, (h.frames sent hsent).2⟩
  simp only [State.callSend]
  split
  · refine ⟨hnew, hnodup, fun id m hm => hold _ (h.cmds id m hm), hframes, h.flushing, ?_⟩
    exact fun id hid => h.replies id (mem_ok_append (by simp) hid)
  · refine ⟨hnew, hnodup, fun id m hm => ?_, hframes, h.flushing, h.replies⟩
    rcases List.mem_append.mp hm with hm | hm
    · exact hold _ (h.cmds id m hm)
    · obtain ⟨rfl, rfl⟩ : id = s.nextId ∧ m = message := by simpa using hm
      exact List.mem_append_right _ (List.mem_singleton.mpr rfl)

/-- A call of `send` is answered, or its command waits in the channel. -/
theorem guest (h : s.SendsSound) {a : Action} (hm : GuestMove s a s') : s'.SendsSound := by
  cases hm with
  | send message => exact h.callSend message
  | receive =>
    have hnext : ∀ call ∈ s.hist.sends, call.1 < s.nextId + 1 :=
      fun call hcall => (h.ids_lt call hcall).trans (Nat.lt_succ_self _)
    simp only [State.callReceive]
    split
    · exact ⟨hnext, h.ids_nodup, h.cmds, h.frames, h.flushing, h.replies⟩
    · split
      · exact ⟨hnext, h.ids_nodup, h.cmds, h.frames, h.flushing, h.replies⟩
      · exact ⟨hnext, h.ids_nodup, h.cmds, h.frames, h.flushing, h.replies⟩
  | receiveViaStream =>
    simp only [State.callReceiveViaStream]
    split
    · exact h
    · split
      · exact ⟨h.ids_lt, h.ids_nodup, h.cmds, h.frames, h.flushing, h.replies⟩
      · refine h.mono rfl le_rfl (fun id m hm => ?_) rfl (fun _ hr => hr) List.prefix_rfl
          (fun f id hc => ⟨f, hc⟩)
        simpa [State.pushCmd] using hm
  | close code reason => exact h.callClose code reason
  | drop =>
    have hclose := h.callClose none ""
    exact ⟨hclose.ids_lt, hclose.ids_nodup, hclose.cmds, hclose.frames, hclose.flushing,
      hclose.replies⟩
  | pollReceive hp => exact h.inbox (.pollReceive hp)
  | feederNext _ hs => exact h.inbox (.feederSelect hs)
  | feederLock | taken | dropped =>
    exact ⟨h.ids_lt, h.ids_nodup, h.cmds, h.frames, h.flushing, h.replies⟩

/-- A `send` command puts its frame on the wire, or is answered with an error. -/
theorem cmdSend (h : s.SendsSound) {id : Nat} {message : Message}
    (hcall : (id, message) ∈ s.hist.sends) : (s.cmdSend id message).SendsSound := by
  have hfail (err : Error) (ws : T.Ctx) :
      ({ s with ws := ws }.reply id (.error err)).SendsSound := by
    refine h.mono rfl le_rfl (fun _ _ hm => hm) rfl (fun i hi => ?_) List.prefix_rfl ?_
    · exact mem_ok_append (by simp) hi
    · exact fun f i hf => ⟨f, hf⟩
  unfold State.cmdSend
  split
  · exact hfail .closed s.ws
  · unfold State.webSocketSend
    rcases hsend : T.send s.ws message with ⟨err | frame, ws⟩
    · exact hfail _ ws
    · refine ⟨h.ids_lt, h.ids_nodup, h.cmds, fun sent hsent => ?_, fun f i hf => ?_,
        fun i hi => ?_⟩
      · rcases List.mem_append.mp hsent with hsent | hsent
        · exact h.frames sent hsent
        · rw [List.mem_singleton.mp hsent]
          exact ⟨hcall, s.ws, ws, hsend⟩
      · obtain ⟨-, rfl⟩ : FlushPc.lock = f ∧ id = i := by
          simpa [State.cmdGoes] using hf
        exact ⟨_, List.getLast?_concat, rfl⟩
      · obtain ⟨sent, hsent, hsid, hacc⟩ := h.replies i hi
        exact ⟨sent, List.mem_append_left _ hsent, hsid, hacc⟩

/-- Going on without a `send` call to acknowledge. -/
theorem cmdGoes (h : s.SendsSound) (flush : Bool) {next : CmdNext}
    (hnext : ∀ id, next ≠ .reply id) : (s.cmdGoes flush next).SendsSound := by
  refine ⟨h.ids_lt, h.ids_nodup, h.cmds, h.frames, fun f id hf => ?_, h.replies⟩
  cases flush <;> cases next <;> simp_all [State.cmdGoes, CmdNext.pc]

/-- A close of the command task answers no send. -/
theorem cmdCloses (h : s.SendsSound) (frame : Option CloseFrame) {next : CmdNext}
    (hnext : ∀ id, next ≠ .reply id) :
    ((s.beginClose frame).2.cmdGoes (s.beginClose frame).1 next).SendsSound :=
  (h.reader (.beginClose s frame)).cmdGoes _ hnext

/-- The command task outside of a flush keeps the invariant. -/
theorem cmd (h : s.SendsSound) (hs : s.cmdStep = some s') : s'.SendsSound := by
  have hpop {c : Cmd} {rest : List Cmd} (hcmds : s.shared.cmds = c :: rest) :
      (s.popCmd rest).SendsSound :=
    h.mono rfl le_rfl (fun id m hm => hcmds ▸ List.mem_cons_of_mem c hm) rfl (fun _ hr => hr)
      List.prefix_rfl (fun f id hc => ⟨f, hc⟩)
  unfold State.cmdStep at hs
  split at hs
  · split at hs
    · cases hs
      exact ⟨h.ids_lt, h.ids_nodup, h.cmds, h.frames, by simp, h.replies⟩
    · split at hs
      · next c rest hcmds =>
        cases hs
        cases c with
        | send id message =>
          exact (hpop hcmds).cmdSend (h.cmds id message (hcmds ▸ List.mem_cons_self))
        | close code reason => exact (hpop hcmds).cmdCloses _ (by simp)
        | claimStream =>
          have hp := hpop hcmds
          exact ⟨hp.ids_lt, hp.ids_nodup, hp.cmds, hp.frames, hp.flushing, hp.replies⟩
      · split at hs
        · cases hs
        · cases hs
          exact h.cmdCloses none (by simp)
  · split at hs
    · next c rest hcmds =>
      cases hs
      have hp := hpop hcmds
      cases c with
      | send id message =>
        exact ⟨hp.ids_lt, hp.ids_nodup, hp.cmds, hp.frames, hp.flushing,
          fun i hi => hp.replies i (mem_ok_append (by simp) hi)⟩
      | close code reason => exact hp
      | claimStream => exact ⟨hp.ids_lt, hp.ids_nodup, hp.cmds, hp.frames, hp.flushing, hp.replies⟩
    · split at hs
      · cases hs
      · cases hs
        exact ⟨h.ids_lt, h.ids_nodup, h.cmds, h.frames, by simp, h.replies⟩
  · cases hs
  · cases hs

/-- A flush that returns acknowledges a `send` with success only when everything up to the end of
its frame has been accepted. -/
theorem resume (h : s.SendsSound) {t : Task} {f : FlushPc} (hf : s.flush t = some f)
    {result : Except Error Unit} (hok : result = .ok () → s.mark t <+: s.accepted) :
    (s.resume t result).SendsSound := by
  cases t with
  | reader =>
    obtain ⟨next, hr⟩ := flush_reader.mp hf
    rw [resume_reader hr]
    exact ⟨h.ids_lt, h.ids_nodup, h.cmds, h.frames, h.flushing, h.replies⟩
  | cmd =>
    obtain ⟨next, hc⟩ := flush_cmd.mp hf
    rw [resume_cmd hc]
    refine ⟨h.ids_lt, h.ids_nodup, h.cmds, h.frames, fun f' id hf' => ?_, fun id hid => ?_⟩
    · cases next <;> simp [CmdNext.pc] at hf'
    · rcases List.mem_append.mp hid with hid | hid
      · exact h.replies id hid
      · obtain ⟨rfl, rfl⟩ : next = .reply id ∧ result = .ok () := by
          cases next <;> simp_all [CmdNext.acks]
        obtain ⟨sent, hlast, hsid⟩ := h.flushing f id hc
        have hmark : s.mark .cmd = sent.before ++ sent.frame := by
          simp [State.mark, hc, hlast]
        exact ⟨sent, List.mem_of_getLast? hlast, hsid, hmark ▸ hok rfl⟩

/-- A flush that moves on answers no send. -/
theorem setFlush (h : s.SendsSound) {t : Task} {f : FlushPc} (hf : s.flush t = some f)
    (g : FlushPc) : (s.setFlush t g).SendsSound := by
  cases t with
  | reader =>
    obtain ⟨next, hr⟩ := flush_reader.mp hf
    rw [setFlush_reader hr]
    exact ⟨h.ids_lt, h.ids_nodup, h.cmds, h.frames, h.flushing, h.replies⟩
  | cmd =>
    obtain ⟨next, hc⟩ := flush_cmd.mp hf
    rw [setFlush_cmd hc]
    refine h.mono rfl le_rfl (fun _ _ hm => hm) rfl (fun _ hr => hr) List.prefix_rfl ?_
    rintro f' id ⟨⟩
    exact ⟨f, hc⟩

/-- A flush keeps the invariant: what it returns is what the pipe says. -/
theorem flush (h : s.SendsSound) (hp : s.pipe.Sound) {t : Task} (hf : Flushes s t s') :
    s'.SendsSound := by
  have hsame {c : State T} (hc : c = { s with
      flags := c.flags, io := c.io, writeLock := c.writeLock
      hist := { s.hist with handed := c.hist.handed, owed := c.hist.owed } }) : c.SendsSound := by
    rw [hc]
    exact ⟨h.ids_lt, h.ids_nodup, h.cmds, h.frames, h.flushing, h.replies⟩
  have hdrain : s.drainOutbound.2.SendsSound := hsame rfl
  have hhold : (s.drainOutbound.2.holdLock t s.io.outbound).SendsSound := hsame rfl
  have hunlock : s.releaseLock.SendsSound := hsame rfl
  have harm : s.armDeadline.SendsSound := hsame rfl
  have hdie : s.releaseLock.markWriteDead.armDeadline.SendsSound := hsame rfl
  cases hf with
  | empty hl hf hb =>
    refine hdrain.resume hf fun hok => ?_
    have hd : s.flags.writeDead = false := by
      refine Bool.eq_false_iff.mpr fun hd => ?_
      rw [if_pos hd] at hok
      cases hok
    exact hp.ok_of_drainEmpty hl (stage_of_lock hf) hb hd
  | dead hl hf hd => exact hdrain.resume hf nofun
  | start hl hf hb hd => exact hhold.setFlush hf _
  | done hf => exact hunlock.resume hf fun _ => hp.ok_of_complete (stage_of_write hf)
  | localClose hf hc => exact harm.setFlush hf _
  | fail hf he => exact hdie.resume hf nofun
  | @accept n rest bound hl hf =>
    have haccept : (s.acceptBytes (rest.take n)).SendsSound :=
      h.mono rfl le_rfl (fun _ _ hm => hm) rfl (fun _ hr => hr) (List.prefix_append _ _)
        (fun f id hc => ⟨f, hc⟩)
    exact haccept.setFlush hf _

end State.SendsSound

/-- In every reachable state the `send` calls are accounted for. -/
theorem sends_sound (h : (system T).Reachable s) : s.SendsSound := by
  refine System.Reachable.induction (I := State.SendsSound) ?_ ?_ h
  · rintro _ ⟨config, ws, io, now, -, heof, rfl⟩
    constructor <;> simp [State.start, History.empty]
  · intro s a s' hs ih hstep
    cases step_kind hstep with
    | reader h => exact ih.reader (.step h)
    | cmd h => exact ih.cmd h
    | flush t h => exact ih.flush (pipe_sound hs) h
    | transport h _ => exact ih.transport h
    | guest h => exact ih.guest h

/-- Once the write side is dead, no bytes are handed to a write. -/
theorem handed_of_dead {a : Action} (hd : s.flags.writeDead = true) (h : step s a = some s') :
    s'.hist.handed = s.hist.handed := by
  have hresume (c : State T) (t : Task) (r : Except Error Unit) :
      (c.resume t r).hist.handed = c.hist.handed := by
    unfold State.resume
    split <;> split <;> rfl
  have hset (c : State T) (t : Task) (f : FlushPc) :
      (c.setFlush t f).hist.handed = c.hist.handed := by
    unfold State.setFlush
    split <;> split <;> rfl
  cases step_kind h with
  | reader h => rw [ReaderFrame.step h]
  | cmd h => rw [CmdFrame.step h]
  | transport h _ => rw [h]
  | guest h => rw [GuestFrame.of_move h]
  | flush t h =>
    cases h with
    | empty | dead | done | fail => exact hresume _ _ _
    | start _ _ _ hd' => simp [hd] at hd'
    | localClose | accept => exact hset _ _ _

/-- Along every run, the bytes the wit outbound stream accepted are a prefix of the bytes tungstenite
wrote; they only grow, and not at all once the write side is dead, when no write starts either; and
a `send` that resolved with success has its whole frame among them. -/
theorem outbound_integrity (h : (system T).Reachable s) :
    s.accepted <+: s.hist.written ∧
    (∀ a s', step s a = some s' → s.accepted <+: s'.accepted ∧
      (s.flags.writeDead = true → s'.flags.writeDead = true ∧ s'.accepted = s.accepted ∧
        s'.hist.handed = s.hist.handed)) ∧
    (∀ id message, (id, message) ∈ s.hist.sends → (id, Except.ok ()) ∈ s.hist.replies →
      ∃ sent ∈ s.hist.frames, sent.id = id ∧ sent.message = message ∧
        (∃ c c', T.send c message = (.ok sent.frame, c')) ∧
        sent.before ++ sent.frame <+: s.accepted) := by
  have hpipe : s.pipe.Sound := pipe_sound h
  have hsends : s.SendsSound := sends_sound h
  refine ⟨hpipe.accepted_prefix, fun a s' hstep => ?_, fun id message hcall hok => ?_⟩
  · obtain ⟨hpre, hdead⟩ := FlushPipe.run_accepted hpipe (pipe_step hstep)
    exact ⟨hpre, fun hd => ⟨(hdead hd).1, (hdead hd).2, handed_of_dead hd hstep⟩⟩
  · obtain ⟨sent, hsent, hsid, hacc⟩ := hsends.replies id hok
    obtain ⟨hmem, hframe⟩ := hsends.frames sent hsent
    -- The identities of the calls are distinct, so the frame is the one of this call.
    have hmessage : sent.message = message := by
      have hpair := List.inj_on_of_nodup_map hsends.ids_nodup hmem hcall hsid
      exact congrArg Prod.snd hpair
    exact ⟨sent, hsent, hsid, hmessage, hmessage ▸ hframe, hacc⟩

/-- A binary message sent and acknowledged over the core, with its frame accepted in two parts. -/
theorem outbound_integrity_binary :
    ∃ s, (system Core.tungstenite).run (Core.connection 10 100)
        [.reader, .send (.binary [7]), .cmd, .lock .cmd, .accept 3, .accept 4, .writeDone .cmd] =
          some s ∧
      ∃ sent ∈ s.hist.frames, sent.id = 0 ∧ sent.message = .binary [7] ∧
        (∃ c c', Core.tungstenite.send c (.binary [7]) = (.ok sent.frame, c')) ∧
        sent.before ++ sent.frame <+: s.accepted := by
  have hrun : (system Core.tungstenite).run (Core.connection 10 100)
      [.reader, .send (.binary [7]), .cmd, .lock .cmd, .accept 3, .accept 4, .writeDone .cmd] =
        some _ := rfl
  exact ⟨_, hrun, (outbound_integrity (Core.reachable_of_run hrun)).2.2 0 (.binary [7])
    (by decide) (by decide)⟩

end Polymorph.Provider
