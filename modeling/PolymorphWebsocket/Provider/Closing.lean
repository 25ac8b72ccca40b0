import PolymorphWebsocket.Provider.Outbound

/-!
# The guest provider: the bound on the closing procedure

Once the close deadline is armed and has passed, the reader task either leaves its select, or is
inside a flush.  A flush that started with the deadline armed races it; a flush that started before
races a local close instead, and arms the deadline itself.  What is left is a write of the command
task that started before the deadline was armed by the reader task: nothing bounds it, and the
reader waits for its lock.  `closing_bounded` says that this is the only way to be stuck, and that
no run gets there in which the reader starts no close during such a write.
-/

namespace Polymorph.Provider

open Futures Transition

variable {T : Tungstenite} {s s' : State T}

/-- The actions by which a task leaves the await it is in. -/
def Task.actions (t : Task) : List Action :=
  [match t with | .reader => .reader | .cmd => .cmd, .lock t, .writeDone t, .writeBound t]

/-- The await a task is in has been resolved: the task can take a step. -/
def State.CanStep (s : State T) (t : Task) : Prop :=
  ∃ a ∈ t.actions, (step s a).isSome = true

/-- The await a task is in has been resolved, or waits for a lock whose holder's await has. -/
def State.Unblocked (s : State T) (t : Task) : Prop :=
  s.CanStep t ∨ ∃ holder, s.flush t = some .lock ∧ s.writeLock = some holder ∧ s.CanStep holder

/-- A write of the command task is incomplete that started before any deadline was armed, and no
local close has been made. -/
def State.UnboundedWrite (s : State T) : Prop :=
  s.shared.localClosed = false ∧
    ∃ byte rest, s.flush .cmd = some (.write (byte :: rest) .localClose)

/-- An incomplete write that races a local close. -/
def FlushPc.racesLocalClose : FlushPc → Bool
  | .write (_ :: _) .localClose => true
  | _ => false

/-- Only the command task writes under the local close. -/
theorem unboundedWrite_iff : s.UnboundedWrite ↔
    s.shared.localClosed = false ∧ (s.flush .cmd).any FlushPc.racesLocalClose = true := by
  unfold State.UnboundedWrite
  rcases s.flush .cmd with - | f
  · simp
  · cases f with
    | lock => simp [FlushPc.racesLocalClose]
    | write rest bound => cases rest <;> cases bound <;> simp [FlushPc.racesLocalClose]

instance (s : State T) : Decidable s.UnboundedWrite := decidable_of_iff' _ unboundedWrite_iff

/-- The next message cannot be reserved under the budget. -/
def State.overflows (s : State T) (message : Message) : Bool :=
  !s.flags.wireClosing && !(s.shared.budget.reserve message.payloadLen).1

/-- What a `read()` of the drain loop returns makes the reader close toward the peer: a message past
the budget, or one past the transport cap. -/
def State.closesUncoded (s : State T) : Option Inbound → Bool
  | some .capacity => !s.flags.wireClosing
  | some (.binary bytes) => s.overflows (.binary bytes)
  | some (.text text) => s.overflows (.string text)
  | _ => false

/-- What a `read()` of the drain loop returns starts the closing procedure: a peer close frame, or
what makes the reader close. -/
def State.startsClose (s : State T) : Option Inbound → Bool
  | some (.close _) => true
  | read => s.closesUncoded read

/-- The condition on a step: the reader does not start the closing procedure, no deadline being
armed, while a write of the command task is unbounded. -/
def ClosesBounded (s : State T) (a : Action) : Prop :=
  a = .reader → s.reader = .drain → s.flags.deadline = none →
    s.startsClose s.io.nextOutcome.1 = true → ¬ s.UnboundedWrite

instance (s : State T) (a : Action) : Decidable (ClosesBounded s a) := by
  unfold ClosesBounded
  infer_instance

/-- A write that races a local close although a deadline is armed has a local close to see. -/
def State.Bounded (s : State T) (t : Task) : Prop :=
  ∀ byte rest, s.flush t = some (.write (byte :: rest) .localClose) →
    s.flags.deadline ≠ none → s.shared.localClosed = true

/-! ### Flushes -/

/-- It speaks of the flush, the deadline and the local close only. -/
theorem Bounded_congr {t : Task} (h : s.Bounded t) (hf : s'.flush t = s.flush t)
    (hd : s'.flags.deadline = s.flags.deadline)
    (hl : s.shared.localClosed = true → s'.shared.localClosed = true) : s'.Bounded t := by
  intro byte rest hf' hd'
  exact hl (h byte rest (hf ▸ hf') (hd ▸ hd'))

/-- A task that does not write is not unbounded. -/
theorem Bounded_of_flush_ne {t : Task}
    (hf : ∀ rest bound, s.flush t ≠ some (.write rest bound)) : s.Bounded t :=
  fun _ _ h => (hf _ _ h).elim

/-- A flush that returns leaves the other task bounded. -/
theorem bounded_resume {t t' : Task} {f : FlushPc} (hf : s.flush t' = some f)
    (h : t ≠ t' → s.Bounded t) (result : Except Error Unit) : (s.resume t' result).Bounded t := by
  intro byte rest hf' hd
  rw [flush_resume hf] at hf'
  rw [resume_flags] at hd
  rw [resume_shared]
  split at hf'
  · cases hf'
  · next ht => exact h ht byte rest hf' hd

/-- A flush that moves on bounds the write it starts. -/
theorem bounded_setFlush {t t' : Task} {f : FlushPc} (hf : s.flush t' = some f) (g : FlushPc)
    (h : t ≠ t' → s.Bounded t)
    (hg : ∀ byte rest, t = t' → g = .write (byte :: rest) .localClose →
      s.flags.deadline ≠ none → s.shared.localClosed = true) : (s.setFlush t' g).Bounded t := by
  intro byte rest hf' hd
  rw [flush_setFlush hf] at hf'
  rw [setFlush_flags] at hd
  rw [setFlush_shared]
  split at hf'
  · next ht => exact hg byte rest ht (Option.some.inj hf') hd
  · next ht => exact h ht byte rest hf' hd

/-- A flush of either task keeps the writes of a task bounded. -/
theorem bounded_flush (hp : s.pipe.Sound) {t t' : Task} (h : s.Bounded t)
    (hf : Flushes s t' s') : s'.Bounded t := by
  cases hf with
  | empty hl hf hb => exact bounded_resume (s := s.drainOutbound.2) hf (fun _ => h) _
  | dead hl hf hd => exact bounded_resume (s := s.drainOutbound.2) hf (fun _ => h) _
  | start hl hf hb hd =>
    refine bounded_setFlush (s := s.drainOutbound.2.holdLock t' s.io.outbound) hf _
      (fun _ => h) fun byte rest _ hg hd' => ?_
    cases hdeadline : s.flags.deadline with
    | none => exact (hd' hdeadline).elim
    | some d => simp [hdeadline] at hg
  | done hf => exact bounded_resume (s := s.releaseLock) hf (fun _ => h) _
  | localClose hf hc =>
    exact bounded_setFlush (s := s.armDeadline) hf _ (fun _ _ _ _ _ => hc) fun _ _ _ _ _ => hc
  | fail hf he =>
    -- The task that fails its write holds the lock, so the other one is not in a write.
    refine bounded_resume (s := s.releaseLock.markWriteDead.armDeadline) hf (fun ht => ?_) _
    refine Bounded_of_flush_ne fun rest bound hw => ?_
    exact hp.not_writing_of_ne (hp.lock_of_writing (stage_of_write hf)) ht _ _ (stage_of_write hw)
  | @accept n rest bound hl hf =>
    refine bounded_setFlush (s := s.acceptBytes (rest.take n)) hf _ (fun _ => h)
      fun byte rest' ht hg hd => ?_
    subst ht
    obtain ⟨hdrop, rfl⟩ : rest.drop n = byte :: rest' ∧ bound = .localClose := by
      simpa using hg
    cases rest with
    | nil => simp at hdrop
    | cons b r => exact h b r hf hd

/-! ### What arms the deadline -/

/-- Beginning the closing handshake arms no deadline when one is armed or the handshake has begun. -/
theorem beginClose_deadline (h : s.flags.deadline ≠ none ∨ s.flags.wireClosing = true)
    (frame : Option CloseFrame) :
    (s.beginClose frame).2.flags.deadline = s.flags.deadline := by
  rcases beginClose_cases s frame with ⟨-, hb⟩ | ⟨hw, _, _, -, hb⟩ | ⟨hw, _, _, -, hb⟩ <;> rw [hb]
  all_goals
    have hd : s.flags.deadline ≠ none := h.resolve_right (by simp [hw])
    exact PumpFlags.armDeadline_deadline { s.flags with wireClosing := true } _ _ hd

/-- After delivering a message, the reader finds the overflow latched and no closing handshake
begun exactly when the message does not fit. -/
theorem deliver_overflows (s : State T) (message : Message) :
    ((s.deliver message).shared.budget.overflowed && !(s.deliver message).flags.wireClosing) =
      s.overflows message := by
  rw [deliver_flags]
  rcases deliver_cases s message with ⟨hw, h⟩ | ⟨hw, budget, hb, h⟩ | ⟨hw, budget, hb, h⟩ <;>
    rw [h]
  · simp [State.overflows, hw]
  · have hlatch : budget.overflowed = false := by
      simpa [hb] using s.shared.budget.reserve_overflowed message.payloadLen
    simp [State.overflows, hw, hb, hlatch]
  · have hlatch : budget.overflowed = true := by
      simpa [hb] using s.shared.budget.reserve_overflowed message.payloadLen
    simp [State.overflows, State.noteCut, hw, hb, hlatch]

/-- The drain loop arms no deadline when one is armed or what it read starts no close. -/
theorem drainRead_deadline {read : Option Inbound}
    (h : s.flags.deadline ≠ none ∨ s.startsClose read = false) :
    (s.drainRead read).flags.deadline = s.flags.deadline := by
  have hdata (message : Message)
      (h : s.flags.deadline ≠ none ∨ s.overflows message = false) :
      (s.readData message).flags.deadline = s.flags.deadline := by
    simp only [State.readData, deliver_overflows]
    split
    · next hover =>
      have hd : (s.deliver message).flags.deadline ≠ none := by
        rw [deliver_flags]
        exact h.resolve_right (by simp [hover])
      exact (beginClose_deadline (.inl hd) none).trans (by rw [deliver_flags])
    · exact congrArg PumpFlags.deadline (deliver_flags s message)
  rcases read with - | i
  · rfl
  cases i with
  | binary bytes => exact hdata _ h
  | text text => exact hdata _ h
  | close frame =>
    have hd : s.flags.deadline ≠ none := h.resolve_right (by simp [State.startsClose])
    exact PumpFlags.armDeadline_deadline s.flags _ _ hd
  | capacity =>
    have hlatch : (s.latchOverflow.noteCut s.hist.data.length).flags.deadline ≠ none ∨
        (s.latchOverflow.noteCut s.hist.data.length).flags.wireClosing = true :=
      h.imp_right (by simp [State.startsClose, State.closesUncoded, State.latchOverflow,
        State.noteCut])
    exact beginClose_deadline hlatch none
  | ping | pong | frame | connectionClosed | error => rfl

/-- The reader arms the deadline only when what it reads starts the closing procedure. -/
theorem readerStep_deadline (h : s.readerStep = some s') :
    s'.flags.deadline = s.flags.deadline ∨ (s.reader = .drain ∧ s.flags.deadline = none ∧
      s.startsClose s.io.nextOutcome.1 = true) := by
  unfold State.readerStep at h
  split at h
  · next hr =>
    cases h
    by_cases hd : s.flags.deadline = none
    · cases hstart : s.startsClose s.io.nextOutcome.1 with
      | true => exact .inr ⟨hr, hd, rfl⟩
      | false => exact .inl (drainRead_deadline (s := s.webSocketRead.2) (.inr hstart))
    · exact .inl (drainRead_deadline (s := s.webSocketRead.2) (.inl hd))
  · cases h
    have hlast (c : State T) (read : Option Inbound) :
        (c.lastDrainRead read).flags.deadline = c.flags.deadline := by
      rcases read with - | i
      · rfl
      cases i with
      | binary | text => exact congrArg PumpFlags.deadline (deliver_flags c _)
      | close | ping | pong | frame | capacity | connectionClosed | error => rfl
    exact .inl (hlast s.webSocketRead.2 _)
  · cases h; exact .inl rfl
  · split at h
    · cases h; exact .inl rfl
    · cases h
  · cases h
  · cases h

/-- The command task arms the deadline only for a close command, or when all its senders are
gone. -/
theorem cmdStep_deadline (h : s.cmdStep = some s') :
    s'.flags.deadline = s.flags.deadline ∨
      (∃ code reason, Cmd.close code reason ∈ s.shared.cmds) ∨ s.cmdSenderLive = false := by
  unfold State.cmdStep at h
  split at h
  · split at h
    · cases h; exact .inl rfl
    · split at h
      · next c rest hcmds =>
        cases h
        cases c with
        | send id message =>
          refine .inl ?_
          simp only [State.cmdLive, State.cmdSend]
          split
          · rfl
          · simp only [State.webSocketSend]
            rcases T.send (s.popCmd rest).ws message with ⟨err | frame, ws⟩ <;> rfl
        | close code reason => exact .inr (.inl ⟨code, reason, by simp [hcmds]⟩)
        | claimStream => exact .inl rfl
      · split at h
        · cases h
        · next hlive => exact .inr (.inr (by simpa using hlive))
  · split at h
    · next c rest _ =>
      cases h
      cases c <;> exact .inl rfl
    · split at h
      · cases h
      · cases h; exact .inl rfl
  · cases h
  · cases h

/-! ### The invariants -/

/-- The close commands in the channel come with a local close, and the writes of the reader task
are bounded. -/
structure State.CloseSound (s : State T) : Prop where
  cmds : ∀ code reason, Cmd.close code reason ∈ s.shared.cmds → s.shared.localClosed = true
  reader : s.Bounded .reader

/-- A step of the command task arms the deadline during a write of the reader task only for a
local close. -/
theorem State.CloseSound.cmdStep (h : s.CloseSound) (hs : s.cmdStep = some s') :
    s'.CloseSound := by
  have hframe : CmdFrame s s' := .step hs
  have hlocal : s'.shared.localClosed = s.shared.localClosed := by rw [hframe]
  refine ⟨fun code reason hc => ?_, fun byte rest hf hd => ?_⟩
  · rw [hlocal]
    exact h.cmds code reason (cmdStep_cmds hs _ hc)
  · rw [flush_reader_congr hframe.reader] at hf
    rw [hlocal]
    rcases cmdStep_deadline hs with hsame | ⟨code, reason, hc⟩ | hgone
    · exact h.reader byte rest hf (hsame ▸ hd)
    · exact h.cmds code reason hc
    · -- Without senders the reader task has finished.
      obtain ⟨next, hr⟩ := flush_reader.mp hf
      simp [State.cmdSenderLive, hr] at hgone

/-- In every reachable state the close commands come with a local close, and the reader's writes
are bounded. -/
theorem close_sound (h : (system T).Reachable s) : s.CloseSound := by
  refine System.Reachable.induction (I := State.CloseSound) ?_ ?_ h
  · rintro _ ⟨config, ws, io, now, -, heof, rfl⟩
    refine ⟨fun _ _ hc => ?_, fun _ _ hf => ?_⟩
    · cases hc
    · cases hf
  · intro s a s' hs ih hstep
    cases step_kind hstep with
    | reader h =>
      refine ⟨?_, Bounded_of_flush_ne (readerStep_flush h)⟩
      rw [ReaderFrame.step h]
      exact ih.cmds
    | cmd h => exact ih.cmdStep h
    | flush t h =>
      refine ⟨?_, bounded_flush (pipe_sound hs) ih.reader h⟩
      rw [FlushFrame.of_flushes h]
      exact ih.cmds
    | transport h hr =>
      refine ⟨by rw [h]; exact ih.cmds, ?_⟩
      rcases hr with hr | ⟨-, -, hr | hr⟩
      · exact Bounded_congr ih.reader (flush_reader_congr hr) (by rw [h]) (by rw [h]; exact id)
      · exact Bounded_of_flush_ne (by simp [State.flush, hr])
      · exact Bounded_of_flush_ne (by simp [State.flush, hr])
    | guest h =>
      obtain ⟨hmono, hcmds⟩ := guest_close h
      have hframe := GuestFrame.of_move h
      refine ⟨fun code reason hc => ?_, ?_⟩
      · exact (hcmds code reason hc).elim (fun hc => hmono (ih.cmds code reason hc)) id
      · exact Bounded_congr ih.reader (flush_reader_congr (by rw [hframe])) (by rw [hframe]) hmono

/-- While the reader starts no close during an unbounded write, the writes of the command task are
bounded as well. -/
theorem cmd_bounded (h : (system T).ReachableUnder ClosesBounded s) : s.Bounded .cmd := by
  refine System.ReachableUnder.induction (I := fun s => s.Bounded .cmd) ?_ ?_ h
  · rintro _ ⟨config, ws, io, now, -, heof, rfl⟩ byte rest hf
    cases hf
  · intro s a s' hs ih hc hstep
    cases step_kind hstep with
    | reader h =>
      have hframe : ReaderFrame s s' := .step h
      intro byte rest hf hd
      rw [flush_cmd_congr hframe.cmd] at hf
      have hlocal : s'.shared.localClosed = s.shared.localClosed := by rw [hframe]
      rw [hlocal]
      rcases readerStep_deadline h with hsame | ⟨hr, hnone, hstart⟩
      · exact ih byte rest hf (hsame ▸ hd)
      · by_contra hopen
        exact hc rfl hr hnone hstart ⟨by simpa using hopen, byte, rest, hf⟩
    | cmd h => exact Bounded_of_flush_ne (cmdStep_flush h)
    | flush t h => exact bounded_flush (pipe_sound hs.reachable) ih h
    | transport h _ =>
      exact Bounded_congr ih (flush_cmd_congr (by rw [h])) (by rw [h]) (by rw [h]; exact id)
    | guest h =>
      have hframe := GuestFrame.of_move h
      exact Bounded_congr ih (flush_cmd_congr (by rw [hframe])) (by rw [hframe]) (guest_close h).1

/-! ### The timer -/

/-- The deadline and its timer stay as they are, or are armed together. -/
def KeepsTimer (flags flags' : PumpFlags) : Prop :=
  (flags'.deadline = flags.deadline ∧ flags'.deadlineArmed = flags.deadlineArmed) ∨
    (flags'.deadline ≠ none ∧ flags'.deadlineArmed = true)

namespace KeepsTimer

/-- The flags are left alone. -/
theorem refl (flags : PumpFlags) : KeepsTimer flags flags := .inl ⟨rfl, rfl⟩

/-- Pieces after one another. -/
theorem trans {f₁ f₂ f₃ : PumpFlags} (h₁ : KeepsTimer f₁ f₂) (h₂ : KeepsTimer f₂ f₃) :
    KeepsTimer f₁ f₃ := by
  rcases h₂ with ⟨hd, ha⟩ | harmed
  · rcases h₁ with ⟨hd', ha'⟩ | ⟨hd', ha'⟩
    · exact .inl ⟨hd.trans hd', ha.trans ha'⟩
    · exact .inr ⟨hd ▸ hd', ha.trans ha'⟩
  · exact .inr harmed

/-- Arming the deadline starts the timer with it. -/
theorem armDeadline (flags : PumpFlags) (now ns : Nat) :
    KeepsTimer flags (flags.armDeadline now ns) := by
  unfold PumpFlags.armDeadline
  split
  · exact .inr ⟨nofun, rfl⟩
  · exact .refl flags

/-- Beginning to close arms the deadline, or finds the closing begun. -/
theorem beginClose (s : State T) (frame : Option CloseFrame) :
    KeepsTimer s.flags (s.beginClose frame).2.flags := by
  have hclosing : KeepsTimer s.flags (s.closing frame).flags :=
    .armDeadline { s.flags with wireClosing := true } _ _
  rcases beginClose_cases s frame with ⟨-, h⟩ | ⟨-, _, _, -, h⟩ | ⟨-, _, _, -, h⟩ <;> rw [h]
  · exact .refl _
  · exact hclosing
  · exact hclosing

/-- Each result of a read of the drain loop. -/
theorem drainRead (s : State T) (read : Option Inbound) :
    KeepsTimer s.flags (s.drainRead read).flags := by
  have hdata (message : Message) : KeepsTimer s.flags (s.readData message).flags := by
    have hdeliver : KeepsTimer s.flags (s.deliver message).flags := by
      rw [deliver_flags]
      exact .refl _
    simp only [State.readData]
    split
    · exact hdeliver.trans (.beginClose _ none)
    · exact hdeliver
  rcases read with - | i
  · exact .refl _
  cases i with
  | binary bytes => exact hdata _
  | text text => exact hdata _
  | close frame => exact .armDeadline s.flags _ _
  | capacity => exact .beginClose (s.latchOverflow.noteCut s.hist.data.length) none
  | ping | pong | frame | connectionClosed | error => exact .refl _

/-- Each result of the one read after the loop. -/
theorem lastDrainRead (s : State T) (read : Option Inbound) :
    KeepsTimer s.flags (s.lastDrainRead read).flags := by
  have hdeliver (message : Message) : KeepsTimer s.flags (s.deliver message).flags := by
    rw [deliver_flags]
    exact .refl _
  rcases read with - | i
  · exact .refl _
  cases i with
  | binary bytes => exact hdeliver _
  | text text => exact hdeliver _
  | close | ping | pong | frame | capacity | connectionClosed | error => exact .refl _

/-- Every step of the reader task. -/
theorem reader (h : s.readerStep = some s') : KeepsTimer s.flags s'.flags := by
  unfold State.readerStep at h
  split at h
  · cases h
    exact .drainRead s.webSocketRead.2 _
  · cases h
    exact .lastDrainRead s.webSocketRead.2 _
  · cases h
    exact .refl _
  · split at h
    · cases h
      exact .refl _
    · cases h
  · cases h
  · cases h

/-- Every step of the command task outside of a flush. -/
theorem cmd (h : s.cmdStep = some s') : KeepsTimer s.flags s'.flags := by
  unfold State.cmdStep at h
  split at h
  · split at h
    · cases h
      exact .refl _
    · split at h
      · next c rest _ =>
        cases h
        cases c with
        | send id message =>
          simp only [State.cmdLive, State.cmdSend, State.webSocketSend]
          split
          · exact .refl _
          · rcases T.send (s.popCmd rest).ws message with ⟨err | frame, ws⟩ <;> exact .refl _
        | close code reason => exact .beginClose (s.popCmd rest) _
        | claimStream => exact .refl _
      · split at h
        · cases h
        · cases h
          exact .beginClose s none
  · split at h
    · next c rest _ =>
      cases h
      cases c <;> exact .refl _
    · split at h
      · cases h
      · cases h
        exact .refl _
  · cases h
  · cases h

/-- Every step of a flush. -/
theorem flush {t : Task} (h : Flushes s t s') : KeepsTimer s.flags s'.flags := by
  cases h with
  | empty | dead | done =>
    rw [resume_flags]
    exact .refl _
  | start | accept =>
    rw [setFlush_flags]
    exact .refl _
  | localClose =>
    rw [setFlush_flags]
    exact .armDeadline s.flags _ _
  | fail =>
    rw [State.failWrite, resume_flags]
    exact .armDeadline { s.flags with writeDead := true } _ _

end KeepsTimer

/-- An armed deadline has its timer, and a write that waits for the deadline has one. -/
structure State.TimerSound (s : State T) : Prop where
  armed : s.flags.deadline ≠ none → s.flags.deadlineArmed = true
  write : ∀ t rest, s.flush t = some (.write rest .deadline) → s.flags.deadline ≠ none

/-- What keeps the timer and begins no write that waits for the deadline keeps the two in order. -/
theorem State.TimerSound.keep (h : s.TimerSound) (hk : KeepsTimer s.flags s'.flags)
    (hf : ∀ t rest, s'.flush t = some (.write rest .deadline) →
      s.flags.deadline ≠ none ∨ s'.flags.deadline ≠ none) : s'.TimerSound := by
  have hmono (hd : s.flags.deadline ≠ none) : s'.flags.deadline ≠ none := by
    rcases hk with ⟨hsame, -⟩ | ⟨hd', -⟩
    · rw [hsame]
      exact hd
    · exact hd'
  refine ⟨fun hd => ?_, fun t rest hw => (hf t rest hw).elim hmono id⟩
  rcases hk with ⟨hsame, ha⟩ | ⟨-, ha⟩
  · rw [hsame] at hd
    rw [ha]
    exact h.armed hd
  · exact ha

/-- A flush begins a write that waits for the deadline only with a deadline armed. -/
theorem deadline_of_flushes (h : s.TimerSound) {t t' : Task} (hs : Flushes s t' s') {rest : Bytes}
    (hw : s'.flush t = some (.write rest .deadline)) :
    s.flags.deadline ≠ none ∨ s'.flags.deadline ≠ none := by
  have hsame {c : State T} (hr : c.reader = s.reader) (hc : c.cmd = s.cmd) (t : Task) :
      c.flush t = s.flush t := by
    cases t with
    | reader => exact flush_reader_congr hr
    | cmd => exact flush_cmd_congr hc
  have hresume {c : State T} {f : FlushPc} {result : Except Error Unit}
      (hw : (c.resume t' result).flush t = some (.write rest .deadline)) (hr : c.reader = s.reader)
      (hc : c.cmd = s.cmd) (hf : s.flush t' = some f) : s.flags.deadline ≠ none := by
    rw [flush_resume ((hsame hr hc t').trans hf), hsame hr hc] at hw
    split at hw
    · cases hw
    · exact h.write t rest hw
  have hset {c : State T} {f g : FlushPc}
      (hw : (c.setFlush t' g).flush t = some (.write rest .deadline)) (hr : c.reader = s.reader)
      (hc : c.cmd = s.cmd) (hf : s.flush t' = some f) :
      s.flags.deadline ≠ none ∨ g = .write rest .deadline := by
    rw [flush_setFlush ((hsame hr hc t').trans hf), hsame hr hc] at hw
    split at hw
    · exact .inr (Option.some.inj hw)
    · exact .inl (h.write t rest hw)
  cases hs with
  | empty _ hf | dead _ hf | done hf | fail hf => exact .inl (hresume hw rfl rfl hf)
  | start _ hf =>
    rcases hset hw rfl rfl hf with hd | hg
    · exact .inl hd
    · refine .inl fun hnone => ?_
      simp [hnone] at hg
  | localClose hf =>
    refine .inr ?_
    have hsome := s.flags.armDeadline_isNone s.now s.closeTimeoutNs
    rw [setFlush_flags]
    intro hnone
    change (s.flags.armDeadline s.now s.closeTimeoutNs).deadline = none at hnone
    rw [hnone] at hsome
    cases hsome
  | accept n _ hf =>
    rcases hset hw rfl rfl hf with hd | hg
    · exact .inl hd
    · cases hg
      exact .inl (h.write t' _ hf)

/-- In every reachable state the deadline and the writes that wait for it are in order. -/
theorem timer_sound (h : (system T).Reachable s) : s.TimerSound := by
  refine System.Reachable.induction (I := State.TimerSound) ?_ ?_ h
  · rintro _ ⟨config, ws, io, now, -, heof, rfl⟩
    refine ⟨fun hd => absurd rfl hd, fun t rest hw => ?_⟩
    cases t <;> cases hw
  · intro s a s' _ ih hstep
    have hother {t : Task} (hsame : s'.flush t = s.flush t) {rest : Bytes}
        (hw : s'.flush t = some (.write rest .deadline)) :
        s.flags.deadline ≠ none ∨ s'.flags.deadline ≠ none :=
      .inl (ih.write t rest (hsame ▸ hw))
    cases step_kind hstep with
    | reader h =>
      refine ih.keep (.reader h) fun t rest hw => ?_
      cases t with
      | reader => exact absurd hw (readerStep_flush h rest .deadline)
      | cmd => exact hother (flush_cmd_congr (ReaderFrame.step h).cmd) hw
    | cmd h =>
      refine ih.keep (.cmd h) fun t rest hw => ?_
      cases t with
      | reader => exact hother (flush_reader_congr (CmdFrame.step h).reader) hw
      | cmd => exact absurd hw (cmdStep_flush h rest .deadline)
    | flush t h => exact ih.keep (.flush h) fun t' rest hw => deadline_of_flushes ih h hw
    | transport h hr =>
      refine ih.keep (by rw [h]; exact .refl _) fun t rest hw => ?_
      cases t with
      | cmd => exact hother (flush_cmd_congr (by rw [h])) hw
      | reader =>
        rcases hr with hr | ⟨-, -, hr | hr⟩
        · exact hother (flush_reader_congr hr) hw
        · simp [State.flush, hr] at hw
        · simp [State.flush, hr] at hw
    | guest h =>
      have hframe := GuestFrame.of_move h
      refine ih.keep (by rw [hframe]; exact .refl _) fun t rest hw => ?_
      cases t with
      | reader => exact hother (flush_reader_congr (by rw [hframe])) hw
      | cmd => exact hother (flush_cmd_congr (by rw [hframe])) hw

/-! ### The awaits at the deadline -/

/-- A deadline that has passed has been armed. -/
theorem deadline_of_expired (he : s.expired = true) : s.flags.deadline ≠ none := by
  intro hnone
  simp [State.expired, hnone] at he

/-- Past the deadline, a bounded write lets its task go on. -/
theorem canStep_of_write {t : Task} {rest : Bytes} {bound : WriteBound}
    (hf : s.flush t = some (.write rest bound)) (he : s.expired = true) (hb : s.Bounded t) :
    s.CanStep t := by
  cases rest with
  | nil => exact ⟨.writeDone t, by simp [Task.actions], by simp [step, hf]⟩
  | cons byte rest =>
    refine ⟨.writeBound t, by simp [Task.actions], ?_⟩
    cases bound with
    | deadline => simp [step, hf, he]
    | localClose =>
      have hlocal : s.shared.localClosed = true := hb byte rest hf (deadline_of_expired he)
      simp [step, hf, hlocal]

/-- A task that holds the lock is in a write. -/
theorem write_of_lock (hp : s.pipe.Sound) {t : Task} (hl : s.writeLock = some t) :
    ∃ rest bound, s.flush t = some (.write rest bound) := by
  obtain ⟨mark, rest, hw⟩ := (hp.lock_iff t).mp hl
  change s.stage t = _ at hw
  cases hf : s.flush t with
  | none => simp [State.stage, hf] at hw
  | some f =>
    cases f with
    | lock => simp [State.stage, hf] at hw
    | write rest' bound => exact ⟨rest', bound, rfl⟩

/-- Past the deadline, a task that waits for the lock gets it, or its holder can go on. -/
theorem unblocked_of_lock (hp : s.pipe.Sound) {t : Task} (hf : s.flush t = some .lock)
    (he : s.expired = true) (hb : ∀ holder, s.writeLock = some holder → s.Bounded holder) :
    s.Unblocked t := by
  cases hl : s.writeLock with
  | none => exact .inl ⟨.lock t, by simp [Task.actions], by simp [step, hl, hf]⟩
  | some holder =>
    obtain ⟨rest, bound, hw⟩ := write_of_lock hp hl
    exact .inr ⟨holder, hf, hl, canStep_of_write hw he (hb holder hl)⟩

/-- Past the deadline, the reader of an unfinished pump can go on, or waits for the lock. -/
theorem reader_canStep (h : s.CloseSound) (he : s.expired = true) (hr : s.reader ≠ .finished) :
    s.CanStep .reader ∨ s.flush .reader = some .lock := by
  have hstep (hs : s.readerStep.isSome = true) : s.CanStep .reader :=
    ⟨.reader, by simp [Task.actions], hs⟩
  cases hpc : s.reader with
  | drain | lastDrain | finalize => exact .inl (hstep (by simp [State.readerStep, hpc]))
  | parked => exact .inl (hstep (by simp [State.readerStep, hpc, he]))
  | finished => exact (hr hpc).elim
  | flushing f next =>
    cases f with
    | lock => exact .inr (flush_reader.mpr ⟨next, hpc⟩)
    | write rest bound =>
      exact .inl (canStep_of_write (flush_reader.mpr ⟨next, hpc⟩) he h.reader)

/-- A reader that waits for the lock of an unbounded write is stuck with the command task. -/
theorem stuck_of_unboundedWrite (hp : s.pipe.Sound) (hf : s.flush .reader = some .lock)
    (hw : s.UnboundedWrite) : ¬ s.CanStep .reader ∧ ¬ s.CanStep .cmd := by
  obtain ⟨hlocal, byte, rest, hcmd⟩ := hw
  have hl : s.writeLock = some .cmd := hp.lock_of_writing (stage_of_write hcmd)
  obtain ⟨next, hr⟩ := flush_reader.mp hf
  obtain ⟨next', hc⟩ := flush_cmd.mp hcmd
  constructor
  · rintro ⟨a, ha, hs⟩
    simp only [Task.actions, List.mem_cons, List.not_mem_nil, or_false] at ha
    rcases ha with rfl | rfl | rfl | rfl
    · simp [step, State.readerStep, hr] at hs
    · simp [step, hl] at hs
    · simp [step, hf] at hs
    · simp [step, hf] at hs
  · rintro ⟨a, ha, hs⟩
    simp only [Task.actions, List.mem_cons, List.not_mem_nil, or_false] at ha
    rcases ha with rfl | rfl | rfl | rfl
    · simp [step, State.cmdStep, hc] at hs
    · simp [step, hl] at hs
    · simp [step, hcmd] at hs
    · simp [step, hcmd, hlocal] at hs

/-- The closing procedure is bounded in every run in which the reader starts no close, no deadline
being armed, during an unbounded write of the command task: past the deadline, until the pump has
finalized, one of the tasks can take a step, and every await of theirs inside the pump has been
resolved or waits for a lock whose holder's await has.  In any run, the tasks are stuck past the
deadline exactly when the reader waits for the lock of an unbounded write. -/
theorem closing_bounded :
    (∀ s : State T, (system T).ReachableUnder ClosesBounded s → s.expired = true →
      s.reader ≠ .finished →
        (s.CanStep .reader ∨ s.CanStep .cmd) ∧ s.Unblocked .reader ∧
          ∀ f, s.flush .cmd = some f → s.Unblocked .cmd) ∧
    (∀ s : State T, (system T).Reachable s → s.expired = true → s.reader ≠ .finished →
      ((¬ s.CanStep .reader ∧ ¬ s.CanStep .cmd) ↔
        (s.flush .reader = some .lock ∧ s.UnboundedWrite))) := by
  constructor
  · intro s h he hr
    have hp : s.pipe.Sound := pipe_sound h.reachable
    have hclose : s.CloseSound := close_sound h.reachable
    have hbounded (t : Task) : s.Bounded t := by
      cases t with
      | reader => exact hclose.reader
      | cmd => exact cmd_bounded h
    have hreader : s.Unblocked .reader := by
      rcases reader_canStep hclose he hr with hcan | hlock
      · exact .inl hcan
      · exact unblocked_of_lock hp hlock he fun holder _ => hbounded holder
    refine ⟨?_, hreader, fun f hf => ?_⟩
    · rcases hreader with hcan | ⟨holder, -, -, hcan⟩
      · exact .inl hcan
      · cases holder with
        | reader => exact .inl hcan
        | cmd => exact .inr hcan
    · cases f with
      | lock => exact unblocked_of_lock hp hf he fun holder _ => hbounded holder
      | write rest bound => exact .inl (canStep_of_write hf he (hbounded .cmd))
  · intro s h he hr
    have hp : s.pipe.Sound := pipe_sound h
    have hclose : s.CloseSound := close_sound h
    refine ⟨fun ⟨hreader, hcmd⟩ => ?_, fun ⟨hlock, hw⟩ => stuck_of_unboundedWrite hp hlock hw⟩
    have hlock : s.flush .reader = some .lock := (reader_canStep hclose he hr).resolve_left hreader
    refine ⟨hlock, ?_⟩
    by_contra hw
    have hbounded : s.Bounded .cmd := by
      intro byte rest hf _
      by_contra hlocal
      exact hw ⟨by simpa using hlocal, byte, rest, hf⟩
    have hunblocked : s.Unblocked .reader := by
      refine unblocked_of_lock hp hlock he fun holder _ => ?_
      cases holder with
      | reader => exact hclose.reader
      | cmd => exact hbounded
    rcases hunblocked with hcan | ⟨holder, -, -, hcan⟩
    · exact hreader hcan
    · cases holder with
      | reader => exact hreader hcan
      | cmd => exact hcmd hcan

/-- A stalled send, a local close that arms the deadline, and a peer close frame: past the deadline
the send's write is given up. -/
theorem closing_bounded_local_close :
    ∃ s, (system Core.tungstenite).runUnder ClosesBounded (Core.connection 10 100)
        [.reader, .send (.binary [7]), .cmd, .lock .cmd, .close none "", .writeBound .cmd,
          .chunk [.close none], .reader, .tick 10] = some s ∧
      (s.CanStep .reader ∨ s.CanStep .cmd) := by
  have hrun : (system Core.tungstenite).runUnder ClosesBounded (Core.connection 10 100)
      [.reader, .send (.binary [7]), .cmd, .lock .cmd, .close none "", .writeBound .cmd,
        .chunk [.close none], .reader, .tick 10] = some _ := rfl
  have hstart : (system Core.tungstenite).ReachableUnder ClosesBounded
      (Core.connection 10 100) := .init ⟨_, Core.fresh, .empty, 0, rfl, rfl, rfl⟩
  exact ⟨_, hrun, (closing_bounded.1 _ (hstart.runUnder hrun) rfl (by decide)).1⟩

/-- A peer close frame that arrives during a stalled send leaves both tasks stuck past the
deadline. -/
theorem peer_close_during_send_stuck :
    ¬ ∀ (T : Tungstenite) (s : State T), (system T).Reachable s → s.expired = true →
      s.reader ≠ .finished → s.CanStep .reader ∨ s.CanStep .cmd := by
  intro hclaim
  have hrun : (system Core.tungstenite).run (Core.connection 10 100)
      [.reader, .send (.binary [7]), .cmd, .lock .cmd, .chunk [.close none], .reader, .tick 10] =
        some _ := rfl
  have hreach := Core.reachable_of_run hrun
  refine absurd (hclaim Core.tungstenite _ hreach rfl (by decide)) (not_or.mpr ?_)
  exact stuck_of_unboundedWrite (pipe_sound hreach) rfl ⟨rfl, _, _, rfl⟩

end Polymorph.Provider
