import PolymorphWebsocket.Provider.Frames
import PolymorphWebsocket.Provider.Protocol

/-!
# The guest provider: automatic replies

A reply moves through three places: a `read()` that returns a ping or a close frame leaves it
queued inside tungstenite, the next call writes it into the virtual transport, and the next flush
hands it to the wit outbound stream.  `owed` follows the last reply on its way, and `RepliesSound`
says what each phase means for the bytes.

The drain loop flushes right after the read that queued the reply, which is one call too early: the
reply is written by the following `read()`.  When that `read()` finds no further input, the reader
parks and nobody flushes.  `replies_handed` says exactly when a parked reader has handed over its
replies.
-/

namespace Polymorph.Provider

open Futures Transition

variable {T : Tungstenite} {s s' : State T}

/-- Every automatic reply owed for a frame already read has been handed to the wit outbound stream,
unless the write side is dead. -/
def State.RepliesHanded (s : State T) : Prop :=
  s.flags.writeDead = true ∨
    (T.queued s.ws = [] ∧ s.hist.replyEnd ≤ s.hist.handed.length)

/-- What the phase of the last reply says about the bytes of a live write side. -/
structure State.RepliesSound (s : State T) : Prop where
  written : s.flags.writeDead = false → s.hist.handed ++ s.io.outbound = s.hist.written
  replyEnd_le : s.hist.replyEnd ≤ s.hist.written.length
  queued : s.hist.owed = .queued ↔ T.queued s.ws ≠ []
  buffered : s.hist.owed = .buffered → s.flags.writeDead = false →
    s.hist.handed.length < s.hist.replyEnd
  settled : s.hist.owed = .settled → s.flags.writeDead = false →
    s.hist.replyEnd ≤ s.hist.handed.length

namespace State.RepliesSound

/-- It speaks of the core's queue and of the bytes only. -/
theorem congr (h : s.RepliesSound) (hdead : s'.flags.writeDead = s.flags.writeDead)
    (hws : T.queued s'.ws = T.queued s.ws) (hout : s'.io.outbound = s.io.outbound)
    (hwritten : s'.hist.written = s.hist.written) (hhanded : s'.hist.handed = s.hist.handed)
    (hend : s'.hist.replyEnd = s.hist.replyEnd) (howed : s'.hist.owed = s.hist.owed) :
    s'.RepliesSound := by
  constructor
  · rw [hdead, hout, hwritten, hhanded]; exact h.written
  · rw [hend, hwritten]; exact h.replyEnd_le
  · rw [howed, hws]; exact h.queued
  · rw [howed, hdead, hhanded, hend]; exact h.buffered
  · rw [howed, hdead, hhanded, hend]; exact h.settled

/-- The bytes of a call go behind everything written before. -/
theorem writeFrame (h : s.RepliesSound) (bytes : Bytes) : (s.writeFrame bytes).RepliesSound where
  written hd := by
    have hwritten := congrArg (· ++ bytes) (h.written hd)
    simpa [State.writeFrame, Buffers.write, List.append_assoc] using hwritten
  replyEnd_le := h.replyEnd_le.trans (by simp [State.writeFrame])
  queued := h.queued
  buffered := h.buffered
  settled := h.settled

/-- What has been handed over is no longer than what was written. -/
theorem handed_le (h : s.RepliesSound) (hd : s.flags.writeDead = false) :
    s.hist.handed.length ≤ s.hist.written.length := by
  have hlen := congrArg List.length (h.written hd)
  rw [List.length_append] at hlen
  omega

/-- The queued reply goes into the virtual transport, and the call may leave another one queued. -/
theorem answer (h : s.RepliesSound) (ws : T.Ctx) : (s.writeQueued.setWs ws).RepliesSound := by
  have hqueued : s.hist.owed = .queued ↔ T.queued s.ws ≠ [] := h.queued
  refine ⟨fun hd => ?_, ?_, ?_, fun howed hd => ?_, fun howed hd => ?_⟩
  · have hwritten := congrArg (· ++ T.queued s.ws) (h.written hd)
    simpa [State.writeQueued, State.setWs, Buffers.write, List.append_assoc] using hwritten
  · simp only [State.writeQueued, State.setWs]
    split
    · exact h.replyEnd_le.trans (by simp)
    · exact le_rfl
  · simp only [State.writeQueued, State.setWs]
    by_cases hws : T.queued ws = []
    · by_cases hs : s.hist.owed = .settled <;> simp [hws, hs]
    · simp [hws]
  · -- A reply in the virtual transport is one that was there before, or the one just written.
    simp only [State.writeQueued, State.setWs] at howed ⊢
    have hold : s.hist.owed ≠ .settled := by
      intro hs
      by_cases hws : T.queued ws = [] <;> simp [hws, hs] at howed
    split
    · next hq =>
      have hbuffered : s.hist.owed = .buffered := by
        cases hc : s.hist.owed with
        | settled => exact (hold hc).elim
        | queued => exact (hqueued.mp hc hq).elim
        | buffered => rfl
      exact h.buffered hbuffered hd
    · next hq =>
      have hle : s.hist.handed.length ≤ s.hist.written.length := h.handed_le hd
      have hpos : 0 < (T.queued s.ws).length := List.length_pos_of_ne_nil hq
      change s.hist.handed.length < (s.hist.written ++ T.queued s.ws).length
      rw [List.length_append]
      omega
  · simp only [State.writeQueued, State.setWs] at howed ⊢
    have hsettled : s.hist.owed = .settled := by
      by_cases hws : T.queued ws = []
      · by_cases hs : s.hist.owed = .settled
        · exact hs
        · simp [hws, hs] at howed
      · simp [hws] at howed
    have hq : T.queued s.ws = [] := by
      by_contra hq
      rw [hqueued.mpr hq] at hsettled
      cases hsettled
    rw [if_pos hq]
    exact h.settled hsettled hd

/-- A call that fails writes nothing and keeps the queued reply. -/
theorem refused (h : s.RepliesSound) {ws : T.Ctx} (hws : T.queued ws = T.queued s.ws) :
    ({ s with ws := ws } : State T).RepliesSound :=
  h.congr rfl hws rfl rfl rfl rfl rfl

/-- A read has the core write what it has queued, and queue a reply. -/
theorem read (h : s.RepliesSound) : s.webSocketRead.2.RepliesSound := by
  have hnext : ({ s with io := s.io.nextOutcome.2 } : State T).RepliesSound :=
    h.congr rfl rfl s.io.nextOutcome_outbound rfl rfl rfl rfl
  exact hnext.answer _

/-- What beginning to close does before the call on the WebSocket. -/
theorem closing (h : s.RepliesSound) (frame : Option CloseFrame) :
    (s.closing frame).RepliesSound :=
  h.congr (PumpFlags.armDeadline_writeDead ..) rfl rfl rfl rfl rfl rfl

/-- Beginning to close writes the queued reply with the close frame. -/
theorem beginClose (h : s.RepliesSound) (hT : T.QueuesReplies) (frame : Option CloseFrame) :
    (s.beginClose frame).2.RepliesSound := by
  rcases beginClose_cases s frame with ⟨-, hb⟩ | ⟨-, bytes, ws, -, hb⟩ | ⟨-, err, ws, hc, hb⟩ <;>
    rw [hb]
  · exact h
  · exact ((h.closing frame).writeFrame bytes).answer ws
  · exact (h.closing frame).refused (hT.close_error _ _ _ _ hc)

/-- What becomes of a message. -/
theorem deliver (h : s.RepliesSound) (message : Message) : (s.deliver message).RepliesSound := by
  rcases deliver_cases s message with ⟨-, hd⟩ | ⟨-, _, -, hd⟩ | ⟨-, _, -, hd⟩ <;> rw [hd] <;>
    exact h.congr rfl rfl rfl rfl rfl rfl rfl

/-- Each result of a read of the drain loop. -/
theorem drainRead (h : s.RepliesSound) (hT : T.QueuesReplies) (read : Option Inbound) :
    (s.drainRead read).RepliesSound := by
  have hcloses {c : State T} (hc : c.RepliesSound) (next : ReaderNext) :
      ((c.beginClose none).2.readerGoes (c.beginClose none).1 next).RepliesSound :=
    (hc.beginClose hT none).congr rfl rfl rfl rfl rfl rfl rfl
  have hdata (message : Message) : (s.readData message).RepliesSound := by
    simp only [State.readData]
    split
    · exact hcloses (h.deliver message) .drain
    · exact (h.deliver message).congr rfl rfl rfl rfl rfl rfl rfl
  rcases read with - | i
  · exact h.congr rfl rfl rfl rfl rfl rfl rfl
  cases i with
  | binary bytes => exact hdata _
  | text text => exact hdata _
  | close frame => exact h.congr (PumpFlags.armDeadline_writeDead ..) rfl rfl rfl rfl rfl rfl
  | capacity =>
    have hlatch : (s.latchOverflow.noteCut s.hist.data.length).RepliesSound :=
      h.congr rfl rfl rfl rfl rfl rfl rfl
    exact hcloses hlatch .finalize
  | ping | pong | frame | connectionClosed | error => exact h.congr rfl rfl rfl rfl rfl rfl rfl

/-- Each result of the one read after the loop. -/
theorem lastDrainRead (h : s.RepliesSound) (read : Option Inbound) :
    (s.lastDrainRead read).RepliesSound := by
  rcases read with - | i
  · exact h.congr rfl rfl rfl rfl rfl rfl rfl
  cases i with
  | binary bytes => exact h.deliver _
  | text text => exact h.deliver _
  | close | ping | pong | frame | capacity | connectionClosed | error =>
    exact h.congr rfl rfl rfl rfl rfl rfl rfl

/-- Every step of the reader task. -/
theorem reader (h : s.RepliesSound) (hT : T.QueuesReplies) (hs : s.readerStep = some s') :
    s'.RepliesSound := by
  unfold State.readerStep at hs
  split at hs
  · cases hs; exact h.read.drainRead hT _
  · cases hs; exact h.read.lastDrainRead _
  · cases hs; exact h.congr rfl rfl rfl rfl rfl rfl rfl
  · split at hs
    · cases hs; exact h.congr rfl rfl rfl rfl rfl rfl rfl
    · cases hs
  · cases hs
  · cases hs

/-- A send writes the queued reply with its frame. -/
theorem cmdSend (h : s.RepliesSound) (hT : T.QueuesReplies) (id : Nat) (message : Message) :
    (s.cmdSend id message).RepliesSound := by
  unfold State.cmdSend
  split
  · exact h.congr rfl rfl rfl rfl rfl rfl rfl
  · unfold State.webSocketSend
    rcases hsend : T.send s.ws message with ⟨err | frame, ws⟩
    · exact h.congr rfl (hT.send_error _ _ _ _ hsend) rfl rfl rfl rfl rfl
    · have hnote : (s.noteFrame ⟨id, message, s.hist.written, frame⟩).RepliesSound :=
        h.congr rfl rfl rfl rfl rfl rfl rfl
      exact ((hnote.writeFrame frame).answer ws).congr rfl rfl rfl rfl rfl rfl rfl

/-- Every step of the command task outside of a flush. -/
theorem cmd (h : s.RepliesSound) (hT : T.QueuesReplies) (hs : s.cmdStep = some s') :
    s'.RepliesSound := by
  have hpop (rest : List Cmd) : (s.popCmd rest).RepliesSound :=
    h.congr rfl rfl rfl rfl rfl rfl rfl
  unfold State.cmdStep at hs
  split at hs
  · split at hs
    · cases hs; exact h.congr rfl rfl rfl rfl rfl rfl rfl
    · split at hs
      · next c rest _ =>
        cases hs
        cases c with
        | send id message => exact (hpop rest).cmdSend hT id message
        | close code reason =>
          exact ((hpop rest).beginClose hT _).congr rfl rfl rfl rfl rfl rfl rfl
        | claimStream => exact (hpop rest).congr rfl rfl rfl rfl rfl rfl rfl
      · split at hs
        · cases hs
        · cases hs
          exact (h.beginClose hT none).congr rfl rfl rfl rfl rfl rfl rfl
  · split at hs
    · next c rest _ =>
      cases hs
      cases c <;> exact (hpop rest).congr rfl rfl rfl rfl rfl rfl rfl
    · split at hs
      · cases hs
      · cases hs; exact h.congr rfl rfl rfl rfl rfl rfl rfl
  · cases hs
  · cases hs

/-- Returning from a flush concerns no reply. -/
theorem resume (h : s.RepliesSound) (t : Task) (result : Except Error Unit) :
    (s.resume t result).RepliesSound := by
  unfold State.resume
  split <;> split <;> exact h.congr rfl rfl rfl rfl rfl rfl rfl

/-- A flush that moves on. -/
theorem setFlush (h : s.RepliesSound) (t : Task) (f : FlushPc) :
    (s.setFlush t f).RepliesSound := by
  unfold State.setFlush
  split <;> split <;> exact h.congr rfl rfl rfl rfl rfl rfl rfl

/-- The phase of the last reply after a drain. -/
theorem drained_owed (s : State T) : s.drainOutbound.2.hist.owed =
    if s.hist.owed = .buffered then .settled else s.hist.owed := rfl

/-- A drain settles the reply in the virtual transport: it found everything handed over, or hands
it over now, or the write side is dead. -/
theorem drain (h : s.RepliesSound) (handed : Bytes)
    (hhanded : s.flags.writeDead = false → handed = s.hist.written) :
    ({ s.drainOutbound.2 with
      hist := { s.drainOutbound.2.hist with handed := handed } } : State T).RepliesSound := by
  refine ⟨fun hd => ?_, h.replyEnd_le, ?_, fun howed hd => ?_, fun howed hd => ?_⟩
  · simpa [State.drainOutbound, Buffers.drainOutbound] using hhanded hd
  · change s.drainOutbound.2.hist.owed = _ ↔ T.queued s.ws ≠ []
    rw [drained_owed, ← h.queued]
    by_cases hb : s.hist.owed = .buffered <;> simp [hb]
  · change s.drainOutbound.2.hist.owed = _ at howed
    rw [drained_owed] at howed
    by_cases hb : s.hist.owed = .buffered <;> simp [hb] at howed
  · change s.hist.replyEnd ≤ handed.length
    rw [hhanded hd]
    exact h.replyEnd_le

/-- A flush keeps the invariant. -/
theorem flush (h : s.RepliesSound) {t : Task} (hf : Flushes s t s') : s'.RepliesSound := by
  have hdie : s.releaseLock.markWriteDead.RepliesSound :=
    ⟨nofun, h.replyEnd_le, h.queued, nofun, nofun⟩
  cases hf with
  | empty hl hf hb =>
    refine (h.drain s.hist.handed fun hd => ?_).resume t _
    simpa [hb] using h.written hd
  | dead hl hf hd => exact (h.drain s.hist.handed fun hd' => by simp [hd] at hd').resume t _
  | start hl hf hb hd =>
    have hdrain := h.drain (s.hist.handed ++ s.io.outbound) h.written
    have hhold : (s.drainOutbound.2.holdLock t s.io.outbound).RepliesSound :=
      hdrain.congr rfl rfl rfl rfl rfl rfl rfl
    exact hhold.setFlush t _
  | done hf =>
    have hunlock : s.releaseLock.RepliesSound := h.congr rfl rfl rfl rfl rfl rfl rfl
    exact hunlock.resume t _
  | localClose hf hc =>
    have harm : s.armDeadline.RepliesSound :=
      h.congr (PumpFlags.armDeadline_writeDead ..) rfl rfl rfl rfl rfl rfl
    exact harm.setFlush t _
  | fail hf he =>
    have harm : s.releaseLock.markWriteDead.armDeadline.RepliesSound :=
      hdie.congr (PumpFlags.armDeadline_writeDead ..) rfl rfl rfl rfl rfl rfl
    exact harm.resume t _
  | @accept n rest bound hl hf =>
    have haccept : (s.acceptBytes (rest.take n)).RepliesSound :=
      h.congr rfl rfl rfl rfl rfl rfl rfl
    exact haccept.setFlush t _

end State.RepliesSound

/-- In every reachable state the phase of the last reply says where its bytes are. -/
theorem replies_sound (hT : T.QueuesReplies) (h : (system T).Reachable s) : s.RepliesSound := by
  refine System.Reachable.induction (I := State.RepliesSound) ?_ ?_ h
  · rintro _ ⟨config, ws, io, now, hq, heof, rfl⟩
    refine ⟨fun _ => rfl, Nat.zero_le _, ?_, nofun, fun _ _ => le_rfl⟩
    simp [State.start, History.empty, hq]
  · intro s a s' _ ih hstep
    cases step_kind hstep with
    | reader h => exact ih.reader hT h
    | cmd h => exact ih.cmd hT h
    | flush t h => exact ih.flush h
    | transport h _ => rw [h]; exact ih.congr rfl rfl rfl rfl rfl rfl rfl
    | guest h => rw [GuestFrame.of_move h]; exact ih.congr rfl rfl rfl rfl rfl rfl rfl

/-! ### Parking -/

/-- The reader parks only after a `read()` of the drain loop that finds no further input. -/
theorem parks (h : s.readerStep = some s') (hp : s'.reader = .parked) :
    s.reader = .drain ∧ s.io.nextOutcome.1 = none ∧
      s' = { s.webSocketRead.2 with reader := .parked } := by
  unfold State.readerStep at h
  split at h
  · next hr =>
    refine ⟨hr, ?_⟩
    cases h
    unfold State.readerDrain at hp ⊢
    change (s.webSocketRead.2.drainRead s.io.nextOutcome.1).reader = .parked at hp
    change _ ∧ s.webSocketRead.2.drainRead s.io.nextOutcome.1 = _
    generalize s.webSocketRead.2 = c at hp ⊢
    rcases hn : s.io.nextOutcome.1 with - | i
    · exact ⟨rfl, rfl⟩
    · obtain ⟨flush, next, hc⟩ := drainRead_reader c i
      rw [hn, hc] at hp
      cases flush <;> cases next <;> cases hp
  · next hr =>
    cases h
    have hlast : s.webSocketRead.2.reader = .lastDrain := hr
    rcases lastDrainRead_reader hlast s.webSocketRead.1 with hc | hc
    · cases hc.symm.trans hp
    · cases hc.symm.trans hp
  · cases h
    cases hp
  · split at h
    · cases h
      cases hp
    · cases h
  · cases h
  · cases h

/-- The last reply-owing `read()` was followed by a further call on the WebSocket and by a drain
after that call, or the write side is dead. -/
def State.RepliesFlushed (s : State T) : Prop :=
  s.hist.owed = .settled ∨ s.flags.writeDead = true

/-- The condition on a step: the `read()` that finds no further input, after which the reader
parks, comes only when the replies have been flushed. -/
def ParksFlushed (s : State T) (a : Action) : Prop :=
  a = .reader → s.reader = .drain → s.io.nextOutcome.1 = none → s.RepliesFlushed

instance (s : State T) (a : Action) : Decidable (ParksFlushed s a) := by
  unfold ParksFlushed State.RepliesFlushed
  infer_instance

/-- Whether the owed flush is settled is all it speaks of. -/
theorem RepliesFlushed_congr (h : s.RepliesFlushed) (howed : s'.hist.owed = s.hist.owed)
    (hdead : s'.flags.writeDead = s.flags.writeDead) : s'.RepliesFlushed := by
  unfold State.RepliesFlushed
  rw [howed, hdead]
  exact h

/-- Settled replies stay settled through a call on the WebSocket that queues none. -/
theorem settled_call {c : State T} (hs : c.hist.owed = .settled) (bytes : Bytes) {ws : T.Ctx}
    (hws : T.queued ws = []) :
    (((c.writeFrame bytes).writeQueued).setWs ws).hist.owed = .settled := by
  have howed : ((c.writeFrame bytes).writeQueued).hist.owed = .settled := hs
  simp [State.setWs, hws, howed]

/-- A `read()` that finds no further input keeps the replies flushed. -/
theorem flushed_read (hT : T.QueuesReplies) (h : s.RepliesFlushed)
    (hn : s.io.nextOutcome.1 = none) : s.webSocketRead.2.RepliesFlushed := by
  refine h.imp (fun hsettled => ?_) fun hdead => hdead
  have hq : T.queued s.webSocketRead.2.ws = [] :=
    hT.read_queued _ _ (fun i hi => by cases hn.symm.trans hi)
  change (if T.queued s.webSocketRead.2.ws ≠ [] then _ else _) = _
  simp [hq, State.writeQueued, hsettled]

/-- Beginning to close leaves no reply behind. -/
theorem settled_beginClose (hT : T.QueuesReplies) (hs : s.hist.owed = .settled)
    (frame : Option CloseFrame) : (s.beginClose frame).2.hist.owed = .settled := by
  rcases beginClose_cases s frame with ⟨-, hb⟩ | ⟨-, bytes, ws, hc, hb⟩ | ⟨-, err, ws, -, hb⟩ <;>
    rw [hb]
  · exact hs
  · exact settled_call hs bytes (hT.close_queued _ _ _ _ hc)
  · exact hs

/-- The command task queues no reply. -/
theorem settled_cmd (hT : T.QueuesReplies) (hs : s.hist.owed = .settled)
    (h : s.cmdStep = some s') : s'.hist.owed = .settled := by
  unfold State.cmdStep at h
  split at h
  · split at h
    · cases h; exact hs
    · split at h
      · next c rest _ =>
        cases h
        cases c with
        | send id message =>
          simp only [State.cmdLive, State.cmdSend]
          split
          · exact hs
          · simp only [State.webSocketSend]
            rcases hsend : T.send (s.popCmd rest).ws message with ⟨err | frame, ws⟩
            · exact hs
            · exact settled_call (c := (s.popCmd rest).noteFrame _) hs frame
                (hT.send_queued _ _ _ _ hsend)
        | close code reason => exact settled_beginClose (s := s.popCmd rest) hT hs _
        | claimStream => exact hs
      · split at h
        · cases h
        · cases h; exact settled_beginClose hT hs none
  · split at h
    · next c rest _ =>
      cases h
      cases c <;> exact hs
    · split at h
      · cases h
      · cases h; exact hs
  · cases h
  · cases h

/-- A flush keeps the replies flushed. -/
theorem flushed_flush (h : s.RepliesFlushed) {t : Task} (hf : Flushes s t s') :
    s'.RepliesFlushed := by
  have hresume {c : State T} (hc : c.RepliesFlushed) (r : Except Error Unit) :
      (c.resume t r).RepliesFlushed := by
    unfold State.resume
    split <;> split <;> exact hc
  have hset {c : State T} (hc : c.RepliesFlushed) (f : FlushPc) :
      (c.setFlush t f).RepliesFlushed := by
    unfold State.setFlush
    split <;> split <;> exact hc
  have hdrain : s.drainOutbound.2.RepliesFlushed := by
    rcases h with hs | hd
    · exact .inl (by rw [State.RepliesSound.drained_owed]; simp [hs])
    · exact .inr hd
  cases hf with
  | empty | dead => exact hresume hdrain _
  | start => exact hset (c := s.drainOutbound.2.holdLock t s.io.outbound) hdrain _
  | done => exact hresume (c := s.releaseLock) h _
  | localClose =>
    exact hset (c := s.armDeadline)
      (RepliesFlushed_congr h rfl (PumpFlags.armDeadline_writeDead ..)) _
  | fail =>
    exact hresume (c := s.releaseLock.markWriteDead.armDeadline)
      (.inr (PumpFlags.armDeadline_writeDead ..)) _
  | @accept n rest _ => exact hset (c := s.acceptBytes (rest.take n)) h _

/-- While every read before parking comes with the replies flushed, so it stays while the reader is
parked, whatever the other parties do. -/
theorem parked_flushed (hT : T.QueuesReplies) (h : (system T).ReachableUnder ParksFlushed s) :
    s.reader = .parked → s.RepliesFlushed := by
  refine System.ReachableUnder.induction
    (I := fun s => s.reader = .parked → s.RepliesFlushed) ?_ ?_ h
  · rintro _ ⟨config, ws, io, now, -, heof, rfl⟩ hp
    cases hp
  · intro s a s' hs ih hc hstep hp
    cases step_kind hstep with
    | reader h =>
      obtain ⟨hr, hn, rfl⟩ := parks h hp
      exact flushed_read hT (hc rfl hr hn) hn
    | cmd h =>
      have hframe := CmdFrame.step h
      rcases ih (hframe.reader ▸ hp) with hsettled | hdead
      · exact .inl (settled_cmd hT hsettled h)
      · exact .inr (by rw [hframe]; exact hdead)
    | flush t h =>
      cases t with
      | reader =>
        obtain ⟨-, f, next, -, hpc | ⟨g, hpc⟩⟩ := h.reader_pc
        · cases next <;> cases hpc.symm.trans hp
        · cases hpc.symm.trans hp
      | cmd => exact flushed_flush (ih (h.cmd_pc.1 ▸ hp)) h
    | transport h hr =>
      rcases hr with hr | ⟨-, -, hr | hr⟩
      · exact RepliesFlushed_congr (ih (hr ▸ hp)) (by rw [h]) (by rw [h])
      · cases hr.symm.trans hp
      · cases hr.symm.trans hp
    | guest h =>
      have hframe := GuestFrame.of_move h
      have hreader : s'.reader = s.reader := by rw [hframe]
      exact RepliesFlushed_congr (ih (hreader ▸ hp)) (by rw [hframe]) (by rw [hframe])

/-- Flushed replies have been handed over. -/
theorem State.RepliesSound.handed (h : s.RepliesSound) (hf : s.RepliesFlushed) :
    s.RepliesHanded := by
  by_cases hd : s.flags.writeDead = true
  · exact .inl hd
  · have hd : s.flags.writeDead = false := by simpa using hd
    have hsettled : s.hist.owed = .settled := hf.resolve_right (by simp [hd])
    refine .inr ⟨?_, h.settled hsettled hd⟩
    by_contra hq
    rw [h.queued.mpr hq] at hsettled
    cases hsettled

/-- A parked reader has handed over its replies in every run whose reads before parking all come
with the replies flushed; and a `read()` before parking leads to a state with all replies handed
over exactly when it comes with the replies flushed. -/
theorem replies_handed (hT : T.QueuesReplies) :
    (∀ s, (system T).ReachableUnder ParksFlushed s → s.reader = .parked → s.RepliesHanded) ∧
    (∀ s s', (system T).Reachable s → step s .reader = some s' → s'.reader = .parked →
      (s'.RepliesHanded ↔ s.RepliesFlushed)) := by
  refine ⟨fun s h hp => (replies_sound hT h.reachable).handed (parked_flushed hT h hp),
    fun s s' h hstep hp => ?_⟩
  have hsound : s'.RepliesSound := replies_sound hT (h.next (a := .reader) hstep)
  obtain ⟨-, hn, rfl⟩ := parks hstep hp
  refine ⟨fun hhanded => ?_, fun hflushed => hsound.handed (flushed_read hT hflushed hn)⟩
  rcases hhanded with hdead | ⟨hq, hle⟩
  · exact .inr hdead
  · by_contra hnot
    obtain ⟨howed, hd⟩ := not_or.mp hnot
    have hd : s.flags.writeDead = false := by simpa using hd
    -- The reply the `read()` wrote, or one written before, stays in the virtual transport.
    have hbuffered : s.webSocketRead.2.hist.owed = .buffered := by
      change (if T.queued s.webSocketRead.2.ws ≠ [] then _ else _) = _
      have hq' : T.queued s.webSocketRead.2.ws = [] := hq
      simp [hq', State.writeQueued, howed]
    exact absurd (hsound.buffered hbuffered hd) (Nat.not_lt.mpr hle)

/-- A pong that follows the ping in the same chunk brings the flush the reply needs. -/
theorem replies_handed_pong :
    ∃ s, (system Core.tungstenite).runUnder ParksFlushed (Core.connection 10 100)
        [.reader, .chunk [.ping [], .pong []], .reader, .lock .reader, .reader, .lock .reader,
          .accept 6, .writeDone .reader, .reader] = some s ∧
      s.reader = .parked ∧ s.RepliesHanded := by
  have hrun : (system Core.tungstenite).runUnder ParksFlushed (Core.connection 10 100)
      [.reader, .chunk [.ping [], .pong []], .reader, .lock .reader, .reader, .lock .reader,
        .accept 6, .writeDone .reader, .reader] = some _ := rfl
  have hstart : (system Core.tungstenite).ReachableUnder ParksFlushed (Core.connection 10 100) :=
    .init ⟨_, Core.fresh, .empty, 0, rfl, rfl, rfl⟩
  exact ⟨_, hrun, rfl, (replies_handed Core.queuesReplies).1 _ (hstart.runUnder hrun) rfl⟩

/-- A reader can park with its pong left in the virtual transport: a chunk with one ping. -/
theorem ping_reply_unhanded :
    ¬ ∀ (T : Tungstenite), T.QueuesReplies → ∀ s, (system T).Reachable s → s.reader = .parked →
      s.RepliesHanded := by
  intro hclaim
  have hrun : (system Core.tungstenite).run (Core.connection 10 100)
      [.reader, .chunk [.ping []], .reader, .lock .reader, .reader] = some _ := rfl
  have hhanded := hclaim Core.tungstenite Core.queuesReplies _ (Core.reachable_of_run hrun) rfl
  exact absurd hhanded (by unfold State.RepliesHanded; decide)

end Polymorph.Provider
