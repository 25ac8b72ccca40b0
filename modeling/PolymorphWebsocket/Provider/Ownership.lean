import PolymorphWebsocket.Futures.Ownership
import PolymorphWebsocket.Provider.Frames
import PolymorphWebsocket.Provider.Protocol

/-!
# The guest provider: who keeps the command channel open

`cmd_tx` is a field of `Shared`, and `Shared` is held by the resource, the reader task, the feeder
and `Proto`.  `Proto` is held by the reader task and the command task, which waits in its second phase
for the channel to end.  So the command task holds a sender of the channel whose end it waits for:
once everything else is gone it waits forever, and with it `Proto` keeps the transport writer.
-/

namespace Polymorph.Provider

open Futures Relation

variable {T : Tungstenite} {s s' : State T}

/-! ### The ownership graph -/

/-- The values of a connection that are held by reference. -/
inductive Owned
  /-- The guest's resource. -/
  | websocket
  | readerTask
  | cmdTask
  /-- The future of the stream feeder, spawned or in its command. -/
  | feeder
  | proto
  | shared
  | cmdTx
  /-- The commands in the channel. -/
  | channel
  /-- The writer of the wit outbound stream. -/
  | writer
  deriving DecidableEq, Repr

/-- The fields and captured variables through which the values hold each other. -/
inductive Holds (s : State T) : Owned → Owned → Prop
  | websocket_shared : Holds s .websocket .shared
  | readerTask_shared : Holds s .readerTask .shared
  | readerTask_proto : Holds s .readerTask .proto
  | cmdTask_proto : Holds s .cmdTask .proto
  | cmdTask_channel : Holds s .cmdTask .channel
  | feeder_shared : Holds s .feeder .shared
  | proto_shared : Holds s .proto .shared
  | proto_writer : Holds s .proto .writer
  | shared_cmdTx : Holds s .shared .cmdTx
  | cmdTx_channel : Holds s .cmdTx .channel
  /-- A claim that the command task has not received carries its feeder. -/
  | channel_feeder (h : Cmd.claimStream ∈ s.shared.cmds) : Holds s .channel .feeder

/-- The feeder has been spawned and has not ended. -/
def FeederPc.running : FeederPc → Bool
  | .idle | .ended => false
  | .lock | .next | .element _ | .payload _ => true

/-- What is held from outside: the resource by the guest, the tasks by the executor. -/
def State.isRoot (s : State T) : Owned → Bool
  | .websocket => !s.dropped
  | .readerTask => s.reader != .finished
  | .cmdTask => s.cmd != .exited
  | .feeder => s.feeder.running
  | .proto | .shared | .cmdTx | .channel | .writer => false

/-- The ownership graph of a connection. -/
def State.ownership (s : State T) : Ownership Owned where
  root o := s.isRoot o = true
  holds := Holds s

/-- The command task holds a sender of its channel. -/
theorem cmdTask_reaches_cmdTx (s : State T) : ReflTransGen (Holds s) .cmdTask .cmdTx :=
  ReflTransGen.refl.tail .cmdTask_proto |>.tail .proto_shared |>.tail .shared_cmdTx

/-- The channel has a live sender exactly when some owner of `Shared` is alive. -/
theorem live_cmdTx_iff (hexited : s.cmd = .exited → Cmd.claimStream ∉ s.shared.cmds) :
    s.ownership.Live .cmdTx ↔ s.cmdSenderLive = true := by
  constructor
  · rintro ⟨r, hr, -⟩
    change s.isRoot r = true at hr
    unfold State.cmdSenderLive
    cases r with
    | websocket | readerTask | cmdTask =>
      simp only [State.isRoot] at hr
      simp [hr]
    | feeder =>
      simp only [State.isRoot] at hr
      cases hf : s.feeder <;> simp [hf, FeederPc.running] at hr ⊢
    | proto | shared | cmdTx | channel | writer => cases hr
  · intro hlive
    have hshared (hs : s.ownership.Live .shared) : s.ownership.Live .cmdTx :=
      hs.of_holds .shared_cmdTx
    by_cases hcmd : s.cmd = .exited
    · have hclaim := hexited hcmd
      simp only [State.cmdSenderLive, hcmd, Bool.or_eq_true, bne_self_eq_false, Bool.false_eq_true,
        or_false, List.contains_iff_mem, hclaim] at hlive
      apply hshared
      rcases hlive with (hdropped | hreader) | hfeeder
      · exact (Ownership.Live.of_root hdropped).of_holds .websocket_shared
      · exact (Ownership.Live.of_root hreader).of_holds .readerTask_shared
      · have hroot : s.ownership.root .feeder := by
          show s.feeder.running = true
          cases hf : s.feeder <;> simp [hf, FeederPc.running] at hfeeder ⊢
        exact (Ownership.Live.of_root hroot).of_holds .feeder_shared
    · have hroot : s.ownership.root .cmdTask := by
        show (s.cmd != .exited) = true
        simpa using hcmd
      exact ⟨.cmdTask, hroot, cmdTask_reaches_cmdTx s⟩

/-! ### The command task never exits -/

/-- The command task has not exited, and is not on its way out. -/
def CmdPc.serving : CmdPc → Bool
  | .exited | .flushing _ .exit => false
  | .live | .drained | .flushing _ (.reply _) | .flushing _ .live => true

/-- A command task that is serving has not exited. -/
theorem ne_exited_of_serving (h : s.cmd.serving = true) : s.cmd ≠ .exited := by
  intro hexited
  rw [hexited] at h
  cases h

/-- A command task that is serving keeps a sender of its channel alive. -/
theorem live_cmdTx_of_serving (h : s.cmd.serving = true) : s.ownership.Live .cmdTx := by
  have hroot : s.ownership.root .cmdTask := by
    show (s.cmd != .exited) = true
    simpa using ne_exited_of_serving h
  exact ⟨.cmdTask, hroot, cmdTask_reaches_cmdTx s⟩

/-- While the command task is serving, its channel does not end. -/
theorem cmdSenderLive_of_serving (h : s.cmd.serving = true) : s.cmdSenderLive = true :=
  (live_cmdTx_iff fun hexited => absurd hexited (ne_exited_of_serving h)).mp (live_cmdTx_of_serving h)

/-- Going on after a command. -/
theorem cmdGoes_serving (s : State T) (flush : Bool) {next : CmdNext} (hnext : next ≠ .exit) :
    (s.cmdGoes flush next).cmd.serving = true := by
  cases flush <;> cases next <;> first | rfl | exact absurd rfl hnext

/-- A step of the command task does not lead out. -/
theorem cmdStep_serving (hserving : s.cmd.serving = true) (h : s.cmdStep = some s') :
    s'.cmd.serving = true := by
  have hlive := cmdSenderLive_of_serving hserving
  unfold State.cmdStep at h
  split at h
  · split at h
    · cases h
      rfl
    · split at h
      · next cmd rest _ =>
        cases h
        cases cmd with
        | send id message =>
          simp only [State.cmdLive, State.cmdSend, State.webSocketSend]
          split
          · exact hserving
          · rcases T.send (s.popCmd rest).ws message with ⟨err | frame, ws⟩
            · exact hserving
            · exact cmdGoes_serving _ true (by rintro ⟨⟩)
        | close code reason => exact cmdGoes_serving _ _ (by rintro ⟨⟩)
        | claimStream => exact hserving
      · cases h
  · split at h
    · next cmd rest _ =>
      cases h
      cases cmd <;> exact hserving
    · rw [if_pos hlive] at h
      cases h
  · cases h
  · cases h

/-- No step leads the command task out. -/
theorem serving_step {a : Action} (hserving : s.cmd.serving = true) (h : step s a = some s') :
    s'.cmd.serving = true := by
  cases step_kind h with
  | reader h =>
    rw [ReaderFrame.cmd (.step h)]
    exact hserving
  | cmd h => exact cmdStep_serving hserving h
  | flush t h =>
    cases t with
    | reader =>
      rw [h.reader_pc.1]
      exact hserving
    | cmd =>
      obtain ⟨-, f, next, hpc, hnext⟩ := h.cmd_pc
      rw [hpc] at hserving
      rcases hnext with hnext | ⟨g, hnext⟩ <;> rw [hnext] <;> cases next <;> first | rfl | cases hserving
  | transport h _ =>
    rw [h]
    exact hserving
  | guest h =>
    rw [GuestFrame.of_move h]
    exact hserving

/-- The command task of a connection never exits. -/
theorem cmd_serving (h : (system T).Reachable s) : s.cmd.serving = true := by
  refine Transition.System.Reachable.induction (I := fun s => s.cmd.serving = true) ?_ ?_ h
  · rintro s ⟨config, ws, io, now, -, heof, rfl⟩
    rfl
  · intro s a s' _ hserving hs
    exact serving_step hserving hs

/-! ### An abandoned connection -/

/-- The guest has dropped the resource, the reader task has finalized, no feeder runs, and every
command that was sent has been processed. -/
structure State.Abandoned (s : State T) : Prop where
  dropped : s.dropped = true
  reader : s.reader = .finished
  feeder : s.feeder.running = false
  cmds : s.shared.cmds = []
  cmd : ∀ f next, s.cmd ≠ .flushing f next

section Abandoned

/-- The command task of an abandoned connection can at most go on to its second phase. -/
theorem State.Abandoned.cmdStep (h : s.Abandoned) (hserving : s.cmd.serving = true)
    (hs : s.cmdStep = some s') : s.cmd = .live ∧ s' = { s with cmd := .drained } := by
  have hlive := cmdSenderLive_of_serving hserving
  unfold State.cmdStep at hs
  rw [h.cmds] at hs
  split at hs
  · next hpc =>
    split at hs
    · exact ⟨hpc, (Option.some.inj hs).symm⟩
    · cases hs
  · dsimp only at hs
    rw [if_pos hlive] at hs
    cases hs
  · cases hs
  · cases hs

/-- Nobody is left to change an abandoned connection. -/
theorem State.Abandoned.step (h : s.Abandoned) (hserving : s.cmd.serving = true) {a : Action}
    (hs : step s a = some s') : s'.Abandoned := by
  have hcall {t : State T} (ht : guestCall s t = some s') : s'.Abandoned := by
    have hdropped := (guestCall_eq_some.mp ht).1
    rw [h.dropped] at hdropped
    cases hdropped
  have hfeeder {pc : FeederPc} (hpc : s.feeder = pc) (hrunning : pc.running = true) :
      s'.Abandoned := by
    have hstopped := h.feeder
    rw [hpc, hrunning] at hstopped
    cases hstopped
  cases step_kind hs with
  | reader hr =>
    unfold State.readerStep at hr
    rw [h.reader] at hr
    cases hr
  | cmd hc =>
    obtain ⟨-, rfl⟩ := h.cmdStep hserving hc
    exact ⟨h.dropped, h.reader, h.feeder, h.cmds, nofun⟩
  | flush t hf =>
    cases t with
    | reader =>
      obtain ⟨-, f, next, hpc, -⟩ := hf.reader_pc
      rw [h.reader] at hpc
      cases hpc
    | cmd =>
      obtain ⟨-, f, next, hpc, -⟩ := hf.cmd_pc
      exact absurd hpc (h.cmd f next)
  | transport ht hr =>
    have hreader : s'.reader = .finished := by
      rcases hr with hr | ⟨hparked, -⟩
      · exact hr.trans h.reader
      · rw [h.reader] at hparked
        cases hparked
    rw [ht] at hreader ⊢
    exact ⟨h.dropped, hreader, h.feeder, h.cmds, h.cmd⟩
  | guest hg =>
    cases hg with
    | send | receive | receiveViaStream | close | drop => exact hcall hs
    | pollReceive hp =>
      have hpc := pollReceive_feeder hp
      have hframe := InboxFrame.pollReceive hp
      rw [hframe] at hpc ⊢
      refine ⟨h.dropped, h.reader, ?_, h.cmds, h.cmd⟩
      exact (congrArg FeederPc.running hpc).trans h.feeder
    | feederLock hf => exact hfeeder hf rfl
    | feederNext hf => exact hfeeder hf rfl
    | taken _ _ _ hf | dropped hf =>
      have hrunning : s.feeder.running = true := by
        cases hpc : s.feeder <;> rw [hpc] at hf <;> first | rfl | cases hf
      exact hfeeder rfl hrunning

/-- An abandoned connection stays one. -/
theorem State.Abandoned.run {actions : List Action} (h : s.Abandoned)
    (hserving : s.cmd.serving = true) (hrun : (system T).run s actions = some s') :
    s'.Abandoned ∧ s'.cmd.serving = true := by
  induction actions generalizing s with
  | nil =>
    obtain rfl : s = s' := Option.some.inj hrun
    exact ⟨h, hserving⟩
  | cons a actions ih =>
    obtain ⟨s₁, hs, hrest⟩ := Option.bind_eq_some_iff.mp hrun
    exact ih (h.step hserving hs) (serving_step hserving hs) hrest

/-- Of an abandoned connection only the command task is held from outside. -/
theorem State.Abandoned.root_iff (h : s.Abandoned) (hserving : s.cmd.serving = true) (o : Owned) :
    s.ownership.root o ↔ o = .cmdTask := by
  have hcmd := ne_exited_of_serving hserving
  show s.isRoot o = true ↔ o = .cmdTask
  cases o <;> simp [State.isRoot, h.dropped, h.reader, h.feeder, hcmd]

/-- The command task of an abandoned connection waits. -/
theorem State.Abandoned.waits (h : s.Abandoned) (hserving : s.cmd.serving = true) :
    s.ownership.Live .cmdTx ∧ s.ownership.Live .writer ∧ s.cmd ≠ .exited ∧
      (s.cmd = .drained → s.cmdStep = none) := by
  refine ⟨live_cmdTx_of_serving hserving, ?_, ne_exited_of_serving hserving, ?_⟩
  · have hroot := (h.root_iff hserving .cmdTask).mpr rfl
    exact ((Ownership.Live.of_root hroot).of_holds .cmdTask_proto).of_holds .proto_writer
  · intro hdrained
    cases hs : s.cmdStep with
    | none => rfl
    | some s' =>
      obtain ⟨hlive, -⟩ := h.cmdStep hserving hs
      rw [hdrained] at hlive
      cases hlive

end Abandoned

/-- The command task never ends.  Once the guest has dropped the resource, the reader task has
finalized, the feeder has ended and every command has been processed, the command task is all that
holds anything of the connection; it holds a sender of its own channel and the transport writer, in
this state and in every later one, and in its second phase it has no step to take. -/
theorem cmd_task_waits_for_itself (h : (system T).Reachable s) (ha : s.Abandoned) :
    (∀ o, s.ownership.root o ↔ o = .cmdTask) ∧
    ReflTransGen s.ownership.holds .cmdTask .cmdTx ∧
    ∀ s' actions, (system T).run s actions = some s' →
      s'.ownership.Live .cmdTx ∧ s'.ownership.Live .writer ∧ s'.cmd ≠ .exited ∧
        (s'.cmd = .drained → step s' .cmd = none) := by
  have hserving := cmd_serving h
  refine ⟨ha.root_iff hserving, cmdTask_reaches_cmdTx s, fun s' actions hrun => ?_⟩
  obtain ⟨ha', hserving'⟩ := ha.run hserving hrun
  exact ha'.waits hserving'

/-- A connection whose transport ends and whose resource is then dropped is abandoned. -/
theorem abandoned_connection : ∃ s, (system Core.tungstenite).Reachable s ∧ s.Abandoned ∧
    s.cmd = .drained := by
  obtain ⟨s, hrun, hdropped, hreader, hfeeder, hcmds, hcmd⟩ : ∃ s,
      (system Core.tungstenite).run (Core.connection 10 100)
        [.reader, .transportEnd, .reader, .reader, .cmd, .drop, .cmd] = some s ∧
      s.dropped = true ∧ s.reader = .finished ∧ s.feeder.running = false ∧ s.shared.cmds = [] ∧
      s.cmd = .drained := ⟨_, rfl, rfl, rfl, rfl, rfl, rfl⟩
  have hidle : ∀ f next, s.cmd ≠ .flushing f next := by
    intro f next hpc
    rw [hcmd] at hpc
    cases hpc
  exact ⟨s, Core.reachable_of_run hrun, ⟨hdropped, hreader, hfeeder, hcmds, hidle⟩, hcmd⟩

/-- The abandoned connection's command task has no step to take. -/
theorem cmd_task_waits_for_itself_dropped :
    ∃ s : State Core.tungstenite, s.Abandoned ∧ s.ownership.Live .cmdTx ∧ step s .cmd = none := by
  obtain ⟨s, hreach, ha, hdrained⟩ := abandoned_connection
  have hwaits := cmd_task_waits_for_itself hreach ha
  obtain ⟨hlive, -, -, hstep⟩ := hwaits.2.2 s [] rfl
  exact ⟨s, ha, hlive, hstep hdrained⟩

/-- The channel of an abandoned connection has a live sender. -/
theorem abandoned_sender_lives :
    ¬ ∀ (T : Tungstenite) (s : State T), (system T).Reachable s → s.Abandoned →
      ¬ s.ownership.Live .cmdTx := by
  intro hclaim
  obtain ⟨s, hreach, ha, -⟩ := abandoned_connection
  exact hclaim Core.tungstenite s hreach ha (live_cmdTx_of_serving (cmd_serving hreach))

end Polymorph.Provider
