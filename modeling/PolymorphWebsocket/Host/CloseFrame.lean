import PolymorphWebsocket.Host.Commands

/-!
# The wasmtime host: the close frame the pump initiates

A `close` call fires a signal and sends a command; the pump, on its own thread, can begin a close
without a code in between, for a message past the budget or past the transport cap.  The command
then finds the closing handshake begun.  In the runs in which no step of the pump does so between a
`close` call with a code and its command, the only close frame the pump initiates is the one of
that call.
-/

namespace Polymorph.Host

open Transition

variable {s s' : State}

/-- The close frames the pump has initiated are at most one, and the one of the first accepted
`close` call, when that call found no peer close frame, no overflow and the write side alive. -/
def State.KeepsCloseFrame (s : State) : Prop :=
  ∀ call, s.hist.closeCall = some call → call.fresh = true →
    s.hist.closeFrames = [] ∨ s.hist.closeFrames = [call.frame]

/-- The first accepted `close` call of the connection has a code, and waits for its command in a
fresh connection. -/
def State.codePending (s : State) : Bool :=
  !s.pump.wireClosing && s.hist.closeCall.any fun call => call.fresh && call.frame.isSome

/-- The next message cannot be reserved under the budget. -/
def State.overflows (s : State) (message : Message) : Bool :=
  !s.pump.wireClosing && !s.shared.budget.fits message.payloadLen

/-- An outcome makes the pump close toward the peer: a message past the budget, or one past the
transport cap. -/
def State.closesUncoded (s : State) : Inbound → Bool
  | .capacity => !s.pump.wireClosing
  | .binary bytes => s.overflows (.binary bytes)
  | .text text => s.overflows (.string text)
  | _ => false

/-- What the select has read makes the pump close toward the peer. -/
def State.readsUncoded (s : State) : Bool :=
  match s.pump.pc with
  | .resolved (.read outcome) => s.closesUncoded outcome
  | _ => false

/-- The condition on a step: between a `close` call with a code and its command, the pump has not
read what makes it close toward the peer. -/
def KeepsCode (s : State) (a : Action) : Prop :=
  a = .poll → s.codePending = true → s.readsUncoded = false

instance (s : State) (a : Action) : Decidable (KeepsCode s a) := by
  unfold KeepsCode
  infer_instance

/-! ### Where the closing handshake begins -/

/-- The arguments of a close command. -/
def Cmd.close? : Cmd → Option (Option UInt16 × String)
  | .send _ _ => none
  | .close code reason => some (code, reason)

/-- The close command in the hands of the pump. -/
def Pc.closeCmd : Pc → Option (Option UInt16 × String)
  | .resolved (.cmd (some cmd)) => cmd.close?
  | _ => none

/-- The close commands on their way: not sent yet, in the channel, or with the pump. -/
def State.closeCmds (s : State) : List (Option UInt16 × String) :=
  s.calls.closing.toList ++ s.shared.cmds.filterMap Cmd.close? ++ s.pump.pc.closeCmd.toList

/-- What a step of the pump does to the closing handshake: nothing, or begin it for a peer close
frame, for what it has read, for a close command, or because every sender is gone. -/
structure PollCloses (s s' : State) : Prop where
  peerFrame : s.pump.peerFrame.isSome = true → s'.pump.peerFrame.isSome = true
  overflowed : s.shared.budget.overflowed = true → s'.shared.budget.overflowed = true
  change :
    (s.readsUncoded = false ∧ s'.hist.closeFrames = s.hist.closeFrames ∧
      (s'.pump.wireClosing = s.pump.wireClosing ∨
        (s'.pump.wireClosing = true ∧ s'.pump.peerFrame.isSome = true))) ∨
    (s.pump.wireClosing = false ∧ s'.pump.wireClosing = true ∧ ∃ frame,
      s'.hist.closeFrames = s.hist.closeFrames ++ [frame] ∧
        ((s.readsUncoded = true ∧ frame = none ∧ s'.shared.budget.overflowed = true) ∨
          (s.readsUncoded = false ∧ ∃ code reason,
            s.pump.pc = .resolved (.cmd (some (.close code reason))) ∧
              frame = closeFrameOf code reason) ∨
          s.pump.pc = .resolved (.cmd none)))

/-- A step that leaves the closing flags and frames alone. -/
theorem PollCloses.of_eq (hread : s.readsUncoded = false)
    (hpeer : s'.pump.peerFrame = s.pump.peerFrame)
    (hover : s'.shared.budget.overflowed = s.shared.budget.overflowed)
    (hwire : s'.pump.wireClosing = s.pump.wireClosing)
    (hframes : s'.hist.closeFrames = s.hist.closeFrames) : PollCloses s s' :=
  ⟨fun h => hpeer ▸ h, fun h => hover ▸ h, .inl ⟨hread, hframes, .inl hwire⟩⟩

/-- A step that only moves the pump on leaves the closing handshake alone. -/
theorem PollCloses.of_pc (hread : s.readsUncoded = false) (h : PcFrame s s') :
    PollCloses s s' := by
  refine .of_eq hread ?_ ?_ ?_ ?_ <;> rw [h]

/-- What beginning a close does to the closing flags and frames. -/
theorem beginClose_closes (s : State) (frame : Option CloseFrame) (next : Next) :
    (s.beginClose frame next).pump.peerFrame = s.pump.peerFrame ∧
    (s.beginClose frame next).shared.budget = s.shared.budget ∧
    (s.beginClose frame next).pump.wireClosing = true ∧
    (s.beginClose frame next).hist.closeFrames =
      if s.pump.wireClosing then s.hist.closeFrames else s.hist.closeFrames ++ [frame] := by
  rcases beginClose_cases s frame next with ⟨hw, h⟩ | ⟨hw, h⟩ <;> rw [h]
  · rw [PcFrame.goes s (.ok ()) next]
    simp [hw]
  · rw [PcFrame.boundedWrite (s.closing frame) (.send (.close frame) false) next]
    simp [hw, State.closing, State.setWireClosing, State.advance, State.armDeadline]

/-- A command that begins a close. -/
theorem PollCloses.beginClose (hread : s.readsUncoded = false) {frame : Option CloseFrame}
    (hpc : (∃ code reason, s.pump.pc = .resolved (.cmd (some (.close code reason))) ∧
      frame = closeFrameOf code reason) ∨ s.pump.pc = .resolved (.cmd none))
    {t : State} (hpump : t.pump.peerFrame = s.pump.peerFrame ∧
      t.pump.wireClosing = s.pump.wireClosing) (hshared : t.shared = s.shared)
    (hhist : t.hist = s.hist) (next : Next) : PollCloses s (t.beginClose frame next) := by
  obtain ⟨hpeer, hbudget, hwire, hframes⟩ := beginClose_closes t frame next
  rw [hpump.1] at hpeer
  rw [hshared] at hbudget
  rw [hpump.2, hhist] at hframes
  refine ⟨fun h => hpeer ▸ h, fun h => hbudget ▸ h, ?_⟩
  cases hw : s.pump.wireClosing with
  | true =>
    rw [hw, if_pos rfl] at hframes
    exact .inl ⟨hread, hframes, .inl hwire⟩
  | false =>
    rw [hw, if_neg nofun] at hframes
    refine .inr ⟨rfl, hwire, frame, hframes, ?_⟩
    exact hpc.elim (fun hc => .inr (.inl ⟨hread, hc⟩)) fun hn => .inr (.inr hn)

/-- Closing toward the peer for what the pump has read. -/
theorem PollCloses.overflow (hread : s.readsUncoded = !s.pump.wireClosing) (next : Next) :
    PollCloses s ((s.setBudget s.shared.budget.latchOverflow).beginClose none next) := by
  obtain ⟨hpeer, hbudget, hwire, hframes⟩ :=
    beginClose_closes (s.setBudget s.shared.budget.latchOverflow) none next
  have hover : ((s.setBudget s.shared.budget.latchOverflow).beginClose none
      next).shared.budget.overflowed = true := by
    rw [hbudget]
    rfl
  refine ⟨fun h => hpeer ▸ h, fun _ => hover, ?_⟩
  cases hw : s.pump.wireClosing with
  | true =>
    rw [hw] at hread
    exact .inl ⟨hread, hframes.trans (if_pos hw), .inl hwire⟩
  | false =>
    rw [hw] at hread
    exact .inr ⟨rfl, hwire, none, hframes.trans (if_neg (by exact hw ▸ nofun)),
      .inl ⟨hread, rfl, hover⟩⟩

theorem PollCloses.deliver {message : Message} (hread : s.readsUncoded = s.overflows message) :
    PollCloses s (s.deliver message) := by
  unfold State.overflows at hread
  unfold State.deliver
  split
  · next hw =>
    rw [hw] at hread
    exact .of_eq hread rfl rfl rfl rfl
  · next hw =>
    split
    · next hfits =>
      rw [hfits, Bool.not_true, Bool.and_false] at hread
      exact .of_eq hread rfl rfl rfl rfl
    · next hfits =>
      rw [Bool.eq_false_iff.mpr hfits, Bool.not_false, Bool.and_true] at hread
      exact .overflow hread .loop

/-- What a step of the pump does to the closing handshake. -/
theorem poll_closes (h : s.poll = some s') : PollCloses s s' := by
  unfold State.poll at h
  split at h
  · next arm hpc =>
    cases h
    have hread : s.readsUncoded = false := by rw [State.readsUncoded, hpc]
    cases arm with
    | cmd =>
      simp only [State.pollArm]
      split
      · exact .of_eq hread rfl rfl rfl rfl
      · split
        · exact .of_eq hread rfl rfl rfl rfl
        · split <;> exact .of_eq hread rfl rfl rfl rfl
    | read =>
      simp only [State.pollArm]
      split <;> exact .of_eq hread rfl rfl rfl rfl
    | deadline => exact .of_eq hread rfl rfl rfl rfl
  · next r hpc =>
    cases h
    cases r with
    | cmd cmd =>
      have hread : s.readsUncoded = false := by rw [State.readsUncoded, hpc]
      rcases cmd with - | cmd
      · exact .beginClose (t := { s with pump := { s.pump with cmdsDone := true } }) hread
          (.inr hpc) ⟨rfl, rfl⟩ rfl rfl .loop
      cases cmd with
      | send id message =>
        simp only [State.onResolved, State.onCmd]
        split
        · exact .of_pc hread (.goes s _ _)
        · exact .of_pc hread (.boundedWrite s _ _)
      | close code reason =>
        exact .beginClose hread (.inl ⟨code, reason, hpc, rfl⟩) ⟨rfl, rfl⟩ rfl rfl .loop
    | deadline => exact .of_eq (by rw [State.readsUncoded, hpc]) rfl rfl rfl rfl
    | read outcome =>
      have hread : s.readsUncoded = s.closesUncoded outcome := by rw [State.readsUncoded, hpc]
      cases outcome with
      | text text => exact .deliver hread
      | binary bytes => exact .deliver hread
      | close frame =>
        have hpeer : (s.pump.peerFrame.or (some (closeInfoFrom frame))).isSome = true := by
          cases s.pump.peerFrame <;> rfl
        simp only [State.onResolved, State.onRead]
        split
        · next hw =>
          exact ⟨fun _ => hpeer, id, .inl ⟨hread, rfl, .inl rfl⟩⟩
        · have hframe := PcFrame.boundedWrite (s.notePeerFrame frame).setWireClosing .flush .loop
          constructor <;> rw [hframe]
          · exact fun _ => hpeer
          · exact id
          · exact .inl ⟨hread, rfl, .inr ⟨rfl, hpeer⟩⟩
      | ping payload => exact .of_pc hread (.boundedWrite s _ _)
      | pong | frame | connectionClosed | error => exact .of_eq hread rfl rfl rfl rfl
      | capacity => exact .overflow hread .leave
  · next message hpc =>
    cases h
    exact .of_eq (by rw [State.readsUncoded, hpc]) rfl rfl rfl rfl
  · next message hpc =>
    cases h
    exact .of_eq (by rw [State.readsUncoded, hpc]) rfl rfl rfl rfl
  · cases h
  · next stage hpc =>
    cases h
    have hread : s.readsUncoded = false := by rw [State.readsUncoded, hpc]
    cases stage with
    | drainCmds =>
      simp only [State.finalizeStep]
      split <;> exact .of_eq hread rfl rfl rfl rfl
    | closeInfo | endQueue | closeCmds | closing | closed | fire =>
      exact .of_eq hread rfl rfl rfl rfl
  · cases h

/-! ### The close commands on their way -/

/-- The pump has a resolution of its command arm in its hands. -/
def Pc.onCmd : Pc → Bool
  | .resolved (.cmd _) => true
  | _ => false

@[simp] theorem goes_onCmd (s : State) (result : Except Error Unit) (next : Next) :
    (s.goes result next).pump.pc.onCmd = false := by
  cases next <;> rfl

@[simp] theorem boundedWrite_onCmd (s : State) (write : Write) (next : Next) :
    (s.boundedWrite write next).pump.pc.onCmd = false := by
  unfold State.boundedWrite
  split
  · exact goes_onCmd s _ _
  · rfl

@[simp] theorem beginClose_onCmd (s : State) (frame : Option CloseFrame) (next : Next) :
    (s.beginClose frame next).pump.pc.onCmd = false := by
  rcases beginClose_cases s frame next with ⟨-, h⟩ | ⟨-, h⟩ <;> rw [h]
  · exact goes_onCmd _ _ _
  · exact boundedWrite_onCmd _ _ _

theorem onResolved_onCmd (s : State) (r : Resolution) : (s.onResolved r).pump.pc.onCmd = false := by
  have hdeliver (message : Message) : (s.deliver message).pump.pc.onCmd = false := by
    unfold State.deliver
    split
    · rfl
    · split
      · rfl
      · exact beginClose_onCmd _ _ _
  cases r with
  | cmd cmd =>
    rcases cmd with - | cmd
    · exact beginClose_onCmd _ _ _
    cases cmd with
    | send id message =>
      simp only [State.onResolved, State.onCmd]
      split
      · exact goes_onCmd _ _ _
      · exact boundedWrite_onCmd _ _ _
    | close code reason => exact beginClose_onCmd _ _ _
  | deadline => rfl
  | read outcome =>
    cases outcome with
    | text text => exact hdeliver _
    | binary bytes => exact hdeliver _
    | close frame =>
      simp only [State.onResolved, State.onRead]
      split
      · rfl
      · exact boundedWrite_onCmd _ _ _
    | ping payload => exact boundedWrite_onCmd _ _ _
    | pong | frame | connectionClosed | error => rfl
    | capacity => exact beginClose_onCmd _ _ _

/-- What a step of the pump does to the commands: take one out of the channel, find the channel
without senders, or go on without one; then a close command in its hands has begun the closing
handshake. -/
inductive PollCmds (s s' : State) : Prop
  | takes (cmd : Cmd) (hpc : s.pump.pc.onCmd = false) (hcmds : s.shared.cmds = cmd :: s'.shared.cmds)
      (hpc' : s'.pump.pc = .resolved (.cmd (some cmd)))
  | ends (hpc : s.pump.pc.onCmd = false) (hcmds : s.shared.cmds = [] ∧ s'.shared.cmds = [])
      (hgone : s.shared.sendersGone = true) (hpc' : s'.pump.pc = .resolved (.cmd none))
  | goes (hpc' : s'.pump.pc.onCmd = false) (hcmds : s'.shared.cmds = s.shared.cmds)
      (hclose : ∀ code reason, s.pump.pc = .resolved (.cmd (some (.close code reason))) →
        s'.pump.wireClosing = true)
  | drains (hpc' : s'.pump.pc.onCmd = false) (hclosed : s'.pump.pc.channelClosed = true)
      (hcmds : ∃ cmd, s.shared.cmds = cmd :: s'.shared.cmds)

/-- The pump goes on from a point where it has no command in its hands. -/
theorem PollCmds.goesOn {pc : Pc} (hpc : s.pump.pc = pc) (hfree : pc.onCmd = false)
    (hpc' : s'.pump.pc.onCmd = false) (hcmds : s'.shared.cmds = s.shared.cmds) :
    PollCmds s s' := by
  refine .goes hpc' hcmds fun code reason hclose => ?_
  rw [← hpc, hclose] at hfree
  cases hfree

theorem poll_cmds (h : s.poll = some s') : PollCmds s s' := by
  unfold State.poll at h
  split at h
  · next arm hpc =>
    cases h
    cases arm with
    | cmd =>
      simp only [State.pollArm]
      split
      · exact .goesOn hpc rfl rfl rfl
      · split
        · next cmd rest hcmds => exact .takes cmd (by rw [hpc]; rfl) hcmds rfl
        · next hcmds =>
          split
          · next hgone => exact .ends (by rw [hpc]; rfl) ⟨hcmds, hcmds⟩ hgone rfl
          · exact .goesOn hpc rfl rfl rfl
    | read =>
      simp only [State.pollArm]
      split <;> exact .goesOn hpc rfl rfl rfl
    | deadline =>
      refine .goesOn hpc rfl ?_ rfl
      simp only [State.pollArm]
      split <;> rfl
  · next r hpc =>
    cases h
    refine .goes (onResolved_onCmd s r) (onResolved_cmds s r).1 fun code reason hclose => ?_
    obtain rfl : r = .cmd (some (.close code reason)) := by
      rw [hpc] at hclose
      exact Pc.resolved.inj hclose
    exact (beginClose_closes s (closeFrameOf code reason) .loop).2.2.1
  · next message hpc =>
    cases h
    exact .goesOn hpc rfl rfl rfl
  · next message hpc =>
    cases h
    exact .goesOn hpc rfl rfl rfl
  · cases h
  · next stage hpc =>
    cases h
    cases stage with
    | drainCmds =>
      simp only [State.finalizeStep]
      split
      · next hcmds =>
        exact .drains (by rw [State.reply, hpc]; rfl) (by rw [State.reply, hpc]; rfl) ⟨_, hcmds⟩
      · next hcmds => exact .drains (by rw [hpc]; rfl) (by rw [hpc]; rfl) ⟨_, hcmds⟩
      · exact .goesOn hpc rfl rfl rfl
    | closeInfo | endQueue | closeCmds | closing | closed | fire =>
      exact .goesOn hpc rfl rfl rfl
  · cases h

theorem Pc.closeCmd_of_onCmd {pc : Pc} (h : pc.onCmd = false) : pc.closeCmd = none := by
  unfold Pc.closeCmd
  split
  · cases h
  · rfl

/-- A step of the pump sends no close command, and keeps the ones on their way while the closing
handshake has not begun and the channel is open. -/
theorem poll_closeCmds (h : s.poll = some s') :
    (∀ c ∈ s'.closeCmds, c ∈ s.closeCmds) ∧
    (s'.pump.wireClosing = false → s'.pump.pc.channelClosed = false → s.closeCmds ≠ [] →
      s'.closeCmds ≠ []) := by
  have hcalls : s'.calls = s.calls := by rw [PollFrame.poll h]
  cases poll_cmds h with
  | takes cmd hpc hcmds hpc' =>
    have hmem : ∀ c, c ∈ s'.closeCmds ↔ c ∈ s.closeCmds := by
      intro c
      unfold State.closeCmds
      rw [hcalls, hpc', hcmds, Pc.closeCmd_of_onCmd hpc]
      cases cmd with
      | send id message => simp [Pc.closeCmd, Cmd.close?]
      | close code reason =>
        simp only [Pc.closeCmd, Cmd.close?, Option.toList_some, Option.toList_none,
          List.filterMap_cons, List.append_nil, List.mem_append, List.mem_cons,
          List.not_mem_nil, or_false]
        constructor
        · rintro ((hc | hc) | hc)
          · exact .inl hc
          · exact .inr (.inr hc)
          · exact .inr (.inl hc)
        · rintro (hc | hc | hc)
          · exact .inl (.inl hc)
          · exact .inr hc
          · exact .inl (.inr hc)
    refine ⟨fun c => (hmem c).mp, fun _ _ hne => ?_⟩
    obtain ⟨c, hc⟩ := List.exists_mem_of_ne_nil _ hne
    exact List.ne_nil_of_mem ((hmem c).mpr hc)
  | ends hpc hcmds hgone hpc' =>
    have hsame : s'.closeCmds = s.closeCmds := by
      rw [State.closeCmds, State.closeCmds, hcalls, hpc', hcmds.1, hcmds.2,
        Pc.closeCmd_of_onCmd hpc]
      rfl
    exact ⟨fun c hc => hsame ▸ hc, fun _ _ hne => hsame ▸ hne⟩
  | goes hpc' hcmds hclose =>
    have hsub : s'.closeCmds = s.calls.closing.toList ++ s.shared.cmds.filterMap Cmd.close? := by
      simp [State.closeCmds, hcalls, hcmds, Pc.closeCmd_of_onCmd hpc']
    rw [hsub]
    refine ⟨fun c => List.mem_append_left _, fun hw _ hne => ?_⟩
    have hnone : s.pump.pc.closeCmd = none := by
      unfold Pc.closeCmd
      split
      · next cmd hpc =>
        cases cmd with
        | send id message => rfl
        | close code reason => exact absurd (hw.symm.trans (hclose code reason hpc)) nofun
      · rfl
    simpa [State.closeCmds, hnone] using hne
  | drains hpc' hclosed hcmds =>
    obtain ⟨cmd, hcmds⟩ := hcmds
    refine ⟨fun c hc => ?_, fun _ hopen => absurd (hopen.symm.trans hclosed) nofun⟩
    simp only [State.closeCmds, hcalls, Pc.closeCmd_of_onCmd hpc', Option.toList_none,
      List.append_nil, List.mem_append] at hc
    refine List.mem_append_left _ (List.mem_append.mpr (hc.imp id fun hc => ?_))
    rw [hcmds]
    cases cmd with
    | send id message => exact hc
    | close code reason => exact List.mem_cons_of_mem _ hc

/-- The pump never opens the command channel again. -/
theorem poll_channelClosed (h : s.poll = some s') (hc : s.pump.pc.channelClosed = true) :
    s'.pump.pc.channelClosed = true := by
  unfold State.poll at h
  split at h
  · next hpc => rw [hpc] at hc; cases hc
  · next hpc => rw [hpc] at hc; cases hc
  · next hpc => rw [hpc] at hc; cases hc
  · next hpc => rw [hpc] at hc; cases hc
  · cases h
  · next stage hpc =>
    cases h
    rw [hpc] at hc
    cases stage with
    | closeInfo | endQueue | closeCmds => cases hc
    | drainCmds =>
      simp only [State.finalizeStep]
      split
      · rw [State.reply, hpc]; rfl
      · rw [hpc]; rfl
      · rfl
    | closing | closed | fire => rfl
  · cases h

/-! ### The invariant -/

/-- The close frames against the first accepted `close` call. -/
structure State.CloseFrameSound (s : State) : Prop where
  /-- The first local close is the call on record. -/
  localClosed : s.shared.localClosed = s.hist.closeCall.isSome
  /-- The close commands carry the code of the call on record. -/
  cmds : ∀ c ∈ s.closeCmds, ∃ call, s.hist.closeCall = some call ∧
    closeFrameOf c.1 c.2 = call.frame
  /-- A close frame begins the closing handshake. -/
  fresh : s.pump.wireClosing = false → s.hist.closeFrames = []
  /-- Without a local close, the closing handshake begins for a peer close frame or an overflow. -/
  closing : s.pump.wireClosing = true → s.hist.closeCall = none →
    s.pump.peerFrame.isSome = true ∨ s.shared.budget.overflowed = true
  /-- The command of a local close is on its way until the closing handshake begins. -/
  pending : s.shared.localClosed = true → s.pump.wireClosing = false →
    s.pump.pc.channelClosed = false → s.closeCmds ≠ []
  /-- Dropping the resource is a local close. -/
  dropped : s.calls.dropped = true → s.shared.localClosed = true
  /-- The senders are gone after every call on the resource has returned. -/
  senders : s.shared.sendersGone = true → s.shared.localClosed = true ∧
    s.calls.checked = [] ∧ s.calls.closing = none
  /-- The end of the channel comes after its last command. -/
  ended : s.pump.pc = .resolved (.cmd none) → s.shared.sendersGone = true ∧ s.shared.cmds = []

namespace State.CloseFrameSound

theorem poll (h : s.CloseFrameSound) (hs : s.poll = some s') : s'.CloseFrameSound := by
  have hframe := PollFrame.poll hs
  have hcall : s'.hist.closeCall = s.hist.closeCall := by rw [hframe]
  have hlocal : s'.shared.localClosed = s.shared.localClosed := by rw [hframe]
  have hcalls : s'.calls = s.calls := by rw [hframe]
  have hgone : s'.shared.sendersGone = s.shared.sendersGone := by rw [hframe]
  obtain ⟨hpeer, hover, hchange⟩ := poll_closes hs
  obtain ⟨hsub, hkeep⟩ := poll_closeCmds hs
  refine ⟨by rw [hlocal, hcall]; exact h.localClosed, ?_, ?_, ?_, ?_, ?_, ?_, ?_⟩
  · intro c hc
    rw [hcall]
    exact h.cmds c (hsub c hc)
  · intro hw
    rcases hchange with ⟨-, hf, hw' | ⟨hw', -⟩⟩ | ⟨-, hw', -⟩
    · rw [hf]
      exact h.fresh (hw'.symm.trans hw)
    · exact absurd (hw.symm.trans hw') nofun
    · exact absurd (hw.symm.trans hw') nofun
  · intro hw hnone
    rw [hcall] at hnone
    rcases hchange with ⟨-, -, hw' | ⟨-, hp⟩⟩ | ⟨-, -, frame, -, hwhy⟩
    · exact (h.closing (hw'.symm.trans hw) hnone).imp hpeer hover
    · exact .inl hp
    · rcases hwhy with ⟨-, -, ho⟩ | ⟨-, code, reason, hpc, -⟩ | hpc
      · exact .inr ho
      · obtain ⟨call, hsome, -⟩ := h.cmds (code, reason) (by
          simp [State.closeCmds, hpc, Pc.closeCmd, Cmd.close?])
        exact absurd (hnone.symm.trans hsome) nofun
      · have hl := (h.senders (h.ended hpc).1).1
        rw [h.localClosed, hnone] at hl
        cases hl
  · intro hl hw hopen
    rw [hlocal] at hl
    refine hkeep hw hopen ?_
    rcases hchange with ⟨-, -, hw' | ⟨hw', -⟩⟩ | ⟨-, hw', -⟩
    · refine h.pending hl (hw'.symm.trans hw) ?_
      cases hc : s.pump.pc.channelClosed with
      | false => rfl
      | true => exact absurd (hopen.symm.trans (poll_channelClosed hs hc)) nofun
    · exact absurd (hw.symm.trans hw') nofun
    · exact absurd (hw.symm.trans hw') nofun
  · rw [hcalls, hlocal]
    exact h.dropped
  · rw [hgone, hlocal, hcalls]
    exact h.senders
  · intro hpc
    rw [hgone]
    cases poll_cmds hs with
    | takes cmd _ _ hpc' => exact absurd (hpc.symm.trans hpc') nofun
    | ends _ hcmds hgone' _ => exact ⟨hgone', hcmds.2⟩
    | goes hpc' _ _ => rw [hpc] at hpc'; cases hpc'
    | drains hpc' _ _ => rw [hpc] at hpc'; cases hpc'

/-- A resolution of a bounded write leaves the closing handshake and the commands alone. -/
theorem write (h : s.CloseFrameSound) {a : Action} (hs : step s a = some s')
    (ha : a = .hand ∨ a = .written ∨ (∃ err, a = .writeFailed err) ∨ a = .writeBound)
    (honCmd : s'.pump.pc.onCmd = false) : s'.CloseFrameSound := by
  have hframe := WriteFrame.step hs ha
  obtain ⟨w, bound, next, hpc⟩ := writing_of_step hs ha
  have hcmds : s'.closeCmds = s.closeCmds := by
    rw [State.closeCmds, State.closeCmds, Pc.closeCmd_of_onCmd honCmd, hframe, hpc]
    rfl
  refine ⟨by rw [hframe]; exact h.localClosed, ?_, by rw [hframe]; exact h.fresh,
    by rw [hframe]; exact h.closing, ?_, by rw [hframe]; exact h.dropped,
    by rw [hframe]; exact h.senders, ?_⟩
  · rw [hcmds, hframe]
    exact h.cmds
  · rw [hcmds]
    intro hl hw _
    rw [hframe] at hl hw
    exact h.pending hl hw (by rw [hpc]; rfl)
  · intro hended
    rw [hended] at honCmd
    cases honCmd

/-- A move that leaves the local close, the closing handshake and the close commands alone, and
sends no command once the senders are gone. -/
theorem congr (h : s.CloseFrameSound) (hlocal : s'.shared.localClosed = s.shared.localClosed)
    (hcall : s'.hist.closeCall = s.hist.closeCall) (hpump : s'.pump = s.pump)
    (hframes : s'.hist.closeFrames = s.hist.closeFrames)
    (hover : s'.shared.budget.overflowed = s.shared.budget.overflowed)
    (hcmds : s'.closeCmds = s.closeCmds) (hdropped : s'.calls.dropped = s.calls.dropped)
    (hsenders : s'.shared.sendersGone = true → s'.shared.localClosed = true ∧
      s'.calls.checked = [] ∧ s'.calls.closing = none)
    (hended : s.shared.sendersGone = true → s.shared.cmds = [] →
      s'.shared.sendersGone = true ∧ s'.shared.cmds = []) : s'.CloseFrameSound := by
  refine ⟨by rw [hlocal, hcall]; exact h.localClosed, by rw [hcmds, hcall]; exact h.cmds,
    by rw [hpump, hframes]; exact h.fresh, by rw [hpump, hcall, hover]; exact h.closing, ?_,
    by rw [hdropped, hlocal]; exact h.dropped, hsenders, ?_⟩
  · rw [hlocal, hpump, hcmds]
    exact h.pending
  · rw [hpump]
    exact fun hpc => hended (h.ended hpc).1 (h.ended hpc).2

/-- Without a local close no close command is on its way. -/
theorem closeCmds_eq_nil (h : s.CloseFrameSound) (hl : s.shared.localClosed = false) :
    s.calls.closing = none ∧ s.closeCmds = [] := by
  have hnone : s.hist.closeCall = none := by
    simpa [hl] using h.localClosed.symm
  have hnil : s.closeCmds = [] := by
    by_contra hne
    obtain ⟨c, hc⟩ := List.exists_mem_of_ne_nil _ hne
    obtain ⟨call, hsome, -⟩ := h.cmds c hc
    exact absurd (hnone.symm.trans hsome) nofun
  refine ⟨?_, hnil⟩
  simp only [State.closeCmds, List.append_eq_nil_iff] at hnil
  simpa using hnil.1.1

/-- An accepted `close` call puts its command on its way. -/
theorem closed (h : s.CloseFrameSound) (hl : s.shared.localClosed = false) (code : Option UInt16)
    (reason : String) : (s.closed code reason).CloseFrameSound := by
  have hnone : s.hist.closeCall = none := by
    simpa [hl] using h.localClosed.symm
  obtain ⟨hclosing, hnil⟩ := h.closeCmds_eq_nil hl
  have hcmds : (s.closed code reason).closeCmds = [(code, reason)] := by
    simp only [State.closeCmds, List.append_eq_nil_iff] at hnil
    change [(code, reason)] ++ s.shared.cmds.filterMap Cmd.close? ++ s.pump.pc.closeCmd.toList = _
    rw [hnil.1.2, hnil.2]
    rfl
  have hcall : (s.closed code reason).hist.closeCall = some
      { frame := closeFrameOf code reason
        fresh := s.pump.peerFrame.isNone && !s.shared.budget.overflowed && !s.pump.writeDead } := by
    change s.hist.closeCall.or _ = _
    rw [hnone]
    rfl
  have hgone : s.shared.sendersGone = false := by
    cases hg : s.shared.sendersGone with
    | false => rfl
    | true => exact absurd (hl.symm.trans (h.senders hg).1) nofun
  refine ⟨by rw [hcall]; rfl, fun c hc => ?_, h.fresh, fun _ hn => ?_, fun _ _ _ => ?_,
    fun _ => rfl, fun hg => ?_, h.ended⟩
  · rw [hcmds] at hc
    rw [List.mem_singleton.mp hc]
    exact ⟨_, hcall, rfl⟩
  · exact absurd (hcall.symm.trans hn) nofun
  · rw [hcmds]
    exact nofun
  · exact absurd (hgone.symm.trans hg) nofun

/-- The resource drops after its local close. -/
theorem drop (h : s.CloseFrameSound) (hl : s.shared.localClosed = true) :
    ({ s with calls := { s.calls with dropped := true } } : State).CloseFrameSound :=
  ⟨h.localClosed, h.cmds, h.fresh, h.closing, h.pending, fun _ => hl, h.senders, h.ended⟩

/-- Everyone but the pump keeps the invariant. -/
theorem outer (h : s.CloseFrameSound) (hchannel : s.shared.cmdsClosed = s.pump.pc.channelClosed)
    {a : Action} (hm : OuterMove s a s') : s'.CloseFrameSound := by
  cases hm with
  | send message =>
    simp only [State.callSend]
    split
    · exact h.congr rfl rfl rfl rfl rfl rfl rfl h.senders fun hg hc => ⟨hg, hc⟩
    · next hl =>
      exact h.congr rfl rfl rfl rfl rfl rfl rfl (fun hg => (hl (h.senders hg).1).elim)
        fun hg hc => ⟨hg, hc⟩
  | @enqueue id message hmem =>
    have hgone : s.shared.sendersGone ≠ true := by
      intro hg
      rw [(h.senders hg).2.1] at hmem
      cases hmem
    simp only [State.enqueue]
    split
    · exact h.congr rfl rfl rfl rfl rfl rfl rfl (fun hg => (hgone hg).elim)
        fun hg => (hgone hg).elim
    · refine h.congr rfl rfl rfl rfl rfl ?_ rfl (fun hg => (hgone hg).elim)
        fun hg => (hgone hg).elim
      simp [State.closeCmds, Cmd.close?]
  | close code reason =>
    rcases callClose_cases s code reason with ⟨-, hc⟩ | ⟨hl, -, hc⟩ <;> rw [hc]
    · exact h
    · exact h.closed hl code reason
  | @enqueueClose code reason hc =>
    have hgone : s.shared.sendersGone ≠ true := by
      intro hg
      cases hc.symm.trans (h.senders hg).2.2
    have hl : s.shared.localClosed = true := by
      obtain ⟨call, hsome, -⟩ := h.cmds (code, reason) (by simp [State.closeCmds, hc])
      rw [h.localClosed, hsome]
      rfl
    simp only [State.enqueueClose]
    split
    · next hclosed =>
      refine ⟨h.localClosed, fun c hc' => h.cmds c ?_, h.fresh, h.closing, fun _ _ hopen => ?_,
        h.dropped, fun hg => (hgone hg).elim, h.ended⟩
      · simp only [State.closeCmds, Option.toList_none, List.nil_append] at hc'
        simp only [State.closeCmds, List.append_assoc]
        exact List.mem_append_right _ hc'
      · rw [← hchannel] at hopen
        cases hopen.symm.trans hclosed
    · have hmem (cmds : List (Option UInt16 × String)) (last : List (Option UInt16 × String)) :
          ∀ c, c ∈ [] ++ (cmds ++ [(code, reason)]) ++ last ↔ c ∈ [(code, reason)] ++ cmds ++ last := by
        intro c
        simp only [List.nil_append, List.mem_append, List.mem_singleton]
        rw [or_comm (a := c ∈ cmds)]
      have hsame : ∀ c, c ∈ ({ s with
          calls := { s.calls with closing := none }
          shared := { s.shared with
            cmds := s.shared.cmds ++ [.close code reason] } } : State).closeCmds ↔
            c ∈ s.closeCmds := by
        intro c
        simp only [State.closeCmds, List.filterMap_append, List.filterMap_cons, Cmd.close?,
          List.filterMap_nil, Option.toList_none, hc, Option.toList_some]
        exact hmem _ _ c
      refine ⟨h.localClosed, fun c hc' => h.cmds c ((hsame c).mp hc'), h.fresh, h.closing,
        fun _ _ _ => ?_, h.dropped, fun hg => (hgone hg).elim, fun hpc => ?_⟩
      · exact List.ne_nil_of_mem ((hsame (code, reason)).mpr (by simp [State.closeCmds, hc]))
      · exact (hgone (h.ended hpc).1).elim
  | drop =>
    simp only [State.callDrop]
    rcases callClose_cases s none "" with ⟨hl, hc⟩ | ⟨hl, -, hc⟩ <;> rw [hc]
    · exact h.drop (hl.resolve_right (by simp))
    · exact (h.closed hl none "").drop rfl
  | dropSenders hd hchecked hclosing =>
    exact h.congr rfl rfl rfl rfl rfl rfl rfl (fun _ => ⟨h.dropped hd, hchecked, hclosing⟩)
      fun _ hc => ⟨rfl, hc⟩
  | reader ha queue unreleased buffered =>
    exact h.congr rfl rfl rfl rfl rfl rfl rfl h.senders fun hg hc => ⟨hg, hc⟩
  | arrive outcomes | tick dt =>
    exact h.congr rfl rfl rfl rfl rfl rfl rfl h.senders fun hg hc => ⟨hg, hc⟩

end State.CloseFrameSound

/-- No resolution of a bounded write leaves the pump with a command in its hands. -/
theorem write_onCmd {a : Action} (hs : step s a = some s')
    (ha : a = .hand ∨ a = .written ∨ (∃ err, a = .writeFailed err) ∨ a = .writeBound) :
    s'.pump.pc.onCmd = false := by
  rcases ha with rfl | rfl | ⟨err, rfl⟩ | rfl
  · simp only [step, State.hand] at hs
    split at hs
    · cases hs; rfl
    · cases hs
  · simp only [step, State.written] at hs
    split at hs
    · cases hs
    · cases hs; exact goes_onCmd _ _ _
    · cases hs
  · simp only [step, State.writeFailed] at hs
    split at hs
    · cases hs; exact goes_onCmd _ _ _
    · cases hs
  · simp only [step, State.writeBound] at hs
    split at hs
    · split at hs
      · cases hs; rfl
      · cases hs
    · split at hs
      · cases hs; exact goes_onCmd _ _ _
      · cases hs
    · cases hs

/-- In every reachable state the close frames match the call on record. -/
theorem closeFrame_sound (h : system.Reachable s) : s.CloseFrameSound := by
  refine System.Reachable.induction (I := State.CloseFrameSound) ?_ ?_ h
  · rintro _ ⟨closeTimeout, limit, now, largest, hreaches, -, rfl⟩
    exact ⟨rfl, nofun, fun _ => rfl, nofun, nofun, nofun, nofun, nofun⟩
  · intro s a s' hs ih hstep
    cases step_kind hstep with
    | poll h => exact ih.poll h
    | write ha h => exact ih.write h ha (write_onCmd h ha)
    | outer hm => exact ih.outer (commands_sound hs).sound.channelClosed hm

/-! ### The frame of the first close call -/

namespace State.KeepsCloseFrame

theorem congr (h : s.KeepsCloseFrame) (hcall : s'.hist.closeCall = s.hist.closeCall)
    (hf : s'.hist.closeFrames = s.hist.closeFrames) : s'.KeepsCloseFrame := by
  unfold State.KeepsCloseFrame
  rw [hcall, hf]
  exact h

/-- A step of the pump keeps the frame exactly when it does not close for what it has read between
the call and its command. -/
theorem poll_iff (h : s.KeepsCloseFrame) (hi : s.CloseFrameSound) (hs : s.poll = some s') :
    s'.KeepsCloseFrame ↔ KeepsCode s .poll := by
  have hcall : s'.hist.closeCall = s.hist.closeCall := by rw [PollFrame.poll hs]
  rcases (poll_closes hs).change with ⟨hread, hf, -⟩ | ⟨hw, -, frame, hf, hwhy⟩
  · exact ⟨fun _ _ _ => hread, fun _ => h.congr hcall hf⟩
  · rw [hi.fresh hw, List.nil_append] at hf
    rcases hwhy with ⟨hread, rfl, -⟩ | ⟨hread, code, reason, hpc, rfl⟩ | hpc
    · have hpending : s'.KeepsCloseFrame ↔ s.codePending = false := by
        unfold State.KeepsCloseFrame State.codePending
        rw [hcall, hf, hw]
        cases s.hist.closeCall with
        | none => simp
        | some call => simp [@eq_comm _ none call.frame]
      rw [hpending, KeepsCode, hread]
      simp
    · refine ⟨fun _ _ _ => hread, fun _ call hsome _ => ?_⟩
      obtain ⟨call', hsome', hframe⟩ := hi.cmds (code, reason) (by
        simp [State.closeCmds, hpc, Pc.closeCmd, Cmd.close?])
      rw [hcall] at hsome
      obtain rfl : call = call' := Option.some.inj (hsome.symm.trans hsome')
      rw [hf, ← hframe]
      exact .inr rfl
    · -- The senders go only after the command of the local close has been processed.
      obtain ⟨hgone, hnil⟩ := hi.ended hpc
      obtain ⟨hl, -, hclosing⟩ := hi.senders hgone
      refine absurd ?_ (hi.pending hl hw (by rw [hpc]; rfl))
      simp [State.closeCmds, hclosing, hnil, hpc, Pc.closeCmd]

theorem outer (h : s.KeepsCloseFrame) (hi : s.CloseFrameSound) {a : Action}
    (hm : OuterMove s a s') : s'.KeepsCloseFrame := by
  have hf : s'.hist.closeFrames = s.hist.closeFrames := by rw [OuterFrame.of_move hm]
  have hclosed (code : Option UInt16) (reason : String) (hl : s.shared.localClosed = false) :
      (s.closed code reason).KeepsCloseFrame := by
    -- A fresh call finds no peer frame and no overflow, so no close frame has been initiated.
    have hnone : s.hist.closeCall = none := by
      simpa [hl] using hi.localClosed.symm
    intro call hsome hfresh
    simp only [State.closed, hnone, Option.none_or] at hsome
    obtain rfl := Option.some.inj hsome
    refine .inl (hi.fresh ?_)
    by_contra hw
    simp only [Bool.and_eq_true, Option.isNone_iff_eq_none, Bool.not_eq_true'] at hfresh
    rcases hi.closing (by simpa using hw) hnone with hp | ho
    · simp [hfresh.1.1] at hp
    · exact absurd (ho.symm.trans hfresh.1.2) (by rintro ⟨⟩)
  cases hm with
  | send message =>
    refine h.congr ?_ hf
    simp only [State.callSend]
    split <;> rfl
  | enqueue =>
    refine h.congr ?_ hf
    simp only [State.enqueue]
    split <;> rfl
  | close code reason =>
    rcases callClose_cases s code reason with ⟨-, hc⟩ | ⟨hl, -, hc⟩ <;> rw [hc]
    · exact h
    · exact hclosed code reason hl
  | enqueueClose =>
    refine h.congr ?_ hf
    simp only [State.enqueueClose]
    split <;> rfl
  | drop =>
    simp only [State.callDrop]
    rcases callClose_cases s none "" with ⟨-, hc⟩ | ⟨hl, -, hc⟩ <;> rw [hc]
    · exact h
    · exact hclosed none "" hl
  | dropSenders | reader | arrive | tick => exact h.congr rfl hf

end State.KeepsCloseFrame

/-- In every run in which the pump does not close for what it reads between a `close` call with a
code and its command, the only close frame initiated is the one of the first accepted call, when it
found the connection fresh. -/
theorem keeps_closeFrame (h : system.ReachableUnder KeepsCode s) : s.KeepsCloseFrame := by
  refine System.ReachableUnder.induction (I := State.KeepsCloseFrame) ?_ ?_ h
  · rintro _ ⟨closeTimeout, limit, now, largest, hreaches, -, rfl⟩
    exact nofun
  · intro s a s' hs ih hc hstep
    have hi : s.CloseFrameSound := closeFrame_sound hs.reachable
    cases step_kind hstep with
    | poll h => exact (ih.poll_iff hi h).mpr hc
    | write ha h =>
      have hframe := WriteFrame.step h ha
      exact ih.congr (by rw [hframe]) (by rw [hframe])
    | outer hm => exact ih.outer hi hm

end Polymorph.Host
