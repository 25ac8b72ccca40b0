import PolymorphWebsocket.Host.Delivery

/-!
# The wasmtime host: the close frame that is reported

What the transport brings is read once and in order, and the pump keeps the first close frame that it
reads.  So what the connection reports at its end is the first close frame among the outcomes that have
been read, and nothing when there was none.
-/

namespace Polymorph.Host

open Transition

variable {s s' : State}

/-- The close info of an outcome that is a close frame. -/
def closeInfoOf : Inbound → Option CloseInfo
  | .close frame => some (closeInfoFrom frame)
  | .text _ | .binary _ | .ping _ | .pong _ | .frame | .capacity | .connectionClosed | .error => none

/-- The outcome that the pump has taken and not looked at yet. -/
def Pc.outcome? : Pc → Option Inbound
  | .resolved (.read outcome) => some outcome
  | .select _ | .resolved (.cmd _) | .resolved .deadline | .reserved _ | .counted _ | .writing _ _ _
  | .finalize _ | .done => none

/-- Past the loop the pump has no outcome in its hands. -/
theorem Pc.outcome_of_stage {pc : Pc} {n : Nat} (h : n + 1 ≤ pc.stage) : pc.outcome? = none := by
  cases pc with
  | resolved r => cases h
  | select | reserved | counted | writing | finalize | done => rfl

/-- The outcomes that have not been looked at. -/
def State.unlooked (s : State) : List Inbound := s.pump.pc.outcome?.toList ++ s.inbound

/-- The pump has kept the first close frame among the outcomes it has looked at. -/
def State.Reads (s : State) (arrived : List Inbound) : Prop :=
  ∃ read, arrived = read ++ s.unlooked ∧ s.pump.peerFrame = read.findSome? closeInfoOf

/-- What a step looks at. -/
structure Looks (s : State) (more : List Inbound) (s' : State) : Prop where
  reads : ∃ read, s.unlooked ++ more = read ++ s'.unlooked ∧
    s'.pump.peerFrame = s.pump.peerFrame.or (read.findSome? closeInfoOf)

namespace Looks

/-- A step that looks at nothing. -/
theorem of_eq {more : List Inbound} (hunlooked : s'.unlooked = s.unlooked ++ more)
    (hframe : s'.pump.peerFrame = s.pump.peerFrame) : Looks s more s' := by
  refine ⟨[], ?_, ?_⟩
  · rw [hunlooked]
    rfl
  · rw [hframe, List.findSome?_nil, Option.or_none]

theorem outcome_goes (s : State) (result : Except Error Unit) (next : Next) :
    (s.goes result next).pump.pc.outcome? = none := by
  cases next <;> rfl

theorem outcome_boundedWrite (s : State) (write : Write) (next : Next) :
    (s.boundedWrite write next).pump.pc.outcome? = none := by
  unfold State.boundedWrite
  split
  · exact outcome_goes s _ next
  · rfl

theorem outcome_beginClose (s : State) (frame : Option CloseFrame) (next : Next) :
    (s.beginClose frame next).pump.pc.outcome? = none ∧
      (s.beginClose frame next).pump.peerFrame = s.pump.peerFrame := by
  rcases beginClose_cases s frame next with ⟨-, h⟩ | ⟨-, h⟩
  · rw [h]
    refine ⟨outcome_goes s _ next, ?_⟩
    rw [PcFrame.goes s _ next]
  · rw [h]
    refine ⟨outcome_boundedWrite _ _ next, ?_⟩
    rw [PcFrame.boundedWrite (s.closing frame) _ next]
    rfl

theorem outcome_deliver (s : State) (message : Message) :
    (s.deliver message).pump.pc.outcome? = none ∧
      (s.deliver message).pump.peerFrame = s.pump.peerFrame := by
  unfold State.deliver
  split
  · exact ⟨rfl, rfl⟩
  · split
    · exact ⟨rfl, rfl⟩
    · exact outcome_beginClose _ none .loop

/-- The body of the read arm keeps the first close frame. -/
theorem outcome_onRead (s : State) (outcome : Inbound) :
    (s.onRead outcome).pump.pc.outcome? = none ∧
      (s.onRead outcome).pump.peerFrame = s.pump.peerFrame.or (closeInfoOf outcome) := by
  have hnone {t : State} (h : t.pump.pc.outcome? = none ∧ t.pump.peerFrame = s.pump.peerFrame) :
      t.pump.pc.outcome? = none ∧ t.pump.peerFrame = s.pump.peerFrame.or none := by
    rw [Option.or_none]
    exact h
  cases outcome with
  | text data => exact hnone (outcome_deliver s _)
  | binary data => exact hnone (outcome_deliver s _)
  | close frame =>
    unfold State.onRead
    dsimp only
    split
    · exact ⟨rfl, rfl⟩
    · refine ⟨outcome_boundedWrite _ _ _, ?_⟩
      rw [PcFrame.boundedWrite (s.notePeerFrame frame).setWireClosing _ _]
      rfl
  | ping payload =>
    refine hnone ⟨outcome_boundedWrite s _ _, ?_⟩
    unfold State.onRead
    rw [PcFrame.boundedWrite s _ _]
  | pong | frame | connectionClosed | error => exact hnone ⟨rfl, rfl⟩
  | capacity => exact hnone (outcome_beginClose _ none .leave)

/-- The body of the arm of a command or of the deadline. -/
theorem outcome_onResolved {r : Resolution} (hr : (Pc.resolved r).outcome? = none) :
    (s.onResolved r).pump.pc.outcome? = none ∧ (s.onResolved r).pump.peerFrame = s.pump.peerFrame := by
  cases r with
  | read outcome => cases hr
  | deadline => exact ⟨rfl, rfl⟩
  | cmd cmd =>
    rcases cmd with - | ⟨id, message⟩ | ⟨code, reason⟩
    · exact outcome_beginClose _ none .loop
    · unfold State.onResolved State.onCmd
      dsimp only
      split
      · refine ⟨outcome_goes s _ _, ?_⟩
        rw [PcFrame.goes s _ _]
      · refine ⟨outcome_boundedWrite s _ _, ?_⟩
        rw [PcFrame.boundedWrite s _ _]
    · exact outcome_beginClose _ _ .loop

/-- A poll of an arm. -/
theorem pollArm {arm : Arm} (hpc : s.pump.pc = .select arm) : Looks s [] (s.pollArm arm) := by
  have hsame {t : State} (hinbound : t.inbound = s.inbound) (hframe : t.pump.peerFrame = s.pump.peerFrame)
      (hnone : t.pump.pc.outcome? = none) : Looks s [] t := by
    refine of_eq ?_ hframe
    unfold State.unlooked
    rw [hnone, hpc, hinbound, List.append_nil]
    rfl
  cases arm with
  | cmd =>
    unfold State.pollArm
    dsimp only
    split
    · exact hsame rfl rfl rfl
    · split
      · exact hsame rfl rfl rfl
      · split <;> exact hsame rfl rfl rfl
  | read =>
    unfold State.pollArm
    dsimp only
    split
    · next outcome rest hinbound =>
      refine of_eq ?_ rfl
      unfold State.unlooked
      rw [hpc, hinbound, List.append_nil]
      rfl
    · exact hsame rfl rfl rfl
  | deadline =>
    unfold State.pollArm
    dsimp only
    split <;> exact hsame rfl rfl rfl

/-- A step of the pump. -/
theorem poll (h : s.poll = some s') : Looks s [] s' := by
  have hsame (hpc : s.pump.pc.outcome? = none) (hnone : s'.pump.pc.outcome? = none)
      (hinbound : s'.inbound = s.inbound) (hframe : s'.pump.peerFrame = s.pump.peerFrame) : Looks s [] s' := by
    refine of_eq ?_ hframe
    unfold State.unlooked
    rw [hpc, hnone, hinbound, List.append_nil]
  unfold State.poll at h
  split at h
  · next arm hpc =>
    obtain rfl := Option.some.inj h
    exact pollArm hpc
  · next r hpc =>
    obtain rfl := Option.some.inj h
    have hinbound : (s.onResolved r).inbound = s.inbound := (onResolved_cmds s r).2
    by_cases hread : (Pc.resolved r).outcome? = none
    · obtain ⟨hnone, hframe⟩ := outcome_onResolved (s := s) hread
      exact hsame (by rw [hpc]; exact hread) hnone hinbound hframe
    · cases r with
      | cmd | deadline => exact absurd rfl hread
      | read outcome =>
        obtain ⟨hnone, hframe⟩ := outcome_onRead s outcome
        refine ⟨[outcome], ?_, ?_⟩
        · show s.unlooked ++ [] = [outcome] ++ (s.onRead outcome).unlooked
          unfold State.unlooked
          rw [hnone, hpc, List.append_nil]
          exact congrArg (outcome :: ·) hinbound.symm
        · rw [List.findSome?_singleton]
          exact hframe
  · next message hpc =>
    obtain rfl := Option.some.inj h
    exact hsame (by rw [hpc]; rfl) rfl rfl rfl
  · next message hpc =>
    obtain rfl := Option.some.inj h
    exact hsame (by rw [hpc]; rfl) rfl rfl rfl
  · cases h
  · next stage hpc =>
    obtain rfl := Option.some.inj h
    have hpc' : s.pump.pc.outcome? = none := by
      rw [hpc]
      rfl
    cases stage with
    | drainCmds =>
      unfold State.finalizeStep at hsame ⊢
      dsimp only at hsame ⊢
      split at hsame
      · exact hsame hpc' hpc' rfl rfl
      · exact hsame hpc' hpc' rfl rfl
      · exact hsame hpc' rfl rfl rfl
    | closeInfo | endQueue | closeCmds | closing | closed | fire => exact hsame hpc' rfl rfl rfl
  · cases h

/-- A resolution of a bounded write. -/
theorem write {a : Action} (h : step s a = some s')
    (ha : a = .hand ∨ a = .written ∨ (∃ err, a = .writeFailed err) ∨ a = .writeBound) : Looks s [] s' := by
  have hframe := WriteFrame.step h ha
  obtain ⟨write, bound, next, hpc⟩ := writing_of_step h ha
  have hnone : s'.pump.pc.outcome? = none := by
    rcases ha with rfl | rfl | ⟨err, rfl⟩ | rfl
    · simp only [step, State.hand, hpc] at h
      split at h
      · obtain rfl := Option.some.inj h
        rfl
      · cases h
    · simp only [step, State.written, hpc] at h
      split at h
      · cases h
      · obtain rfl := Option.some.inj h
        exact outcome_goes _ _ _
      · cases h
    · simp only [step, State.writeFailed, hpc] at h
      obtain rfl := Option.some.inj h
      exact outcome_goes _ _ _
    · simp only [step, State.writeBound, hpc] at h
      split at h
      · split at h
        · obtain rfl := Option.some.inj h
          rfl
        · cases h
      · split at h
        · obtain rfl := Option.some.inj h
          exact outcome_goes _ _ _
        · cases h
      · cases h
  refine of_eq ?_ ?_
  · unfold State.unlooked
    rw [hnone, hpc, hframe, List.append_nil]
    rfl
  · rw [hframe]

end Looks

/-- Every step looks at the outcomes in their order. -/
theorem looks_of_step {a : Action} (h : step s a = some s') : Looks s a.arrived s' := by
  cases step_kind h with
  | poll hp => exact .poll hp
  | write ha hw =>
    have hnone : a.arrived = [] := by
      rcases ha with rfl | rfl | ⟨err, rfl⟩ | rfl <;> rfl
    rw [hnone]
    exact .write hw ha
  | outer hm =>
    have hframe := OuterFrame.of_move hm
    have hinbound : s'.inbound = s.inbound ++ a.arrived := by
      by_cases hreader : a.isReader = true
      · cases hm with
        | reader ha =>
          rcases ha with rfl | rfl <;> exact (List.append_nil _).symm
        | send | enqueue | close | enqueueClose | drop | dropSenders | arrive | tick => cases hreader
      · exact (Conveys.outer_queue hm (Bool.eq_false_iff.mpr hreader)).1
    refine .of_eq ?_ ?_
    · unfold State.unlooked
      rw [hinbound, hframe, List.append_assoc]
    · rw [hframe]

/-- A step keeps the first close frame. -/
theorem State.Reads.step {arrived : List Inbound} (h : s.Reads arrived) {a : Action}
    (hs : Host.step s a = some s') : s'.Reads (arrived ++ a.arrived) := by
  obtain ⟨read, rfl, hframe⟩ := h
  obtain ⟨more, hmore, hframe'⟩ := (looks_of_step hs).reads
  refine ⟨read ++ more, ?_, ?_⟩
  · rw [List.append_assoc, hmore, ← List.append_assoc]
  · rw [hframe', hframe, List.findSome?_append]

end Polymorph.Host
