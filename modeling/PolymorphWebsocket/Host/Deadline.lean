import PolymorphWebsocket.Host.Frames

/-!
# The wasmtime host: the close deadline and the select

The deadline is the last arm of the pump's biased select, so a command that is ready, or an inbound
frame that is ready, is processed before it, and the loop goes on: a peer that keeps sending
outruns the deadline.  A poll of the select past the deadline leaves the loop, or comes nearer to
the deadline's arm, exactly when no command is ready at its first arm and at most an outcome that
ends the connection is ready at its second.  The runs whose polls all find it so leave the loop
within a fixed number of the pump's steps.
-/

namespace Polymorph.Host

open Transition

variable {s s' : State}

/-- A resolution of the select leaves the loop. -/
def Resolution.leaves : Resolution → Bool
  | .cmd _ => false
  | .read outcome => outcome.terminal
  | .deadline => true

/-- The command arm is ready: a command is in the channel, or its end has not been taken yet. -/
def State.cmdReady (s : State) : Bool :=
  !s.pump.cmdsDone && (!s.shared.cmds.isEmpty || s.shared.sendersGone)

/-- The read arm is ready with a frame, not with an outcome that ends the connection. -/
def State.frameReady (s : State) : Bool := s.inbound.head?.any fun outcome => !outcome.terminal

/-- The next poll finds an arm ready that does not leave the loop. -/
def State.overruns (s : State) : Bool :=
  match s.pump.pc with
  | .select .cmd => s.cmdReady
  | .select .read => s.frameReady
  | _ => false

/-- The condition on a step: past the deadline, no arm is ready that does not leave the loop. -/
def DeadlineFirst (s : State) (a : Action) : Prop :=
  a = .poll → s.expired = true → s.overruns = false

instance (s : State) (a : Action) : Decidable (DeadlineFirst s a) := by
  unfold DeadlineFirst
  infer_instance

/-- The steps of the pump. -/
def Action.isPump : Action → Bool
  | .poll | .hand | .written | .writeFailed _ | .writeBound => true
  | _ => false

/-! ### One poll of the select -/

/-- A poll of the select past the deadline: with an arm ready that does not leave the loop, the
select resolves to it; otherwise it resolves to what leaves the loop, or goes to the next arm. -/
theorem pollArm_expired {arm : Arm} (hpc : s.pump.pc = .select arm) (he : s.expired = true) :
    (s.overruns = true ∧ ∃ r, (s.pollArm arm).pump.pc = .resolved r ∧ r.leaves = false) ∨
    (s.overruns = false ∧ ((∃ r, (s.pollArm arm).pump.pc = .resolved r ∧ r.leaves = true) ∨
      (arm = .cmd ∧ (s.pollArm arm).pump.pc = .select .read) ∨
      (arm = .read ∧ (s.pollArm arm).pump.pc = .select .deadline))) := by
  cases arm with
  | cmd =>
    simp only [State.overruns, hpc, State.cmdReady, State.pollArm]
    cases hdone : s.pump.cmdsDone with
    | true => exact .inr ⟨rfl, .inr (.inl ⟨trivial, rfl⟩)⟩
    | false =>
      cases hcmds : s.shared.cmds with
      | cons cmd rest => exact .inl ⟨rfl, _, rfl, rfl⟩
      | nil =>
        cases hgone : s.shared.sendersGone with
        | true => exact .inl ⟨rfl, _, rfl, rfl⟩
        | false => exact .inr ⟨rfl, .inr (.inl ⟨trivial, rfl⟩)⟩
  | read =>
    simp only [State.overruns, hpc, State.frameReady, State.pollArm]
    cases hin : s.inbound with
    | nil => exact .inr ⟨rfl, .inr (.inr ⟨trivial, rfl⟩)⟩
    | cons outcome rest =>
      cases ho : outcome.terminal with
      | false => exact .inl ⟨by simp [ho], _, rfl, ho⟩
      | true => exact .inr ⟨by simp [ho], .inl ⟨_, rfl, ho⟩⟩
  | deadline =>
    simp only [State.overruns, hpc, State.pollArm, he]
    exact .inr ⟨trivial, .inl ⟨_, rfl, rfl⟩⟩

/-! ### Leaving the loop -/

/-- The points of the pump from a select past the deadline on, if no arm is ready that does not
leave the loop. -/
def Pc.winding : Pc → Bool
  | .select _ | .finalize _ | .done => true
  | .resolved r => r.leaves
  | .writing _ bound next => bound == .deadline && next == .leave
  | .reserved _ | .counted _ => false

/-- The pump has left its loop. -/
def Pc.left : Pc → Bool
  | .finalize _ | .done => true
  | _ => false

/-- How many steps the pump is away from leaving its loop, at most. -/
def Pc.rank : Pc → Nat
  | .select .cmd => 6
  | .select .read => 5
  | .select .deadline => 4
  | .resolved _ => 3
  | .writing (.send _ false) _ _ => 2
  | .writing _ _ _ => 1
  | .reserved _ | .counted _ | .finalize _ | .done => 0

/-- The deadline has passed and the pump is on its way out. -/
structure State.Winding (s : State) : Prop where
  expired : s.expired = true
  pc : s.pump.pc.winding = true

theorem expired_iff : s.expired = true ↔ ∃ d, s.pump.deadline = some d ∧ d ≤ s.now := by
  unfold State.expired
  cases s.pump.deadline <;> simp

/-- An armed deadline that has passed stays. -/
theorem expired_of_eq (he : s.expired = true) (hd : s'.pump.deadline = s.pump.deadline)
    (hn : s.now ≤ s'.now) : s'.expired = true := by
  obtain ⟨d, hs, hle⟩ := expired_iff.mp he
  exact expired_iff.mpr ⟨d, hd.trans hs, hle.trans hn⟩

/-- From a point on its way out the pump takes this many steps while these outcomes arrive: it stays
on its way out, has left its loop or come nearer to leaving it, and has taken no frame from the
transport. -/
structure State.WindsOut (s : State) (steps : Nat) (arrived : List Inbound) (s' : State) :
    Prop where
  winding : s'.Winding
  nearer : s'.pump.pc.left = true ∨
    (s.pump.pc.left = false ∧ s'.pump.pc.rank + steps ≤ s.pump.pc.rank)
  frames : ∃ taken, s.inbound ++ arrived = taken ++ s'.inbound ∧
    ∀ outcome ∈ taken, outcome.terminal = true

theorem State.WindsOut.refl (h : s.Winding) : s.WindsOut 0 [] s := by
  refine ⟨h, ?_, [], List.append_nil _, nofun⟩
  cases s.pump.pc.left with
  | true => exact .inl rfl
  | false => exact .inr ⟨rfl, Nat.le_refl _⟩

theorem State.WindsOut.trans {s₁ : State} {m n : Nat} {xs ys : List Inbound}
    (h₁ : s.WindsOut m xs s₁) (h₂ : s₁.WindsOut n ys s') : s.WindsOut (m + n) (xs ++ ys) s' := by
  obtain ⟨taken, hin, hterminal⟩ := h₁.frames
  obtain ⟨taken', hin', hterminal'⟩ := h₂.frames
  refine ⟨h₂.winding, ?_, taken ++ taken', ?_, fun outcome ho => ?_⟩
  · rcases h₂.nearer with hleft | ⟨hin₁, hrank₂⟩
    · exact .inl hleft
    · rcases h₁.nearer with hleft | ⟨hin₀, hrank₁⟩
      · exact absurd (hin₁.symm.trans hleft) nofun
      · exact .inr ⟨hin₀, by omega⟩
  · rw [← List.append_assoc, hin, List.append_assoc, List.append_assoc, hin']
  · exact (List.mem_append.mp ho).elim (hterminal outcome) (hterminal' outcome)

/-- A step of the pump. -/
theorem State.WindsOut.of_pump (hw : s'.Winding)
    (hnearer : s'.pump.pc.left = true ∨
      (s.pump.pc.left = false ∧ s'.pump.pc.rank < s.pump.pc.rank))
    (hframes : ∃ taken, s.inbound = taken ++ s'.inbound ∧
      ∀ outcome ∈ taken, outcome.terminal = true) : s.WindsOut 1 [] s' := by
  obtain ⟨taken, hin, hterminal⟩ := hframes
  exact ⟨hw, hnearer, taken, by rw [List.append_nil]; exact hin, hterminal⟩

/-- A poll of the select on the way out. -/
theorem winds_pollArm {arm : Arm} (hpc : s.pump.pc = .select arm) (he : s.expired = true)
    (hc : s.overruns = false) : s.WindsOut 1 [] (s.pollArm arm) := by
  have hdeadline : (s.pollArm arm).pump.deadline = s.pump.deadline ∧
      (s.pollArm arm).now = s.now := by
    cases arm with
    | cmd =>
      simp only [State.pollArm]
      split
      · exact ⟨rfl, rfl⟩
      · split
        · exact ⟨rfl, rfl⟩
        · split <;> exact ⟨rfl, rfl⟩
    | read =>
      simp only [State.pollArm]
      split <;> exact ⟨rfl, rfl⟩
    | deadline => exact ⟨rfl, rfl⟩
  have he' : (s.pollArm arm).expired = true :=
    expired_of_eq he hdeadline.1 (Nat.le_of_eq hdeadline.2.symm)
  have hframes : ∃ taken, s.inbound = taken ++ (s.pollArm arm).inbound ∧
      ∀ outcome ∈ taken, outcome.terminal = true := by
    cases arm with
    | cmd =>
      refine ⟨[], ?_, List.forall_mem_nil _⟩
      simp only [State.pollArm]
      split
      · rfl
      · split
        · rfl
        · split <;> rfl
    | read =>
      simp only [State.overruns, hpc, State.frameReady] at hc
      simp only [State.pollArm]
      split
      · next outcome rest hin =>
        rw [hin] at hc
        refine ⟨[outcome], hin, fun o ho => ?_⟩
        rw [List.mem_singleton.mp ho]
        simpa using hc
      · exact ⟨[], rfl, List.forall_mem_nil _⟩
    | deadline => exact ⟨[], rfl, List.forall_mem_nil _⟩
  rcases pollArm_expired hpc he with ⟨hover, -⟩ | ⟨-, hnext⟩
  · cases hc.symm.trans hover
  · rcases hnext with ⟨r, hr, hleaves⟩ | ⟨rfl, hr⟩ | ⟨rfl, hr⟩
    · refine .of_pump ⟨he', by rw [hr]; exact hleaves⟩ (.inr ⟨by rw [hpc]; rfl, ?_⟩) hframes
      rw [hr, hpc]
      cases arm <;> simp [Pc.rank]
    · exact .of_pump ⟨he', by rw [hr]; rfl⟩ (.inr ⟨by rw [hpc]; rfl, by rw [hr, hpc]; decide⟩)
        hframes
    · exact .of_pump ⟨he', by rw [hr]; rfl⟩ (.inr ⟨by rw [hpc]; rfl, by rw [hr, hpc]; decide⟩)
        hframes

/-- What leaves the loop does so at once, or after the write of a close frame. -/
theorem winds_onResolved {r : Resolution} (hpc : s.pump.pc = .resolved r) (he : s.expired = true)
    (hr : r.leaves = true) : s.WindsOut 1 [] (s.onResolved r) := by
  have hleave (t : State) (hd : t.pump.deadline = s.pump.deadline) (hn : t.now = s.now)
      (hi : t.inbound = s.inbound) (hpc' : t.pump.pc = .finalize .closeInfo ∨
        ∃ w, t.pump.pc = .writing w .deadline .leave) : s.WindsOut 1 [] t := by
    refine .of_pump ⟨expired_of_eq he hd (Nat.le_of_eq hn.symm), ?_⟩
      (.inr ⟨by rw [hpc]; rfl, ?_⟩) ⟨[], hi.symm, nofun⟩
    · rcases hpc' with hpc' | ⟨w, hpc'⟩ <;> rw [hpc'] <;> rfl
    · rcases hpc' with hpc' | ⟨w, hpc'⟩ <;> rw [hpc, hpc']
      · simp [Pc.rank]
      · rcases w with ⟨frame, - | -⟩ | - <;> simp [Pc.rank]
  cases r with
  | cmd cmd => cases hr
  | deadline => exact hleave _ rfl rfl rfl (.inl rfl)
  | read outcome =>
    cases outcome with
    | text | binary | close | ping | pong | frame => cases hr
    | connectionClosed | error => exact hleave _ rfl rfl rfl (.inl rfl)
    | capacity =>
      change s.WindsOut 1 [] ((s.setBudget s.shared.budget.latchOverflow).beginClose none .leave)
      obtain ⟨d, hd, -⟩ := expired_iff.mp he
      rcases beginClose_cases (s.setBudget s.shared.budget.latchOverflow) none .leave with
        ⟨-, hb⟩ | ⟨-, hb⟩ <;> rw [hb]
      · exact hleave _ rfl rfl rfl (.inl rfl)
      · have harmed : ((s.setBudget s.shared.budget.latchOverflow).closing none).pump.deadline =
            s.pump.deadline := State.armed_of_isSome (Option.isSome_of_eq_some hd)
        unfold State.boundedWrite
        split
        · exact hleave _ harmed rfl rfl (.inl rfl)
        · refine hleave _ harmed rfl rfl (.inr ⟨.send (.close none) false, ?_⟩)
          rw [harmed, hd]
          rfl

/-- A step of the pump on its way out. -/
theorem winds_poll (h : s.Winding) (hc : s.overruns = false) (hs : s.poll = some s') :
    s.WindsOut 1 [] s' := by
  have hw := h.pc
  unfold State.poll at hs
  split at hs
  · next arm hpc =>
    cases hs
    exact winds_pollArm hpc h.expired hc
  · next r hpc =>
    cases hs
    rw [hpc] at hw
    exact winds_onResolved hpc h.expired hw
  · next hpc => rw [hpc] at hw; cases hw
  · next hpc => rw [hpc] at hw; cases hw
  · cases hs
  · next stage hpc =>
    cases hs
    have hkeep : (s.finalizeStep stage).pump.deadline = s.pump.deadline ∧
        (s.finalizeStep stage).now = s.now ∧ (s.finalizeStep stage).inbound = s.inbound ∧
        ∃ stage', (s.finalizeStep stage).pump.pc = .finalize stage' ∨
          (s.finalizeStep stage).pump.pc = .done := by
      cases stage with
      | drainCmds =>
        simp only [State.finalizeStep]
        split
        · exact ⟨rfl, rfl, rfl, .drainCmds, .inl hpc⟩
        · exact ⟨rfl, rfl, rfl, .drainCmds, .inl hpc⟩
        · exact ⟨rfl, rfl, rfl, .closing, .inl rfl⟩
      | closeInfo => exact ⟨rfl, rfl, rfl, .endQueue, .inl rfl⟩
      | endQueue => exact ⟨rfl, rfl, rfl, .closeCmds, .inl rfl⟩
      | closeCmds => exact ⟨rfl, rfl, rfl, .drainCmds, .inl rfl⟩
      | closing => exact ⟨rfl, rfl, rfl, .closed, .inl rfl⟩
      | closed => exact ⟨rfl, rfl, rfl, .fire, .inl rfl⟩
      | fire => exact ⟨rfl, rfl, rfl, .fire, .inr rfl⟩
    obtain ⟨hd, hn, hi, stage', hpc'⟩ := hkeep
    refine .of_pump ⟨expired_of_eq h.expired hd (Nat.le_of_eq hn.symm), ?_⟩ (.inl ?_)
      ⟨[], hi.symm, List.forall_mem_nil _⟩
    · rcases hpc' with hpc' | hpc' <;> rw [hpc'] <;> rfl
    · rcases hpc' with hpc' | hpc' <;> rw [hpc'] <;> rfl
  · cases hs

/-- A resolution of the close frame's write on the way out. -/
theorem winds_write (h : s.Winding) {a : Action} (hs : step s a = some s')
    (ha : a = .hand ∨ a = .written ∨ (∃ err, a = .writeFailed err) ∨ a = .writeBound) :
    s.WindsOut 1 [] s' := by
  obtain ⟨w, bound, next, hpc⟩ := writing_of_step hs ha
  have hw := h.pc
  rw [hpc] at hw
  obtain ⟨rfl, rfl⟩ : bound = .deadline ∧ next = .leave := by simpa [Pc.winding] using hw
  have hleave (t : State) (hd : t.pump.deadline = s.pump.deadline) (hn : t.now = s.now)
      (hi : t.inbound = s.inbound) : s.WindsOut 1 [] (t.setPc (.finalize .closeInfo)) := by
    exact .of_pump ⟨expired_of_eq h.expired hd (Nat.le_of_eq hn.symm), rfl⟩ (.inl rfl)
      ⟨[], hi.symm, nofun⟩
  have harmed : s.setWriteDead.armDeadline.pump.deadline = s.pump.deadline := by
    obtain ⟨d, hd, -⟩ := expired_iff.mp h.expired
    exact State.armed_of_isSome (s := s.setWriteDead) (Option.isSome_of_eq_some hd)
  rcases ha with rfl | rfl | ⟨err, rfl⟩ | rfl
  · simp only [step, State.hand] at hs
    split at hs
    · next frame _ _ hpc' =>
      cases hs
      rw [hpc] at hpc'
      cases hpc'
      refine .of_pump ⟨h.expired, rfl⟩ (.inr ⟨by rw [hpc]; rfl, ?_⟩) ⟨[], rfl, nofun⟩
      rw [hpc]
      exact Nat.lt_succ_self 1
    · cases hs
  · simp only [step, State.written] at hs
    split at hs
    · cases hs
    · next w' _ _ _ hpc' =>
      cases hs
      rw [hpc] at hpc'
      cases hpc'
      refine hleave _ ?_ ?_ ?_ <;> unfold State.noteCompleted <;> split <;> rfl
    · cases hs
  · simp only [step, State.writeFailed] at hs
    split at hs
    · next hpc' =>
      cases hs
      rw [hpc] at hpc'
      cases hpc'
      exact hleave _ harmed rfl rfl
    · cases hs
  · simp only [step, State.writeBound] at hs
    split at hs
    · next hpc' =>
      rw [hpc] at hpc'
      cases hpc'
    · next hpc' =>
      rw [hpc] at hpc'
      cases hpc'
      split at hs
      · cases hs
        exact hleave _ harmed rfl rfl
      · cases hs
    · cases hs

/-! ### Runs past the deadline -/

/-- The outcomes an action makes arrive. -/
def Action.arrivals : Action → List Inbound
  | .arrive outcomes => outcomes
  | _ => []

/-- Everyone else leaves the pump where it is, and takes no outcome away. -/
theorem winding_outer (h : s.Winding) {a : Action} (hm : OuterMove s a s') :
    s'.Winding ∧ s'.pump.pc = s.pump.pc ∧ s'.inbound = s.inbound ++ a.arrivals ∧
      a.isPump = false := by
  have hpump : s'.pump = s.pump := by rw [OuterFrame.of_move hm]
  have hclose (code : Option UInt16) (reason : String) : (s.callClose code reason).now = s.now := by
    rcases callClose_cases s code reason with ⟨-, hc⟩ | ⟨-, -, hc⟩
    · rw [hc]
    · rw [hc]; rfl
  have hnow : s.now ≤ s'.now := by
    cases hm with
    | send message =>
      simp only [State.callSend]
      split <;> exact Nat.le_refl _
    | enqueue =>
      simp only [State.enqueue]
      split <;> exact Nat.le_refl _
    | close code reason => exact Nat.le_of_eq (hclose code reason).symm
    | enqueueClose =>
      simp only [State.enqueueClose]
      split <;> exact Nat.le_refl _
    | drop => exact Nat.le_of_eq (hclose none "").symm
    | dropSenders | reader | arrive => exact Nat.le_refl _
    | tick dt => exact Nat.le_add_right _ _
  refine ⟨⟨expired_of_eq h.expired (by rw [hpump]) hnow, by rw [hpump]; exact h.pc⟩,
    by rw [hpump], ?_⟩
  cases hm with
  | send message =>
    simp only [State.callSend]
    split <;> exact ⟨(List.append_nil _).symm, rfl⟩
  | enqueue =>
    simp only [State.enqueue]
    split <;> exact ⟨(List.append_nil _).symm, rfl⟩
  | enqueueClose =>
    simp only [State.enqueueClose]
    split <;> exact ⟨(List.append_nil _).symm, rfl⟩
  | close code reason =>
    rcases callClose_cases s code reason with ⟨-, hc⟩ | ⟨-, -, hc⟩ <;> rw [hc] <;>
      exact ⟨(List.append_nil _).symm, rfl⟩
  | drop =>
    simp only [State.callDrop]
    rcases callClose_cases s none "" with ⟨-, hc⟩ | ⟨-, -, hc⟩ <;> rw [hc] <;>
      exact ⟨(List.append_nil _).symm, rfl⟩
  | reader ha => rcases ha with rfl | rfl <;> exact ⟨(List.append_nil _).symm, rfl⟩
  | dropSenders => exact ⟨(List.append_nil _).symm, rfl⟩
  | arrive | tick => exact ⟨by simp [Action.arrivals], rfl⟩

/-- One step under the condition from a point on the way out. -/
theorem windsOut_step (h : s.Winding) {a : Action} (hc : DeadlineFirst s a)
    (hs : step s a = some s') : s.WindsOut (if a.isPump then 1 else 0) a.arrivals s' := by
  cases step_kind hs with
  | poll hp => exact winds_poll h (hc rfl h.expired) hp
  | write ha hw =>
    have hout := winds_write h hw ha
    rcases ha with rfl | rfl | ⟨err, rfl⟩ | rfl <;> exact hout
  | outer hm =>
    obtain ⟨hw, hpc, hin, ha⟩ := winding_outer h hm
    refine ⟨hw, ?_, [], hin.symm, nofun⟩
    rw [ha, hpc]
    exact (State.WindsOut.refl h).nearer

/-- A run under the condition from a point on the way out. -/
theorem windsOut_run (h : s.Winding) {actions : List Action}
    (hrun : system.runUnder DeadlineFirst s actions = some s') :
    s.WindsOut (actions.countP Action.isPump) (actions.flatMap Action.arrivals) s' := by
  induction actions generalizing s with
  | nil =>
    obtain rfl : s = s' := Option.some.inj hrun
    exact .refl h
  | cons a actions ih =>
    unfold System.runUnder at hrun
    split at hrun
    · next hc =>
      obtain ⟨s₁, h₁, h₂⟩ := Option.bind_eq_some_iff.mp hrun
      have hstep := windsOut_step h hc h₁
      rw [List.countP_cons, Nat.add_comm, List.flatMap_cons]
      exact hstep.trans (ih hstep.winding h₂)
    · cases hrun

/-- On its way out the pump waits for nobody until it has finished. -/
theorem winding_enabled (h : s.Winding) (hdone : s.pump.pc ≠ .done) :
    ∃ a, a.isPump = true ∧ system.Enabled s a := by
  have hw := h.pc
  have hpoll (hs : s.poll.isSome = true) : ∃ a, a.isPump = true ∧ system.Enabled s a :=
    ⟨.poll, rfl, Option.isSome_iff_exists.mp hs⟩
  cases hpc : s.pump.pc with
  | select arm => exact hpoll (by rw [State.poll, hpc]; rfl)
  | resolved r => exact hpoll (by rw [State.poll, hpc]; rfl)
  | finalize stage => exact hpoll (by rw [State.poll, hpc]; rfl)
  | done => exact (hdone hpc).elim
  | reserved message => rw [hpc] at hw; cases hw
  | counted message => rw [hpc] at hw; cases hw
  | writing w bound next =>
    rw [hpc] at hw
    obtain ⟨rfl, rfl⟩ : bound = .deadline ∧ next = .leave := by simpa [Pc.winding] using hw
    refine ⟨.writeBound, rfl, s.failWrite .closed .leave, ?_⟩
    change s.writeBound = _
    rw [State.writeBound, hpc]
    exact if_pos h.expired

/-- Where the pump has not left its loop its rank is positive. -/
theorem Pc.rank_pos {pc : Pc} (hw : pc.winding = true) (hleft : pc.left = false) : 0 < pc.rank := by
  cases pc with
  | select arm => cases arm <;> simp [Pc.rank]
  | resolved r => simp [Pc.rank]
  | writing w bound next => rcases w with ⟨frame, - | -⟩ | - <;> simp [Pc.rank]
  | reserved | counted => cases hw
  | finalize | done => cases hleft

/-- The close deadline against a peer that keeps sending.  Whatever a poll of the select past the
deadline resolves to leaves the loop exactly when no arm is ready that does not.  From a select past
the deadline, a run whose polls all meet this takes no further frame from the transport, always
leaves the pump a step to take until it has finished, and has left the loop after six of its
steps. -/
theorem deadline_leaves_loop {s : State} {arm : Arm} (hpc : s.pump.pc = .select arm)
    (he : s.expired = true) :
    (∀ s' r, step s .poll = some s' → s'.pump.pc = .resolved r →
      (r.leaves = true ↔ s.overruns = false)) ∧
    ∀ s' actions, system.runUnder DeadlineFirst s actions = some s' →
      (6 ≤ actions.countP Action.isPump → s'.pump.pc.left = true) ∧
      (s'.pump.pc ≠ .done → ∃ a, a.isPump = true ∧ system.Enabled s' a) ∧
      ∃ taken, s.inbound ++ actions.flatMap Action.arrivals = taken ++ s'.inbound ∧
        ∀ outcome ∈ taken, outcome.terminal = true := by
  constructor
  · intro s' r hs hr
    obtain rfl : s.pollArm arm = s' := by
      change s.poll = some s' at hs
      rw [State.poll, hpc] at hs
      exact Option.some.inj hs
    rcases pollArm_expired hpc he with ⟨hover, r', hr', hleaves⟩ | ⟨hover, hnext⟩
    · obtain rfl := Pc.resolved.inj (hr.symm.trans hr')
      rw [hover, hleaves]
      exact ⟨nofun, nofun⟩
    · rcases hnext with ⟨r', hr', hleaves⟩ | ⟨-, hr'⟩ | ⟨-, hr'⟩
      · obtain rfl := Pc.resolved.inj (hr.symm.trans hr')
        exact ⟨fun _ => hover, fun _ => hleaves⟩
      · exact absurd (hr.symm.trans hr') nofun
      · exact absurd (hr.symm.trans hr') nofun
  · intro s' actions hrun
    have hw : s.Winding := ⟨he, by rw [hpc]; rfl⟩
    have hout := windsOut_run hw hrun
    refine ⟨fun hsteps => ?_, winding_enabled hout.winding, hout.frames⟩
    rcases hout.nearer with hleft | ⟨-, hrank⟩
    · exact hleft
    · by_contra hleft
      have hpos := Pc.rank_pos hout.winding.pc (Bool.eq_false_iff.mpr hleft)
      have hstart : s.pump.pc.rank ≤ 6 := by
        rw [hpc]
        cases arm <;> decide
      omega

/-- A local close whose peer stays silent: past the deadline the pump leaves its loop. -/
theorem deadline_leaves_loop_silent :
    ∃ s, system.run (connection 100)
        [.close none "", .enqueueClose, .poll, .poll, .hand, .written, .tick 10] = some s ∧
      ∃ s', system.runUnder DeadlineFirst s [.poll, .poll, .poll, .poll, .poll, .poll] = some s' ∧
        s'.pump.pc.left = true := by
  have hevaluated : (system.run (connection 100)
      [.close none "", .enqueueClose, .poll, .poll, .hand, .written, .tick 10]).any (fun s =>
        decide (s.pump.pc = .select .cmd ∧ s.expired = true) &&
          (system.runUnder DeadlineFirst s [.poll, .poll, .poll, .poll, .poll, .poll]).isSome) =
      true := by decide +kernel
  refine ((Option.any_eq_true _ _).mp hevaluated).imp fun s hs => ⟨hs.1, ?_⟩
  obtain ⟨hpast, hsome⟩ := Bool.and_eq_true_iff.mp hs.2
  obtain ⟨hpc, he⟩ := of_decide_eq_true hpast
  obtain ⟨s', hout⟩ := Option.isSome_iff_exists.mp hsome
  exact ⟨s', hout, ((deadline_leaves_loop hpc he).2 s' _ hout).1 (by decide)⟩

/-- Past the deadline of a local close the pump still processes a text message that is ready, and
goes on in its loop. -/
theorem frame_outruns_deadline :
    ¬ ∀ s s' arm r, system.Reachable s → s.pump.pc = .select arm → s.expired = true →
      step s .poll = some s' → s'.pump.pc = .resolved r → r.leaves = true := by
  intro hclaim
  have hevaluated : (system.run (connection 100)
      [.close none "", .enqueueClose, .poll, .poll, .hand, .written, .tick 10, .arrive [.text "x"],
        .poll]).any (fun s => decide (s.pump.pc = .select .read ∧ s.expired = true) &&
        (step s .poll).any fun s' => decide (s'.pump.pc = .resolved (.read (.text "x")))) =
      true := by decide +kernel
  refine ((Option.any_eq_true _ _).mp hevaluated).elim fun s hs => ?_
  have hreach : system.Reachable s := reachable_of_run (by decide) hs.1
  obtain ⟨hpast, hpolled⟩ := Bool.and_eq_true_iff.mp hs.2
  obtain ⟨hpc, he⟩ := of_decide_eq_true hpast
  obtain ⟨s', hstep, hr⟩ := (Option.any_eq_true _ _).mp hpolled
  have hleaves := hclaim s s' .read (.read (.text "x")) hreach hpc he hstep (of_decide_eq_true hr)
  exact absurd hleaves (by decide)

end Polymorph.Host
