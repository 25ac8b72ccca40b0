import PolymorphWebsocket.Host.Frames

/-!
# The wasmtime host: the distance of the pump to waiting

Every step of the pump by itself brings it nearer to waiting: the commands and outcomes that are left
count most, then the suspension point.  The select polls its arms in a circle, so a select counts how
many of its arms it polls in vain before the one that is ready.
-/

namespace Polymorph.Host

variable {s s' : State} {ready : Arm}

/-! ### The distance to waiting -/

/-- How many arms the select polls from this one on before it polls that one. -/
def Arm.before : Arm → Arm → Nat
  | .cmd, .cmd | .read, .read | .deadline, .deadline => 0
  | .cmd, .read | .read, .deadline | .deadline, .cmd => 1
  | .cmd, .deadline | .read, .cmd | .deadline, .read => 2

/-- How far the pump is from waiting, at most, apart from what is left to process. -/
def Pc.distance (ready : Arm) : Pc → Nat
  | .select arm => 10 + arm.before ready
  | .resolved .deadline => 9
  | .resolved _ => 17
  | .writing (.send _ false) _ _ => 15
  | .writing _ _ _ => 14
  | .reserved _ => 15
  | .counted _ => 14
  | .finalize .closeInfo => 8
  | .finalize .endQueue => 7
  | .finalize .closeCmds => 6
  | .finalize .drainCmds => 5
  | .finalize .closing => 4
  | .finalize .closed => 3
  | .finalize .fire => 2
  | .done => 0

/-- The arm of the select that is ready, if the pump does not wait. -/
def State.readyArm (s : State) : Arm :=
  if s.shared.cmds ≠ [] then .cmd else if s.inbound ≠ [] then .read else .deadline

/-- How far the pump is from waiting, at most. -/
def State.distance (s : State) : Nat :=
  20 * (s.shared.cmds.length + s.inbound.length) + s.pump.pc.distance s.readyArm

theorem Arm.before_le (arm ready : Arm) : arm.before ready ≤ 2 := by
  cases arm <;> cases ready <;> decide

theorem distance_goes (s : State) (result : Except Error Unit) (next : Next) :
    (s.goes result next).pump.pc.distance ready ≤ 12 := by
  have hselect := Nat.add_le_add_left (Arm.before_le .cmd ready) 10
  cases next with
  | reply id => exact hselect
  | loop => exact hselect
  | leave => exact Nat.le_of_ble_eq_true rfl

theorem distance_boundedWrite (s : State) (write : Write) (next : Next) :
    (s.boundedWrite write next).pump.pc.distance ready ≤ 15 := by
  unfold State.boundedWrite
  split
  · exact (distance_goes s _ next).trans (by decide)
  · rcases write with ⟨frame, - | -⟩ | -
    · exact le_refl 15
    · exact Nat.le_succ 14
    · exact Nat.le_succ 14

theorem distance_beginClose (s : State) (frame : Option CloseFrame) (next : Next) :
    (s.beginClose frame next).pump.pc.distance ready ≤ 15 := by
  rcases beginClose_cases s frame next with ⟨-, h⟩ | ⟨-, h⟩
  · rw [h]
    exact (distance_goes s _ next).trans (by decide)
  · rw [h]
    exact distance_boundedWrite _ _ next

theorem distance_deliver (s : State) (message : Message) :
    (s.deliver message).pump.pc.distance ready ≤ 15 := by
  unfold State.deliver
  split
  · exact (distance_goes s (.ok ()) .loop).trans (by decide)
  · split
    · exact le_refl 15
    · exact distance_beginClose _ none .loop

/-- The body of an arm leads on. -/
theorem distance_onResolved {r : Resolution} (s : State) :
    (s.onResolved r).pump.pc.distance ready < (Pc.resolved r).distance ready := by
  cases r with
  | cmd cmd =>
    apply Nat.lt_of_le_of_lt (m := 15)
    · cases cmd with
      | none => exact distance_beginClose _ none .loop
      | some cmd =>
        cases cmd with
        | send id message =>
          unfold State.onResolved State.onCmd
          dsimp only
          split
          · exact (distance_goes s _ (.reply id)).trans (by decide)
          · exact distance_boundedWrite s _ (.reply id)
        | close code reason => exact distance_beginClose s _ .loop
    · exact Nat.le_of_ble_eq_true rfl
  | read outcome =>
    apply Nat.lt_of_le_of_lt (m := 15)
    · have hloop : (s.goes (.ok ()) .loop).pump.pc.distance ready ≤ 15 :=
        (distance_goes s (.ok ()) .loop).trans (by decide)
      cases outcome with
      | text text => exact distance_deliver s (.string text)
      | binary bytes => exact distance_deliver s (.binary bytes)
      | close frame =>
        unfold State.onResolved State.onRead
        dsimp only
        split
        · exact hloop
        · exact distance_boundedWrite _ .flush .loop
      | ping payload => exact distance_boundedWrite s .flush .loop
      | pong | frame => exact hloop
      | capacity => exact distance_beginClose _ none .leave
      | connectionClosed | error => exact Nat.le_of_ble_eq_true rfl
    · exact Nat.le_of_ble_eq_true rfl
  | deadline => exact Nat.le_of_ble_eq_true rfl

/-! ### Progress -/

/-- Without taking anything the pump comes nearer by its suspension point. -/
theorem distance_lt_of_pc {pc : Pc} (hpc : s.pump.pc = pc) (hcmds : s'.shared.cmds = s.shared.cmds)
    (hin : s'.inbound = s.inbound)
    (hlt : s'.pump.pc.distance s.readyArm < pc.distance s.readyArm) : s'.distance < s.distance := by
  have hready : s'.readyArm = s.readyArm := by
    unfold State.readyArm
    rw [hcmds, hin]
  unfold State.distance
  rw [hcmds, hin, hready, hpc]
  omega

/-- Taking a command or an outcome counts most. -/
theorem distance_lt_of_taken {pc pc' : Pc} (hpc : s.pump.pc = pc) (hpc' : s'.pump.pc = pc')
    (htaken : s'.shared.cmds.length + s'.inbound.length + 1 =
      s.shared.cmds.length + s.inbound.length)
    (hlt : pc'.distance s'.readyArm < pc.distance s.readyArm + 20) :
    s'.distance < s.distance := by
  unfold State.distance
  rw [hpc, hpc']
  omega

/-- A poll of the select takes what is ready, or goes on towards the arm that is ready. -/
theorem distance_pollArm {arm : Arm} (hdone : s.pump.cmdsDone = false)
    (hgone : s.shared.sendersGone = false)
    (hready : s.shared.cmds ≠ [] ∨ s.inbound ≠ [] ∨ s.expired = true)
    (hpc : s.pump.pc = .select arm) : (s.pollArm arm).distance < s.distance := by
  have hpasses (arm' : Arm) (hlt : arm'.before s.readyArm < arm.before s.readyArm) :
      (s.setPc (.select arm')).distance < s.distance :=
    distance_lt_of_pc hpc rfl rfl (Nat.add_lt_add_left hlt 10)
  have hle : (Pc.select arm).distance s.readyArm ≥ 10 := Nat.le_add_right 10 _
  cases arm with
  | cmd =>
    unfold State.pollArm
    dsimp only
    rw [hdone, if_neg Bool.false_ne_true]
    split
    · next cmd rest hcmds =>
      refine distance_lt_of_taken hpc rfl ?_ ?_
      · show rest.length + s.inbound.length + 1 = _
        rw [hcmds, List.length_cons]
        omega
      · show 17 < _
        omega
    · next hcmds =>
      rw [hgone, if_neg Bool.false_ne_true]
      apply hpasses
      unfold State.readyArm
      rw [if_neg (not_not.mpr hcmds)]
      split <;> decide
  | read =>
    unfold State.pollArm
    dsimp only
    split
    · next outcome rest hin =>
      refine distance_lt_of_taken hpc rfl ?_ ?_
      · show s.shared.cmds.length + rest.length + 1 = _
        rw [hin, List.length_cons]
        omega
      · show 17 < _
        omega
    · next hin =>
      apply hpasses
      unfold State.readyArm
      rw [if_neg (not_not.mpr hin)]
      split <;> decide
  | deadline =>
    unfold State.pollArm
    dsimp only
    split
    · next hexp =>
      refine distance_lt_of_pc hpc rfl rfl ?_
      exact Nat.lt_of_lt_of_le (Nat.lt_succ_self 9) hle
    · next hexp =>
      apply hpasses
      unfold State.readyArm
      split
      · decide
      · next hcmds =>
        rw [if_pos (hready.resolve_left hcmds |>.resolve_right hexp)]
        decide

/-- Every step of the finalization leads on. -/
theorem distance_finalizeStep {stage : Finalize} (hpc : s.pump.pc = .finalize stage) :
    (s.finalizeStep stage).distance < s.distance := by
  have hdrains (t : State) (cmd : Cmd) (rest : List Cmd) (hcmds : s.shared.cmds = cmd :: rest)
      (hcmds' : t.shared.cmds = rest) (hin : t.inbound = s.inbound) (hpc' : t.pump.pc = s.pump.pc)
      (hstage : stage = .drainCmds) : t.distance < s.distance := by
    subst hstage
    refine distance_lt_of_taken hpc (hpc'.trans hpc) ?_ ?_
    · rw [hcmds, hcmds', hin, List.length_cons]
      omega
    · exact Nat.lt_add_of_pos_right (by decide)
  cases stage with
  | drainCmds =>
    unfold State.finalizeStep
    dsimp only
    split
    · next id message rest hcmds => exact hdrains _ _ rest hcmds rfl rfl rfl rfl
    · next code reason rest hcmds => exact hdrains _ _ rest hcmds rfl rfl rfl rfl
    · exact distance_lt_of_pc hpc rfl rfl (Nat.le_of_ble_eq_true rfl)
  | closeInfo | endQueue | closeCmds | closing | closed | fire =>
    exact distance_lt_of_pc hpc rfl rfl (Nat.le_of_ble_eq_true rfl)

/-- A poll leads on, unless the pump waits at its select. -/
theorem poll_progress
    (hready : ∀ arm, s.pump.pc = .select arm → s.pump.cmdsDone = false ∧
      s.shared.sendersGone = false ∧
        (s.shared.cmds ≠ [] ∨ s.inbound ≠ [] ∨ s.expired = true))
    (hwriting : ∀ write bound next, s.pump.pc ≠ .writing write bound next)
    (hdone : s.pump.pc ≠ .done) : ∃ s', s.poll = some s' ∧ s'.distance < s.distance := by
  have hpoll (t : State) (hs : s.poll = some t) (hlt : t.distance < s.distance) :
      ∃ s', s.poll = some s' ∧ s'.distance < s.distance := ⟨t, hs, hlt⟩
  cases hpc : s.pump.pc with
  | select arm =>
    obtain ⟨hlive, hgone, hsome⟩ := hready arm hpc
    refine hpoll (s.pollArm arm) ?_ (distance_pollArm hlive hgone hsome hpc)
    unfold State.poll
    rw [hpc]
  | resolved r =>
    obtain ⟨hcmds, hin⟩ := onResolved_cmds s r
    refine hpoll (s.onResolved r) ?_ (distance_lt_of_pc hpc hcmds hin (distance_onResolved s))
    unfold State.poll
    rw [hpc]
  | reserved message =>
    refine hpoll ((s.setBudget (s.shared.budget.fetchAdd wordBits message.payloadLen)).setPc
      (.counted message))
      ?_ ?_
    · unfold State.poll
      rw [hpc]
    · exact distance_lt_of_pc hpc rfl rfl (Nat.le_of_ble_eq_true rfl)
  | counted message =>
    refine hpoll ({ s with shared := { s.shared with
      queue := s.shared.queue.push message } }.setPc (.select .cmd)) ?_ ?_
    · unfold State.poll
      rw [hpc]
    · refine distance_lt_of_pc hpc rfl rfl ?_
      have hle := Arm.before_le .cmd s.readyArm
      show 10 + Arm.before .cmd s.readyArm < 14
      omega
  | writing write bound next => exact absurd hpc (hwriting write bound next)
  | finalize stage =>
    refine hpoll (s.finalizeStep stage) ?_ (distance_finalizeStep hpc)
    unfold State.poll
    rw [hpc]
  | done => exact absurd hpc hdone

end Polymorph.Host
