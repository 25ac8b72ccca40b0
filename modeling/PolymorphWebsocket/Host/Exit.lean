import PolymorphWebsocket.Host.Ending

/-!
# The wasmtime host: how the pump leaves its loop

Once the closing handshake has answered a peer close frame, the pump discards the data it reads.  How
it leaves its loop is settled by the first outcome that has arrived and ends the loop, or by the
deadline: plainly, or by a message the transport has refused, which latches an overflow.  From then
on the pump finishes by its own steps.
-/

namespace Polymorph.Host

open Futures Transition Relation

variable {s s' : State}

/-- How the pump leaves its loop. -/
inductive Exit
  | plain
  | overflow
  deriving DecidableEq, Repr

/-- How an outcome of the transport ends the loop, if it does. -/
def exitBy : Inbound → Option Exit
  | .capacity => some .overflow
  | .connectionClosed | .error => some .plain
  | .binary _ | .text _ | .close _ | .ping _ | .pong _ | .frame => none

/-- How the first of these outcomes that ends the loop does so. -/
def firstExit (outcomes : List Inbound) : Option Exit := outcomes.findSome? exitBy

/-- How the pump leaves its loop after a bounded write. -/
def Next.exit (next : Next) (outcomes : List Inbound) : Option Exit :=
  match next with
  | .leave => some .plain
  | .reply _ | .loop => firstExit outcomes

/-- How the pump leaves its loop from this point on, if that is settled. -/
def Pc.exit (pc : Pc) (expired : Bool) (outcomes : List Inbound) : Option Exit :=
  match pc with
  | .resolved .deadline | .finalize _ | .done => some .plain
  | .resolved (.read outcome) => (exitBy outcome).or (firstExit outcomes)
  | .select .deadline => if expired then some .plain else firstExit outcomes
  | .select _ | .resolved (.cmd _) | .reserved _ | .counted _ => firstExit outcomes
  | .writing _ _ next => next.exit outcomes

/-- How the pump leaves its loop, if that is settled. -/
def State.exit (s : State) : Option Exit := s.pump.pc.exit s.expired s.inbound

/-- The first exit of what arrives later counts if there is none before. -/
theorem firstExit_append (outcomes more : List Inbound) :
    firstExit (outcomes ++ more) = (firstExit outcomes).or (firstExit more) :=
  List.findSome?_append

/-- The outcome at the head counts first. -/
theorem firstExit_cons (outcome : Inbound) (rest : List Inbound) :
    firstExit (outcome :: rest) = (exitBy outcome).or (firstExit rest) := by
  unfold firstExit
  rw [List.findSome?_cons]
  cases exitBy outcome <;> rfl

/-- A pump that has left its loop has latched what it latches. -/
theorem exit_of_left (h : s.pump.pc.left = true) : s.exit = some .plain := by
  unfold State.exit
  cases hpc : s.pump.pc with
  | finalize | done => rfl
  | select | resolved | reserved | counted | writing =>
    rw [hpc] at h
    cases h

/-- An exit that is open is settled by the first outcome that arrives to end the loop. -/
theorem Pc.exit_arrives {pc : Pc} {expired : Bool} {outcomes : List Inbound}
    (h : pc.exit expired outcomes = none) (outcome : Inbound) :
    pc.exit expired (outcomes ++ [outcome]) = exitBy outcome := by
  have hfirst (h : firstExit outcomes = none) :
      firstExit (outcomes ++ [outcome]) = exitBy outcome := by
    rw [firstExit_append, h, firstExit_cons]
    exact Option.or_none
  cases pc with
  | select arm =>
    cases arm with
    | cmd => exact hfirst h
    | read => exact hfirst h
    | deadline =>
      unfold Pc.exit at h ⊢
      dsimp only at h ⊢
      split at h
      · cases h
      · next hexp =>
        rw [if_neg hexp]
        exact hfirst h
  | resolved r =>
    cases r with
    | cmd cmd => exact hfirst h
    | read read =>
      unfold Pc.exit at h ⊢
      dsimp only at h ⊢
      obtain ⟨hread, hrest⟩ := Option.or_eq_none_iff.mp h
      rw [hread]
      exact hfirst hrest
    | deadline => cases h
  | reserved | counted => exact hfirst h
  | writing write bound next =>
    cases next with
    | reply | loop => exact hfirst h
    | leave => cases h
  | finalize | done => cases h

/-! ### The exit is settled -/

/-- The exit of a pump that goes on is that of where it goes. -/
theorem exit_goes (s : State) (result : Except Error Unit) (next : Next) :
    (s.goes result next).exit = next.exit s.inbound := by
  cases next <;> rfl

/-- So it is when a bounded write starts or is refused. -/
theorem exit_boundedWrite (s : State) (write : Write) (next : Next) :
    (s.boundedWrite write next).exit = next.exit s.inbound := by
  unfold State.boundedWrite
  split
  · exact exit_goes s _ next
  · rfl

/-- So it is when a close begins. -/
theorem exit_beginClose (s : State) (frame : Option CloseFrame) (next : Next) :
    (s.beginClose frame next).exit = next.exit s.inbound := by
  rcases beginClose_cases s frame next with ⟨-, h⟩ | ⟨-, h⟩ <;> rw [h]
  · exact exit_goes s _ next
  · exact exit_boundedWrite (s.closing frame) _ next

/-- After a message the exit is up to what has arrived. -/
theorem exit_deliver (s : State) (message : Message) :
    (s.deliver message).exit = firstExit s.inbound := by
  unfold State.deliver
  split
  · rfl
  · split
    · rfl
    · exact exit_beginClose (s.setBudget s.shared.budget.latchOverflow) none .loop

/-- So it is after a command. -/
theorem exit_onCmd (s : State) (cmd : Option Cmd) : (s.onCmd cmd).exit = firstExit s.inbound := by
  rcases cmd with - | cmd
  · exact exit_beginClose { s with pump := { s.pump with cmdsDone := true } } none .loop
  cases cmd with
  | send id message =>
    simp only [State.onCmd]
    split
    · exact exit_goes s _ (.reply id)
    · exact exit_boundedWrite s _ (.reply id)
  | close code reason => exact exit_beginClose s _ .loop

/-- A frame leaves the exit to the outcomes after it. -/
theorem exit_onRead (s : State) {outcome : Inbound} (h : exitBy outcome = none) :
    (s.onRead outcome).exit = firstExit s.inbound := by
  cases outcome with
  | text text => exact exit_deliver s _
  | binary bytes => exact exit_deliver s _
  | close frame =>
    simp only [State.onRead]
    split
    · rfl
    · exact exit_boundedWrite (s.notePeerFrame frame).setWireClosing .flush .loop
  | ping payload => exact exit_boundedWrite s .flush .loop
  | pong | frame => rfl
  | capacity | connectionClosed | error => cases h

/-- The exit is kept: a poll goes on to it, or has just latched the overflow it is settled by. -/
theorem exit_poll (h : s.poll = some s') {exit : Exit} (he : s.exit = some exit) :
    s'.exit = some exit ∨
      (exit = .overflow ∧ s'.exit = some .plain ∧ s'.shared.budget.overflowed = true) := by
  unfold State.exit at he
  unfold State.poll at h
  split at h
  · next arm hpc =>
    obtain rfl := Option.some.inj h
    rw [hpc] at he
    apply Or.inl
    cases arm with
    | cmd =>
      simp only [State.pollArm]
      split
      · exact he
      · split
        · exact he
        · split <;> exact he
    | read =>
      simp only [State.pollArm]
      split
      · next outcome rest hin =>
        change firstExit s.inbound = some exit at he
        rw [hin, firstExit_cons] at he
        exact he
      · next hin =>
        change firstExit s.inbound = some exit at he
        rw [hin] at he
        cases he
    | deadline =>
      change (if s.expired then some Exit.plain else firstExit s.inbound) = some exit at he
      simp only [State.pollArm]
      split
      · next hexp =>
        rw [if_pos hexp] at he
        exact he
      · next hexp =>
        rw [if_neg hexp] at he
        exact he
  · next r hpc =>
    obtain rfl := Option.some.inj h
    rw [hpc] at he
    cases r with
    | cmd cmd => exact .inl ((exit_onCmd s cmd).trans he)
    | read outcome =>
      change (exitBy outcome).or (firstExit s.inbound) = some exit at he
      cases hby : exitBy outcome with
      | none =>
        rw [hby] at he
        exact .inl ((exit_onRead s hby).trans he)
      | some exit' =>
        rw [hby] at he
        obtain rfl : exit' = exit := Option.some.inj he
        cases outcome with
        | capacity =>
          obtain rfl := Option.some.inj hby
          have hbudget := (beginClose_closes (s.setBudget s.shared.budget.latchOverflow) none
            .leave).2.1
          refine .inr ⟨rfl, exit_beginClose _ none .leave, ?_⟩
          show ((s.setBudget s.shared.budget.latchOverflow).beginClose none
            .leave).shared.budget.overflowed = true
          rw [hbudget]
          rfl
        | connectionClosed | error => exact .inl hby
        | binary | text | close | ping | pong | frame => cases hby
    | deadline => exact .inl he
  · next message hpc =>
    obtain rfl := Option.some.inj h
    rw [hpc] at he
    exact .inl he
  · next message hpc =>
    obtain rfl := Option.some.inj h
    rw [hpc] at he
    exact .inl he
  · cases h
  · next stage hpc =>
    obtain rfl := Option.some.inj h
    rw [hpc] at he
    apply Or.inl
    cases stage with
    | drainCmds =>
      have hsame (t : State) (ht : t.pump.pc = s.pump.pc) : t.exit = some exit := by
        unfold State.exit
        rw [ht, hpc]
        exact he
      simp only [State.finalizeStep]
      split
      · exact hsame _ rfl
      · exact hsame _ rfl
      · exact he
    | closeInfo | endQueue | closeCmds | closing | closed | fire => exact he
  · cases h

/-- A resolution of a bounded write goes on to where the write leads. -/
theorem exit_write {a : Action} (h : step s a = some s')
    (ha : a = .hand ∨ a = .written ∨ (∃ err, a = .writeFailed err) ∨ a = .writeBound) :
    s'.exit = s.exit := by
  obtain ⟨write, bound, next, hpc⟩ := writing_of_step h ha
  have hexit : s.exit = next.exit s.inbound := by
    unfold State.exit
    rw [hpc]
    rfl
  rw [hexit]
  rcases ha with rfl | rfl | ⟨err, rfl⟩ | rfl
  · simp only [step, State.hand, hpc] at h
    split at h
    · next frame bound next' hpc' =>
      obtain ⟨-, -, rfl⟩ := Pc.writing.inj hpc'
      obtain rfl := Option.some.inj h
      rfl
    · cases h
  · simp only [step, State.written, hpc] at h
    split at h
    · cases h
    · next hpc' =>
      obtain ⟨-, -, rfl⟩ := Pc.writing.inj hpc'
      obtain rfl := Option.some.inj h
      rw [exit_goes]
      unfold State.noteCompleted
      split <;> rfl
    · cases h
  · simp only [step, State.writeFailed, hpc] at h
    obtain rfl := Option.some.inj h
    exact exit_goes _ _ next
  · simp only [step, State.writeBound, hpc] at h
    cases bound with
    | localClose =>
      dsimp only at h
      split at h
      · obtain rfl := Option.some.inj h
        rfl
      · cases h
    | deadline =>
      dsimp only at h
      split at h
      · obtain rfl := Option.some.inj h
        exact exit_goes _ _ next
      · cases h

/-! ### What is discarded -/

/-- The pump has left its loop, or it has processed the peer's close frame. -/
def State.Settling (s : State) : Prop :=
  s.pump.pc.left = true ∨ (s.pump.wireClosing = true ∧ s.pump.peerFrame.isSome = true)

/-- A step that queues nothing, keeps the close details, and latches no overflow on the way to a plain
exit. -/
structure Discards (s s' : State) : Prop where
  items : s'.shared.queue.items = s.shared.queue.items
  peerFrame : s'.pump.peerFrame = s.pump.peerFrame
  overflowed : s.exit = some .plain → s'.shared.budget.overflowed = s.shared.budget.overflowed
  settling : s'.Settling

namespace Discards

section Closing

variable (hwire : s.pump.wireClosing = true) (hpeer : s.pump.peerFrame.isSome = true)

include hwire hpeer

/-- A turn of the loop in the closing handshake. -/
theorem of_eq (hitems : s'.shared.queue.items = s.shared.queue.items)
    (hsame : s'.pump.peerFrame = s.pump.peerFrame)
    (hover : s.exit = some .plain → s'.shared.budget.overflowed = s.shared.budget.overflowed)
    (hclosing : s'.pump.wireClosing = s.pump.wireClosing) : Discards s s' := by
  refine ⟨hitems, hsame, hover, .inr ⟨hclosing.trans hwire, ?_⟩⟩
  rw [hsame]
  exact hpeer

/-- The pump goes on. -/
theorem of_pc (hframe : PcFrame s s') : Discards s s' := by
  refine of_eq hwire hpeer ?_ ?_ (fun _ => ?_) ?_
  · rw [hframe]
  · rw [hframe]
  · rw [hframe]
  · rw [hframe]

/-- A poll of an arm queues nothing. -/
theorem pollArm (arm : Arm) : Discards s (s.pollArm arm) := by
  cases arm with
  | cmd =>
    simp only [State.pollArm]
    split
    · exact of_pc hwire hpeer rfl
    · split
      · exact of_eq hwire hpeer rfl rfl (fun _ => rfl) rfl
      · split <;> exact of_pc hwire hpeer rfl
  | read =>
    simp only [State.pollArm]
    split <;> exact of_eq hwire hpeer rfl rfl (fun _ => rfl) rfl
  | deadline => exact of_pc hwire hpeer rfl

/-- Nor does what the command arm resolves to. -/
theorem onCmd (cmd : Option Cmd) : Discards s (s.onCmd cmd) := by
  rcases cmd with - | cmd
  · have hgoes : s.onCmd none =
        ({ s with pump := { s.pump with cmdsDone := true } } : State).goes (.ok ()) .loop :=
      if_pos hwire
    rw [hgoes]
    exact of_eq hwire hpeer rfl rfl (fun _ => rfl) rfl
  cases cmd with
  | send id message =>
    have hgoes : s.onCmd (some (.send id message)) = s.goes (.error .closed) (.reply id) :=
      if_pos (by rw [hwire]; rfl)
    rw [hgoes]
    exact of_pc hwire hpeer (.goes s _ _)
  | close code reason =>
    have hgoes : s.onCmd (some (.close code reason)) = s.goes (.ok ()) .loop := if_pos hwire
    rw [hgoes]
    exact of_pc hwire hpeer (.goes s _ _)

/-- Nor does what is read. -/
theorem onRead {outcome : Inbound} (hpc : s.pump.pc = .resolved (.read outcome)) :
    Discards s (s.onRead outcome) := by
  have hdrops (message : Message) : Discards s (s.deliver message) := by
    have hdeliver : s.deliver message = s.setPc (.select .cmd) := if_pos hwire
    rw [hdeliver]
    exact of_pc hwire hpeer rfl
  cases outcome with
  | text text => exact hdrops _
  | binary bytes => exact hdrops _
  | close frame =>
    have hnoted : s.onRead (.close frame) = (s.notePeerFrame frame).setPc (.select .cmd) :=
      if_pos hwire
    rw [hnoted]
    refine of_eq hwire hpeer rfl ?_ (fun _ => rfl) rfl
    obtain ⟨info, hinfo⟩ := Option.isSome_iff_exists.mp hpeer
    show s.pump.peerFrame.or (some (closeInfoFrom frame)) = s.pump.peerFrame
    rw [hinfo]
    rfl
  | ping payload => exact of_pc hwire hpeer (.boundedWrite s _ _)
  | pong | frame | connectionClosed | error => exact of_pc hwire hpeer rfl
  | capacity =>
    have hleaves : s.onRead .capacity =
        (s.setBudget s.shared.budget.latchOverflow).goes (.ok ()) .leave := if_pos hwire
    rw [hleaves]
    refine of_eq hwire hpeer rfl rfl (fun hplain => ?_) rfl
    unfold State.exit at hplain
    rw [hpc] at hplain
    cases hplain

/-- No resolution does. -/
theorem onResolved {r : Resolution} (hpc : s.pump.pc = .resolved r) :
    Discards s (s.onResolved r) := by
  cases r with
  | cmd cmd => exact onCmd hwire hpeer cmd
  | read outcome => exact onRead hwire hpeer hpc
  | deadline => exact of_pc hwire hpeer rfl

end Closing

/-- No stage of the finalization does. -/
theorem finalizeStep {stage : Finalize} (hpc : s.pump.pc = .finalize stage) :
    Discards s (s.finalizeStep stage) := by
  have hleft : s.pump.pc.left = true := by
    rw [hpc]
    rfl
  cases stage with
  | drainCmds =>
    simp only [State.finalizeStep]
    split
    · exact ⟨rfl, rfl, fun _ => rfl, .inl hleft⟩
    · exact ⟨rfl, rfl, fun _ => rfl, .inl hleft⟩
    · exact ⟨rfl, rfl, fun _ => rfl, .inl rfl⟩
  | closeInfo | endQueue | closeCmds | closing | closed | fire =>
    exact ⟨rfl, rfl, fun _ => rfl, .inl rfl⟩

/-- A step of the pump. -/
theorem poll (hset : s.Settling)
    (hreserving : s.pump.pc.reserving = true → s.pump.wireClosing = false)
    (h : s.poll = some s') : Discards s s' := by
  have hclosing (hleft : s.pump.pc.left = false) :
      s.pump.wireClosing = true ∧ s.pump.peerFrame.isSome = true :=
    hset.resolve_left fun hl => by cases hleft.symm.trans hl
  unfold State.poll at h
  split at h
  · next arm hpc =>
    obtain rfl := Option.some.inj h
    obtain ⟨hwire, hpeer⟩ := hclosing (by rw [hpc]; rfl)
    exact pollArm hwire hpeer arm
  · next r hpc =>
    obtain rfl := Option.some.inj h
    obtain ⟨hwire, hpeer⟩ := hclosing (by rw [hpc]; rfl)
    exact onResolved hwire hpeer hpc
  · next message hpc =>
    obtain ⟨hwire, -⟩ := hclosing (by rw [hpc]; rfl)
    cases hwire.symm.trans (hreserving (by rw [hpc]; rfl))
  · next message hpc =>
    obtain ⟨hwire, -⟩ := hclosing (by rw [hpc]; rfl)
    cases hwire.symm.trans (hreserving (by rw [hpc]; rfl))
  · cases h
  · next stage hpc =>
    obtain rfl := Option.some.inj h
    exact finalizeStep hpc
  · cases h

/-- A resolution of a bounded write. -/
theorem write (hset : s.Settling) {a : Action} (h : step s a = some s')
    (ha : a = .hand ∨ a = .written ∨ (∃ err, a = .writeFailed err) ∨ a = .writeBound) :
    Discards s s' := by
  have hframe := WriteFrame.step h ha
  obtain ⟨write, bound, next, hpc⟩ := writing_of_step h ha
  obtain ⟨hwire, hpeer⟩ : s.pump.wireClosing = true ∧ s.pump.peerFrame.isSome = true := by
    refine hset.resolve_left fun hl => ?_
    rw [hpc] at hl
    cases hl
  refine of_eq hwire hpeer ?_ ?_ (fun _ => ?_) ?_
  · rw [hframe]
  · rw [hframe]
  · rw [hframe]
  · rw [hframe]

end Discards

/-! ### Everyone else -/

/-- More outcomes and more time change nothing of a plain exit. -/
theorem Pc.exit_plain {pc : Pc} {expired expired' : Bool} {outcomes more : List Inbound}
    (hexp : expired = true → expired' = true) (h : pc.exit expired outcomes = some .plain) :
    pc.exit expired' (outcomes ++ more) = some .plain := by
  have hfirst (h : firstExit outcomes = some .plain) :
      firstExit (outcomes ++ more) = some .plain := by
    rw [firstExit_append, h]
    rfl
  cases pc with
  | select arm =>
    cases arm with
    | cmd => exact hfirst h
    | read => exact hfirst h
    | deadline =>
      unfold Pc.exit at h ⊢
      dsimp only at h ⊢
      by_cases hnow : expired' = true
      · exact if_pos hnow
      · rw [if_neg hnow]
        rw [if_neg fun he => hnow (hexp he)] at h
        exact hfirst h
  | resolved r =>
    cases r with
    | cmd cmd => exact hfirst h
    | read outcome =>
      unfold Pc.exit at h ⊢
      dsimp only at h ⊢
      cases ho : exitBy outcome with
      | none =>
        rw [ho] at h
        exact hfirst h
      | some exit =>
        rw [ho] at h
        exact h
    | deadline => rfl
  | reserved | counted => exact hfirst h
  | writing write bound next =>
    cases next with
    | reply | loop => exact hfirst h
    | leave => rfl
  | finalize | done => rfl

/-- Everyone but the pump leaves a plain exit as it is settled. -/
theorem exit_outer {a : Action} (hm : OuterMove s a s') (h : s.exit = some .plain) :
    s'.exit = some .plain := by
  have hframe := OuterFrame.of_move hm
  have hpump : s'.pump = s.pump := by rw [hframe]
  have hsame (t : State) (hin : t.inbound = s.inbound) (hnow : t.now = s.now) :
      s.now ≤ t.now ∧ ∃ more, t.inbound = s.inbound ++ more :=
    ⟨hnow.ge, [], hin.trans (List.append_nil _).symm⟩
  have hclose (code : Option UInt16) (reason : String) :
      (s.callClose code reason).inbound = s.inbound ∧ (s.callClose code reason).now = s.now := by
    rcases callClose_cases s code reason with ⟨-, hc⟩ | ⟨-, -, hc⟩ <;> rw [hc] <;> exact ⟨rfl, rfl⟩
  obtain ⟨hnow, more, hmore⟩ : s.now ≤ s'.now ∧ ∃ more, s'.inbound = s.inbound ++ more := by
    cases hm with
    | send message =>
      simp only [State.callSend]
      split <;> exact hsame _ rfl rfl
    | enqueue =>
      simp only [State.enqueue]
      split <;> exact hsame _ rfl rfl
    | close code reason => exact hsame _ (hclose code reason).1 (hclose code reason).2
    | enqueueClose =>
      simp only [State.enqueueClose]
      split <;> exact hsame _ rfl rfl
    | drop => exact hsame _ (hclose none "").1 (hclose none "").2
    | dropSenders | reader => exact hsame _ rfl rfl
    | arrive outcomes => exact ⟨le_rfl, outcomes, rfl⟩
    | tick dt => exact ⟨Nat.le_add_right _ dt, [], (List.append_nil _).symm⟩
  unfold State.exit
  rw [hpump, hmore]
  refine Pc.exit_plain (fun he => ?_) h
  exact expired_of_eq he (by rw [hpump]) hnow

/-! ### The pump finishes -/

/-- A step the pump takes without the transport: a poll, or a write that fails. -/
inductive Drives (s s' : State) : Prop
  | poll (h : step s .poll = some s')
  | writeFailed (err : TungsteniteError) (h : step s (.writeFailed err) = some s')

/-- What such a step keeps. -/
structure Drives.Keeps (s s' : State) : Prop where
  reachable : system.Reachable s'
  calls : s'.calls = s.calls
  localClosed : s'.shared.localClosed = s.shared.localClosed
  stage : s.stage ≤ s'.stage ∧ s'.stage ≤ s.stage + 1
  exit : ∀ exit, s.exit = some exit → s'.exit = some exit ∨
    (exit = .overflow ∧ s'.exit = some .plain ∧ s'.shared.budget.overflowed = true)
  overflowed : s.shared.budget.overflowed = true → s'.shared.budget.overflowed = true
  discards : s.Settling → Discards s s'

/-- What a step keeps that the pump takes by itself. -/
theorem Drives.keeps (hr : system.Reachable s) (h : Drives s s') : Drives.Keeps s s' := by
  cases h with
  | poll hs =>
    have hframe := PollFrame.poll hs
    refine ⟨hr.next (a := .poll) hs, ?_, ?_, stage_step hr hs, fun exit he => exit_poll hs he,
      (poll_closes hs).overflowed, fun hset => .poll hset (end_sound hr).reserving hs⟩
    · rw [hframe]
    · rw [hframe]
  | writeFailed err hs =>
    have ha : Action.writeFailed err = .hand ∨ Action.writeFailed err = .written ∨
        (∃ err', Action.writeFailed err = .writeFailed err') ∨ Action.writeFailed err = .writeBound :=
      .inr (.inr (.inl ⟨err, rfl⟩))
    have hframe := WriteFrame.step hs ha
    refine ⟨hr.next (a := .writeFailed err) hs, ?_, ?_, stage_step hr hs,
      fun exit he => .inl ((exit_write hs ha).trans he), ?_, fun hset => .write hset hs ha⟩
    · rw [hframe]
    · rw [hframe]
    · rw [hframe]
      exact id

/-- A pump whose exit is settled has a step that leads on. -/
theorem exists_drives (h : system.Reachable s) (hd : s.calls.dropped = false)
    (hexit : s.exit.isSome = true) (hdone : s.pump.pc ≠ .done) :
    ∃ s', Drives s s' ∧ s'.distance < s.distance := by
  by_cases hwriting : ∃ write bound next, s.pump.pc = .writing write bound next
  · obtain ⟨write, bound, next, hpc⟩ := hwriting
    have hfails : step s (.writeFailed .alreadyClosed) = some (s.failWrite .closed next) := by
      show s.writeFailed _ = _
      unfold State.writeFailed
      rw [hpc]
      rfl
    refine ⟨_, .writeFailed .alreadyClosed hfails, ?_⟩
    have hframe := WriteFrame.failWrite s .closed next
    refine distance_lt_of_pc hpc (by rw [hframe]) (by rw [hframe]) ?_
    refine Nat.lt_of_le_of_lt (distance_goes _ _ next) ?_
    rcases write with ⟨frame, - | -⟩ | - <;> exact Nat.le_of_ble_eq_true rfl
  · have hready (arm : Arm) (hpc : s.pump.pc = .select arm) :
        s.pump.cmdsDone = false ∧ s.shared.sendersGone = false ∧
          (s.shared.cmds ≠ [] ∨ s.inbound ≠ [] ∨ s.expired = true) := by
      have hsound := end_sound h
      have hgone : s.shared.sendersGone = false :=
        Bool.eq_false_iff.mpr fun hg => by cases hd.symm.trans (hsound.sendersGone hg)
      have hlive : s.pump.cmdsDone = false :=
        Bool.eq_false_iff.mpr fun hg => by cases hgone.symm.trans (hsound.cmdsDone hg)
      refine ⟨hlive, hgone, ?_⟩
      -- an exit that is settled at the select is one by the deadline, or by an outcome
      by_cases hexp : s.expired = true
      · exact .inr (.inr hexp)
      · refine .inr (.inl fun hin => ?_)
        unfold State.exit at hexit
        rw [hpc, hin, Bool.eq_false_iff.mpr hexp] at hexit
        cases arm <;> cases hexit
    obtain ⟨s', hs, hlt⟩ := poll_progress hready
      (fun write bound next hpc => hwriting ⟨write, bound, next, hpc⟩) hdone
    exact ⟨s', .poll hs, hlt⟩

/-- A pump whose exit is settled comes to every stage ahead of it by its own steps. -/
theorem exists_stage {n : Nat} (h : system.Reachable s) (hd : s.calls.dropped = false)
    (hexit : s.exit.isSome = true) (hle : s.stage ≤ n) (hn : n ≤ 8) :
    ∃ s', ReflTransGen Drives s s' ∧ s'.stage = n := by
  induction hdistance : s.distance using Nat.strongRecOn generalizing s with
  | ind k ih =>
    by_cases hstage : s.stage = n
    · exact ⟨s, .refl, hstage⟩
    · have hdone : s.pump.pc ≠ .done := by
        intro hpc
        have height : s.stage = 8 := by
          unfold State.stage
          rw [hpc]
          rfl
        omega
      obtain ⟨s₁, hdrives, hlt⟩ := exists_drives h hd hexit hdone
      have hkeeps := hdrives.keeps h
      have hexit₁ : s₁.exit.isSome = true := by
        obtain ⟨exit, he⟩ := Option.isSome_iff_exists.mp hexit
        rcases hkeeps.exit exit he with he₁ | ⟨-, he₁, -⟩ <;> rw [he₁] <;> rfl
      have hnext := hkeeps.stage.2
      obtain ⟨s', hrun, hs'⟩ := ih s₁.distance (hdistance ▸ hlt) hkeeps.reachable
        (by rw [hkeeps.calls]; exact hd) hexit₁ (by omega) rfl
      exact ⟨s', .head hdrives hrun, hs'⟩

end Polymorph.Host
