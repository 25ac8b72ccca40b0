import PolymorphWebsocket.Host.Progress
import PolymorphWebsocket.Pumps.Host

/-!
# The wasmtime host's pump settles

A pump that is fed one event at a time and does not wait has a step to take by itself, and every
such step brings it nearer to waiting.
-/

namespace Polymorph.Host

open Futures Transition

variable {s s' : State}

/-! ### The deadline while the pump settles -/

/-- The clock stands still, and the deadline is left alone or armed. -/
def Arms (s s' : State) : Prop :=
  s'.now = s.now ∧ s'.pump.closeTimeout = s.pump.closeTimeout ∧
    (s'.pump.deadline = s.pump.deadline ∨ s'.pump.deadline = s.armed)

/-- A deadline that gets armed has not passed. -/
theorem Arms.expired (h : Arms s s') (htimeout : 0 < s.pump.closeTimeout.asNanos) :
    s'.expired = s.expired := by
  obtain ⟨hnow, -, hd | hd⟩ := h
  · unfold State.expired
    rw [hd, hnow]
  · unfold State.expired
    rw [hd, hnow, s.armed_eq]
    cases s.pump.deadline with
    | some deadline => rfl
    | none =>
      rw [Option.none_or, Option.any_some, Option.any_none]
      apply decide_eq_false
      omega

/-- Nothing happens. -/
theorem arms_refl (s : State) : Arms s s := ⟨rfl, rfl, .inl rfl⟩

/-- Going on leaves the deadline alone. -/
theorem arms_goes (s : State) (result : Except Error Unit) (next : Next) :
    Arms s (s.goes result next) := by
  cases next <;> exact arms_refl s

/-- A bounded write carries the deadline and arms none. -/
theorem arms_boundedWrite (s : State) (write : Write) (next : Next) :
    Arms s (s.boundedWrite write next) := by
  unfold State.boundedWrite
  split
  · exact arms_goes s _ next
  · exact arms_refl s

/-- Beginning to close arms the deadline, or finds the closing begun. -/
theorem arms_beginClose (s : State) (frame : Option CloseFrame) (next : Next) :
    Arms s (s.beginClose frame next) := by
  rcases beginClose_cases s frame next with ⟨-, h⟩ | ⟨-, h⟩
  · rw [h]
    exact arms_goes s _ next
  · -- the write finds the deadline that `closing` has armed
    obtain ⟨hnow, htimeout, hd | hd⟩ :=
      arms_boundedWrite (s.closing frame) (.send (.close frame) false) next
    · rw [h]
      exact ⟨hnow, htimeout, .inr hd⟩
    · rw [h]
      exact ⟨hnow, htimeout, .inr (hd.trans (State.armed_of_isSome s.isSome_armed))⟩

/-- A message that overflows the budget begins to close. -/
theorem arms_deliver (s : State) (message : Message) : Arms s (s.deliver message) := by
  unfold State.deliver
  split
  · exact arms_refl s
  · split
    · exact arms_refl s
    · exact arms_beginClose (s.setBudget s.shared.budget.latchOverflow) none .loop

/-- A close command begins to close; a message is written at most. -/
theorem arms_onCmd (s : State) (cmd : Option Cmd) : Arms s (s.onCmd cmd) := by
  cases cmd with
  | none => exact arms_beginClose { s with pump := { s.pump with cmdsDone := true } } none .loop
  | some cmd =>
    cases cmd with
    | send id message =>
      unfold State.onCmd
      dsimp only
      split
      · exact arms_goes s _ (.reply id)
      · exact arms_boundedWrite s _ (.reply id)
    | close code reason => exact arms_beginClose s _ .loop

/-- What is read may overflow the budget, and the peer's close frame arms the deadline. -/
theorem arms_onRead (s : State) (outcome : Inbound) : Arms s (s.onRead outcome) := by
  cases outcome with
  | text text => exact arms_deliver s (.string text)
  | binary bytes => exact arms_deliver s (.binary bytes)
  | close frame =>
    unfold State.onRead
    dsimp only
    split
    · exact ⟨rfl, rfl, .inr rfl⟩
    · obtain ⟨hnow, htimeout, hd | hd⟩ :=
        arms_boundedWrite (s.notePeerFrame frame).setWireClosing .flush .loop
      · exact ⟨hnow, htimeout, .inr hd⟩
      · exact ⟨hnow, htimeout, .inr (hd.trans (State.armed_of_isSome s.isSome_armed))⟩
  | ping payload => exact arms_boundedWrite s .flush .loop
  | pong | frame | connectionClosed | error => exact arms_refl s
  | capacity => exact arms_beginClose (s.setBudget s.shared.budget.latchOverflow) none .leave

/-- A poll of an arm leaves the deadline alone. -/
theorem arms_pollArm (s : State) (arm : Arm) : Arms s (s.pollArm arm) := by
  cases arm with
  | cmd =>
    unfold State.pollArm
    dsimp only
    split
    · exact arms_refl s
    · split
      · exact arms_refl s
      · split <;> exact arms_refl s
  | read =>
    unfold State.pollArm
    dsimp only
    split <;> exact arms_refl s
  | deadline => exact arms_refl s

/-- The finalization leaves the deadline alone. -/
theorem arms_finalizeStep (s : State) (stage : Finalize) : Arms s (s.finalizeStep stage) := by
  cases stage with
  | drainCmds =>
    unfold State.finalizeStep
    dsimp only
    split <;> exact arms_refl s
  | closeInfo | endQueue | closeCmds | closing | closed | fire => exact arms_refl s

/-- The pump's own steps leave the deadline alone or arm it. -/
theorem arms_settles {a : Action} (ha : a.settles = true) (hs : step s a = some s') :
    Arms s s' := by
  cases a with
  | poll =>
    change s.poll = some s' at hs
    unfold State.poll at hs
    split at hs
    · obtain rfl := Option.some.inj hs
      exact arms_pollArm s _
    · next r hpc =>
      obtain rfl := Option.some.inj hs
      cases r with
      | cmd cmd => exact arms_onCmd s cmd
      | read outcome => exact arms_onRead s outcome
      | deadline => exact arms_refl s
    · obtain rfl := Option.some.inj hs
      exact arms_refl s
    · obtain rfl := Option.some.inj hs
      exact arms_refl s
    · cases hs
    · obtain rfl := Option.some.inj hs
      exact arms_finalizeStep s _
    · cases hs
  | hand =>
    change s.hand = some s' at hs
    unfold State.hand at hs
    split at hs
    · obtain rfl := Option.some.inj hs
      exact arms_refl s
    · cases hs
  | written =>
    change s.written = some s' at hs
    unfold State.written at hs
    split at hs
    · cases hs
    · next write bound next _ _ =>
      obtain rfl := Option.some.inj hs
      have hnoted : Arms s (s.noteCompleted write) := by
        unfold State.noteCompleted
        split <;> exact arms_refl s
      cases next <;> exact hnoted
    · cases hs
  | send | enqueue | close | enqueueClose | drop | dropSenders | take | release | writeFailed
  | writeBound | arrive | tick => cases ha

/-! ### Progress -/

/-- As long as the pump does not wait, it has a step that leads on. -/
theorem settles_progress (h : s.Driven) (hw : ¬ s.Waiting) :
    ∃ a s', a.settles = true ∧ step s a = some s' ∧ s'.distance < s.distance := by
  have hwritten (write : Write) (bound : WriteBound) (next : Next)
      (hpc : s.pump.pc = .writing write bound next) (hhanded : write.unhanded = [])
      (hdistance : (Pc.writing write bound next).distance s.readyArm = 14) :
      ∃ a s', a.settles = true ∧ step s a = some s' ∧ s'.distance < s.distance := by
    refine ⟨.written, (s.noteCompleted write).goes (.ok ()) next, rfl, ?_, ?_⟩
    · show s.written = _
      unfold State.written
      rw [hpc]
      rcases write with ⟨frame, - | -⟩ | -
      · cases hhanded
      · rfl
      · rfl
    · have hnoted : (s.noteCompleted write).shared = s.shared ∧
          (s.noteCompleted write).inbound = s.inbound := by
        unfold State.noteCompleted
        split <;> exact ⟨rfl, rfl⟩
      have hgoes : ((s.noteCompleted write).goes (.ok ()) next).shared =
            (s.noteCompleted write).shared ∧
          ((s.noteCompleted write).goes (.ok ()) next).inbound =
            (s.noteCompleted write).inbound := by
        cases next <;> exact ⟨rfl, rfl⟩
      refine distance_lt_of_pc hpc ?_ (hgoes.2.trans hnoted.2) ?_
      · rw [hgoes.1, hnoted.1]
      · rw [hdistance]
        exact Nat.lt_of_le_of_lt (distance_goes _ _ next) (by decide)
  by_cases hwriting : ∃ write bound next, s.pump.pc = .writing write bound next
  · obtain ⟨write, bound, next, hpc⟩ := hwriting
    rcases write with ⟨frame, - | -⟩ | -
    · refine ⟨.hand, { s with hist := { s.hist with handed := s.hist.handed ++ [frame] } }.setPc
        (.writing (.send frame true) bound next), rfl, ?_, ?_⟩
      · show s.hand = _
        unfold State.hand
        rw [hpc]
      · exact distance_lt_of_pc hpc rfl rfl (Nat.le_of_ble_eq_true rfl)
    · exact hwritten (.send frame true) bound next hpc rfl rfl
    · exact hwritten .flush bound next hpc rfl rfl
  · have hready (arm : Arm) (hpc : s.pump.pc = .select arm) :
        s.pump.cmdsDone = false ∧ s.shared.sendersGone = false ∧
          (s.shared.cmds ≠ [] ∨ s.inbound ≠ [] ∨ s.expired = true) := by
      have hlooping := h.looping (by rw [hpc]; rfl)
      refine ⟨hlooping.cmdsDone, hlooping.sendersGone, ?_⟩
      -- an empty select waits, unless the deadline has passed
      by_contra hno
      rw [not_or, not_or, not_not, not_not] at hno
      exact hw (.inr ⟨⟨arm, hpc⟩, hno.1, hno.2.1, Bool.eq_false_iff.mpr hno.2.2⟩)
    obtain ⟨s', hs, hlt⟩ := poll_progress hready
      (fun write bound next hpc => hwriting ⟨write, bound, next, hpc⟩) fun hpc => hw (.inl hpc)
    exact ⟨.poll, s', rfl, hs, hlt⟩

/-- The pump settles, whatever it is fed. -/
theorem progresses :
    drive.Progresses (fun s => s.Driven ∧ 0 < s.pump.closeTimeout.asNanos) State.distance := by
  rintro s ⟨h, htimeout⟩ hw
  obtain ⟨a, s', ha, hs, hlt⟩ := settles_progress h hw
  have harms := arms_settles ha hs
  have hsettle : drive.settle s s' := ⟨a, ha, hs, harms.expired htimeout⟩
  refine ⟨s', hsettle, ⟨(driven_settle h hsettle).1, ?_⟩, hlt⟩
  rw [harms.2.1]
  exact htimeout

/-- Every list of events can be fed to a pump. -/
theorem exists_fed {closeTimeout : Duration} {limit now largest : Nat}
    (hreaches : now + closeTimeout.asNanos ≤ largest) (htimeout : 0 < closeTimeout.asNanos)
    (hlimit : limit < wordSize - 1) (events : List Event) :
    ∃ s, drive.Fed (State.start closeTimeout limit now largest hreaches) events s := by
  refine progresses.exists_fed ?_ events ⟨(driven_start hreaches hlimit).1, htimeout⟩
  rintro s e ⟨h, hclock⟩ hw
  refine ⟨(driven_fed h hw e).1, ?_⟩
  have hkeeps : (s.fed e).pump.closeTimeout = s.pump.closeTimeout := by
    cases e with
    | send message =>
      show ((s.callSend message).enqueue s.calls.nextId message).pump.closeTimeout = _
      unfold State.callSend State.enqueue
      dsimp only
      split <;> split <;> rfl
    | close code reason =>
      show (s.enqueueClose code reason).pump.closeTimeout = _
      unfold State.enqueueClose
      dsimp only
      split <;> rfl
    | inbound | endOfStream | deadline => rfl
  show 0 < (s.fed e).pump.closeTimeout.asNanos
  rwa [hkeeps]

end Polymorph.Host
