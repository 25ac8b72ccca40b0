import PolymorphWebsocket.Js.Frames

/-!
# The JavaScript host: the lifecycle is forward-only

`state` is computed from three sources: the settlement, the local close and the `readyState` of the
platform.  None of them goes back, but a local close hides the third: between the moment the platform
moves the `WebSocket` to CLOSED and the settlement, `state` returns closed, and closing again after
a call of `close`.  `state_forward` says that this is the only way back.
-/

namespace Polymorph.Js

open Transition

variable {s s' s'' : State}

/-- The condition on a step: it is no accepted call of `close` on a `WebSocket` that a call of
`state` has found CLOSED, the connection not having settled. -/
def ClosesBeforeSeen (s : State) : Action → Prop
  | .close code reason =>
    validateCloseArgs code reason = .ok () → s.localClosed = false →
      ¬ (s.socket.readyState = .closed ∧ s.closeSettled = false ∧ s.hist.sawClosed = true)
  | _ => True

instance (s : State) (a : Action) : Decidable (ClosesBeforeSeen s a) := by
  cases a <;> unfold ClosesBeforeSeen <;> infer_instance

/-- The position of the current state: the settlement before the local close before the
platform. -/
theorem currentState_rank (s : State) : s.currentState.rank =
    if s.closeSettled then 2 else if s.localClosed then 1 else s.socket.readyState.rank := by
  unfold State.currentState
  split
  · rfl
  · split
    · rfl
    · cases s.socket.readyState <;> rfl

/-- No ready state lies past CLOSED. -/
theorem ReadyState.rank_le (ready : ReadyState) : ready.rank ≤ 2 := by
  cases ready <;> decide

/-- Short of CLOSED the rank is one at most. -/
theorem ReadyState.rank_le_one {ready : ReadyState} (h : ready ≠ .closed) : ready.rank ≤ 1 := by
  cases ready <;> first | decide | exact absurd rfl h

/-- Nothing but a local close takes the current state back. -/
theorem currentState_le (h : Forward s s') : s.currentState.rank ≤ s'.currentState.rank := by
  rw [currentState_rank, currentState_rank, h.localClosed]
  have hready := h.ready
  have hbound := s'.socket.readyState.rank_le
  cases hs : s.closeSettled with
  | true =>
    rw [h.settled hs]
    exact le_rfl
  | false =>
    cases s'.closeSettled <;> cases s.localClosed <;>
      simp only [Bool.false_eq_true, if_true, if_false] <;> omega

/-- The state after a local close. -/
theorem localClose_currentState (s : State) (frame : Option CloseFrame) :
    (s.localClose frame).currentState.rank = if s.closeSettled then 2 else 1 := by
  rw [currentState_rank, localClose_frame]
  rfl

/-! ### What has been seen -/

/-- What the calls of `state` tell about the connection: closed was returned to one of them when the
platform was found CLOSED before any local close, and to none of them before that and the
settlement. -/
structure State.SeenSound (s : State) : Prop where
  seen : s.hist.sawClosed = true → s.localClosed = false → WsState.closed ∈ s.hist.states
  unseen : s.closeSettled = false → s.hist.sawClosed = false →
    ∀ v ∈ s.hist.states, v.rank ≤ 1

namespace State.SeenSound

/-- A move forward shows no state. -/
theorem forward (h : s.SeenSound) (hf : Forward s s') : s'.SeenSound := by
  refine ⟨fun hsaw hlocal => ?_, fun hsettled hsaw => ?_⟩
  · rw [hf.states]
    exact h.seen (hf.sawClosed ▸ hsaw) (hf.localClosed ▸ hlocal)
  · rw [hf.states]
    have hopen : s.closeSettled = false := by
      by_contra hs
      rw [hf.settled (by simpa using hs)] at hsettled
      cases hsettled
    exact h.unseen hopen (hf.sawClosed ▸ hsaw)

/-- A call of `state` shows its value, and whether the platform was CLOSED then. -/
theorem callState (h : s.SeenSound) : s.callState.SeenSound := by
  constructor
  · intro hsaw hlocal
    change WsState.closed ∈ s.hist.states ++ [s.currentState]
    change (s.hist.sawClosed || s.socket.readyState == .closed) = true at hsaw
    rcases Bool.or_eq_true_iff.mp hsaw with hsaw | hclosed
    · exact List.mem_append_left _ (h.seen hsaw hlocal)
    · have hready : s.socket.readyState = .closed := by simpa using hclosed
      have hstate : s.currentState = .closed := by
        change s.localClosed = false at hlocal
        simp only [State.currentState, hlocal, hready, Bool.false_eq_true, if_false, ite_self]
      rw [hstate]
      simp
  · intro hsettled hsaw v hv
    change (s.hist.sawClosed || s.socket.readyState == .closed) = false at hsaw
    obtain ⟨hsaw, hready⟩ := Bool.or_eq_false_iff.mp hsaw
    rcases List.mem_append.mp hv with hv | hv
    · exact h.unseen hsettled hsaw v hv
    · obtain rfl := List.mem_singleton.mp hv
      change s.closeSettled = false at hsettled
      rw [currentState_rank, hsettled]
      cases s.localClosed with
      | true => exact le_rfl
      | false => cases hr : s.socket.readyState <;> simp [hr, ReadyState.rank] at hready ⊢

/-- A local close sets its flag only; what has been seen stays true. -/
theorem localClose (h : s.SeenSound) (frame : Option CloseFrame) :
    (s.localClose frame).SeenSound := by
  rw [localClose_frame]
  refine ⟨fun _ hlocal => ?_, h.unseen⟩
  cases hlocal

/-- A `close` call makes the local close, or fails. -/
theorem close (h : s.SeenSound) (code : Option UInt16) (reason : String) :
    (s.close code reason).2.SeenSound := by
  rcases close_cases s code reason with ⟨-, hc⟩ | ⟨-, -, hc⟩ <;> rw [hc]
  · exact h
  · exact h.localClose _

/-- Every step keeps it. -/
theorem step {a : Action} (h : s.SeenSound) (hs : step s a = some s') : s'.SeenSound := by
  cases step_kind hs with
  | state => exact h.callState
  | close code reason => exact h.close code reason
  | dispose =>
    have hclose := h.close none ""
    exact ⟨hclose.seen, hclose.unseen⟩
  | other hf => exact h.forward hf

end State.SeenSound

/-- In every reachable state the values `state` returned tell what they should. -/
theorem seen_sound (h : system.Reachable s) : s.SeenSound := by
  refine System.Reachable.induction (I := State.SeenSound) ?_ ?_ h
  · rintro _ ⟨knobs, now, rfl⟩
    exact ⟨nofun, nofun⟩
  · intro s a s' _ ih hs
    exact ih.step hs

/-! ### The values of `state` -/

/-- The values `state` returned do not go back, and the next one will not either. -/
structure State.StatesSorted (s : State) : Prop where
  sorted : s.hist.states.Pairwise fun v w => v.rank ≤ w.rank
  current : s.disposed = false → ∀ v ∈ s.hist.states, v.rank ≤ s.currentState.rank

namespace State.StatesSorted

/-- A move forward shows no state and does not go back. -/
theorem forward (h : s.StatesSorted) (hf : Forward s s') : s'.StatesSorted := by
  constructor
  · rw [hf.states]
    exact h.sorted
  · intro hd v hv
    rw [hf.states] at hv
    exact (h.current (hf.disposed ▸ hd) v hv).trans (currentState_le hf)

/-- A call of `state` shows a value that is not before the last one. -/
theorem callState (h : s.StatesSorted) (hd : s.disposed = false) : s.callState.StatesSorted := by
  have hcurrent := h.current hd
  constructor
  · refine List.pairwise_append.mpr ⟨h.sorted, List.pairwise_singleton _ _, fun v hv w hw => ?_⟩
    obtain rfl := List.mem_singleton.mp hw
    exact hcurrent v hv
  · intro _ v hv
    show v.rank ≤ s.currentState.rank
    rcases List.mem_append.mp hv with hv | hv
    · exact hcurrent v hv
    · obtain rfl := List.mem_singleton.mp hv
      exact le_rfl

/-- A call of `close` takes nothing back that has been seen, if it meets the condition. -/
theorem close (h : s.StatesSorted) (hseen : s.SeenSound) {code : Option UInt16} {reason : String}
    (hd : s.disposed = false) (hc : ClosesBeforeSeen s (.close code reason)) :
    (s.close code reason).2.StatesSorted := by
  rcases close_cases s code reason with ⟨-, hk⟩ | ⟨hlocal, hvalid, hk⟩ <;> rw [hk]
  · exact h
  · have hcurrent := h.current hd
    constructor
    · rw [localClose_frame]
      exact h.sorted
    · intro _ v hv
      rw [localClose_currentState]
      rw [localClose_frame] at hv
      change v ∈ s.hist.states at hv
      cases hsettled : s.closeSettled with
      | true =>
        cases v <;> decide
      | false =>
        -- The platform is not CLOSED, or nobody has seen that it is.
        simp only [Bool.false_eq_true, if_false]
        cases hsaw : s.hist.sawClosed with
        | false => exact hseen.unseen hsettled hsaw v hv
        | true =>
          have hready : s.socket.readyState ≠ .closed :=
            fun hready => hc hvalid hlocal ⟨hready, hsettled, hsaw⟩
          have hle := hcurrent v hv
          rw [currentState_rank, hsettled, hlocal] at hle
          exact hle.trans (ReadyState.rank_le_one hready)

/-- Every step keeps it, if no local close follows a value seen while the platform was CLOSED. -/
theorem step {a : Action} (h : s.StatesSorted) (hseen : s.SeenSound) (hc : ClosesBeforeSeen s a)
    (hs : step s a = some s') : s'.StatesSorted := by
  cases step_kind hs with
  | state hd => exact h.callState hd
  | close code reason hd => exact h.close hseen hd hc
  | dispose hd =>
    constructor
    · have hstates : s.dispose.hist.states = s.hist.states := by
        change (s.close none "").2.hist.states = _
        rcases close_cases s none "" with ⟨-, hk⟩ | ⟨-, -, hk⟩ <;> rw [hk]
        rw [localClose_frame]
      rw [hstates]
      exact h.sorted
    · intro hd'
      cases hd'
  | other hf => exact h.forward hf

end State.StatesSorted

/-- The values are in order in every run that keeps to the condition. -/
theorem states_sorted (h : system.ReachableUnder ClosesBeforeSeen s) : s.StatesSorted := by
  refine h.induction (I := State.StatesSorted) ?_ ?_
  · rintro _ ⟨knobs, now, rfl⟩
    exact ⟨List.Pairwise.nil, nofun⟩
  · intro s a s' hs ih hc hstep
    exact ih.step (seen_sound hs.reachable) hc hstep

/-- A call of `close` that is accepted on a connection that `state` has found CLOSED, before it
settles, takes the next value back. -/
theorem goes_back (h : system.Reachable s) {a : Action} (hc : ¬ ClosesBeforeSeen s a)
    (hs : step s a = some s') (hs' : step s' .state = some s'') :
    ¬ s''.hist.states.Pairwise fun v w => v.rank ≤ w.rank := by
  intro hpair
  cases a with
  | close code reason =>
    simp only [ClosesBeforeSeen, Classical.not_imp, not_not] at hc
    obtain ⟨hvalid, hlocal, hready, hsettled, hsaw⟩ := hc
    obtain ⟨-, rfl⟩ := guestCall_eq_some.mp hs
    obtain ⟨-, rfl⟩ := guestCall_eq_some.mp hs'
    rcases close_cases s code reason with ⟨hno | hno, -⟩ | ⟨-, -, hk⟩
    · rw [hlocal] at hno
      cases hno
    · exact hno hvalid
    rw [hk] at hpair
    have hmem := (seen_sound h).seen hsaw hlocal
    have hstates : (s.localClose (closeFrameOf code reason)).hist.states = s.hist.states := by
      rw [localClose_frame]
    have hback := (List.pairwise_append.mp hpair).2.2 .closed (hstates ▸ hmem) _
      (List.mem_singleton.mpr rfl)
    rw [localClose_currentState, hsettled] at hback
    exact absurd hback (by decide)
  | receive | receiveViaStream | state | waitClosed | dispose | configure | read | react | message
  | peerClosing | transportClosed | errorEvent | closeEvent | closeSettles | timer | tick =>
    exact hc trivial

/-- In every run in which `close` is not accepted on a connection that a call of `state` has found
CLOSED before it settled, the values returned by `state` never go back, and after closed only closed
is returned.  The first call of `close` that is accepted there takes the next value back. -/
theorem state_forward (h : system.ReachableUnder ClosesBeforeSeen s) :
    (s.hist.states.Pairwise fun v w => v.rank ≤ w.rank) ∧
    (∀ before later, s.hist.states = before ++ .closed :: later → ∀ v ∈ later, v = .closed) ∧
    ∀ a s' s'', step s a = some s' → step s' .state = some s'' →
      ((s''.hist.states.Pairwise fun v w => v.rank ≤ w.rank) ↔ ClosesBeforeSeen s a) := by
  have hpair := (states_sorted h).sorted
  refine ⟨hpair, fun before later hstates v hv => ?_, fun a s' s'' hs hs' => ⟨fun hsorted => ?_,
    fun hc => ?_⟩⟩
  · rw [hstates] at hpair
    have hle := (List.pairwise_cons.mp (List.pairwise_append.mp hpair).2.1).1 v hv
    cases v <;> first | rfl | exact absurd hle (by decide)
  · by_contra hc
    exact goes_back h.reachable hc hs hs' hsorted
  · have hnext : system.ReachableUnder ClosesBeforeSeen s' := .step h hc hs
    exact (states_sorted (.step (a := .state) hnext trivial hs')).sorted

/-- A local close during the closing handshake, and settlement by the close event. -/
theorem state_forward_handshake :
    ∃ s, system.runUnder ClosesBeforeSeen (State.start .default 0)
        [.state, .close none "", .state, .transportClosed, .state, .closeEvent 1000 "",
          .closeSettles, .state] = some s ∧
      s.hist.states = [.open, .closing, .closing, .closed] ∧
      s.hist.states.Pairwise fun v w => v.rank ≤ w.rank := by
  have hrun : system.runUnder ClosesBeforeSeen (State.start .default 0)
      [.state, .close none "", .state, .transportClosed, .state, .closeEvent 1000 "",
        .closeSettles, .state] = some _ := rfl
  have hstart : system.ReachableUnder ClosesBeforeSeen (State.start .default 0) :=
    .init ⟨_, _, rfl⟩
  exact ⟨_, hrun, rfl, (state_forward (hstart.runUnder hrun)).1⟩

/-- A close between the CLOSED of the platform and its close event: `state` returns closed, and then
closing. -/
theorem close_after_closed_seen :
    ¬ ∀ s, system.Reachable s → s.hist.states.Pairwise fun v w => v.rank ≤ w.rank := by
  intro hclaim
  have hrun : system.run (State.start .default 0) [.transportClosed, .state, .close none "", .state] =
      some _ := rfl
  have hstart : system.Reachable (State.start .default 0) := .of_init ⟨_, _, rfl⟩
  exact absurd (hclaim _ (hstart.run hrun)) (by decide)

end Polymorph.Js
