import PolymorphWebsocket.Shim.Sending
import PolymorphWebsocket.Transition.Prophecy

/-!
# The WHATWG shim over a WIT resource

The shim with the resource that its imports give it, instead of what is assumed of one.  A resource takes
the calls of the shim, moves on its own, and settles the promises it has returned; `Resource.Lawful` is
what the shim needs of it.  `stack_simulates` is the reason for the assumptions: over every lawful resource
the shim does what it does over the assumed host, so that what holds in all its runs holds there.

The assumed host is torn down at one moment, with its close info.  A resource ends in steps, and may fail
a `receive` before it knows with which close frame it ends; that is the prophecy of the simulation.
-/

namespace Polymorph.Shim

open Transition

/-! ### The resource -/

/-- A WIT resource, as the shim uses it: at most one `send` and one `receive` are under way. -/
structure Resource (ρ μ : Type) where
  /-- A resource that `connect` resolves with. -/
  opened : ρ → Prop
  /-- A move of its own. -/
  move : ρ → μ → Option ρ
  /-- The guest may run: the resource is not in the middle of a poll of one of its calls. -/
  idle : ρ → Bool
  send : ρ → Message → ρ
  /-- The promise of `send` has settled. -/
  sent : ρ → Bool
  receive : ρ → ρ
  /-- What the promise of `receive` has settled with. -/
  received : ρ → Option (Except Error Message)
  /-- The promise of `receive` is done with. -/
  collect : ρ → ρ
  close : ρ → Option Nat → String → ρ
  /-- What the promise of `waitClosed` has settled with. -/
  waitClosed : ρ → Option (Option CloseInfo)

variable {ρ μ : Type}

/-- A call of the shim. -/
def Resource.call (R : Resource ρ μ) (r : ρ) : HostCall → ρ
  | .send _ message => R.send r message
  | .close code reason => R.close r code reason

/-- The arguments of a close that the WIT contract accepts. -/
def HostCall.Valid : HostCall → Prop
  | .send _ _ => True
  | .close none reason => reason = ""
  | .close (some code) reason => (code = 1000 ∨ 3000 ≤ code ∧ code ≤ 4999) ∧ reason.utf8ByteSize ≤ 123

/-- What the shim may say when it closes. -/
theorem validateCloseArgs_of_valid {code : Option Nat} {reason : String}
    (h : (HostCall.close code reason).Valid) :
    validateCloseArgs (code.map UInt16.ofNat) reason = .ok () := by
  cases code with
  | none =>
    obtain rfl : reason = "" := h
    rfl
  | some code =>
    obtain ⟨hcode, hreason⟩ := h
    have hsize : ¬ reason.utf8ByteSize > 123 := Nat.not_lt.mpr hreason
    have hlegal : ¬ (UInt16.ofNat code ≠ 1000 ∧ ¬ (3000 ≤ UInt16.ofNat code ∧ UInt16.ofNat code ≤ 4999)) := by
      rintro ⟨hne, hrange⟩
      rcases hcode with rfl | ⟨hlow, hhigh⟩
      · exact hne rfl
      · apply hrange
        have hnat : (UInt16.ofNat code).toNat = code := 
          UInt16.toNat_ofNat_of_lt' (Nat.lt_of_le_of_lt hhigh (by decide))
        constructor
        · rw [UInt16.le_iff_toNat_le, hnat]
          exact hlow
        · rw [UInt16.le_iff_toNat_le, hnat]
          exact hhigh
    unfold validateCloseArgs
    simp only [Option.map_some]
    rw [if_neg hlegal]
    exact if_neg hsize

/-! ### The shim over a resource -/

/-- A WebSocket with its resource, once there is one. -/
structure Stack (ρ : Type) where
  shim : State
  resource : Option ρ

/-- The moves of the application and the callbacks of the shim, as far as they are its own. -/
def Action.ofShim : Action → Bool
  | .send _ | .close _ _ | .setBinaryType _ | .startLoops | .failed | .failedCloses | .runSend | .blobRead _
  | .uncount | .dispatchMessage | .receiveAgain | .settleRuns | .settleCloses => true
  | .established _ | .sendSettled | .hostReceive | .hostReceiveFails | .hostWaitResolves | .hostArrive _
  | .hostDiscard | .hostClose _ => false

/-- The moves of a WebSocket over a resource. -/
inductive StackAction (R : Resource ρ μ)
  | shim (a : Action)
  | established (protocol : String) (r : ρ) (h : R.opened r)
  | move (m : μ)
  | sendSettled
  | received
  | waitResolves

/-- The calls on the resource on the way from one state to another one. -/
def State.calling (s s' : State) : List HostCall := s'.hist.calls.drop s.hist.calls.length

namespace Stack

/-- The guest may run. -/
def idle (R : Resource ρ μ) (s : Stack ρ) : Bool := s.resource.all R.idle

/-- The shim goes on, with its calls on the resource. -/
def next (R : Resource ρ μ) (s : Stack ρ) (shim : State) : Stack ρ where
  shim := shim
  resource := s.resource.map fun r =>
    let r := (s.shim.calling shim).foldl R.call r
    if shim.loop = .receiving ∧ s.shim.loop ≠ .receiving then R.receive r else r

/-- The promise of `receive` has settled, and the loop gets to know it. -/
def received (R : Resource ρ μ) (s : Stack ρ) : Option (Stack ρ) :=
  match s.resource with
  | none => none
  | some r =>
    if s.shim.loop = .receiving ∧ R.idle r = true then
      match R.received r with
      | some (.ok message) => some {
          shim := { s.shim with
            loop := .resolved message
            hist := { s.shim.hist with handedOut := s.shim.hist.handedOut ++ [message] } }
          resource := some (R.collect r) }
      | some (.error _) => some { shim := { s.shim with loop := .ended }, resource := some (R.collect r) }
      | none => none
    else none

/-- The promise of `waitClosed` has settled, and `#settle` gets to know it. -/
def waitResolves (R : Resource ρ μ) (s : Stack ρ) : Option (Stack ρ) :=
  match s.shim.settle, s.resource.bind R.waitClosed with
  | .waiting failedDuringConnecting, some info =>
    some { s with shim := { s.shim with settle := .resolved failedDuringConnecting info } }
  | _, _ => none

end Stack

/-- The state after a move, if the move is possible. -/
def stackStep (R : Resource ρ μ) (s : Stack ρ) : StackAction R → Option (Stack ρ)
  | .shim a => if a.ofShim && s.idle R then (step s.shim a).map fun shim => s.next R shim else none
  | .established protocol r _ =>
    if s.resource.isNone then
      (step s.shim (.established protocol)).map fun shim =>
        ({ s with resource := some r } : Stack ρ).next R shim
    else none
  | .move m => s.resource.bind fun r => (R.move r m).map fun r => { s with resource := some r }
  | .sendSettled =>
    if s.resource.any fun r => R.idle r && R.sent r then
      (step s.shim .sendSettled).map fun shim => { s with shim := shim }
    else none
  | .received => s.received R
  | .waitResolves => s.waitResolves R

/-- The WebSockets over a resource: any URL. -/
def stack (R : Resource ρ μ) : Transition.System (Stack ρ) (StackAction R) where
  init s := (∃ url : String, s.shim = State.start url) ∧ s.resource = none
  step := stackStep R

/-! ### What the shim needs of a resource -/

namespace Resource

/-- What the shim sees of a resource, and what it needs to know about it. -/
structure View (ρ : Type) where
  /-- What holds in every state that a resource gets into. -/
  Sound : ρ → Prop
  /-- The messages that `receive` calls still get. -/
  deliverable : ρ → List Message
  localClosed : ρ → Bool
  /-- No message arrives any more. -/
  ended : ρ → Bool
  /-- A `receive` call is under way. -/
  receiving : ρ → Bool

/-- Nothing that the shim sees of a resource changes. -/
structure Same (R : Resource ρ μ) (V : View ρ) (r r' : ρ) : Prop where
  deliverable : V.deliverable r' = V.deliverable r
  localClosed : V.localClosed r' = V.localClosed r
  ended : V.ended r' = V.ended r
  waitClosed : R.waitClosed r' = R.waitClosed r

/-- On its own a resource gets more messages, as long as it has neither ended nor been closed, and ends. -/
structure Keeps (R : Resource ρ μ) (V : View ρ) (r r' : ρ) : Prop where
  deliverable : ∃ arrived, V.deliverable r' = V.deliverable r ++ arrived ∧
    (arrived ≠ [] → V.localClosed r = false ∧ V.ended r = false)
  localClosed : V.localClosed r' = V.localClosed r
  ended : V.ended r = true → V.ended r' = true
  receiving : V.receiving r' = V.receiving r
  waitClosed : ∀ info, R.waitClosed r = some info → R.waitClosed r' = some info

/-- What the shim needs: a resource hands its messages out in order and fails once they are drained and it
has ended, or has been closed, and it settles `waitClosed`, once and for all, when it has ended. -/
structure Lawful (R : Resource ρ μ) extends View ρ where
  opened : ∀ r, R.opened r → Sound r ∧ deliverable r = [] ∧ localClosed r = false ∧ ended r = false ∧
    receiving r = false ∧ R.idle r = true
  move : ∀ r m r', Sound r → R.move r m = some r' → Sound r' ∧ R.Keeps toView r r'
  send : ∀ r message, Sound r → R.idle r = true → Sound (R.send r message) ∧
    R.Same toView r (R.send r message) ∧ receiving (R.send r message) = receiving r ∧
      R.idle (R.send r message) = true
  receive : ∀ r, Sound r → R.idle r = true → receiving r = false →
    Sound (R.receive r) ∧ R.Same toView r (R.receive r) ∧ receiving (R.receive r) = true
  collect : ∀ r result, Sound r → R.received r = some result → Sound (R.collect r) ∧
    localClosed (R.collect r) = localClosed r ∧ ended (R.collect r) = ended r ∧
      receiving (R.collect r) = false ∧ R.waitClosed (R.collect r) = R.waitClosed r
  receivedOk : ∀ r message, Sound r → R.received r = some (.ok message) →
    deliverable r = message :: deliverable (R.collect r)
  receivedError : ∀ r err, Sound r → R.received r = some (.error err) →
    deliverable r = [] ∧ deliverable (R.collect r) = [] ∧ (localClosed r = true ∨ ended r = true)
  close : ∀ r code reason, Sound r → R.idle r = true → (HostCall.close code reason).Valid →
    Sound (R.close r code reason) ∧ deliverable (R.close r code reason) <+: deliverable r ∧
      localClosed (R.close r code reason) = true ∧ ended (R.close r code reason) = ended r ∧
      receiving (R.close r code reason) = receiving r ∧
      R.waitClosed (R.close r code reason) = R.waitClosed r ∧ R.idle (R.close r code reason) = true
  waitClosed : ∀ r info, Sound r → R.waitClosed r = some info → ended r = true

end Resource

/-! ### The shim and what it is told of its host -/

/-- The shim over another host. -/
def State.over (s : State) (host : Host) : State := { s with host := host }

/-- The host after some calls. -/
def Host.called (host : Host) (calls : List HostCall) : Host :=
  { host with localClosed := host.localClosed || calls.any fun call => !call.isSend }

theorem Host.called_nil (host : Host) : host.called [] = host := by
  unfold Host.called
  rw [List.any_nil, Bool.or_false]

variable {s s' : State}

/-- A step of the shim does not look at its host: over any host it makes the same calls, valid ones. -/
structure Over (s : State) (a : Action) (s' : State) : Prop where
  step : ∀ host : Host, move (s.over host) a = some (s'.over (host.called (s.calling s')))
  calls : s.calling s' = [] ∨ ∃ call, s.calling s' = [call] ∧ call.Valid ∧
    (s.readyState ≠ .open → call.isSend = true)

namespace Over

variable {a : Action}

/-- The arguments of the calls are those that the resource takes. -/
theorem valid (h : Over s a s') : s.calling s' = [] ∨ ∃ call, s.calling s' = [call] ∧ call.Valid := by
  rcases h.calls with hnone | ⟨call, hone, hvalid, -⟩
  · exact .inl hnone
  · exact .inr ⟨call, hone, hvalid⟩

/-- A step without a call. -/
theorem of_silent (hcalls : s'.hist.calls = s.hist.calls)
    (h : ∀ host : Host, move (s.over host) a = some (s'.over host)) : Over s a s' := by
  have hnone : s.calling s' = [] := by
    unfold State.calling
    rw [hcalls, List.drop_length]
  refine ⟨fun host => ?_, .inl hnone⟩
  rw [hnone, Host.called_nil]
  exact h host

/-- A step with one call. -/
theorem of_call {call : HostCall} (hcalls : s'.hist.calls = s.hist.calls ++ [call]) (hvalid : call.Valid)
    (hopen : s.readyState ≠ .open → call.isSend = true)
    (h : ∀ host : Host, move (s.over host) a = some (s'.over (host.called [call]))) : Over s a s' := by
  have hone : s.calling s' = [call] := by
    unfold State.calling
    rw [hcalls, List.drop_left]
  refine ⟨fun host => ?_, .inr ⟨call, hone, hvalid, hopen⟩⟩
  rw [hone]
  exact h host

/-- A call of `send` on the resource. -/
theorem of_send {id : Nat} {message : Message} (hcalls : s'.hist.calls = s.hist.calls ++ [.send id message])
    (h : ∀ host : Host, move (s.over host) a = some (s'.over host)) : Over s a s' := by
  refine of_call hcalls trivial (fun _ => rfl) fun host => ?_
  have hsame : host.called [.send id message] = host := by
    unfold Host.called
    simp [HostCall.isSend]
  rw [hsame]
  exact h host

theorem send (data : Data) : Over s (.send data) (orUnchanged s (s.send data)) := by
  have hover (host : Host) :
      orUnchanged (s.over host) ((s.over host).send data) = (orUnchanged s (s.send data)).over host := by
    unfold State.send State.over
    dsimp only
    split
    · rfl
    · split <;> rfl
  refine of_silent ?_ fun host => congrArg some (hover host)
  unfold State.send
  split
  · rfl
  · dsimp only
    split <;> rfl

/-- The arguments of a close that `close` has let through, as the resource gets them. -/
theorem valid_closeArgs {code : Option Nat} {reason : String}
    (hcode : (code.any fun code => code ≠ 1000 && !(3000 ≤ code && code ≤ 4999)) = false)
    (hreason : reason.utf8ByteSize ≤ 123) :
    (HostCall.close (State.closeArgs code reason).1 (State.closeArgs code reason).2).Valid := by
  unfold State.closeArgs
  cases code with
  | none =>
    by_cases hempty : reason = ""
    · rw [if_neg fun h => h.1 hempty]
      exact hempty
    · rw [if_pos ⟨hempty, rfl⟩]
      exact ⟨.inl rfl, hreason⟩
  | some code =>
    rw [if_neg fun h => by cases h.2]
    refine ⟨?_, hreason⟩
    simp only [Option.any_some, ne_eq, decide_not, Bool.and_eq_false_iff, Bool.not_eq_false'] at hcode
    rcases hcode with hcode | hcode
    · exact .inl (of_decide_eq_true hcode)
    · rw [Bool.and_eq_true] at hcode
      exact .inr ⟨of_decide_eq_true hcode.1, of_decide_eq_true hcode.2⟩

theorem close (code : Option Nat) (reason : Option String) :
    Over s (.close code reason) (orUnchanged s (s.close code reason)) := by
  by_cases hcode : (code.any fun code => code ≠ 1000 && !(3000 ≤ code && code ≤ 4999)) = true
  · have hrefused (t : State) : orUnchanged t (t.close code reason) = t := by
      unfold State.close
      rw [if_pos hcode]
      rfl
    rw [hrefused]
    exact of_silent rfl fun host => congrArg some (hrefused _)
  · by_cases hreason : (reason.getD "").utf8ByteSize > 123
    · have hrefused (t : State) : orUnchanged t (t.close code reason) = t := by
        unfold State.close
        rw [if_neg hcode, if_pos hreason]
        rfl
      rw [hrefused]
      exact of_silent rfl fun host => congrArg some (hrefused _)
    · have hvalid := valid_closeArgs (Bool.eq_false_iff.mpr hcode) (Nat.le_of_not_gt hreason)
      cases hstate : s.readyState with
      | closing | closed =>
        have hrefused (t : State) (ht : t.readyState = s.readyState) :
            orUnchanged t (t.close code reason) = t := by
          unfold State.close
          rw [if_neg hcode, if_neg hreason, ht, hstate]
          rfl
        rw [hrefused s rfl]
        exact of_silent rfl fun host => congrArg some (hrefused _ rfl)
      | connecting =>
        have hkept (t : State) (ht : t.readyState = s.readyState) : orUnchanged t (t.close code reason) =
            { t with pendingClose := some (code, reason.getD ""), readyState := .closing } := by
          unfold State.close
          rw [if_neg hcode, if_neg hreason, ht, hstate]
          rfl
        rw [hkept s rfl]
        exact of_silent rfl fun host => congrArg some (hkept _ rfl)
      | «open» =>
        have hcloses (t : State) (ht : t.readyState = s.readyState) : orUnchanged t (t.close code reason) =
            { t with readyState := .closing }.closeUnderlying code (reason.getD "") := by
          unfold State.close
          rw [if_neg hcode, if_neg hreason, ht, hstate]
          rfl
        rw [hcloses s rfl]
        refine of_call rfl hvalid (fun hne => absurd hstate hne) fun host => congrArg some ?_
        rw [hcloses (s.over host) rfl]
        unfold Host.called
        rw [show (host.localClosed || [HostCall.close _ _].any fun call => !call.isSend) = true from
          Bool.or_true _]
        rfl

/-- A callback, if it has no call to make. -/
theorem of_map {f : State → Option State} (hover : ∀ host, move (s.over host) a = (f s).map (·.over host))
    (hs : f s = some s') (hcalls : s'.hist.calls = s.hist.calls) : Over s a s' := by
  refine of_silent hcalls fun host => ?_
  rw [hover, hs]
  rfl

/-- A callback, if it calls `send`. -/
theorem of_map_send {f : State → Option State} {id : Nat} {message : Message}
    (hover : ∀ host, move (s.over host) a = (f s).map (·.over host)) (hs : f s = some s')
    (hcalls : s'.hist.calls = s.hist.calls ++ [.send id message]) : Over s a s' := by
  refine of_send hcalls fun host => ?_
  rw [hover, hs]
  rfl

theorem runSend (hs : s.runSend = some s') : Over s .runSend s' := by
  have hover (host : Host) : move (s.over host) .runSend = s.runSend.map (·.over host) := by
    show State.runSend _ = _
    unfold State.runSend State.over
    dsimp only
    split
    · split <;> rfl
    · rfl
  have hcopy := hs
  unfold State.runSend at hs
  split at hs
  · split at hs
    · obtain rfl := Option.some.inj hs
      exact of_map_send hover hcopy rfl
    · obtain rfl := Option.some.inj hs
      exact of_map hover hcopy rfl
  · cases hs

theorem blobRead {bytes : Option Bytes} (hs : s.blobRead bytes = some s') : Over s (.blobRead bytes) s' := by
  have hover (host : Host) : move (s.over host) (.blobRead bytes) = (s.blobRead bytes).map (·.over host) := by
    show State.blobRead _ _ = _
    unfold State.blobRead State.over
    dsimp only
    split <;> rfl
  have hsilent (hcalls : s'.hist.calls = s.hist.calls) : Over s (.blobRead bytes) s' :=
    of_map (f := fun s => s.blobRead bytes) hover hs hcalls
  have hcall (id : Nat) (message : Message) (hcalls : s'.hist.calls = s.hist.calls ++ [.send id message]) :
      Over s (.blobRead bytes) s' :=
    of_map_send (f := fun s => s.blobRead bytes) hover hs hcalls
  unfold State.blobRead at hs
  split at hs
  · obtain rfl := Option.some.inj hs
    exact hcall _ _ rfl
  · obtain rfl := Option.some.inj hs
    exact hsilent rfl
  · cases hs

theorem settleRuns (hs : s.settleRuns = some s') : Over s .settleRuns s' := by
  have hover (host : Host) : move (s.over host) .settleRuns = s.settleRuns.map (·.over host) := by
    show State.settleRuns _ = _
    unfold State.settleRuns State.over
    dsimp only
    split
    · split
      · rfl
      · split <;> rfl
    · rfl
  refine of_map hover hs ?_
  unfold State.settleRuns at hs
  split at hs
  · dsimp only at hs
    split at hs
    · obtain rfl := Option.some.inj hs
      rfl
    · split at hs
      · obtain rfl := Option.some.inj hs
        rfl
      · obtain rfl := Option.some.inj hs
        rfl
  · cases hs

theorem failed (hs : s.failed = some s') : Over s .failed s' := by
  have hover (host : Host) : move (s.over host) .failed = s.failed.map (·.over host) := by
    show State.failed _ = _
    unfold State.failed State.over
    dsimp only
    split
    · split <;> rfl
    · rfl
  refine of_map hover hs ?_
  unfold State.failed at hs
  split at hs
  · dsimp only at hs
    split at hs
    · obtain rfl := Option.some.inj hs
      rfl
    · obtain rfl := Option.some.inj hs
      rfl
  · cases hs

/-- Every step that is the shim's own. -/
theorem of_move (ha : a.ofShim = true) (h : move s a = some s') : Over s a s' := by
  cases a with
  | send data =>
    obtain rfl := Option.some.inj h
    exact send data
  | close code reason =>
    obtain rfl := Option.some.inj h
    exact close code reason
  | setBinaryType binaryType =>
    obtain rfl := Option.some.inj h
    exact of_silent rfl fun host => rfl
  | failed => exact failed h
  | runSend => exact runSend h
  | blobRead => exact blobRead h
  | settleRuns => exact settleRuns h
  | startLoops =>
    simp only [move, State.startLoops] at h
    split at h
    · next hpc =>
      obtain rfl := Option.some.inj h
      exact of_silent rfl fun host => if_pos hpc
    · cases h
  | failedCloses =>
    simp only [move, State.failedCloses] at h
    split at h
    · next hpc =>
      obtain rfl := Option.some.inj h
      exact of_silent rfl fun host => if_pos hpc
    · cases h
  | receiveAgain =>
    simp only [move, State.receiveAgain] at h
    split at h
    · next hpc =>
      obtain rfl := Option.some.inj h
      exact of_silent rfl fun host => if_pos hpc
    · cases h
  | uncount =>
    simp only [move, State.uncount] at h
    split at h
    · next entry rest hqueue hstage =>
      obtain rfl := Option.some.inj h
      refine of_silent rfl fun host => ?_
      simp only [move, State.uncount, State.over, hqueue, hstage]
    · cases h
  | dispatchMessage =>
    simp only [move, State.dispatchMessage] at h
    split at h
    · next message hloop =>
      obtain rfl := Option.some.inj h
      refine of_silent rfl fun host => ?_
      simp only [move, State.dispatchMessage, State.over, hloop]
      rfl
    · cases h
  | settleCloses =>
    simp only [move, State.settleCloses] at h
    split at h
    · next code reason hsettle =>
      obtain rfl := Option.some.inj h
      refine of_silent rfl fun host => ?_
      simp only [move, State.settleCloses, State.over, hsettle]
      rfl
    · cases h
  | established | sendSettled | hostReceive | hostReceiveFails | hostWaitResolves | hostArrive | hostDiscard
  | hostClose => cases ha

end Over

/-! ### What a step of the shim keeps -/

/-- The shim has no resource and does not wait for one's messages. -/
def State.Fresh (s : State) : Prop := s.readyState ≠ .open ∧ s.connect ≠ .opening ∧ s.loop = .idle

/-- The close that waits for the handshake has been let through. -/
def State.PendingValid (s : State) : Prop :=
  ∀ code reason, s.pendingClose = some (code, reason) →
    (HostCall.close (State.closeArgs code reason).1 (State.closeArgs code reason).2).Valid

/-- A step that is the shim's own does not settle a `receive`, and does not open the WebSocket. -/
structure Own (s s' : State) : Prop where
  loop : s.loop = .receiving → s'.loop = .receiving
  fresh : s.Fresh → s'.Fresh
  pending : s.PendingValid → s'.PendingValid

namespace Own

theorem of_eq (hready : s'.readyState ≠ .open ∨ s'.readyState = s.readyState)
    (hconnect : s'.connect ≠ .opening ∨ s'.connect = s.connect) (hloop : s'.loop = s.loop)
    (hpending : s'.pendingClose = s.pendingClose) : Own s s' := by
  refine ⟨fun h => hloop.trans h, fun ⟨hnot, hopening, hidle⟩ => ⟨?_, ?_, hloop.trans hidle⟩, fun h => ?_⟩
  · rcases hready with h | h
    · exact h
    · rwa [h]
  · rcases hconnect with h | h
    · exact h
    · rwa [h]
  · unfold State.PendingValid
    rw [hpending]
    exact h

theorem send (data : Data) : Own s (orUnchanged s (s.send data)) := by
  unfold State.send
  split
  · exact of_eq (.inr rfl) (.inr rfl) rfl rfl
  · dsimp only
    split <;> exact of_eq (.inr rfl) (.inr rfl) rfl rfl

theorem close (code : Option Nat) (reason : Option String) :
    Own s (orUnchanged s (s.close code reason)) := by
  unfold State.close
  dsimp only
  split
  · exact of_eq (.inr rfl) (.inr rfl) rfl rfl
  · next hcode =>
    split
    · exact of_eq (.inr rfl) (.inr rfl) rfl rfl
    · next hreason =>
      split
      · exact of_eq (.inr rfl) (.inr rfl) rfl rfl
      · exact of_eq (.inr rfl) (.inr rfl) rfl rfl
      · refine ⟨id, fun ⟨_, hopening, hidle⟩ => ⟨by rintro ⟨⟩, hopening, hidle⟩, fun _ code' reason' heq => ?_⟩
        obtain ⟨rfl, rfl⟩ := Prod.mk.inj (Option.some.inj heq)
        exact Over.valid_closeArgs (Bool.eq_false_iff.mpr hcode) (Nat.le_of_not_gt hreason)
      · exact of_eq (.inl (by rintro ⟨⟩)) (.inr rfl) rfl rfl

/-- Every step that is the shim's own. -/
theorem of_move {a : Action} (ha : a.ofShim = true) (h : move s a = some s') : Own s s' := by
  cases a with
  | send data =>
    obtain rfl := Option.some.inj h
    exact send data
  | close code reason =>
    obtain rfl := Option.some.inj h
    exact close code reason
  | setBinaryType binaryType =>
    obtain rfl := Option.some.inj h
    exact of_eq (.inr rfl) (.inr rfl) rfl rfl
  | startLoops =>
    simp only [move, State.startLoops] at h
    split at h
    · next hpc =>
      obtain rfl := Option.some.inj h
      exact ⟨fun _ => rfl, fun hfresh => absurd hpc hfresh.2.1, id⟩
    · cases h
  | receiveAgain =>
    simp only [move, State.receiveAgain] at h
    split at h
    · next hpc =>
      obtain rfl := Option.some.inj h
      exact ⟨fun _ => rfl, fun hfresh => absurd (hpc.symm.trans hfresh.2.2) nofun, id⟩
    · cases h
  | dispatchMessage =>
    simp only [move, State.dispatchMessage] at h
    split at h
    · next message hpc =>
      obtain rfl := Option.some.inj h
      exact ⟨fun hr => absurd (hpc.symm.trans hr) nofun,
        fun hfresh => absurd (hpc.symm.trans hfresh.2.2) nofun, id⟩
    · cases h
  | failed =>
    simp only [move, State.failed] at h
    split at h
    · split at h
      · obtain rfl := Option.some.inj h
        exact of_eq (.inl (by rintro ⟨⟩)) (.inl (by rintro ⟨⟩)) rfl rfl
      · obtain rfl := Option.some.inj h
        exact of_eq (.inl (by rintro ⟨⟩)) (.inl (by rintro ⟨⟩)) rfl rfl
    · cases h
  | failedCloses =>
    simp only [move, State.failedCloses] at h
    split at h
    · obtain rfl := Option.some.inj h
      exact of_eq (.inr rfl) (.inl (by rintro ⟨⟩)) rfl rfl
    · cases h
  | runSend =>
    simp only [move, State.runSend] at h
    split at h
    · split at h
      · obtain rfl := Option.some.inj h
        exact of_eq (.inr rfl) (.inr rfl) rfl rfl
      · obtain rfl := Option.some.inj h
        exact of_eq (.inr rfl) (.inr rfl) rfl rfl
    · cases h
  | blobRead bytes =>
    simp only [move, State.blobRead] at h
    split at h
    · obtain rfl := Option.some.inj h
      exact of_eq (.inr rfl) (.inr rfl) rfl rfl
    · obtain rfl := Option.some.inj h
      exact of_eq (.inr rfl) (.inr rfl) rfl rfl
    · cases h
  | uncount =>
    simp only [move, State.uncount] at h
    split at h
    · obtain rfl := Option.some.inj h
      exact of_eq (.inr rfl) (.inr rfl) rfl rfl
    · cases h
  | settleRuns =>
    simp only [move, State.settleRuns] at h
    split at h
    · split at h
      · obtain rfl := Option.some.inj h
        exact of_eq (.inl (by rintro ⟨⟩)) (.inr rfl) rfl rfl
      · split at h
        · obtain rfl := Option.some.inj h
          exact of_eq (.inl (by rintro ⟨⟩)) (.inr rfl) rfl rfl
        · obtain rfl := Option.some.inj h
          exact of_eq (.inl (by rintro ⟨⟩)) (.inr rfl) rfl rfl
    · cases h
  | settleCloses =>
    simp only [move, State.settleCloses] at h
    split at h
    · obtain rfl := Option.some.inj h
      exact of_eq (.inr rfl) (.inr rfl) rfl rfl
    · cases h
  | established | sendSettled | hostReceive | hostReceiveFails | hostWaitResolves | hostArrive | hostDiscard
  | hostClose => cases ha

end Own

/-! ### The calls on a resource -/

namespace Resource.Lawful

variable {R : Resource ρ μ} (L : R.Lawful)

/-- What the calls of a step of the shim do to a resource. -/
structure Called (calls : List HostCall) (r r' : ρ) : Prop where
  sound : L.Sound r'
  idle : R.idle r' = true
  deliverable : L.deliverable r' <+: L.deliverable r
  exact : calls.any (fun call => !call.isSend) = false → L.deliverable r' = L.deliverable r
  localClosed : L.localClosed r' = (L.localClosed r || calls.any fun call => !call.isSend)
  ended : L.ended r' = L.ended r
  receiving : L.receiving r' = L.receiving r
  waitClosed : R.waitClosed r' = R.waitClosed r

variable {L} {r : ρ} {calls : List HostCall}

theorem called (hs : L.Sound r) (hidle : R.idle r = true)
    (hcalls : calls = [] ∨ ∃ call, calls = [call] ∧ call.Valid) :
    L.Called calls r (calls.foldl R.call r) := by
  rcases hcalls with rfl | ⟨call, rfl, hvalid⟩
  · exact ⟨hs, hidle, List.prefix_rfl, fun _ => rfl, (Bool.or_false _).symm, rfl, rfl, rfl⟩
  · cases call with
    | send id message =>
      obtain ⟨hsound, hsame, hreceiving, hidle'⟩ := L.send r message hs hidle
      exact ⟨hsound, hidle', hsame.deliverable ▸ List.prefix_rfl, fun _ => hsame.deliverable,
        hsame.localClosed.trans (Bool.or_false _).symm, hsame.ended, hreceiving, hsame.waitClosed⟩
    | close code reason =>
      obtain ⟨hsound, hfirst, hlocal, hended, hreceiving, hwait, hidle'⟩ :=
        L.close r code reason hs hidle hvalid
      exact ⟨hsound, hidle', hfirst, nofun, hlocal.trans (Bool.or_true _).symm, hended, hreceiving, hwait⟩

end Resource.Lawful

/-- Whether a callback may start does not depend on the host either. -/
theorem step_over {a : Action} {host : Host} {t : State} (h : step s a = some s')
    (hmove : move (s.over host) a = some t) : step (s.over host) a = some t := by
  unfold step at h ⊢
  split at h
  · cases h
  · next hguard => exact (if_neg hguard).trans hmove

/-- A close that has waited for the handshake. -/
theorem established_closes {protocol : String} {code : Option Nat} {reason : String} (s : State)
    (hpc : s.connect = .pending) (hclose : s.pendingClose = some (code, reason)) :
    move s (.established protocol) =
      some { { s with host := { s.host with connected := true } }.closeUnderlying code reason with
        connect := .done, settle := .waiting true } := by
  simp only [move, State.established]
  rw [if_pos hpc, hclose]

/-- The WebSocket opens. -/
theorem established_opens {protocol : String} (s : State) (hpc : s.connect = .pending)
    (hclose : s.pendingClose = none) :
    move s (.established protocol) =
      some ({ s with
        host := { s.host with connected := true }, readyState := .open, protocol := protocol
        connect := .opening }.dispatchEvent .open) := by
  simp only [move, State.established]
  rw [if_pos hpc, hclose]

/-- The handshake has succeeded: the WebSocket opens, or a close that has waited is made. -/
theorem established_over {protocol : String} (h : step s (.established protocol) = some s')
    (hpending : s.PendingValid) :
    s'.loop = s.loop ∧ s'.PendingValid ∧
      (s.calling s' = [] ∨ ∃ call, s.calling s' = [call] ∧ call.Valid) ∧
      ∀ host : Host, step (s.over host) (.established protocol) =
        some (s'.over (({ host with connected := true } : Host).called (s.calling s'))) := by
  have hmove := move_of_step h
  by_cases hpc : s.connect = .pending
  · cases hclose : s.pendingClose with
    | some args =>
      obtain ⟨code, reason⟩ := args
      rw [established_closes s hpc hclose] at hmove
      obtain rfl := Option.some.inj hmove
      have hcalling : s.calling ({ { s with host := { s.host with connected := true } }.closeUnderlying
          code reason with connect := .done, settle := .waiting true }) =
            [.close (State.closeArgs code reason).1 (State.closeArgs code reason).2] := List.drop_left
      rw [hcalling]
      refine ⟨rfl, hpending, .inr ⟨_, rfl, hpending code reason hclose⟩, fun host => step_over h ?_⟩
      rw [established_closes (s.over host) hpc hclose]
      unfold Host.called
      rw [show (host.localClosed || [HostCall.close _ _].any fun call => !call.isSend) = true from
        Bool.or_true _]
      rfl
    | none =>
      rw [established_opens s hpc hclose] at hmove
      obtain rfl := Option.some.inj hmove
      have hcalling : s.calling ({ s with
          host := { s.host with connected := true }, readyState := .open, protocol := protocol
          connect := .opening }.dispatchEvent .open) = [] := List.drop_length
      rw [hcalling]
      refine ⟨rfl, hpending, .inl rfl, fun host => step_over h ?_⟩
      rw [established_opens (s.over host) hpc hclose, Host.called_nil]
      rfl
  · simp only [move, State.established] at hmove
    rw [if_neg hpc] at hmove
    cases hmove

/-! ### The simulation -/

section Simulation

variable {R : Resource ρ μ} (L : R.Lawful)

/-- The assumed host stands for a resource, which ends with the close info of the prophecy. -/
structure Stands (final : Option CloseInfo) (r : ρ) (host : Host) : Prop where
  connected : host.connected = true
  localClosed : host.localClosed = L.localClosed r
  closed : host.closed = if L.ended r = true then some final else none
  backlog : L.deliverable r <+: host.backlog
  exact : L.localClosed r = false → host.backlog = L.deliverable r

variable {L} {final : Option CloseInfo} {r r' : ρ} {host : Host} {t : State}

/-- A move that starts no callback can always be made. -/
theorem reachable_move {a : Action} (ht : system.Reachable t) (ha : a.startsCallback = false)
    {t' : State} (h : move t a = some t') : system.Reachable t' := by
  refine ht.next (a := a) ?_
  show step _ _ = _
  unfold step
  rw [ha, Bool.false_and, if_neg Bool.false_ne_true]
  exact h

/-- Messages arrive at the assumed host, one after the other. -/
theorem reachable_arrive (messages : List Message) (ht : system.Reachable (s.over host))
    (hlive : host.live = true) :
    system.Reachable (s.over { host with backlog := host.backlog ++ messages }) := by
  induction messages generalizing host with
  | nil =>
    rw [List.append_nil]
    exact ht
  | cons message messages ih =>
    have hone : system.Reachable (s.over { host with backlog := host.backlog ++ [message] }) :=
      reachable_move (a := .hostArrive message) ht rfl (if_pos hlive)
    have hrest := ih hone hlive
    rw [List.append_assoc] at hrest
    exact hrest

/-- What a resource does on its own, the assumed host can do. -/
theorem Stands.move (h : Stands L final r host) (hkeeps : R.Keeps L.toView r r')
    (ht : system.Reachable (s.over host)) :
    ∃ host', system.Reachable (s.over host') ∧ Stands L final r' host' := by
  obtain ⟨arrived, hdeliverable, harrived⟩ := hkeeps.deliverable
  have hlive (hended : L.ended r = false) : host.live = true := by
    unfold Host.live
    rw [h.connected, h.closed, hended, if_neg Bool.false_ne_true]
    rfl
  -- first the messages arrive
  have harrives : ∃ host₁, system.Reachable (s.over host₁) ∧ host₁.connected = true ∧
      host₁.localClosed = L.localClosed r' ∧ host₁.closed = host.closed ∧
      L.deliverable r' <+: host₁.backlog ∧ (L.localClosed r' = false → host₁.backlog = L.deliverable r') := by
    by_cases hnone : arrived = []
    · rw [hnone, List.append_nil] at hdeliverable
      rw [hdeliverable, hkeeps.localClosed]
      exact ⟨host, ht, h.connected, h.localClosed, rfl, h.backlog, h.exact⟩
    · obtain ⟨hlocal, hended⟩ := harrived hnone
      have hexact : host.backlog ++ arrived = L.deliverable r' := by rw [h.exact hlocal, hdeliverable]
      refine ⟨_, reachable_arrive arrived ht (hlive hended), h.connected, ?_, rfl, ?_, fun _ => hexact⟩
      · rw [hkeeps.localClosed]
        exact h.localClosed
      · rw [← hexact]
  obtain ⟨host₁, ht₁, hconnected, hlocal, hclosed, hbacklog, hexact⟩ := harrives
  -- and then it ends
  by_cases hended : L.ended r = true
  · refine ⟨host₁, ht₁, hconnected, hlocal, ?_, hbacklog, hexact⟩
    rw [hclosed, h.closed, if_pos hended, if_pos (hkeeps.ended hended)]
  · have hopen : host₁.closed = none := by rw [hclosed, h.closed, if_neg hended]
    by_cases hends : L.ended r' = true
    · have hlive₁ : host₁.live = true := by
        unfold Host.live
        rw [hconnected, hopen]
        rfl
      refine ⟨{ host₁ with closed := some final }, ?_, hconnected, hlocal, (if_pos hends).symm, hbacklog,
        hexact⟩
      exact reachable_move (a := .hostClose final) ht₁ rfl (if_pos hlive₁)
    · refine ⟨host₁, ht₁, hconnected, hlocal, ?_, hbacklog, hexact⟩
      rw [hopen, if_neg hends]

/-- The calls of the shim. -/
theorem Stands.called {calls : List HostCall} (h : Stands L final r host) (hc : L.Called calls r r') :
    Stands L final r' (host.called calls) := by
  refine ⟨h.connected, ?_, ?_, hc.deliverable.trans h.backlog, fun hopen => ?_⟩
  · show (host.localClosed || _) = _
    rw [h.localClosed, hc.localClosed]
  · show host.closed = _
    rw [h.closed, hc.ended]
  · rw [hc.localClosed, Bool.or_eq_false_iff] at hopen
    rw [hc.exact hopen.2]
    exact h.exact hopen.1

/-- What the shim does not see. -/
theorem Stands.same (h : Stands L final r host) (hsame : R.Same L.toView r r') : Stands L final r' host := by
  refine ⟨h.connected, ?_, ?_, ?_, fun hopen => ?_⟩
  · rw [hsame.localClosed]
    exact h.localClosed
  · rw [hsame.ended]
    exact h.closed
  · rw [hsame.deliverable]
    exact h.backlog
  · rw [hsame.deliverable]
    exact h.exact (hsame.localClosed ▸ hopen)

/-- What holds of a WebSocket over a resource. -/
structure Stack.Sound (L : R.Lawful) (s : Stack ρ) : Prop where
  fresh : s.resource = none → s.shim.Fresh
  pending : s.shim.PendingValid
  resource : ∀ r, s.resource = some r → L.Sound r ∧ (L.receiving r = true ↔ s.shim.loop = .receiving)

/-- A step of the shim with its calls, and with the `receive` that the loop waits for. -/
theorem next_resource {s : Stack ρ} {shim : State} (hs : L.Sound r) (hidle : R.idle r = true)
    (hreceiving : L.receiving r = true ↔ s.shim.loop = .receiving)
    (hr : s.resource = some r)
    (hcalls : s.shim.calling shim = [] ∨ ∃ call, s.shim.calling shim = [call] ∧ call.Valid)
    (hloop : s.shim.loop = .receiving → shim.loop = .receiving) :
    ∃ r₁ r', (s.next R shim).resource = some r' ∧ L.Called (s.shim.calling shim) r r₁ ∧
      R.Same L.toView r₁ r' ∧ L.Sound r' ∧ (L.receiving r' = true ↔ shim.loop = .receiving) := by
  have hcalled := Resource.Lawful.called hs hidle hcalls
  by_cases hnew : shim.loop = .receiving ∧ s.shim.loop ≠ .receiving
  · have hnot : L.receiving ((s.shim.calling shim).foldl R.call r) = false := by
      rw [hcalled.receiving]
      exact Bool.eq_false_iff.mpr fun h => hnew.2 (hreceiving.mp h)
    obtain ⟨hsound, hsame, hyes⟩ := L.receive _ hcalled.sound hcalled.idle hnot
    refine ⟨_, R.receive ((s.shim.calling shim).foldl R.call r), ?_, hcalled, hsame, hsound,
      iff_of_true hyes hnew.1⟩
    unfold Stack.next
    dsimp only
    rw [hr, Option.map_some, if_pos hnew]
  · refine ⟨_, (s.shim.calling shim).foldl R.call r, ?_, hcalled, ⟨rfl, rfl, rfl, rfl⟩, hcalled.sound, ?_⟩
    · unfold Stack.next
      dsimp only
      rw [hr, Option.map_some, if_neg hnew]
    · rw [hcalled.receiving, hreceiving]
      exact ⟨hloop, fun h => by_contra fun hne => hnew ⟨h, hne⟩⟩

/-- The invariant rule for the stack and its simulation at once: what a step keeps of the stack, of what
`waitClosed` has settled with, and of the run over the assumed host. -/
structure Stack.Follows (L : R.Lawful) (s s' : Stack ρ) : Prop where
  sound : s'.Sound L
  waitClosed : ∀ r info, s.resource = some r → R.waitClosed r = some info →
    ∃ r', s'.resource = some r' ∧ R.waitClosed r' = some info
  simulates : ∀ final host, (∀ r, s'.resource = some r → ∀ info, R.waitClosed r = some info → info = final) →
    system.Reachable (s.shim.over host) → (s.resource = none → host = (State.start "").host) →
    (∀ r, s.resource = some r → Stands L final r host) →
    ∃ host', system.Reachable (s'.shim.over host') ∧ (s'.resource = none → host' = (State.start "").host) ∧
      ∀ r, s'.resource = some r → Stands L final r host'

variable {s s' : Stack ρ}

/-- A step of the shim. -/
theorem follows_shim (h : s.Sound L) {a : Action} {shim : State} (ha : a.ofShim = true)
    (hidle : s.idle R = true) (hs : step s.shim a = some shim) : s.Follows L (s.next R shim) := by
  have hmove := move_of_step hs
  have hover := Over.of_move ha hmove
  have hown := Own.of_move ha hmove
  have hvalid := hover.valid
  have hreach (host : Host) (ht : system.Reachable (s.shim.over host)) :
      system.Reachable (shim.over (host.called (s.shim.calling shim))) :=
    ht.next (a := a) (step_over hs (hover.step host))
  cases hr : s.resource with
  | none =>
    have hnone : (s.next R shim).resource = none := by
      unfold Stack.next
      dsimp only
      rw [hr]
      rfl
    have hfresh := h.fresh hr
    refine ⟨⟨fun _ => hown.fresh hfresh, hown.pending h.pending, ?_⟩, ?_, ?_⟩
    · rw [hnone]
      intro r hsome
      cases hsome
    · intro r info hsome
      cases hr.symm.trans hsome
    · intro final host _ ht hstart _
      have hcalled : host.called (s.shim.calling shim) = host := by
        rcases hover.calls with hno | ⟨call, hone, -, hsend⟩
        · rw [hno, Host.called_nil]
        · -- nothing is closed that has never been open
          unfold Host.called
          rw [hone, List.any_cons, hsend hfresh.1, List.any_nil]
          show { host with localClosed := host.localClosed || false } = host
          rw [Bool.or_false]
      refine ⟨host, ?_, fun _ => hstart hr, ?_⟩
      · rw [← hcalled]
        exact hreach host ht
      · rw [hnone]
        intro r hsome
        cases hsome
  | some r =>
    obtain ⟨hsound, hreceiving⟩ := h.resource r hr
    have hidle' : R.idle r = true := by
      unfold Stack.idle at hidle
      rwa [hr, Option.all_some] at hidle
    obtain ⟨r₁, r', hnext, hcalled, hsame, hsound', hreceiving'⟩ :=
      next_resource hsound hidle' hreceiving hr hvalid hown.loop
    refine ⟨⟨?_, hown.pending h.pending, ?_⟩, ?_, ?_⟩
    · intro hnone
      cases hnext.symm.trans hnone
    · intro r'' hsome
      obtain rfl := Option.some.inj (hnext.symm.trans hsome)
      exact ⟨hsound', hreceiving'⟩
    · intro r'' info hsome hinfo
      obtain rfl := Option.some.inj (hr.symm.trans hsome)
      refine ⟨r', hnext, ?_⟩
      rw [hsame.waitClosed, hcalled.waitClosed]
      exact hinfo
    · intro final host _ ht _ hstands
      refine ⟨_, hreach host ht, ?_, ?_⟩
      · intro hnone
        cases hnext.symm.trans hnone
      · intro r'' hsome
        obtain rfl := Option.some.inj (hnext.symm.trans hsome)
        exact ((hstands r hr).called hcalled).same hsame

/-- The handshake succeeds, with a resource. -/
theorem follows_established (h : s.Sound L) {protocol : String} (hopened : R.opened r)
    (hnone : s.resource = none) {shim : State} (hs : step s.shim (.established protocol) = some shim) :
    s.Follows L (({ s with resource := some r } : Stack ρ).next R shim) := by
  obtain ⟨hsound, hdeliverable, hlocal, hended, hreceiving, hidle⟩ := L.opened r hopened
  obtain ⟨hloop, hpending, hvalid, hover⟩ := established_over hs h.pending
  have hidleLoop : s.shim.loop = .idle := (h.fresh hnone).2.2
  have hnot : L.receiving r = true ↔ s.shim.loop = .receiving :=
    iff_of_false (Bool.eq_false_iff.mp hreceiving) (by rw [hidleLoop]; nofun)
  obtain ⟨r₁, r', hnext, hcalled, hsame, hsound', hreceiving'⟩ :=
    next_resource (s := { s with resource := some r }) hsound hidle hnot rfl hvalid fun hl => hloop.trans hl
  refine ⟨⟨?_, hpending, ?_⟩, ?_, ?_⟩
  · intro hno
    cases hnext.symm.trans hno
  · intro r'' hsome
    obtain rfl := Option.some.inj (hnext.symm.trans hsome)
    exact ⟨hsound', hreceiving'⟩
  · intro r'' info hsome
    cases hnone.symm.trans hsome
  · intro final host _ ht hstart _
    have hstands : Stands L final r { host with connected := true } := by
      rw [hstart hnone]
      refine ⟨rfl, hlocal.symm, ?_, ?_, fun _ => hdeliverable.symm⟩
      · rw [hended]
        rfl
      · rw [hdeliverable]
        exact List.nil_prefix
    refine ⟨_, ht.next (a := .established protocol) (hover host), ?_, ?_⟩
    · intro hno
      cases hnext.symm.trans hno
    · intro r'' hsome
      obtain rfl := Option.some.inj (hnext.symm.trans hsome)
      exact (hstands.called hcalled).same hsame

/-- The resource moves. -/
theorem follows_move (h : s.Sound L) {m : μ} (hr : s.resource = some r) (hs : R.move r m = some r') :
    s.Follows L { s with resource := some r' } := by
  obtain ⟨hsound, hreceiving⟩ := h.resource r hr
  obtain ⟨hsound', hkeeps⟩ := L.move r m r' hsound hs
  refine ⟨⟨nofun, h.pending, ?_⟩, ?_, ?_⟩
  · intro r'' hsome
    obtain rfl := Option.some.inj hsome
    rw [hkeeps.receiving]
    exact ⟨hsound', hreceiving⟩
  · intro r'' info hsome hinfo
    obtain rfl := Option.some.inj (hr.symm.trans hsome)
    exact ⟨r', rfl, hkeeps.waitClosed info hinfo⟩
  · intro final host _ ht _ hstands
    obtain ⟨host', ht', hstands'⟩ := (hstands r hr).move hkeeps ht
    refine ⟨host', ht', nofun, ?_⟩
    intro r'' hsome
    obtain rfl := Option.some.inj hsome
    exact hstands'

/-- A `send` of the resource settles. -/
theorem follows_sendSettled (h : s.Sound L) {shim : State} (hs : step s.shim .sendSettled = some shim) :
    s.Follows L { s with shim := shim } := by
  have hmove := move_of_step hs
  simp only [Shim.move, State.sendSettled] at hmove
  split at hmove
  · next hstage =>
    obtain rfl := Option.some.inj hmove
    refine ⟨⟨fun hnone => h.fresh hnone, h.pending, h.resource⟩, fun r info hr hinfo => ⟨r, hr, hinfo⟩, ?_⟩
    intro final host _ ht hstart hstands
    refine ⟨host, ?_, hstart, hstands⟩
    exact ht.next (a := .sendSettled) (step_over hs (if_pos hstage))
  · cases hmove

/-- A `receive` of the resource settles with a message. -/
theorem follows_message (h : s.Sound L) {message : Message} (hr : s.resource = some r)
    (hloop : s.shim.loop = .receiving) (hok : R.received r = some (.ok message)) :
    s.Follows L {
      shim := { s.shim with
        loop := .resolved message
        hist := { s.shim.hist with handedOut := s.shim.hist.handedOut ++ [message] } }
      resource := some (R.collect r) } := by
  obtain ⟨hsound, -⟩ := h.resource r hr
  obtain ⟨hsound', hlocal, hended, hreceiving, hwait⟩ := L.collect r _ hsound hok
  have hfirst := L.receivedOk r message hsound hok
  refine ⟨⟨nofun, h.pending, ?_⟩, ?_, ?_⟩
  · intro r' hsome
    obtain rfl := Option.some.inj hsome
    exact ⟨hsound', iff_of_false (Bool.eq_false_iff.mp hreceiving) nofun⟩
  · intro r' info hsome hinfo
    obtain rfl := Option.some.inj (hr.symm.trans hsome)
    exact ⟨_, rfl, hwait.trans hinfo⟩
  · intro final host _ ht _ hstands
    have hst := hstands r hr
    obtain ⟨rest, hbacklog⟩ := hst.backlog
    rw [hfirst, List.cons_append] at hbacklog
    refine ⟨{ host with backlog := L.deliverable (R.collect r) ++ rest }, ?_, nofun, ?_⟩
    · refine reachable_move (a := .hostReceive) ht rfl ?_
      simp only [Shim.move, State.hostReceive, State.over]
      rw [hloop, ← hbacklog]
    · intro r' hsome
      obtain rfl := Option.some.inj hsome
      refine ⟨hst.connected, hst.localClosed.trans hlocal.symm, ?_, List.prefix_append _ _, fun hopen => ?_⟩
      · rw [hended]
        exact hst.closed
      · have hexact := hst.exact (hlocal.symm.trans hopen)
        rw [← hbacklog, hfirst] at hexact
        exact (List.cons.inj hexact).2

/-- A `receive` of the resource fails. -/
theorem follows_failure (h : s.Sound L) {err : Error} (hr : s.resource = some r)
    (hloop : s.shim.loop = .receiving) (herr : R.received r = some (.error err)) :
    s.Follows L { shim := { s.shim with loop := .ended }, resource := some (R.collect r) } := by
  obtain ⟨hsound, -⟩ := h.resource r hr
  obtain ⟨hsound', hlocal, hended, hreceiving, hwait⟩ := L.collect r _ hsound herr
  obtain ⟨hdrained, hdrained', hwhy⟩ := L.receivedError r err hsound herr
  refine ⟨⟨nofun, h.pending, ?_⟩, ?_, ?_⟩
  · intro r' hsome
    obtain rfl := Option.some.inj hsome
    exact ⟨hsound', iff_of_false (Bool.eq_false_iff.mp hreceiving) nofun⟩
  · intro r' info hsome hinfo
    obtain rfl := Option.some.inj (hr.symm.trans hsome)
    exact ⟨_, rfl, hwait.trans hinfo⟩
  · intro final host _ ht _ hstands
    have hst := hstands r hr
    -- after a local close the assumed host discards its backlog first
    have hdiscards : ∃ host₁ : Host, system.Reachable (s.shim.over host₁) ∧ host₁.connected = true ∧
        host₁.localClosed = host.localClosed ∧ host₁.closed = host.closed ∧ host₁.backlog = [] := by
      by_cases hopen : L.localClosed r = false
      · exact ⟨host, ht, hst.connected, rfl, rfl, (hst.exact hopen).trans hdrained⟩
      · have hclosed : host.localClosed = true := by
          rw [hst.localClosed]
          exact Bool.eq_true_of_not_eq_false hopen
        refine ⟨{ host with backlog := [] }, ?_, hst.connected, rfl, rfl, rfl⟩
        exact reachable_move (a := .hostDiscard) ht rfl (if_pos hclosed)
    obtain ⟨host₁, ht₁, hconnected, hlocal₁, hclosed₁, hbacklog⟩ := hdiscards
    have hwhy' : host₁.localClosed = true ∨ host₁.closed.isSome = true := by
      rw [hlocal₁, hst.localClosed, hclosed₁, hst.closed]
      rcases hwhy with hlocalClosed | hends
      · exact .inl hlocalClosed
      · rw [if_pos hends]
        exact .inr rfl
    refine ⟨host₁, ?_, nofun, ?_⟩
    · exact reachable_move (a := .hostReceiveFails) ht₁ rfl (if_pos ⟨hloop, hbacklog, hwhy'⟩)
    · intro r' hsome
      obtain rfl := Option.some.inj hsome
      refine ⟨hconnected, ?_, ?_, ?_, fun _ => hbacklog.trans hdrained'.symm⟩
      · rw [hlocal₁, hst.localClosed, hlocal]
      · rw [hclosed₁, hst.closed, hended]
      · rw [hdrained']
        exact List.nil_prefix

/-- `waitClosed` of the resource settles. -/
theorem follows_waitClosed (h : s.Sound L) {failed : Bool} {info : Option CloseInfo}
    (hsettle : s.shim.settle = .waiting failed) (hr : s.resource = some r)
    (hinfo : R.waitClosed r = some info) :
    s.Follows L { s with shim := { s.shim with settle := .resolved failed info } } := by
  obtain ⟨hsound, -⟩ := h.resource r hr
  refine ⟨⟨fun hnone => h.fresh hnone, h.pending, h.resource⟩, fun r info hr hinfo => ⟨r, hr, hinfo⟩, ?_⟩
  intro final host hright ht hstart hstands
  have hst := hstands r hr
  have hclosed : host.closed = some info := by
    rw [hst.closed, if_pos (L.waitClosed r info hsound hinfo), hright r hr info hinfo]
  refine ⟨host, ?_, hstart, hstands⟩
  refine reachable_move (a := .hostWaitResolves) ht rfl ?_
  simp only [Shim.move, State.hostWaitResolves, State.over]
  rw [hsettle, hclosed]

/-- What every move of the stack keeps. -/
theorem follows_of_step (h : s.Sound L) {a : StackAction R} (hs : stackStep R s a = some s') :
    s.Follows L s' := by
  cases a with
  | shim a =>
    simp only [stackStep] at hs
    split at hs
    · next hguard =>
      obtain ⟨shim, hstep, rfl⟩ := Option.map_eq_some_iff.mp hs
      rw [Bool.and_eq_true] at hguard
      exact follows_shim h hguard.1 hguard.2 hstep
    · cases hs
  | established protocol r hopened =>
    simp only [stackStep] at hs
    split at hs
    · next hnone =>
      obtain ⟨shim, hstep, rfl⟩ := Option.map_eq_some_iff.mp hs
      exact follows_established h hopened (Option.isNone_iff_eq_none.mp hnone) hstep
    · cases hs
  | move m =>
    obtain ⟨r, hr, hs⟩ := Option.bind_eq_some_iff.mp hs
    obtain ⟨r', hmove, rfl⟩ := Option.map_eq_some_iff.mp hs
    exact follows_move h hr hmove
  | sendSettled =>
    simp only [stackStep] at hs
    split at hs
    · obtain ⟨shim, hstep, rfl⟩ := Option.map_eq_some_iff.mp hs
      exact follows_sendSettled h hstep
    · cases hs
  | received =>
    simp only [stackStep, Stack.received] at hs
    split at hs
    · cases hs
    · next r hr =>
      split at hs
      · next hguard =>
        split at hs
        · next message hok =>
          obtain rfl := Option.some.inj hs
          exact follows_message h hr hguard.1 hok
        · next err herr =>
          obtain rfl := Option.some.inj hs
          exact follows_failure h hr hguard.1 herr
        · cases hs
      · cases hs
  | waitResolves =>
    simp only [stackStep, Stack.waitResolves] at hs
    split at hs
    · next failed info hsettle hwait =>
      obtain rfl := Option.some.inj hs
      obtain ⟨r, hr, hinfo⟩ := Option.bind_eq_some_iff.mp hwait
      exact follows_waitClosed h hsettle hr hinfo
    · cases hs

/-- The invariant holds in every run. -/
theorem stack_sound (L : R.Lawful) (h : (stack R).Reachable s) : s.Sound L := by
  refine System.Reachable.induction (I := Stack.Sound L) ?_ ?_ h
  · rintro s ⟨⟨url, hshim⟩, hnone⟩
    refine ⟨fun _ => ?_, ?_, ?_⟩
    · rw [hshim]
      exact ⟨nofun, nofun, rfl⟩
    · rw [hshim]
      exact nofun
    · rw [hnone]
      exact nofun
  · intro s a s' _ ih hs
    exact (follows_of_step ih hs).sound

/-- The close info with which the resource ends, as the prophecy. -/
def simulation (L : R.Lawful) : Prophecy (stack R) system (Option CloseInfo) where
  right final s := ∀ r, s.resource = some r → ∀ info, R.waitClosed r = some info → info = final
  rel final s t := ∃ host, t = s.shim.over host ∧ (s.resource = none → host = (State.start "").host) ∧
    ∀ r, s.resource = some r → Stands L final r host
  exists_right s _ := by
    cases hr : s.resource with
    | none => exact ⟨none, by rintro r ⟨⟩⟩
    | some r =>
      refine ⟨(R.waitClosed r).getD none, ?_⟩
      intro r' hsome info hinfo
      obtain rfl := Option.some.inj hsome
      rw [hinfo, Option.getD_some]
  before final s a s' hr hs hright r hsome info hinfo := by
    obtain ⟨r', hr', hinfo'⟩ := (follows_of_step (stack_sound L hr) hs).waitClosed r info hsome hinfo
    exact hright r' hr' info hinfo'
  init final s hs _ := by
    obtain ⟨⟨url, hshim⟩, hnone⟩ := hs
    refine ⟨State.start url, .of_init ⟨url, rfl⟩, (State.start "").host, ?_, fun _ => rfl, ?_⟩
    · rw [hshim]
      rfl
    · rw [hnone]
      exact nofun
  step final s t a s' hr hs hright ht hrel := by
    obtain ⟨host, rfl, hstart, hstands⟩ := hrel
    obtain ⟨host', ht', hstart', hstands'⟩ :=
      (follows_of_step (stack_sound L hr) hs).simulates final host hright ht hstart hstands
    exact ⟨_, ht', host', rfl, hstart', hstands'⟩

/-- Over every lawful resource the shim is, but for its host, in a state that it gets into over the assumed
host; whatever close info the resource may still end with, the assumed host has the messages that the
resource still delivers, and has been closed and torn down as the resource has. -/
theorem stack_simulates (L : R.Lawful) (h : (stack R).Reachable s) :
    (∃ final, (simulation L).right final s) ∧ ∀ final, (simulation L).right final s →
      ∃ host, system.Reachable (s.shim.over host) ∧
        ∀ r, s.resource = some r → Stands L final r host := by
  refine ⟨(simulation L).exists_right s h, fun final hright => ?_⟩
  obtain ⟨t, ht, host, rfl, -, hstands⟩ := (simulation L).simulates h final hright
  exact ⟨host, ht, hstands⟩

end Simulation

end Polymorph.Shim
