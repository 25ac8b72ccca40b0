import PolymorphWebsocket.Shim.Lifecycle
import PolymorphWebsocket.Shim.Ordering
import PolymorphWebsocket.Shim.Resource

/-!
# The WHATWG shim over a WIT resource: what the application sees

Three things about a WebSocket over any lawful resource.  Its messages pass it in order, as they do over
the assumed host.  Its lifecycle is the one of the shim, with what the resource's `waitClosed` settles with
as the teardown, so that the close event reports this and nothing else.  And what its steps do to the chain
of `send` calls is said once, for the resources that want to know which of their messages came from where.
-/

namespace Polymorph.Shim

open Transition

/-! ### The chain -/

/-- What a step of the shim calls, and where that leaves the chain. -/
structure Chains (s s' : State) : Prop where
  handedOut : s'.hist.handedOut = s.hist.handedOut
  accepted : s.readyState ≠ .open → s'.hist.accepted = s.hist.accepted
  calls : s'.hist.calls = s.hist.calls ++ s.calling s'
  /-- `ws.send` is called while none of its promises is awaited, and then one is. -/
  stage : (∃ id message, s.calling s' = [.send id message] ∧ s.stage ≠ .sending ∧ s'.stage = .sending) ∨
    (s.calling s').filter HostCall.isSend = [] ∧ (s.stage = .sending → s'.stage = .sending)

namespace Chains

variable {s s' : State}

/-- A step without a call. -/
theorem of_silent (hout : s'.hist.handedOut = s.hist.handedOut)
    (haccepted : s.readyState ≠ .open → s'.hist.accepted = s.hist.accepted)
    (hcalls : s'.hist.calls = s.hist.calls) (hstage : s.stage = .sending → s'.stage = .sending) :
    Chains s s' := by
  have hnone : s.calling s' = [] := by
    unfold State.calling
    rw [hcalls, List.drop_length]
  refine ⟨hout, haccepted, ?_, .inr ⟨?_, hstage⟩⟩
  · rw [hnone, hcalls, List.append_nil]
  · rw [hnone]
    rfl

/-- A close of the resource. -/
theorem of_close {code : Option Nat} {reason : String} (hout : s'.hist.handedOut = s.hist.handedOut)
    (haccepted : s'.hist.accepted = s.hist.accepted)
    (hcalls : s'.hist.calls = s.hist.calls ++ [.close code reason]) (hstage : s'.stage = s.stage) :
    Chains s s' := by
  have hone : s.calling s' = [.close code reason] := by
    unfold State.calling
    rw [hcalls, List.drop_left]
  refine ⟨hout, fun _ => haccepted, ?_, .inr ⟨?_, hstage.trans⟩⟩
  · rw [hone]
    exact hcalls
  · rw [hone]
    rfl

/-- The first entry of the chain is handed over. -/
theorem hostSend (id : Nat) (message : Message) (hstage : s.stage ≠ .sending) :
    Chains s (s.hostSend id message) := by
  have hone : s.calling (s.hostSend id message) = [.send id message] := List.drop_left
  refine ⟨rfl, fun _ => rfl, ?_, .inl ⟨id, message, hone, hstage, rfl⟩⟩
  rw [hone]
  rfl

theorem send (data : Data) : Chains s (orUnchanged s (s.send data)) := by
  unfold State.send
  split
  · exact of_silent rfl (fun _ => rfl) rfl id
  · dsimp only
    split
    · exact of_silent rfl (fun _ => rfl) rfl id
    · next hopen => exact of_silent rfl (fun hne => absurd hne hopen) rfl id

theorem close (code : Option Nat) (reason : Option String) :
    Chains s (orUnchanged s (s.close code reason)) := by
  unfold State.close
  dsimp only
  split
  · exact of_silent rfl (fun _ => rfl) rfl id
  · split
    · exact of_silent rfl (fun _ => rfl) rfl id
    · split
      · exact of_silent rfl (fun _ => rfl) rfl id
      · exact of_silent rfl (fun _ => rfl) rfl id
      · exact of_silent rfl (fun _ => rfl) rfl id
      · exact of_close rfl rfl rfl rfl

/-- Every step that is the shim's own. -/
theorem of_move {a : Action} (ha : a.ofShim = true) (h : move s a = some s') : Chains s s' := by
  cases a with
  | send data =>
    obtain rfl := Option.some.inj h
    exact send data
  | close code reason =>
    obtain rfl := Option.some.inj h
    exact close code reason
  | setBinaryType binaryType =>
    obtain rfl := Option.some.inj h
    exact of_silent rfl (fun _ => rfl) rfl id
  | startLoops =>
    simp only [move, State.startLoops] at h
    split at h
    · obtain rfl := Option.some.inj h
      exact of_silent rfl (fun _ => rfl) rfl id
    · cases h
  | receiveAgain =>
    simp only [move, State.receiveAgain] at h
    split at h
    · obtain rfl := Option.some.inj h
      exact of_silent rfl (fun _ => rfl) rfl id
    · cases h
  | dispatchMessage =>
    simp only [move, State.dispatchMessage] at h
    split at h
    · obtain rfl := Option.some.inj h
      exact of_silent rfl (fun _ => rfl) rfl id
    · cases h
  | failed =>
    simp only [move, State.failed] at h
    split at h
    · split at h
      · obtain rfl := Option.some.inj h
        exact of_silent rfl (fun _ => rfl) rfl id
      · obtain rfl := Option.some.inj h
        exact of_silent rfl (fun _ => rfl) rfl id
    · cases h
  | failedCloses =>
    simp only [move, State.failedCloses] at h
    split at h
    · obtain rfl := Option.some.inj h
      exact of_silent rfl (fun _ => rfl) rfl id
    · cases h
  | runSend =>
    simp only [move, State.runSend] at h
    split at h
    · next entry rest hqueue hstage =>
      split at h
      · obtain rfl := Option.some.inj h
        exact hostSend _ _ (by rw [hstage]; decide)
      · obtain rfl := Option.some.inj h
        exact of_silent rfl (fun _ => rfl) rfl fun hsending => absurd (hstage.symm.trans hsending) (by decide)
    · cases h
  | blobRead bytes =>
    simp only [move, State.blobRead] at h
    split at h
    · next hstage =>
      obtain rfl := Option.some.inj h
      exact hostSend _ _ (by rw [hstage]; decide)
    · next hstage =>
      obtain rfl := Option.some.inj h
      exact of_silent rfl (fun _ => rfl) rfl fun hsending => absurd (hstage.symm.trans hsending) (by decide)
    · cases h
  | uncount =>
    simp only [move, State.uncount] at h
    split at h
    · next hstage =>
      obtain rfl := Option.some.inj h
      exact of_silent rfl (fun _ => rfl) rfl fun hsending => absurd (hstage.symm.trans hsending) (by decide)
    · cases h
  | settleRuns =>
    simp only [move, State.settleRuns] at h
    split at h
    · split at h
      · obtain rfl := Option.some.inj h
        exact of_silent rfl (fun _ => rfl) rfl id
      · split at h
        · obtain rfl := Option.some.inj h
          exact of_silent rfl (fun _ => rfl) rfl id
        · obtain rfl := Option.some.inj h
          exact of_silent rfl (fun _ => rfl) rfl id
    · cases h
  | settleCloses =>
    simp only [move, State.settleCloses] at h
    split at h
    · obtain rfl := Option.some.inj h
      exact of_silent rfl (fun _ => rfl) rfl id
    · cases h
  | established | sendSettled | hostReceive | hostReceiveFails | hostWaitResolves | hostArrive | hostDiscard
  | hostClose => cases ha

end Chains

/-- The handshake succeeds: nothing is sent. -/
theorem established_chains {s s' : State} {protocol : String} (h : s.established protocol = some s') :
    Chains s s' := by
  unfold State.established at h
  split at h
  · dsimp only at h
    split at h
    · obtain rfl := Option.some.inj h
      exact .of_close rfl rfl rfl rfl
    · obtain rfl := Option.some.inj h
      exact .of_silent rfl (fun _ => rfl) rfl id
  · cases h

/-! ### What holds over every lawful resource -/

section Lawful

variable {ρ μ : Type} {R : Resource ρ μ} {s s' : Stack ρ}

/-- The messages pass the shim in order. -/
theorem stack_ordered (L : R.Lawful) (h : (stack R).Reachable s) : s.shim.Ordered := by
  obtain ⟨⟨final, hright⟩, hsimulates⟩ := stack_simulates L h
  obtain ⟨host, ht, -⟩ := hsimulates final hright
  have hover := ordered ht
  exact ⟨hover.received, hover.sent, hover.resting, hover.reading, hover.started⟩

/-- The resource, as far as the lifecycle is concerned. -/
def Stack.host (R : Resource ρ μ) (s : Stack ρ) : Host where
  connected := s.resource.isSome
  backlog := []
  localClosed := false
  closed := s.resource.bind R.waitClosed

/-- The lifecycle of a WebSocket with its resource. -/
def Stack.life (R : Resource ρ μ) (s : Stack ρ) : Life := (s.shim.over (s.host R)).life

/-- The lifecycle goes on, or does not change. -/
theorem life_of_eq (hshim : s'.shim.life = { s.shim.life with
      connected := s'.shim.host.connected, closed := s'.shim.host.closed })
    (hsome : s'.resource.isSome = s.resource.isSome)
    (hclosed : s'.resource.bind R.waitClosed = s.resource.bind R.waitClosed) :
    (s.life R).Moves (s'.life R) := by
  have hsame : s'.life R = s.life R := by
    unfold Stack.life Stack.host
    rw [hsome, hclosed]
    unfold State.life at hshim
    simp only [Life.mk.injEq] at hshim
    obtain ⟨hready, hdeferred, hconnect, hsettle, hdispatched, -, -, hevents⟩ := hshim
    unfold State.life State.over
    rw [hready, hdeferred, hconnect, hsettle, hdispatched]
    exact congrArg _ hevents
  rw [hsame]
  exact .stays

/-- A step of the shim that leaves the resource as open as it was. -/
theorem life_next {shim : State} {host : Host} {a : Action}
    (hstep : step (s.shim.over (s.host R)) a = some (shim.over host))
    (hshim : s'.shim = shim) (hconnected : host.connected = s'.resource.isSome)
    (hclosed : host.closed = s'.resource.bind R.waitClosed) : (s.life R).Moves (s'.life R) := by
  have hmoves := life_moves hstep
  have hsame : (shim.over host).life = s'.life R := by
    unfold Stack.life Stack.host State.life State.over
    rw [hshim, ← hconnected, ← hclosed]
    rfl
  rwa [hsame] at hmoves

/-- The calls of a step, and a `receive`, do not end the resource. -/
theorem waitClosed_next {shim : State} {L : R.Lawful} (hsound : ∀ r, s.resource = some r → L.Sound r ∧
      R.idle r = true ∧ (L.receiving r = true ↔ s.shim.loop = .receiving))
    (hcalls : s.shim.calling shim = [] ∨ ∃ call, s.shim.calling shim = [call] ∧ call.Valid)
    (hloop : s.shim.loop = .receiving → shim.loop = .receiving) :
    (s.next R shim).resource.isSome = s.resource.isSome ∧
      (s.next R shim).resource.bind R.waitClosed = s.resource.bind R.waitClosed := by
  cases hr : s.resource with
  | none =>
    unfold Stack.next
    dsimp only
    rw [hr]
    exact ⟨rfl, rfl⟩
  | some r =>
    obtain ⟨hr', hidle, hreceiving⟩ := hsound r hr
    obtain ⟨r₁, r', hnext, hcalled, hsame, -, -⟩ := next_resource hr' hidle hreceiving hr hcalls hloop
    rw [hnext]
    exact ⟨rfl, hsame.waitClosed.trans hcalled.waitClosed⟩

/-- Every move of the stack is one of the lifecycle. -/
theorem life_of_step (L : R.Lawful) (h : s.Sound L) {a : StackAction R} (hs : stackStep R s a = some s') :
    (s.life R).Moves (s'.life R) := by
  cases a with
  | shim a =>
    simp only [stackStep] at hs
    split at hs
    · next hguard =>
      obtain ⟨shim, hstep, rfl⟩ := Option.map_eq_some_iff.mp hs
      rw [Bool.and_eq_true] at hguard
      have hover := Over.of_move hguard.1 (move_of_step hstep)
      have hown := Own.of_move hguard.1 (move_of_step hstep)
      have hvalid := hover.valid
      have hidle (r : ρ) (hr : s.resource = some r) : L.Sound r ∧ R.idle r = true ∧
          (L.receiving r = true ↔ s.shim.loop = .receiving) := by
        have hall := hguard.2
        unfold Stack.idle at hall
        rw [hr, Option.all_some] at hall
        exact ⟨(h.resource r hr).1, hall, (h.resource r hr).2⟩
      obtain ⟨hsome, hclosed⟩ := waitClosed_next hidle hvalid hown.loop
      exact life_next (step_over hstep (hover.step _)) rfl hsome.symm hclosed.symm
    · cases hs
  | established protocol r hopened =>
    simp only [stackStep] at hs
    split at hs
    · next hnone =>
      obtain ⟨shim, hstep, rfl⟩ := Option.map_eq_some_iff.mp hs
      have hr : s.resource = none := Option.isNone_iff_eq_none.mp hnone
      obtain ⟨hsound, -, -, hended, hreceiving, hidle⟩ := L.opened r hopened
      obtain ⟨hloop, -, hvalid, hover⟩ := established_over hstep h.pending
      have hidleLoop : s.shim.loop = .idle := (h.fresh hr).2.2
      have hkeeps := waitClosed_next (s := { s with resource := some r }) (L := L) ?_ hvalid
        (fun hl => hloop.trans hl)
      · obtain ⟨hsome, hclosed⟩ := hkeeps
        refine life_next (hover _) rfl hsome.symm ?_
        rw [hclosed]
        show s.resource.bind R.waitClosed = R.waitClosed r
        rw [hr]
        cases hwait : R.waitClosed r with
        | none => rfl
        | some info => cases hended.symm.trans (L.waitClosed r info hsound hwait)
      · intro r' hsome
        obtain rfl := Option.some.inj hsome
        refine ⟨hsound, hidle, iff_of_false (Bool.eq_false_iff.mp hreceiving) ?_⟩
        show s.shim.loop ≠ .receiving
        rw [hidleLoop]
        rintro ⟨⟩
    · cases hs
  | move m =>
    obtain ⟨r, hr, hs⟩ := Option.bind_eq_some_iff.mp hs
    obtain ⟨r', hmove, rfl⟩ := Option.map_eq_some_iff.mp hs
    obtain ⟨-, hkeeps⟩ := L.move r m r' (h.resource r hr).1 hmove
    have hlife (info : Option (Option CloseInfo)) (hinfo : R.waitClosed r' = info) :
        Stack.life R { s with resource := some r' } = { s.life R with closed := info } := by
      unfold Stack.life Stack.host State.life State.over
      dsimp only
      rw [hr, Option.bind_some, hinfo]
      rfl
    have hsame : s.life R = { s.life R with closed := R.waitClosed r } := by
      unfold Stack.life Stack.host State.life State.over
      rw [hr]
      rfl
    cases hwait : R.waitClosed r with
    | some info =>
      rw [hlife (some info) (hkeeps.waitClosed info hwait), ← hwait, ← hsame]
      exact .stays
    | none =>
      have hopen : (s.life R).closed = none := by rw [hsame, hwait]
      cases hwait' : R.waitClosed r' with
      | none =>
        rw [hlife none hwait', ← hwait, ← hsame]
        exact .stays
      | some info =>
        rw [hlife (some info) hwait']
        refine .tearsDown info ?_ hopen
        show s.resource.isSome = true
        rw [hr]
        rfl
  | sendSettled =>
    simp only [stackStep] at hs
    split at hs
    · obtain ⟨shim, hstep, rfl⟩ := Option.map_eq_some_iff.mp hs
      have hmove := move_of_step hstep
      simp only [Shim.move, State.sendSettled] at hmove
      split at hmove
      · obtain rfl := Option.some.inj hmove
        exact .stays
      · cases hmove
    · cases hs
  | received =>
    simp only [stackStep, Stack.received] at hs
    split at hs
    · cases hs
    · next r hr =>
      split at hs
      · have hcollect (result : Except Error Message) (hresult : R.received r = some result) :
            (some (R.collect r)).bind R.waitClosed = s.resource.bind R.waitClosed := by
          rw [hr]
          exact (L.collect r result (h.resource r hr).1 hresult).2.2.2.2
        split at hs
        · next message hok =>
          obtain rfl := Option.some.inj hs
          exact life_of_eq rfl (by rw [hr]; rfl) (hcollect _ hok)
        · next err herr =>
          obtain rfl := Option.some.inj hs
          exact life_of_eq rfl (by rw [hr]; rfl) (hcollect _ herr)
        · cases hs
      · cases hs
  | waitResolves =>
    simp only [stackStep, Stack.waitResolves] at hs
    split at hs
    · next failed info hsettle hwait =>
      obtain rfl := Option.some.inj hs
      exact .resolves hsettle hwait
    · cases hs

/-- In every run the lifecycle is at one of its stages. -/
theorem stack_staged (L : R.Lawful) (h : (stack R).Reachable s) : (s.life R).Staged := by
  refine System.Reachable.induction (I := fun s => (s.life R).Staged) ?_ ?_ h
  · rintro s ⟨⟨url, hshim⟩, hnone⟩
    have hstart : s.life R = (State.start url).life := by
      unfold Stack.life Stack.host
      rw [hshim, hnone]
      rfl
    rw [hstart]
    exact life_staged (.of_init ⟨url, rfl⟩)
  · intro s a s' hr ih hs
    exact ih.moves (life_of_step L (stack_sound L hr) hs)

/-- What a close event says is what the resource has ended with, or that there never was one. -/
theorem stack_close (L : R.Lawful) (h : (stack R).Reachable s) {wasClean : Bool} {code : UInt16}
    {reason : String} {readyState : ReadyState}
    (hmem : (.close wasClean code reason, readyState) ∈ s.shim.hist.events) :
    (s.resource = none ∧ (⟨wasClean, code, reason⟩ : Report) = Report.of false none) ∨
      ∃ info, s.resource.bind R.waitClosed = some info ∧
        (⟨wasClean, code, reason⟩ : Report) = Report.of s.shim.pendingClose.isSome info := by
  have hevents : ((⟨wasClean, code, reason⟩ : Report).event, readyState) ∈ s.shim.lifecycle :=
    event_mem_lifecycle.mp hmem
  have hnotOpened (deferred : Bool) :
      ¬ ((⟨wasClean, code, reason⟩ : Report).event, readyState) ∈ opened deferred := by
    unfold opened
    cases deferred with
    | true => exact List.not_mem_nil
    | false =>
      intro hone
      cases List.mem_singleton.mp hone
  have hreport {report : Report}
      (hone : ((⟨wasClean, code, reason⟩ : Report).event, readyState) ∈ report.events) :
      (⟨wasClean, code, reason⟩ : Report) = report := by
    unfold Report.events at hone
    split at hone
    · exact event_injective (Prod.mk.inj (List.mem_singleton.mp hone)).1
    · rcases List.mem_cons.mp hone with herror | hone
      · cases herror
      · exact event_injective (Prod.mk.inj (List.mem_singleton.mp hone)).1
  cases stack_staged L h with
  | connecting _ _ _ hnone =>
    rw [show s.shim.lifecycle = [] from hnone] at hevents
    cases hevents
  | opening _ _ _ _ hopened =>
    rw [show s.shim.lifecycle = opened false from hopened] at hevents
    exact absurd hevents (hnotOpened false)
  | failing _ _ _ herror =>
    rw [show s.shim.lifecycle = [(.error, .closed)] from herror] at hevents
    cases List.mem_singleton.mp hevents
  | failed _ hconnected _ hfailed =>
    rw [show s.shim.lifecycle = (Report.of false none).events from hfailed] at hevents
    have hnone : s.resource = none := by
      rw [← Option.not_isSome_iff_eq_none]
      exact Bool.eq_false_iff.mp hconnected
    exact .inl ⟨hnone, hreport hevents⟩
  | waiting _ _ _ _ hopened =>
    rw [show s.shim.lifecycle = opened (s.life R).deferred from hopened] at hevents
    exact absurd hevents (hnotOpened _)
  | erring _ _ _ _ _ _ herror =>
    rw [show s.shim.lifecycle = opened (s.life R).deferred ++ [(.error, .closed)] from herror] at hevents
    rcases List.mem_append.mp hevents with hopened | herror
    · exact absurd hopened (hnotOpened _)
    · cases List.mem_singleton.mp herror
  | @done _ _ _ info hclosed _ hdone _ =>
    rw [show s.shim.lifecycle = opened (s.life R).deferred ++
      (Report.of (s.life R).deferred info).events from hdone] at hevents
    rcases List.mem_append.mp hevents with hopened | hlast
    · exact absurd hopened (hnotOpened _)
    · exact .inr ⟨info, hclosed, hreport hlast⟩

end Lawful

end Polymorph.Shim
