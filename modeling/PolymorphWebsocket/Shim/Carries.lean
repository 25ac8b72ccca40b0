import PolymorphWebsocket.Shim.EndToEnd
import PolymorphWebsocket.Transition.Traces

/-!
# The WHATWG shim over a WIT resource: where its messages come from and go to

A resource that is observed: its moves bring something, messages say, and it keeps account of what has come
in and of what the shim has handed to it.  `Carrier` is what such an account has to survive; then it holds in
every run of a WebSocket over the resource.  Each host says what its own account is.
-/

namespace Polymorph.Shim

open Transition

variable {ρ μ τ : Type} {R : Resource ρ μ}

/-- The messages that have been handed to `ws.send`. -/
def State.sentMessages (s : State) : List Message := s.hist.calls.filterMap fun
  | .send _ message => some message
  | .close _ _ => none

/-- What a move of a WebSocket brings. -/
def StackAction.brings (brings : μ → List τ) : StackAction R → List τ
  | .move m => brings m
  | .shim _ | .established _ _ _ | .sendSettled | .received | .waitResolves => []

/-- The WebSockets over a resource, with what its moves bring. -/
def carrying [DecidableEq τ] (R : Resource ρ μ) (brings : μ → List τ) :
    System (Stack ρ × List τ) (StackAction R × List τ) :=
  (stack R).traced fun _ a new => new = a.brings brings

/-- An account that a resource keeps: of the messages that the shim has got, of what its moves have brought,
of the messages that the shim has handed to `ws.send`, and of where the chain of `send` calls is. -/
structure Carrier (L : R.Lawful) (τ : Type) where
  brings : μ → List τ
  Carries : ρ → List Message → List τ → List Message → Stage → Prop
  opened : ∀ r stage, R.opened r → Carries r [] [] [] stage
  move : ∀ r m r' out arrived sends stage, L.Sound r → R.move r m = some r' →
    Carries r out arrived sends stage → Carries r' out (arrived ++ brings m) sends stage
  /-- `ws.send` is called while none of its promises is awaited, and then one is. -/
  send : ∀ r message out arrived sends stage, L.Sound r → R.idle r = true → stage ≠ .sending →
    Carries r out arrived sends stage → Carries (R.send r message) out arrived (sends ++ [message]) .sending
  /-- The promise of `ws.send` has settled. -/
  sent : ∀ r out arrived sends stage stage', L.Sound r → R.sent r = true →
    Carries r out arrived sends stage → Carries r out arrived sends stage'
  /-- The chain goes on, unless it leaves the message that it has handed over. -/
  stage : ∀ r out arrived sends stage stage', (stage = .sending → stage' = .sending) →
    Carries r out arrived sends stage → Carries r out arrived sends stage'
  receive : ∀ r out arrived sends stage, L.Sound r → R.idle r = true → L.receiving r = false →
    Carries r out arrived sends stage → Carries (R.receive r) out arrived sends stage
  /-- The shim gets the result of `receive`. -/
  collect : ∀ r result out arrived sends stage, L.Sound r → R.received r = some result →
    Carries r out arrived sends stage →
      Carries (R.collect r) (out ++ result.toOption.toList) arrived sends stage
  close : ∀ r code reason out arrived sends stage, L.Sound r → R.idle r = true →
    (HostCall.close code reason).Valid → Carries r out arrived sends stage →
      Carries (R.close r code reason) out arrived sends stage

namespace Carrier

variable {L : R.Lawful} (C : Carrier L τ) {s s' : Stack ρ} {arrived : List τ}

/-- A WebSocket and its resource are of one mind. -/
structure Holds (s : Stack ρ) (arrived : List τ) : Prop where
  fresh : s.resource = none → arrived = [] ∧ s.shim.hist.handedOut = [] ∧ s.shim.hist.accepted = []
  carries : ∀ r, s.resource = some r →
    C.Carries r s.shim.hist.handedOut arrived s.shim.sentMessages s.shim.stage

variable {C}

/-- The calls of a step of the shim. -/
theorem calls {r : ρ} {shim shim' : State} (hr : L.Sound r) (hidle : R.idle r = true)
    (h : C.Carries r shim.hist.handedOut arrived shim.sentMessages shim.stage) (hchains : Chains shim shim')
    (hcalls : shim.calling shim' = [] ∨ ∃ call, shim.calling shim' = [call] ∧ call.Valid) :
    C.Carries ((shim.calling shim').foldl R.call r) shim'.hist.handedOut arrived shim'.sentMessages
      shim'.stage := by
  have hsent : shim'.sentMessages = shim.sentMessages ++ (shim.calling shim').filterMap fun
      | .send _ message => some message
      | .close _ _ => none := by
    unfold State.sentMessages
    rw [hchains.calls, List.filterMap_append]
  rw [hsent, hchains.handedOut]
  rcases hcalls with hnone | ⟨call, hone, hvalid⟩
  · rw [hnone]
    rcases hchains.stage with ⟨id, message, hsend, -⟩ | ⟨-, hstage⟩
    · cases hnone.symm.trans hsend
    · rw [List.filterMap_nil, List.append_nil]
      exact C.stage _ _ _ _ _ _ hstage h
  · rw [hone]
    cases call with
    | send id message =>
      rcases hchains.stage with ⟨-, -, -, hbefore, hafter⟩ | ⟨hno, -⟩
      · rw [hafter]
        exact C.send _ _ _ _ _ _ hr hidle hbefore h
      · rw [hone] at hno
        cases hno
    | close code reason =>
      rcases hchains.stage with ⟨id, message, hsend, -⟩ | ⟨-, hstage⟩
      · cases hone.symm.trans hsend
      · rw [show List.filterMap _ [HostCall.close code reason] = ([] : List Message) from rfl, List.append_nil]
        exact C.stage _ _ _ _ _ _ hstage (C.close _ _ _ _ _ _ _ hr hidle hvalid h)

/-- A step of the shim with its calls, and with the `receive` that the loop waits for. -/
theorem next {r : ρ} {shim : State} (hres : s.resource = some r) (hr : L.Sound r) (hidle : R.idle r = true)
    (hreceiving : L.receiving r = true ↔ s.shim.loop = .receiving)
    (h : C.Carries r s.shim.hist.handedOut arrived s.shim.sentMessages s.shim.stage)
    (hchains : Chains s.shim shim)
    (hcalls : s.shim.calling shim = [] ∨ ∃ call, s.shim.calling shim = [call] ∧ call.Valid) :
    C.Holds (s.next R shim) arrived := by
  have hcalled := Resource.Lawful.called (L := L) hr hidle hcalls
  have hcarries := calls hr hidle h hchains hcalls
  have hnext : (s.next R shim).resource = some
      (if shim.loop = .receiving ∧ s.shim.loop ≠ .receiving then
        R.receive ((s.shim.calling shim).foldl R.call r)
      else (s.shim.calling shim).foldl R.call r) := by
    unfold Stack.next
    dsimp only
    rw [hres]
    rfl
  refine ⟨fun hnone => ?_, fun r' hr' => ?_⟩
  · cases hnext.symm.trans hnone
  · obtain rfl := Option.some.inj (hnext.symm.trans hr')
    split
    · next hnew =>
      have hnot : L.receiving ((s.shim.calling shim).foldl R.call r) = false := by
        rw [hcalled.receiving]
        exact Bool.eq_false_iff.mpr fun hyes => hnew.2 (hreceiving.mp hyes)
      exact C.receive _ _ _ _ _ hcalled.sound hcalled.idle hnot hcarries
    · exact hcarries

/-- Nothing has been handed to `ws.send` that has not been accepted. -/
theorem sentMessages_nil {shim : State} (h : shim.Ordered) (hnone : shim.hist.accepted = []) :
    shim.sentMessages = [] := by
  obtain ⟨gone, haccepted, handed, hsub, hforall⟩ := h.sent
  rw [hnone] at haccepted
  have hgone : gone = [] := (List.append_eq_nil_iff.mp haccepted.symm).1
  rw [hgone, List.sublist_nil] at hsub
  rw [hsub, List.forall₂_nil_left_iff] at hforall
  unfold State.sentMessages
  rw [List.filterMap_eq_nil_iff]
  intro call hmem
  cases call with
  | close => rfl
  | send id message =>
    have hsend : HostCall.send id message ∈ shim.sends := List.mem_filter.mpr ⟨hmem, rfl⟩
    rw [hforall] at hsend
    cases hsend

namespace Holds

/-- Every move keeps the two of one mind. -/
theorem step (h : C.Holds s arrived) (hr : (stack R).Reachable s) {a : StackAction R}
    (hs : stackStep R s a = some s') : C.Holds s' (arrived ++ a.brings C.brings) := by
  have hsound := stack_sound L hr
  cases a with
  | shim a =>
    rw [show (StackAction.shim a : StackAction R).brings C.brings = [] from rfl, List.append_nil]
    simp only [stackStep] at hs
    split at hs
    · next hguard =>
      obtain ⟨shim, hstep, rfl⟩ := Option.map_eq_some_iff.mp hs
      rw [Bool.and_eq_true] at hguard
      have hmove := move_of_step hstep
      have hchains := Chains.of_move hguard.1 hmove
      cases hres : s.resource with
      | none =>
        have hnone : (s.next R shim).resource = none := by
          unfold Stack.next
          dsimp only
          rw [hres]
          rfl
        obtain ⟨harrived, hout, haccepted⟩ := h.fresh hres
        refine ⟨fun _ => ⟨harrived, ?_, ?_⟩, fun r hsome => ?_⟩
        · exact hchains.handedOut.trans hout
        · exact (hchains.accepted (hsound.fresh hres).1).trans haccepted
        · cases hnone.symm.trans hsome
      | some r =>
        have hidle : R.idle r = true := by
          have hall := hguard.2
          unfold Stack.idle at hall
          rwa [hres, Option.all_some] at hall
        obtain ⟨hr', hreceiving⟩ := hsound.resource r hres
        exact next hres hr' hidle hreceiving (h.carries r hres) hchains (Over.of_move hguard.1 hmove).valid
    · cases hs
  | established protocol r hopened =>
    rw [show (StackAction.established protocol r hopened).brings C.brings = [] from rfl, List.append_nil]
    simp only [stackStep] at hs
    split at hs
    · next hnone =>
      obtain ⟨shim, hstep, rfl⟩ := Option.map_eq_some_iff.mp hs
      have hres : s.resource = none := Option.isNone_iff_eq_none.mp hnone
      obtain ⟨rfl, hout, haccepted⟩ := h.fresh hres
      obtain ⟨hr', -, -, -, hreceiving, hidle⟩ := L.opened r hopened
      obtain ⟨-, -, hvalid, -⟩ := established_over hstep hsound.pending
      have hloop : s.shim.loop ≠ .receiving := by
        rw [(hsound.fresh hres).2.2]
        rintro ⟨⟩
      refine next (s := { s with resource := some r }) rfl hr' hidle ?_ ?_
        (established_chains (move_of_step hstep)) hvalid
      · exact iff_of_false (Bool.eq_false_iff.mp hreceiving) hloop
      · rw [hout, sentMessages_nil (stack_ordered L hr) haccepted]
        exact C.opened r _ hopened
    · cases hs
  | move m =>
    obtain ⟨r, hres, hs⟩ := Option.bind_eq_some_iff.mp hs
    obtain ⟨r', hmove, rfl⟩ := Option.map_eq_some_iff.mp hs
    refine ⟨by rintro ⟨⟩, ?_⟩
    rintro _ ⟨⟩
    exact C.move _ _ _ _ _ _ _ (hsound.resource r hres).1 hmove (h.carries r hres)
  | sendSettled =>
    rw [show (StackAction.sendSettled : StackAction R).brings C.brings = [] from rfl, List.append_nil]
    simp only [stackStep] at hs
    split at hs
    · next hany =>
      obtain ⟨shim, hstep, rfl⟩ := Option.map_eq_some_iff.mp hs
      have hmove := move_of_step hstep
      simp only [Shim.move, State.sendSettled] at hmove
      split at hmove
      · obtain rfl := Option.some.inj hmove
        refine ⟨h.fresh, fun r hres => ?_⟩
        have hres' : s.resource = some r := hres
        rw [hres', Option.any_some, Bool.and_eq_true] at hany
        exact C.sent _ _ _ _ _ _ (hsound.resource r hres').1 hany.2 (h.carries r hres')
      · cases hmove
    · cases hs
  | received =>
    rw [show (StackAction.received : StackAction R).brings C.brings = [] from rfl, List.append_nil]
    simp only [stackStep, Stack.received] at hs
    split at hs
    · cases hs
    · next r hres =>
      split at hs
      · have hcollect (result : Except Error Message) (hresult : R.received r = some result) :=
          C.collect _ _ _ _ _ _ (hsound.resource r hres).1 hresult (h.carries r hres)
        split at hs
        · next message hok =>
          obtain rfl := Option.some.inj hs
          refine ⟨by rintro ⟨⟩, ?_⟩
          rintro _ ⟨⟩
          exact hcollect _ hok
        · next err herr =>
          obtain rfl := Option.some.inj hs
          refine ⟨by rintro ⟨⟩, ?_⟩
          rintro _ ⟨⟩
          have hfails := hcollect _ herr
          rwa [show (Except.error err : Except Error Message).toOption.toList = [] from rfl,
            List.append_nil] at hfails
        · cases hs
      · cases hs
  | waitResolves =>
    rw [show (StackAction.waitResolves : StackAction R).brings C.brings = [] from rfl, List.append_nil]
    simp only [stackStep, Stack.waitResolves] at hs
    split at hs
    · obtain rfl := Option.some.inj hs
      exact ⟨h.fresh, h.carries⟩
    · cases hs

end Holds

/-- A WebSocket and its resource are of one mind, in every run. -/
theorem holds_of_run [DecidableEq τ] (C : Carrier L τ) (h : (carrying R C.brings).Reachable (s, arrived)) :
    (stack R).Reachable s ∧ C.Holds s arrived := by
  have hkeeps := System.Reachable.traced_induction (I := fun s arrived => C.Holds s arrived) ?_ ?_ h
  · exact ⟨hkeeps.1.reachable, hkeeps.2⟩
  · rintro s ⟨⟨url, hshim⟩, hnone⟩
    refine ⟨fun _ => ⟨rfl, ?_, ?_⟩, fun r hsome => ?_⟩
    · rw [hshim]
      rfl
    · rw [hshim]
      rfl
    · cases hnone.symm.trans hsome
  · rintro s arrived a new s' hr hi rfl hs
    exact hi.step hr.reachable hs

end Carrier

/-! ### The messages that have been accepted -/

/-- The messages of calls that hand accepted messages over. -/
theorem forall_messages {entries : List Entry} (calls : List HostCall)
    (h : List.Forall₂ Entry.SentBy entries (calls.filter HostCall.isSend)) :
    List.Forall₂ (fun entry message => entry.SentBy (.send entry.id message)) entries
      (calls.filterMap fun
        | .send _ message => some message
        | .close _ _ => none) := by
  induction calls generalizing entries with
  | nil =>
    rw [List.forall₂_nil_right_iff.mp h]
    exact .nil
  | cons call calls ih =>
    cases call with
    | close => exact ih h
    | send id message =>
      obtain ⟨entry, rest, hsent, hrest, rfl⟩ := List.forall₂_cons_right_iff.mp h
      refine .cons ?_ (ih hrest)
      exact ⟨rfl, hsent.2⟩

/-- The first messages that have been handed over are messages that `send()` has accepted, in the order of the
calls and each at most once. -/
theorem State.Ordered.accepted {shim : State} (h : shim.Ordered) {messages : List Message}
    (hfirst : messages <+: shim.sentMessages) : ∃ entries, entries.Sublist shim.hist.accepted ∧
      List.Forall₂ (fun entry message => entry.SentBy (.send entry.id message)) entries messages := by
  obtain ⟨gone, haccepted, handed, hsub, hforall⟩ := h.sent
  have hall := forall_messages shim.hist.calls hforall
  obtain ⟨rest, hrest⟩ := hfirst
  refine ⟨handed.take messages.length, ?_, ?_⟩
  · rw [haccepted]
    exact ((List.take_sublist _ _).trans hsub).trans (List.sublist_append_left _ _)
  · have htake := List.forall₂_take messages.length hall
    rwa [show (shim.hist.calls.filterMap _) = _ from hrest.symm, List.take_left'] at htake
    rfl

end Polymorph.Shim
