import PolymorphWebsocket.Shim.Resource
import PolymorphWebsocket.Host.Echoed

/-!
# The WHATWG shim over the wasmtime host

A component with the shim, run by the wasmtime host.  The host's side is a connection with its readers, of
which the shim has at most one, and the promises that its calls have returned.  It is a lawful resource, so
that the shim does over it what it does over the host that it assumes.

From there both ways through the component: what the peer sends comes out as message events, and what
`send()` accepts goes to the peer, in order and without a hole.
-/

namespace Polymorph.Host

open Futures Transition

/-! ### The promises of the shim -/

/-- A connection, with the calls of the shim on it. -/
structure Session where
  readers : Receiving
  /-- The last `send` call. -/
  sending : Option Nat
  /-- The `receive` call whose promise is not done with. -/
  receiving : Option Nat

namespace Session

variable (x : Session)

/-- The connection. -/
def conn : State := x.readers.conn

/-- A call of the shim. -/
def calls (a : ReceivingAction) : Receiving := (receivingStep x.readers a).getD x.readers

/-- The moves that are not calls of the guest: those of the pump, of the transport, of the clock, and what
remains of a call that has been made. -/
def ofHost : ReceivingAction → Bool
  | .conn action => !action.isCall
  | .pollReceive _ | .release => true
  | .receive | .receiveViaStream | .cancelReceive _ | .pollStream | .dropStream => false

/-- What the `receive` call has returned. -/
def received : Option (Except Error Message) := x.receiving.bind fun id => List.lookup id x.readers.received

/-- The result, if it is a message. -/
def message : List Message := (x.received.bind Except.toOption).toList

end Session

/-- The wasmtime host, as the shim uses it. -/
def resource : Shim.Resource Session ReceivingAction where
  opened x := receivingSystem.init x.readers ∧ x.sending = none ∧ x.receiving = none
  move x a :=
    if Session.ofHost a then (receivingStep x.readers a).map fun readers => { x with readers := readers }
    else none
  idle x := x.conn.calls.unreleased.isNone
  send x message :=
    { x with readers := x.calls (.conn (.send message)), sending := some x.conn.calls.nextId }
  sent x := x.sending.any fun id => id ∈ x.conn.hist.replies.map Prod.fst
  receive x := { x with readers := x.calls .receive, receiving := some x.readers.nextReceive }
  received := Session.received
  collect x := { x with receiving := none }
  close x code reason := { x with readers := x.calls (.conn (.close (code.map UInt16.ofNat) reason)) }
  waitClosed x := if x.conn.shared.closed then x.conn.shared.closeInfo else none

/-! ### What the shim sees -/

/-- The messages that `receive` still gets: the one it has returned, and, unless the guest has closed the
connection, those that a reader has taken or that are queued. -/
def Session.deliverable (x : Session) : List Message :=
  x.message ++ if x.conn.shared.localClosed then [] else x.conn.waiting

/-- The invariant. -/
structure Session.Sound (x : Session) : Prop where
  reachable : receivingSystem.Reachable x.readers
  kept : x.conn.calls.dropped = false
  unclaimed : x.readers.streamReceiving = false ∧ x.readers.producing = false
  /-- The only reader is the `receive` call that has not returned. -/
  waiting : x.readers.waiting = if x.received.isNone then x.receiving.toList else []
  made : (∀ id ∈ x.receiving, id < x.readers.nextReceive) ∧
    ∀ result ∈ x.readers.received, result.1 < x.readers.nextReceive
  taken : x.conn.calls.unreleased.isSome = true → x.conn.shared.localClosed = false ∧
    ∃ id, x.receiving = some id ∧ x.readers.lock = some (.receive id)
  failed : ∀ err, x.received = some (.error err) → x.conn.shared.localClosed = true ∨
    x.conn.shared.queue.senderLive = false ∧ x.conn.waiting = []

/-- What the shim sees of a session. -/
def Session.view : Shim.Resource.View Session where
  Sound := Session.Sound
  deliverable := Session.deliverable
  localClosed x := x.conn.shared.localClosed
  ended x := !x.conn.shared.queue.senderLive
  receiving x := x.receiving.isSome

/-! ### What a step of the connection keeps -/

section Steps

variable {s s' : State} {a : Action}

/-- A queue that has ended stays so. -/
theorem ended_of_step (hr : system.Reachable s) (h : step s a = some s')
    (hended : s.shared.queue.senderLive = false) : s'.shared.queue.senderLive = false := by
  have hstage : 3 ≤ s.stage := by
    by_contra hlt
    exact absurd (hended.symm.trans (senderLive_of_stage hr (by omega))) nofun
  have hle := (stage_step hr h).1
  exact (end_sound (hr.next h)).ended (by omega)

/-- Nothing is queued once the queue has ended. -/
theorem queues_of_ended (hr : system.Reachable s) (hended : s.shared.queue.senderLive = false) :
    s.queues a = [] := by
  unfold State.queues
  split
  · cases hpc : s.pump.pc with
    | counted message =>
      have hstage : s.stage ≤ 2 := by
        unfold State.stage
        rw [hpc]
        exact Nat.zero_le 2
      exact absurd (hended.symm.trans (senderLive_of_stage hr hstage)) nofun
    | select | resolved | reserved | writing | finalize | done => rfl
  · rfl

/-- Once `closed` has fired, the close info stays. -/
theorem closeInfo_of_step (hr : system.Reachable s) (h : step s a = some s')
    (hclosed : s.shared.closed = true) :
    s'.shared.closed = true ∧ s'.shared.closeInfo = s.shared.closeInfo := by
  have hstage := (end_sound hr).closed.mp hclosed
  have hdone : s.pump.pc = .done := by
    unfold State.stage at hstage
    cases hpc : s.pump.pc with
    | finalize stage =>
      rw [hpc] at hstage
      cases stage <;> exact absurd hstage (by decide)
    | done => rfl
    | select | resolved | reserved | counted | writing =>
      rw [hpc] at hstage
      exact absurd hstage (Nat.not_succ_le_zero 7)
  cases step_kind h with
  | poll hp =>
    rw [State.poll, hdone] at hp
    cases hp
  | write ha hw =>
    obtain ⟨write, bound, next, hpc⟩ := writing_of_step hw ha
    cases hdone.symm.trans hpc
  | outer hm =>
    rw [OuterFrame.of_move hm]
    exact ⟨hclosed, rfl⟩

/-- The resource is dropped by its `drop` alone. -/
theorem dropped_of_step (h : step s a = some s') (ha : a ≠ .drop) : s'.calls.dropped = s.calls.dropped := by
  cases step_kind h with
  | poll hp => rw [PollFrame.poll hp]
  | write hw hs => rw [WriteFrame.step hs hw]
  | outer hm =>
    cases hm with
    | send message =>
      unfold State.callSend
      dsimp only
      split <;> rfl
    | enqueue =>
      unfold State.enqueue
      dsimp only
      split <;> rfl
    | close code reason =>
      rcases callClose_cases s code reason with ⟨-, hk⟩ | ⟨-, -, hk⟩
      · rw [hk]
      · rw [hk]
        rfl
    | enqueueClose =>
      unfold State.enqueueClose
      dsimp only
      split <;> rfl
    | drop => exact absurd rfl ha
    | dropSenders | reader | arrive | tick => rfl

end Steps

/-! ### The session is a lawful resource -/

namespace Session

variable {x x' : Session}

theorem message_of_ok {m : Message} (h : x.received = some (.ok m)) : x.message = [m] := by
  unfold message
  rw [h]
  rfl

theorem message_of_error {err : Error} (h : x.received = some (.error err)) : x.message = [] := by
  unfold message
  rw [h]
  rfl

theorem message_of_none (h : x.received = none) : x.message = [] := by
  unfold message
  rw [h]
  rfl

/-- The connection is reachable. -/
theorem Sound.conn (h : x.Sound) : system.Reachable x.conn := conn_reachable h.reachable

/-- The reader that has taken a message is the one that waits. -/
theorem Sound.unreturned (h : x.Sound) (htaken : x.conn.calls.unreleased.isSome = true) :
    x.received = none := by
  obtain ⟨-, id, hid, hlock⟩ := h.taken htaken
  have hmem := (lock_sound h.reachable).receive id hlock
  rw [h.waiting] at hmem
  split at hmem
  · next hnone => exact Option.isNone_iff_eq_none.mp hnone
  · cases hmem

/-- A move of the connection that is not a call of the guest. -/
theorem Sound.step (h : x.Sound) {action : Action} (hreader : action.isReader = false)
    (hcall : action.isCall = false) {conn : State} (hs : step x.conn action = some conn) :
    ({ x with readers := { x.readers with conn := conn } } : Session).Sound ∧
      resource.Keeps view x { x with readers := { x.readers with conn := conn } } := by
  have hr := h.conn
  have hrelease : action ≠ .release := by
    rintro rfl
    cases hreader
  have hlocal : conn.shared.localClosed = x.conn.shared.localClosed := by
    have hcloses : x.conn.closes action = false := by
      cases action with
      | close | drop => cases hcall
      | _ => rfl
    rw [localClosed_of_step hs, hcloses, Bool.or_false]
  have hunreleased : conn.calls.unreleased = x.conn.calls.unreleased := unreleased_of_step hs hreader
  have hwaiting : conn.waiting = x.conn.waiting ++ x.conn.queues action := by
    have hconveys := (conveys_of_step hr hs).waiting
    unfold State.hands at hconveys
    rwa [if_neg hrelease, List.nil_append] at hconveys
  have hstep : receivingStep x.readers (.conn action) = some { x.readers with conn := conn } := by
    simp only [receivingStep]
    rw [hreader, hcall, if_neg Bool.false_ne_true, if_neg Bool.false_ne_true,
      show Host.step x.readers.conn action = some conn from hs]
    rfl
  constructor
  · refine ⟨h.reachable.next (a := .conn action) hstep, ?_, h.unclaimed, h.waiting, h.made, ?_, ?_⟩
    · have hdrop : action ≠ .drop := by
        rintro rfl
        cases hcall
      exact (dropped_of_step hs hdrop).trans h.kept
    · intro htaken
      have htaken' := h.taken (by rw [← hunreleased]; exact htaken)
      exact ⟨hlocal.trans htaken'.1, htaken'.2⟩
    · intro err herr
      rcases h.failed err herr with hclosed | ⟨hended, hempty⟩
      · exact .inl (hlocal.trans hclosed)
      · refine .inr ⟨ended_of_step hr hs hended, ?_⟩
        show conn.waiting = []
        rw [hwaiting, hempty, queues_of_ended hr hended]
        rfl
  · refine ⟨?_, hlocal, ?_, rfl, ?_⟩
    · by_cases hclosed : x.conn.shared.localClosed = true
      · refine ⟨[], ?_, fun hne => absurd rfl hne⟩
        show x.message ++ (if conn.shared.localClosed = true then [] else conn.waiting) = x.deliverable ++ []
        unfold deliverable
        rw [hlocal, if_pos hclosed, if_pos hclosed, List.append_nil, List.append_nil]
      · refine ⟨x.conn.queues action, ?_, fun hne => ⟨Bool.eq_false_iff.mpr hclosed, ?_⟩⟩
        · show x.message ++ (if conn.shared.localClosed = true then [] else conn.waiting) =
            x.deliverable ++ x.conn.queues action
          unfold deliverable
          rw [hlocal, if_neg hclosed, if_neg hclosed, hwaiting, List.append_assoc]
        · show (!x.conn.shared.queue.senderLive) = false
          by_contra hended
          rw [Bool.not_eq_false, Bool.not_eq_true'] at hended
          exact hne (queues_of_ended hr hended)
    · intro hended
      exact congrArg not (ended_of_step hr hs (by rwa [← Bool.not_eq_true']))
    · intro info hinfo
      have hinfo' : (if x.conn.shared.closed = true then x.conn.shared.closeInfo else none) = some info := hinfo
      split at hinfo'
      · next hclosed =>
        obtain ⟨hclosed', hsame⟩ := closeInfo_of_step hr hs hclosed
        show (if conn.shared.closed = true then conn.shared.closeInfo else none) = some info
        rw [if_pos hclosed', hsame]
        exact hinfo'
      · cases hinfo'

/-- The only `receive` call that waits is the shim's. -/
theorem Sound.of_waiting (h : x.Sound) {id : Nat} (hid : id ∈ x.readers.waiting) :
    x.receiving = some id ∧ x.received = none ∧ x.readers.waiting = [id] := by
  rw [h.waiting] at hid
  split at hid
  · next hnone =>
    have hsome : x.receiving = some id := Option.mem_toList.mp hid
    refine ⟨hsome, Option.isNone_iff_eq_none.mp hnone, ?_⟩
    rw [h.waiting, if_pos hnone, hsome]
    rfl
  · cases hid

/-- The call returns. -/
theorem received_answer {id : Nat} {t : Receiving} (result : Except Error Message)
    (ht : t.received = x.readers.received) (hid : x.receiving = some id) (hnone : x.received = none) :
    ({ x with readers := t.answer id result } : Session).received = some result := by
  unfold received at hnone ⊢
  rw [hid] at hnone ⊢
  have hold : List.lookup id t.received = none := by
    rw [ht]
    exact hnone
  calc List.lookup id (t.received ++ [(id, result)])
      = (List.lookup id t.received).or (List.lookup id [(id, result)]) := List.lookup_append
    _ = some result := by rw [hold, Option.none_or, List.lookup_cons_self]

/-- The call returns, and nothing waits any more. -/
theorem Sound.answer (h : x.Sound) {id : Nat} {t : Receiving} (result : Except Error Message)
    (ht : t = { x.readers with conn := t.conn }) (hid : id ∈ x.readers.waiting) {a : ReceivingAction}
    (hstep : receivingStep x.readers a = some (t.answer id result))
    (hkept : t.conn.calls.dropped = x.conn.calls.dropped) (hidle : t.conn.calls.unreleased = none)
    (hfailed : ∀ err, result = .error err → t.conn.shared.localClosed = true ∨
      t.conn.shared.queue.senderLive = false ∧ t.conn.waiting = []) :
    ({ x with readers := t.answer id result } : Session).Sound := by
  obtain ⟨hreceiving, hnone, hwaiting⟩ := h.of_waiting hid
  have hreceived := received_answer (t := t) result (by rw [ht]) hreceiving hnone
  refine ⟨h.reachable.next hstep, hkept.trans h.kept, ?_, ?_, ?_, ?_, ?_⟩
  · rw [ht]
    exact h.unclaimed
  · rw [hreceived]
    show t.waiting.erase id = []
    rw [ht]
    show x.readers.waiting.erase id = []
    rw [hwaiting]
    simp
  · rw [ht]
    refine ⟨h.made.1, fun result' hmem => ?_⟩
    rcases List.mem_append.mp hmem with hold | hnew
    · exact h.made.2 result' hold
    · obtain rfl := List.mem_singleton.mp hnew
      exact h.made.1 id hreceiving
  · intro htaken
    rw [show Session.conn { x with readers := t.answer id result } = t.conn from rfl, hidle] at htaken
    cases htaken
  · intro err herr
    rw [hreceived] at herr
    exact hfailed err (Option.some.inj herr)

/-- The call waits on, with the lock or a message of its own. -/
theorem Sound.waits (h : x.Sound) {id : Nat} (hid : id ∈ x.readers.waiting) {conn : State}
    (lock : Option Holder) {a : ReceivingAction}
    (hstep : receivingStep x.readers a = some { x.readers with conn := conn, lock := lock })
    (hkept : conn.calls.dropped = x.conn.calls.dropped)
    (hshared : conn.shared.localClosed = x.conn.shared.localClosed ∧
      conn.shared.closed = x.conn.shared.closed ∧ conn.shared.closeInfo = x.conn.shared.closeInfo ∧
      conn.shared.queue.senderLive = x.conn.shared.queue.senderLive)
    (hwaiting : conn.waiting = x.conn.waiting)
    (htaken : conn.calls.unreleased.isSome = true →
      x.conn.shared.localClosed = false ∧ lock = some (.receive id)) :
    ({ x with readers := { x.readers with conn := conn, lock := lock } } : Session).Sound ∧
      resource.Keeps view x { x with readers := { x.readers with conn := conn, lock := lock } } := by
  obtain ⟨hreceiving, hnone, -⟩ := h.of_waiting hid
  obtain ⟨hlocal, hclosed, hinfo, hlive⟩ := hshared
  constructor
  · refine ⟨h.reachable.next (a := a) hstep, hkept.trans h.kept, h.unclaimed, h.waiting, h.made, ?_, ?_⟩
    · intro hsome
      obtain ⟨hopen, hlock⟩ := htaken hsome
      exact ⟨hlocal.trans hopen, id, hreceiving, hlock⟩
    · intro err herr
      cases hnone.symm.trans herr
  · refine ⟨⟨[], ?_, fun hne => absurd rfl hne⟩, hlocal, fun hended => ?_, rfl, fun info hsome => ?_⟩
    · show x.message ++ (if conn.shared.localClosed = true then [] else conn.waiting) = x.deliverable ++ []
      rw [hlocal, hwaiting, List.append_nil]
      rfl
    · exact (congrArg not hlive).trans hended
    · show (if conn.shared.closed = true then conn.shared.closeInfo else none) = some info
      rw [hclosed, hinfo]
      exact hsome

/-- A poll of the `receive` call. -/
theorem Sound.pollReceive (h : x.Sound) {id : Nat} {readers : Receiving}
    (hs : receivingStep x.readers (.pollReceive id) = some readers) :
    ({ x with readers := readers } : Session).Sound ∧ resource.Keeps view x { x with readers := readers } := by
  have hstep := hs
  obtain ⟨hidle, hs⟩ := turn_eq_some.mp hs
  split at hs
  · next hid =>
    obtain ⟨hreceiving, hnone, hwaiting⟩ := h.of_waiting hid
    have hnotTaken : x.conn.calls.unreleased.isSome = true → x.conn.shared.localClosed = false ∧
        x.readers.lock = some (.receive id) := by
      intro hsome
      rw [show x.conn.calls.unreleased = none from hidle] at hsome
      cases hsome
    -- a call that fails shows the shim nothing but its error
    have hfails (err : Error) (hr : x.readers.answer id (.error err) = readers)
        (hwhy : x.conn.shared.localClosed = true ∨
          x.conn.shared.queue.senderLive = false ∧ x.conn.waiting = []) :
        ({ x with readers := readers } : Session).Sound ∧
          resource.Keeps view x { x with readers := readers } := by
      subst hr
      have hsound := h.answer (t := x.readers) (.error err) rfl hid hstep rfl hidle fun _ _ => hwhy
      have hreceived := received_answer (t := x.readers) (.error err) rfl hreceiving hnone
      refine ⟨hsound, ⟨[], ?_, fun hne => absurd rfl hne⟩, rfl, fun hended => hended, rfl,
        fun _ hinfo => hinfo⟩
      show message _ ++ _ = x.message ++ _ ++ []
      rw [message_of_error hreceived, message_of_none hnone, List.append_nil]
      rfl
    unfold Receiving.pollReceive at hs
    rw [h.unclaimed.1, if_neg Bool.false_ne_true] at hs
    split at hs
    · next hlocal => exact hfails .closed (Option.some.inj hs) (.inl hlocal)
    · next hlocal =>
      have hopen : x.conn.shared.localClosed = false := Bool.eq_false_iff.mpr hlocal
      unfold Receiving.nextInbound at hs
      split at hs
      · split at hs
        · next message hnext =>
          -- the message changes hands on the host's side
          obtain ⟨conn, htake, rfl⟩ := Option.map_eq_some_iff.mp hs
          have hconveys := (conveys_of_step h.conn htake).waiting
          have hwaits : conn.waiting = x.conn.waiting := by
            rw [show x.conn.hands .take = [] from rfl, show x.conn.queues .take = [] from rfl,
              List.append_nil] at hconveys
            exact hconveys
          have hlive := senderLive_of_reader (.inl rfl) htake
          have hlocal' : conn.shared.localClosed = x.conn.shared.localClosed :=
            (localClosed_of_step htake).trans (Bool.or_false _)
          have hkept := dropped_of_step htake (by rintro ⟨⟩)
          have hsame : conn.shared.closed = x.conn.shared.closed ∧
              conn.shared.closeInfo = x.conn.shared.closeInfo := by
            cases step_kind htake with
            | write ha => rcases ha with ha | ha | ⟨err, ha⟩ | ha <;> cases ha
            | outer hm =>
              rw [OuterFrame.of_move hm]
              exact ⟨rfl, rfl⟩
          exact h.waits hid _ hstep hkept ⟨hlocal', hsame.1, hsame.2, hlive⟩ hwaits fun _ => ⟨hopen, rfl⟩
        · next hend =>
          obtain ⟨hitems, hended, -, -⟩ := Receiver.pollNext_none (Prod.ext hend rfl)
          refine hfails _ (Option.some.inj hs) (.inr ⟨hended, ?_⟩)
          unfold State.waiting
          rw [show x.conn.calls.unreleased = none from hidle]
          exact hitems
        · obtain rfl := Option.some.inj hs
          exact h.waits hid _ hstep rfl ⟨rfl, rfl, rfl, rfl⟩ rfl fun hsome => ⟨(hnotTaken hsome).1, rfl⟩
      · obtain rfl := Option.some.inj hs
        exact h.waits hid x.readers.lock hstep rfl ⟨rfl, rfl, rfl, rfl⟩ rfl hnotTaken
  · cases hs

/-- The `receive` call returns its message. -/
theorem Sound.release (h : x.Sound) {readers : Receiving}
    (hs : receivingStep x.readers .release = some readers) :
    ({ x with readers := readers } : Session).Sound ∧ resource.Keeps view x { x with readers := readers } := by
  have hstep := hs
  simp only [receivingStep, Receiving.release] at hs
  split at hs
  · next id message hlock hmessage =>
    obtain ⟨conn, hrelease, rfl⟩ := Option.map_eq_some_iff.mp hs
    have hid := (lock_sound h.reachable).receive id hlock
    obtain ⟨hreceiving, hnone, -⟩ := h.of_waiting hid
    have hopen : x.conn.shared.localClosed = false := by
      have hsome : x.conn.calls.unreleased.isSome = true := by
        rw [show x.conn.calls.unreleased = some message from hmessage]
        rfl
      exact (h.taken hsome).1
    have hconn : conn = ({ x.conn with calls := { x.conn.calls with unreleased := none } } : State).setBudget
        (x.conn.shared.budget.fetchSub wordBits message.payloadLen) := by
      simp only [Host.step, hmessage] at hrelease
      exact (Option.some.inj hrelease).symm
    have hsound := h.answer (t := { x.readers with conn := conn }) (.ok message) rfl hid hstep
      (by rw [hconn]; rfl) (by rw [hconn]; rfl) (by rintro err ⟨⟩)
    have hreceived := received_answer (t := { x.readers with conn := conn }) (.ok message) rfl
      hreceiving hnone
    refine ⟨hsound, ⟨[], ?_, fun hne => absurd rfl hne⟩, ?_, fun hended => ?_, rfl, fun info hinfo => ?_⟩
    · show Session.message _ ++ (if conn.shared.localClosed = true then [] else conn.waiting) =
        x.message ++ (if x.conn.shared.localClosed = true then [] else x.conn.waiting) ++ []
      rw [message_of_ok hreceived, message_of_none hnone, List.append_nil, hopen, hconn,
        if_neg Bool.false_ne_true]
      show [message] ++ (if x.conn.shared.localClosed = true then [] else _) = [] ++ x.conn.waiting
      rw [hopen, if_neg Bool.false_ne_true]
      unfold State.waiting
      rw [show x.conn.calls.unreleased = some message from hmessage]
      rfl
    · show conn.shared.localClosed = x.conn.shared.localClosed
      rw [hconn]
      rfl
    · show (!conn.shared.queue.senderLive) = true
      rw [hconn]
      exact hended
    · show (if conn.shared.closed = true then conn.shared.closeInfo else none) = some info
      rw [hconn]
      exact hinfo
  · next message hlock hmessage =>
    have hproducing := (lock_sound h.reachable).stream hlock
    exact absurd (h.unclaimed.2.symm.trans hproducing) Bool.false_ne_true
  · cases hs

/-- Every move that is not a call. -/
theorem Sound.move (h : x.Sound) {a : ReceivingAction} (hs : resource.move x a = some x') :
    x'.Sound ∧ resource.Keeps view x x' := by
  have hs' : (if ofHost a = true then
      (receivingStep x.readers a).map fun readers => { x with readers := readers } else none) = some x' := hs
  split at hs'
  · next hown =>
    obtain ⟨readers, hstep, rfl⟩ := Option.map_eq_some_iff.mp hs'
    cases a with
    | conn action =>
      have hcall : action.isCall = false := by
        unfold ofHost at hown
        rwa [Bool.not_eq_true'] at hown
      simp only [receivingStep] at hstep
      split at hstep
      · cases hstep
      · next hreader =>
        rw [hcall, if_neg Bool.false_ne_true] at hstep
        obtain ⟨conn, hconn, rfl⟩ := Option.map_eq_some_iff.mp hstep
        exact h.step (Bool.eq_false_iff.mpr hreader) hcall hconn
    | pollReceive => exact h.pollReceive hstep
    | release => exact h.release hstep
    | receive | receiveViaStream | cancelReceive | pollStream | dropStream => cases hown
  · cases hs'

/-- A call on the connection takes effect. -/
theorem calls_of_step (hidle : resource.idle x = true) {action : Action} {conn : State}
    (hcall : action.isCall = true) (hreader : action.isReader = false)
    (hs : Host.step x.conn action = some conn) :
    receivingStep x.readers (.conn action) = some { x.readers with conn := conn } ∧
      x.calls (.conn action) = { x.readers with conn := conn } := by
  have hturn : receivingStep x.readers (.conn action) = some { x.readers with conn := conn } := by
    simp only [receivingStep]
    rw [hreader, if_neg Bool.false_ne_true, if_pos hcall, turn_eq_some]
    refine ⟨Option.isNone_iff_eq_none.mp hidle, ?_⟩
    rw [show Host.step x.readers.conn action = some conn from hs]
    rfl
  refine ⟨hturn, ?_⟩
  unfold Session.calls
  rw [hturn]
  rfl

/-- A guest call leaves the readers and what they have returned alone. -/
theorem Sound.called (h : x.Sound) (hidle : resource.idle x = true) {action : Action} {conn : State}
    (sending : Option Nat) (hstep : receivingStep x.readers (.conn action) = some { x.readers with conn := conn })
    (hkept : conn.calls.dropped = x.conn.calls.dropped)
    (hunreleased : conn.calls.unreleased = x.conn.calls.unreleased)
    (hfailed : ∀ err, x.received = some (.error err) → conn.shared.localClosed = true ∨
      conn.shared.queue.senderLive = false ∧ conn.waiting = []) :
    ({ x with readers := { x.readers with conn := conn }, sending := sending } : Session).Sound := by
  refine ⟨h.reachable.next (a := .conn action) hstep, hkept.trans h.kept, h.unclaimed, h.waiting, h.made, ?_,
    hfailed⟩
  intro hsome
  have hnone : x.conn.calls.unreleased = none := Option.isNone_iff_eq_none.mp hidle
  rw [show Session.conn _ = conn from rfl, hunreleased, hnone] at hsome
  cases hsome

/-- `send`. -/
theorem Sound.send (h : x.Sound) (hidle : resource.idle x = true) (message : Message) :
    (resource.send x message).Sound ∧ resource.Same view x (resource.send x message) ∧
      resource.idle (resource.send x message) = true := by
  have hs : Host.step x.conn (.send message) = some (x.conn.callSend message) :=
    guestCall_eq_some.mpr ⟨h.kept, rfl⟩
  obtain ⟨hstep, hcalls⟩ := calls_of_step hidle rfl rfl hs
  have hkeeps : (x.conn.callSend message).shared = x.conn.shared ∧
      (x.conn.callSend message).calls.unreleased = x.conn.calls.unreleased ∧
      (x.conn.callSend message).calls.dropped = x.conn.calls.dropped := by
    unfold State.callSend
    dsimp only
    split <;> exact ⟨rfl, rfl, rfl⟩
  obtain ⟨hshared, hunreleased, hdropped⟩ := hkeeps
  have hwaiting : (x.conn.callSend message).waiting = x.conn.waiting := by
    unfold State.waiting
    rw [hshared, hunreleased]
  have heq : resource.send x message = { x with
      readers := { x.readers with conn := x.conn.callSend message }, sending := some x.conn.calls.nextId } := by
    show ({ x with readers := x.calls _, sending := _ } : Session) = _
    rw [hcalls]
  rw [heq]
  refine ⟨h.called hidle _ hstep hdropped hunreleased ?_, ⟨?_, ?_, ?_, ?_⟩, ?_⟩
  · rw [hshared, hwaiting]
    exact h.failed
  · show x.message ++ (if (x.conn.callSend message).shared.localClosed = true then []
      else (x.conn.callSend message).waiting) = _
    rw [hshared, hwaiting]
    rfl
  · exact congrArg Shared.localClosed hshared
  · show (!(x.conn.callSend message).shared.queue.senderLive) = _
    rw [hshared]
    rfl
  · show (if (x.conn.callSend message).shared.closed = true then (x.conn.callSend message).shared.closeInfo
      else none) = _
    rw [hshared]
    rfl
  · show (x.conn.callSend message).calls.unreleased.isNone = true
    rw [hunreleased]
    exact hidle

/-- `close`, with arguments that it takes. -/
theorem Sound.close (h : x.Sound) (hidle : resource.idle x = true) {code : Option Nat} {reason : String}
    (hvalid : (Shim.HostCall.close code reason).Valid) :
    (resource.close x code reason).Sound ∧
      (resource.close x code reason).deliverable <+: x.deliverable ∧
      (resource.close x code reason).conn.shared.localClosed = true ∧
      (resource.close x code reason).conn.shared.queue = x.conn.shared.queue ∧
      resource.waitClosed (resource.close x code reason) = resource.waitClosed x ∧
      resource.idle (resource.close x code reason) = true := by
  have hok := Shim.validateCloseArgs_of_valid hvalid
  have hs : Host.step x.conn (.close (code.map UInt16.ofNat) reason) =
      some (x.conn.callClose (code.map UInt16.ofNat) reason) := guestCall_eq_some.mpr ⟨h.kept, rfl⟩
  obtain ⟨hstep, hcalls⟩ := calls_of_step hidle rfl rfl hs
  have hlocal : (x.conn.callClose (code.map UInt16.ofNat) reason).shared.localClosed = true := by
    rw [localClosed_of_step hs]
    show (x.conn.shared.localClosed || (!x.conn.shared.localClosed && _)) = true
    rw [hok]
    cases x.conn.shared.localClosed <;> rfl
  have hframe := OuterFrame.of_move (.close (code.map UInt16.ofNat) reason : OuterMove x.conn _ _)
  have hqueue : (x.conn.callClose (code.map UInt16.ofNat) reason).shared.queue = x.conn.shared.queue ∧
      (x.conn.callClose (code.map UInt16.ofNat) reason).calls.unreleased = x.conn.calls.unreleased := by
    rcases callClose_cases x.conn (code.map UInt16.ofNat) reason with ⟨-, hk⟩ | ⟨-, -, hk⟩
    · rw [hk]
      exact ⟨rfl, rfl⟩
    · rw [hk]
      exact ⟨rfl, rfl⟩
  have heq : resource.close x code reason = { x with
      readers := { x.readers with conn := x.conn.callClose (code.map UInt16.ofNat) reason } } := by
    show ({ x with readers := x.calls _ } : Session) = _
    rw [hcalls]
  rw [heq]
  refine ⟨?_, ?_, hlocal, hqueue.1, ?_, ?_⟩
  · exact h.called hidle x.sending hstep (dropped_of_step hs (by rintro ⟨⟩)) hqueue.2
      fun _ _ => .inl hlocal
  · show x.message ++ (if (x.conn.callClose (code.map UInt16.ofNat) reason).shared.localClosed = true then []
      else _) <+: x.message ++ _
    rw [if_pos hlocal]
    exact (List.prefix_append_right_inj _).mpr List.nil_prefix
  · show (if (x.conn.callClose (code.map UInt16.ofNat) reason).shared.closed = true then
      (x.conn.callClose (code.map UInt16.ofNat) reason).shared.closeInfo else none) = _
    rw [hframe]
    rfl
  · show (x.conn.callClose (code.map UInt16.ofNat) reason).calls.unreleased.isNone = true
    rw [hqueue.2]
    exact hidle

/-- A `receive` call that has just been made has a number of its own. -/
theorem Sound.lookup_next (h : x.Sound) : List.lookup x.readers.nextReceive x.readers.received = none := by
  rw [List.lookup_eq_none_iff]
  intro result hmem
  have hlt := h.made.2 result hmem
  exact bne_iff_ne.mpr (by omega)

/-- `receive`. -/
theorem Sound.receive (h : x.Sound) (hidle : resource.idle x = true) (hnot : x.receiving = none) :
    (resource.receive x).Sound ∧ resource.Same view x (resource.receive x) ∧
      (resource.receive x).receiving.isSome = true := by
  have hnone : x.conn.calls.unreleased = none := Option.isNone_iff_eq_none.mp hidle
  have hwaiting : x.readers.waiting = [] := by
    rw [h.waiting, hnot]
    split <;> rfl
  have hmessage : x.message = [] := by
    unfold message received
    rw [hnot]
    rfl
  have hstep : receivingStep x.readers .receive = some x.readers.callReceive :=
    call_eq_some.mpr ⟨hnone, h.kept, rfl⟩
  have heq : resource.receive x =
      { x with readers := x.readers.callReceive, receiving := some x.readers.nextReceive } := by
    show ({ x with readers := x.calls .receive, receiving := _ } : Session) = _
    unfold calls
    rw [hstep]
    rfl
  have hconn : x.readers.callReceive.conn = x.conn := by
    unfold Receiving.callReceive
    dsimp only
    split
    · rfl
    · split <;> rfl
  rw [heq]
  have hsame (hmessage' : ({ x with
      readers := x.readers.callReceive, receiving := some x.readers.nextReceive } : Session).message = []) :
      resource.Same view x
        { x with readers := x.readers.callReceive, receiving := some x.readers.nextReceive } := by
    refine ⟨?_, ?_, ?_, ?_⟩
    · show Session.message _ ++ (if x.readers.callReceive.conn.shared.localClosed = true then []
        else x.readers.callReceive.conn.waiting) = x.message ++ _
      rw [hmessage', hmessage, hconn]
    · exact congrArg (fun conn : State => conn.shared.localClosed) hconn
    · exact congrArg (fun conn : State => !conn.shared.queue.senderLive) hconn
    · exact congrArg
        (fun conn : State => if conn.shared.closed = true then conn.shared.closeInfo else none) hconn
  by_cases hlocal : x.conn.shared.localClosed = true
  · -- after a local close the call fails at once
    have hcall : x.readers.callReceive =
        ({ x.readers with nextReceive := x.readers.nextReceive + 1 } : Receiving).answer
          x.readers.nextReceive (.error .closed) := if_pos hlocal
    have hreceived : ({ x with
        readers := x.readers.callReceive, receiving := some x.readers.nextReceive } : Session).received =
          some (.error .closed) := by
      unfold received
      rw [hcall]
      calc List.lookup x.readers.nextReceive (x.readers.received ++ [(x.readers.nextReceive, .error .closed)])
          = (List.lookup x.readers.nextReceive x.readers.received).or
              (List.lookup x.readers.nextReceive [(x.readers.nextReceive, .error .closed)]) :=
            List.lookup_append
        _ = some (.error .closed) := by rw [h.lookup_next, Option.none_or, List.lookup_cons_self]
    refine ⟨⟨h.reachable.next (a := .receive) hstep, ?_, ?_, ?_, ?_, ?_, ?_⟩, hsame ?_, rfl⟩
    · exact (congrArg (fun conn : State => conn.calls.dropped) hconn).trans h.kept
    · rw [hcall]
      exact h.unclaimed
    · rw [hreceived]
      show x.readers.callReceive.waiting = []
      rw [hcall]
      show x.readers.waiting.erase x.readers.nextReceive = []
      rw [hwaiting]
      rfl
    · rw [hcall]
      refine ⟨fun id hid => ?_, fun result hmem => ?_⟩
      · obtain rfl := Option.some.inj hid
        exact Nat.lt_succ_self _
      · rcases List.mem_append.mp hmem with hold | hnew
        · exact Nat.lt_succ_of_lt (h.made.2 result hold)
        · obtain rfl := List.mem_singleton.mp hnew
          exact Nat.lt_succ_self _
    · intro hsome
      rw [show Session.conn _ = x.readers.callReceive.conn from rfl, hconn, hnone] at hsome
      cases hsome
    · intro err _
      left
      rw [show Session.conn _ = x.readers.callReceive.conn from rfl, hconn]
      exact hlocal
    · exact message_of_error hreceived
  · have hcall : x.readers.callReceive = { x.readers with
        nextReceive := x.readers.nextReceive + 1, waiting := x.readers.waiting ++ [x.readers.nextReceive] } := by
      have hfree : ¬ x.readers.streamReceiving = true := by
        rw [h.unclaimed.1]
        exact Bool.false_ne_true
      exact (if_neg hlocal).trans (if_neg hfree)
    have hreceived : ({ x with
        readers := x.readers.callReceive, receiving := some x.readers.nextReceive } : Session).received =
          none := by
      unfold received
      rw [hcall]
      exact h.lookup_next
    refine ⟨⟨h.reachable.next (a := .receive) hstep, ?_, ?_, ?_, ?_, ?_, ?_⟩, hsame ?_, rfl⟩
    · exact (congrArg (fun conn : State => conn.calls.dropped) hconn).trans h.kept
    · rw [hcall]
      exact h.unclaimed
    · rw [hreceived, hcall]
      show x.readers.waiting ++ [x.readers.nextReceive] = [x.readers.nextReceive]
      rw [hwaiting]
      rfl
    · rw [hcall]
      refine ⟨fun id hid => ?_, fun result hmem => Nat.lt_succ_of_lt (h.made.2 result hmem)⟩
      obtain rfl := Option.some.inj hid
      exact Nat.lt_succ_self _
    · intro hsome
      rw [show Session.conn _ = x.readers.callReceive.conn from rfl, hconn, hnone] at hsome
      cases hsome
    · intro err herr
      cases hreceived.symm.trans herr
    · exact message_of_none hreceived

end Session

namespace Session

variable {x : Session}

/-- A connection that has just been established. -/
theorem sound_opened (h : resource.opened x) : x.Sound ∧ x.deliverable = [] ∧
    x.conn.shared.localClosed = false ∧ x.conn.shared.queue.senderLive = true ∧ x.receiving = none ∧
      x.conn.calls.unreleased = none := by
  obtain ⟨hinit, -, hreceiving⟩ := h
  have hreach : receivingSystem.Reachable x.readers := .of_init hinit
  obtain ⟨⟨closeTimeout, limit, now, largest, hreaches, -, hconn⟩, hstream, hproducing, hwaiting, hlock,
    hreceived⟩ := hinit
  have hnone : x.received = none := by
    unfold received
    rw [hreceiving]
    rfl
  have hstart : x.conn = .start closeTimeout limit now largest hreaches := hconn
  refine ⟨⟨hreach, ?_, ⟨hstream, hproducing⟩, ?_, ⟨?_, ?_⟩, ?_, ?_⟩, ?_, ?_, ?_, hreceiving, ?_⟩
  · rw [hstart]
    rfl
  · rw [hnone, hreceiving]
    exact hwaiting
  · rw [hreceiving]
    rintro id ⟨⟩
  · rw [hreceived]
    rintro result ⟨⟩
  · rw [hstart]
    rintro ⟨⟩
  · rw [hnone]
    rintro err ⟨⟩
  · unfold deliverable
    rw [message_of_none hnone, hstart]
    rfl
  · rw [hstart]
    rfl
  · rw [hstart]
    rfl
  · rw [hstart]
    rfl

/-- The promise is done with. -/
theorem Sound.collect (h : x.Sound) {result : Except Error Message} (hresult : x.received = some result) :
    (resource.collect x).Sound := by
  refine ⟨h.reachable, h.kept, h.unclaimed, ?_, ⟨?_, h.made.2⟩, fun hsome => ?_, ?_⟩
  · show x.readers.waiting = []
    rw [h.waiting, hresult]
    rfl
  · rintro id ⟨⟩
  · cases (h.unreturned hsome).symm.trans hresult
  · rintro err ⟨⟩

/-- A call fails only when nothing is delivered any more. -/
theorem Sound.drained (h : x.Sound) {err : Error} (herr : x.received = some (.error err)) :
    x.deliverable = [] := by
  unfold deliverable
  rw [message_of_error herr]
  rcases h.failed err herr with hlocal | ⟨-, hempty⟩
  · rw [if_pos hlocal]
    rfl
  · rw [hempty]
    split <;> rfl

end Session

/-- The wasmtime host is what the shim needs. -/
def resource_lawful : resource.Lawful where
  toView := Session.view
  opened x h := by
    obtain ⟨hsound, hnothing, hlocal, hlive, hreceiving, hidle⟩ := Session.sound_opened h
    exact ⟨hsound, hnothing, hlocal, congrArg not hlive, congrArg Option.isSome hreceiving,
      congrArg Option.isNone hidle⟩
  move x a x' h hs := h.move hs
  send x message h hidle := by
    obtain ⟨hsound, hsame, hidle'⟩ := Session.Sound.send h hidle message
    exact ⟨hsound, hsame, rfl, hidle'⟩
  receive x h hidle hnot := by
    refine Session.Sound.receive h hidle (Option.not_isSome_iff_eq_none.mp ?_)
    rw [show x.receiving.isSome = false from hnot]
    exact Bool.false_ne_true
  collect x result h hresult := ⟨Session.Sound.collect h hresult, rfl, rfl, rfl, rfl⟩
  receivedOk x message h hok := by
    show x.message ++ _ = message :: ([] ++ _)
    rw [Session.message_of_ok hok]
    rfl
  receivedError x err h herr := by
    have hdrained : x.deliverable = [] := Session.Sound.drained h herr
    refine ⟨hdrained, (List.append_eq_nil_iff.mp hdrained).2, ?_⟩
    rcases Session.Sound.failed h err herr with hlocal | ⟨hended, -⟩
    · exact .inl hlocal
    · exact .inr (congrArg not hended)
  close x code reason h hidle hvalid := by
    obtain ⟨hsound, hfirst, hlocal, hqueue, hwait, hidle'⟩ := Session.Sound.close h hidle hvalid
    have hended : (!(resource.close x code reason).conn.shared.queue.senderLive) =
        !x.conn.shared.queue.senderLive := by rw [hqueue]
    exact ⟨hsound, hfirst, hlocal, hended, rfl, hwait, hidle'⟩
  waitClosed x info h hinfo := by
    have hinfo' : (if x.conn.shared.closed = true then x.conn.shared.closeInfo else none) = some info := hinfo
    split at hinfo'
    · next hclosed =>
      have hstage := (end_sound (Session.Sound.conn h)).closed.mp hclosed
      exact congrArg not ((end_sound (Session.Sound.conn h)).ended (by omega))
    · cases hinfo'

end Polymorph.Host
