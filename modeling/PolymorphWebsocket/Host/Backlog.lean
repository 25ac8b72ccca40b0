import Mathlib.Algebra.BigOperators.Group.List.Basic
import PolymorphWebsocket.Host.Budget
import PolymorphWebsocket.Host.Frames

/-!
# The wasmtime host: the length of the inbound queue

The inbound budget counts the bytes of the payloads, and a message takes its place in the queue
however short it is.  Against a guest that never receives, the limit bounds the queue as long as
every message counts for something: a message without bytes always fits, and with a limit of
`usize::MAX` every message does, since the addition of the comparison saturates at the limit.
-/

namespace Polymorph.Host

open Transition

variable {s s' t : State}

/-! ### The messages a peer sends -/

/-- The message the pump is about to deliver. -/
def Pc.message? : Pc → Option Message
  | .resolved (.read outcome) => outcome.message?
  | .reserved message | .counted message => some message
  | _ => none

/-- The pump's message, between the comparison and the addition. -/
def Pc.toCount : Pc → List Message
  | .reserved message => [message]
  | _ => []

/-- The pump's message, after the addition. -/
def Pc.toPush : Pc → List Message
  | .counted message => [message]
  | _ => []

/-- The messages that have arrived and that the guest has not taken. -/
def State.unread (s : State) : List Message :=
  s.shared.queue.items ++ s.pump.pc.message?.toList ++ s.inbound.filterMap Inbound.message?

/-- The condition on a step: the guest does not receive, and the peer sends what is allowed. -/
def Floods (allowed : Inbound → Prop) (_ : State) (a : Action) : Prop :=
  a ≠ .take ∧ ∀ outcomes, a = .arrive outcomes → ∀ outcome ∈ outcomes, allowed outcome

/-! ### A step of the pump that delivers nothing -/

/-- The pump goes on without a message, and leaves the queue, the counter and the outcomes alone. -/
structure Passes (s s' : State) : Prop where
  pc : s'.pump.pc.message? = none
  queue : s'.shared.queue = s.shared.queue
  buffered : s'.shared.budget.buffered = s.shared.budget.buffered
  limit : s'.shared.budget.limit = s.shared.budget.limit
  inbound : s'.inbound = s.inbound

namespace Passes

theorem goes (s : State) (result : Except Error Unit) (next : Next) :
    Passes s (s.goes result next) := by
  cases next <;> exact ⟨rfl, rfl, rfl, rfl, rfl⟩

theorem boundedWrite (s : State) (write : Write) (next : Next) :
    Passes s (s.boundedWrite write next) := by
  unfold State.boundedWrite
  split
  · exact goes s _ next
  · exact ⟨rfl, rfl, rfl, rfl, rfl⟩

theorem beginClose (s : State) (frame : Option CloseFrame) (next : Next) :
    Passes s (s.beginClose frame next) := by
  rcases beginClose_cases s frame next with ⟨-, h⟩ | ⟨-, h⟩
  · rw [h]
    exact goes s _ next
  · have hwrite := boundedWrite (s.closing frame) (.send (.close frame) false) next
    rw [h]
    exact ⟨hwrite.pc, hwrite.queue, hwrite.buffered, hwrite.limit, hwrite.inbound⟩

theorem latchOverflow (s : State) (next : Next) :
    Passes s ((s.setBudget s.shared.budget.latchOverflow).beginClose none next) := by
  have hclose := beginClose (s.setBudget s.shared.budget.latchOverflow) none next
  exact ⟨hclose.pc, hclose.queue, hclose.buffered, hclose.limit, hclose.inbound⟩

end Passes

/-- A message is dropped, or it fits and is reserved. -/
theorem deliver_cases (s : State) (message : Message) :
    Passes s (s.deliver message) ∨
      (s.shared.budget.fits message.payloadLen = true ∧
        s.deliver message = s.setPc (.reserved message)) := by
  unfold State.deliver
  split
  · exact .inl ⟨rfl, rfl, rfl, rfl, rfl⟩
  · split
    · next hfits => exact .inr ⟨hfits, rfl⟩
    · exact .inl (.latchOverflow s .loop)

/-- The body of an arm reserves the message of an outcome, or delivers nothing. -/
theorem onResolved_cases (s : State) (r : Resolution) :
    Passes s (s.onResolved r) ∨
      ∃ message, (Pc.resolved r).message? = some message ∧
        s.shared.budget.fits message.payloadLen = true ∧
        s.onResolved r = s.setPc (.reserved message) := by
  have hdeliver (message : Message) (hmessage : (Pc.resolved r).message? = some message)
      (heq : s.onResolved r = s.deliver message) :
      Passes s (s.onResolved r) ∨
        ∃ message, (Pc.resolved r).message? = some message ∧
          s.shared.budget.fits message.payloadLen = true ∧
          s.onResolved r = s.setPc (.reserved message) := by
    rw [heq]
    rcases deliver_cases s message with h | ⟨hfits, h⟩
    · exact .inl h
    · exact .inr ⟨message, hmessage, hfits, h⟩
  cases r with
  | cmd cmd =>
    apply Or.inl
    rcases cmd with - | cmd
    · have hclose := Passes.beginClose { s with pump := { s.pump with cmdsDone := true } } none .loop
      exact ⟨hclose.pc, hclose.queue, hclose.buffered, hclose.limit, hclose.inbound⟩
    cases cmd with
    | send id message =>
      unfold State.onResolved State.onCmd
      dsimp only
      split
      · exact .goes s _ _
      · exact .boundedWrite s _ _
    | close code reason => exact .beginClose s _ _
  | deadline => exact .inl ⟨rfl, rfl, rfl, rfl, rfl⟩
  | read outcome =>
    cases outcome with
    | text text => exact hdeliver _ rfl rfl
    | binary bytes => exact hdeliver _ rfl rfl
    | close frame =>
      apply Or.inl
      unfold State.onResolved State.onRead
      dsimp only
      split
      · exact ⟨rfl, rfl, rfl, rfl, rfl⟩
      · have hwrite := Passes.boundedWrite (s.notePeerFrame frame).setWireClosing .flush .loop
        exact ⟨hwrite.pc, hwrite.queue, hwrite.buffered, hwrite.limit, hwrite.inbound⟩
    | ping payload => exact .inl (.boundedWrite s _ _)
    | pong | frame | connectionClosed | error => exact .inl ⟨rfl, rfl, rfl, rfl, rfl⟩
    | capacity => exact .inl (.latchOverflow s .leave)

/-! ### The queue against the limit -/

/-- A guest has received nothing yet, and every message on its way counts. -/
structure State.Backlogged (s : State) : Prop where
  unreleased : s.calls.unreleased = none
  counted : payloadBytes (s.shared.queue.items ++ s.pump.pc.toPush) ≤ s.shared.budget.buffered
  fits : s.shared.budget.buffered + payloadBytes s.pump.pc.toCount ≤ s.shared.budget.limit
  counts : ∀ message ∈ s.unread,
    0 < message.payloadLen ∧ s.shared.budget.limit < wordSize - 1

/-- Messages that count for at least one byte each are no more than their bytes. -/
theorem length_le_payloadBytes {messages : List Message}
    (h : ∀ message ∈ messages, 0 < message.payloadLen) :
    messages.length ≤ payloadBytes messages := by
  have hlen : (messages.map Message.payloadLen).length ≤ payloadBytes messages := by
    apply List.length_le_sum_of_one_le
    intro n hn
    obtain ⟨message, hmem, rfl⟩ := List.mem_map.mp hn
    exact h message hmem
  rwa [List.length_map] at hlen

namespace State.Backlogged

theorem length_le (h : s.Backlogged) : s.shared.queue.items.length ≤ s.shared.budget.limit := by
  have hcounted := h.counted
  have hfits := h.fits
  have hitems : s.shared.queue.items.length ≤ payloadBytes s.shared.queue.items := by
    apply length_le_payloadBytes
    intro message hmem
    exact (h.counts message (List.mem_append_left _ (List.mem_append_left _ hmem))).1
  rw [payloadBytes_append] at hcounted
  omega

/-- A point without a message leaves nothing to count. -/
theorem toPush_of_none {pc : Pc} (h : pc.message? = none) : pc.toPush = [] ∧ pc.toCount = [] := by
  cases pc with
  | reserved | counted => cases h
  | select | resolved | writing | finalize | done => exact ⟨rfl, rfl⟩

/-- The pump goes on at a point without a message, perhaps with fewer outcomes left. -/
theorem passes (h : s.Backlogged) (hcalls : s'.calls = s.calls)
    (hpc : s'.pump.pc.message? = none) (hitems : s'.shared.queue.items = s.shared.queue.items)
    (hbuffered : s'.shared.budget.buffered = s.shared.budget.buffered)
    (hlimit : s'.shared.budget.limit = s.shared.budget.limit)
    (hinbound : ∀ outcome ∈ s'.inbound, outcome ∈ s.inbound) : s'.Backlogged := by
  obtain ⟨hpush, hcount⟩ := toPush_of_none hpc
  have hcounted := h.counted
  have hfits := h.fits
  rw [payloadBytes_append] at hcounted
  refine ⟨hcalls ▸ h.unreleased, ?_, ?_, fun message hmem => ?_⟩
  · rw [hpush, List.append_nil, hitems, hbuffered]
    omega
  · rw [hcount, hbuffered, hlimit, payloadBytes_nil]
    omega
  · rw [hlimit]
    apply h.counts
    unfold State.unread at hmem ⊢
    rw [hpc, hitems, Option.toList_none, List.append_nil] at hmem
    rcases List.mem_append.mp hmem with hmem | hmem
    · exact List.mem_append_left _ (List.mem_append_left _ hmem)
    · obtain ⟨outcome, houtcome, heq⟩ := List.mem_filterMap.mp hmem
      exact List.mem_append_right _ (List.mem_filterMap.mpr ⟨outcome, hinbound _ houtcome, heq⟩)

/-- A poll of the select leaves the queue and the counter alone. -/
theorem pollArm (h : s.Backlogged) {arm : Arm} (hpc : s.pump.pc = .select arm) :
    (s.pollArm arm).Backlogged := by
  have hgoes (pc : Pc) (hnone : pc.message? = none) : (s.setPc pc).Backlogged :=
    h.passes rfl hnone rfl rfl rfl fun _ => id
  cases arm with
  | cmd =>
    unfold State.pollArm
    dsimp only
    split
    · exact hgoes _ rfl
    · split
      · exact h.passes rfl rfl rfl rfl rfl fun _ => id
      · split <;> exact hgoes _ rfl
  | read =>
    unfold State.pollArm
    dsimp only
    split
    · next outcome rest hin =>
      refine ⟨h.unreleased, ?_, ?_, fun message hmem => h.counts message ?_⟩
      · have hcounted := h.counted
        rw [hpc] at hcounted
        exact hcounted
      · have hfits := h.fits
        rw [hpc] at hfits
        exact hfits
      · -- the message of the outcome only changes its place
        unfold State.unread at hmem ⊢
        rw [hpc, hin, List.filterMap_cons]
        change message ∈ s.shared.queue.items ++ outcome.message?.toList ++ _ at hmem
        cases hmessage : outcome.message? with
        | none => rwa [hmessage] at hmem
        | some m =>
          rw [hmessage] at hmem
          simpa [Pc.message?, State.setPc] using hmem
    · exact hgoes _ rfl
  | deadline =>
    apply hgoes
    split <;> rfl

/-- The pump keeps the counter above the queue. -/
theorem poll (h : s.Backlogged) (hs : s.poll = some s') : s'.Backlogged := by
  unfold State.poll at hs
  split at hs
  · next arm hpc =>
    obtain rfl := Option.some.inj hs
    exact h.pollArm hpc
  · next r hpc =>
    obtain rfl := Option.some.inj hs
    have hcalls : (s.onResolved r).calls = s.calls := by
      have hpoll : s.poll = some (s.onResolved r) := by rw [State.poll, hpc]
      rw [PollFrame.poll hpoll]
    rcases onResolved_cases s r with hp | ⟨message, hmessage, hfits, heq⟩
    · exact h.passes hcalls hp.pc (by rw [hp.queue]) hp.buffered hp.limit
        fun outcome hmem => hp.inbound ▸ hmem
    · have hunread : message ∈ s.unread := by
        unfold State.unread
        rw [hpc, hmessage]
        simp
      obtain ⟨-, hlimit⟩ := h.counts message hunread
      rw [heq]
      refine ⟨h.unreleased, ?_, ?_, fun m hm => h.counts m ?_⟩
      · have hcounted := h.counted
        rw [hpc] at hcounted
        exact hcounted
      · obtain ⟨-, hle⟩ := (InboundBudget.fits_iff hlimit _).mp hfits
        change s.shared.budget.buffered + payloadBytes [message] ≤ s.shared.budget.limit
        rw [payloadBytes_cons, payloadBytes_nil]
        omega
      · unfold State.unread at hm ⊢
        rw [hpc, hmessage]
        exact hm
  · next message hpc =>
    obtain rfl := Option.some.inj hs
    have hcounted := h.counted
    have hfits := h.fits
    rw [hpc] at hcounted hfits
    change s.shared.budget.buffered + payloadBytes [message] ≤ _ at hfits
    change payloadBytes (_ ++ []) ≤ _ at hcounted
    rw [payloadBytes_cons, payloadBytes_nil, Nat.add_zero] at hfits
    rw [List.append_nil] at hcounted
    have hunread : message ∈ s.unread := by
      unfold State.unread
      rw [hpc]
      simp [Pc.message?]
    obtain ⟨-, hlimit⟩ := h.counts message hunread
    have hlt : s.shared.budget.buffered + message.payloadLen < wordSize := by omega
    have hadd := InboundBudget.fetchAdd_of_lt (w := wordBits) hlt
    refine ⟨h.unreleased, ?_, ?_, fun m hm => h.counts m ?_⟩
    · change payloadBytes (s.shared.queue.items ++ [message]) ≤
        (s.shared.budget.fetchAdd wordBits message.payloadLen).buffered
      rw [hadd, payloadBytes_append, payloadBytes_cons, payloadBytes_nil]
      dsimp only
      omega
    · change (s.shared.budget.fetchAdd wordBits message.payloadLen).buffered + 0 ≤ _
      rw [hadd]
      exact hfits
    · unfold State.unread at hm ⊢
      rw [hpc]
      exact hm
  · next message hpc =>
    obtain rfl := Option.some.inj hs
    have hcounted := h.counted
    have hfits := h.fits
    rw [hpc] at hcounted hfits
    -- a queue without its sender drops the message
    have hitems : (s.shared.queue.push message).items = s.shared.queue.items ++ [message] ∨
        (s.shared.queue.push message).items = s.shared.queue.items := by
      unfold Futures.Receiver.push
      dsimp only
      split
      · exact .inl rfl
      · exact .inr rfl
    refine ⟨h.unreleased, ?_, hfits, fun m hm => h.counts m ?_⟩
    · change payloadBytes ((s.shared.queue.push message).items ++ []) ≤ _
      change payloadBytes (s.shared.queue.items ++ [message]) ≤ _ at hcounted
      rw [payloadBytes_append] at hcounted
      rcases hitems with hitems | hitems <;> rw [hitems, List.append_nil]
      · rw [payloadBytes_append]
        exact hcounted
      · exact Nat.le_trans (Nat.le_add_right _ _) hcounted
    · unfold State.unread at hm ⊢
      rw [hpc]
      change m ∈ (s.shared.queue.push message).items ++ [] ++ _ at hm
      change m ∈ s.shared.queue.items ++ [message] ++ _
      rw [List.append_nil] at hm
      rcases List.mem_append.mp hm with hm | hm
      · apply List.mem_append_left
        rcases hitems with hitems | hitems
        · rwa [hitems] at hm
        · exact List.mem_append_left _ (hitems ▸ hm)
      · exact List.mem_append_right _ hm
  · cases hs
  · next stage hpc =>
    obtain rfl := Option.some.inj hs
    have hfinal (s' : State) (hcalls : s'.calls = s.calls) (hnone : s'.pump.pc.message? = none)
        (hshared : s'.shared.queue.items = s.shared.queue.items ∧
          s'.shared.budget = s.shared.budget) (hinbound : s'.inbound = s.inbound) :
        s'.Backlogged :=
      h.passes hcalls hnone hshared.1 (by rw [hshared.2]) (by rw [hshared.2])
        fun outcome hmem => hinbound ▸ hmem
    cases stage with
    | drainCmds =>
      unfold State.finalizeStep
      dsimp only
      split
      · exact hfinal _ rfl (by simp [State.reply, hpc, Pc.message?]) ⟨rfl, rfl⟩ rfl
      · exact hfinal _ rfl (by simp [hpc, Pc.message?]) ⟨rfl, rfl⟩ rfl
      · exact hfinal _ rfl rfl ⟨rfl, rfl⟩ rfl
    | closeInfo | endQueue | closeCmds | closing | closed | fire =>
      exact hfinal _ rfl rfl ⟨rfl, rfl⟩ rfl
  · cases hs

/-- What leaves the pump, the queue and the counter alone. -/
theorem congr (h : s.Backlogged) (hcalls : s'.calls.unreleased = s.calls.unreleased)
    (hpump : s'.pump = s.pump) (hqueue : s'.shared.queue = s.shared.queue)
    (hbudget : s'.shared.budget = s.shared.budget) (hinbound : s'.inbound = s.inbound) :
    s'.Backlogged := by
  have hunread : s'.unread = s.unread := by
    unfold State.unread
    rw [hpump, hqueue, hinbound]
  refine ⟨hcalls.trans h.unreleased, ?_, ?_, ?_⟩
  · rw [hqueue, hpump, hbudget]
    exact h.counted
  · rw [hpump, hbudget]
    exact h.fits
  · rw [hunread, hbudget]
    exact h.counts

/-- A resolution of a bounded write leaves the queue and the counter alone. -/
theorem write (h : s.Backlogged) {a : Action} (hs : step s a = some s')
    (ha : a = .hand ∨ a = .written ∨ (∃ err, a = .writeFailed err) ∨ a = .writeBound) :
    s'.Backlogged := by
  have hframe := WriteFrame.step hs ha
  have hgoes (t : State) (result : Except Error Unit) (next : Next) :
      (t.goes result next).pump.pc.message? = none := (Passes.goes t result next).pc
  have hpc : s'.pump.pc.message? = none := by
    rcases ha with rfl | rfl | ⟨err, rfl⟩ | rfl
    · simp only [Host.step, State.hand] at hs
      split at hs
      · obtain rfl := Option.some.inj hs
        rfl
      · cases hs
    · simp only [Host.step, State.written] at hs
      split at hs
      · cases hs
      · obtain rfl := Option.some.inj hs
        exact hgoes _ _ _
      · cases hs
    · simp only [Host.step, State.writeFailed] at hs
      split at hs
      · obtain rfl := Option.some.inj hs
        exact hgoes _ _ _
      · cases hs
    · simp only [Host.step, State.writeBound] at hs
      split at hs
      · split at hs
        · obtain rfl := Option.some.inj hs
          rfl
        · cases hs
      · split at hs
        · obtain rfl := Option.some.inj hs
          exact hgoes _ _ _
        · cases hs
      · cases hs
  refine h.passes ?_ hpc ?_ ?_ ?_ fun outcome hmem => ?_
  · rw [hframe]
  · rw [hframe]
  · rw [hframe]
  · rw [hframe]
  · rw [hframe] at hmem
    exact hmem

/-- A guest that does not receive, and a peer that sends what counts, keep the counter above the
queue. -/
theorem outer (h : s.Backlogged) {allowed : Inbound → Prop}
    (hallowed : ∀ outcome, allowed outcome → ∀ message, outcome.message? = some message →
      0 < message.payloadLen ∧ s.shared.budget.limit < wordSize - 1) {a : Action}
    (hs : step s a = some s') (hm : OuterMove s a s') (hc : Floods allowed s a) :
    s'.Backlogged := by
  obtain ⟨htake, harrive⟩ := hc
  have hclose (code : Option UInt16) (reason : String) : (s.callClose code reason).Backlogged := by
    rcases callClose_cases s code reason with ⟨-, hk⟩ | ⟨-, -, hk⟩
    · rw [hk]
      exact h
    · rw [hk]
      exact h.congr rfl rfl rfl rfl rfl
  cases hm with
  | send message =>
    unfold State.callSend
    dsimp only
    split <;> exact h.congr rfl rfl rfl rfl rfl
  | enqueue =>
    unfold State.enqueue
    dsimp only
    split <;> exact h.congr rfl rfl rfl rfl rfl
  | close code reason => exact hclose code reason
  | drop => exact (hclose none "").congr rfl rfl rfl rfl rfl
  | enqueueClose =>
    unfold State.enqueueClose
    dsimp only
    split <;> exact h.congr rfl rfl rfl rfl rfl
  | dropSenders | tick => exact h.congr rfl rfl rfl rfl rfl
  | reader ha =>
    rcases ha with rfl | rfl
    · exact absurd rfl htake
    · -- nothing has been taken that could be released
      simp only [Host.step, h.unreleased] at hs
      cases hs
  | arrive outcomes =>
    refine ⟨h.unreleased, h.counted, h.fits, fun message hmem => ?_⟩
    unfold State.unread at hmem
    change message ∈ s.shared.queue.items ++ s.pump.pc.message?.toList ++
      (s.inbound ++ outcomes).filterMap Inbound.message? at hmem
    rw [List.filterMap_append, ← List.append_assoc] at hmem
    rcases List.mem_append.mp hmem with hmem | hmem
    · exact h.counts message hmem
    · obtain ⟨outcome, houtcome, heq⟩ := List.mem_filterMap.mp hmem
      exact hallowed outcome (harrive outcomes rfl outcome houtcome) message heq

end State.Backlogged

/-- The limit of the budget stays. -/
theorem limit_of_step {a : Action} (hs : step s a = some s') :
    s'.shared.budget.limit = s.shared.budget.limit := by
  cases step_kind hs with
  | poll hp =>
    unfold State.poll at hp
    split at hp
    · next arm _ =>
      obtain rfl := Option.some.inj hp
      cases arm with
      | cmd =>
        unfold State.pollArm
        dsimp only
        split
        · rfl
        · split
          · rfl
          · split <;> rfl
      | read =>
        unfold State.pollArm
        dsimp only
        split <;> rfl
      | deadline => rfl
    · next r _ =>
      obtain rfl := Option.some.inj hp
      rcases onResolved_cases s r with h | ⟨message, -, -, h⟩
      · exact h.limit
      · rw [h]
        rfl
    · obtain rfl := Option.some.inj hp
      rfl
    · obtain rfl := Option.some.inj hp
      rfl
    · cases hp
    · next stage _ =>
      obtain rfl := Option.some.inj hp
      cases stage with
      | drainCmds =>
        unfold State.finalizeStep
        dsimp only
        split <;> rfl
      | closeInfo | endQueue | closeCmds | closing | closed | fire => rfl
    · cases hp
  | write ha hw => rw [WriteFrame.step hw ha]
  | outer hm => rw [OuterFrame.of_move hm]

/-- Where every allowed message counts, the counter is above the queue in every state. -/
theorem backlogged {limit : Nat} {allowed : Inbound → Prop}
    (hallowed : ∀ outcome, allowed outcome → ∀ message, outcome.message? = some message →
      0 < message.payloadLen ∧ limit < wordSize - 1)
    (h : system.ReachableUnder (Floods allowed) s) (hlimit : s.shared.budget.limit = limit) :
    s.Backlogged := by
  refine h.induction (I := fun s => s.shared.budget.limit = limit → s.Backlogged) ?_ ?_ hlimit
  · rintro _ ⟨closeTimeout, limit, now, largest, hreaches, -, rfl⟩ -
    exact ⟨rfl, le_rfl, Nat.zero_le _, nofun⟩
  · intro s a s' _ ih hc hs hlimit'
    have hlimit := (limit_of_step hs).symm.trans hlimit'
    have hi := ih hlimit
    cases step_kind hs with
    | poll hp => exact hi.poll hp
    | write ha hw => exact hi.write hw ha
    | outer hm => exact hi.outer (hlimit ▸ hallowed) hs hm hc

/-! ### A queue without bound -/

/-- The pump waits in its select, nothing is closing, and the message has room. -/
structure State.Accepting (s : State) (message : Message) : Prop where
  pc : s.pump.pc = .select .cmd
  cmdsDone : s.pump.cmdsDone = false
  cmds : s.shared.cmds = []
  sendersGone : s.shared.sendersGone = false
  inbound : s.inbound = []
  wireClosing : s.pump.wireClosing = false
  overflowed : s.shared.budget.overflowed = false
  senderLive : s.shared.queue.senderLive = true
  roomy : (message.payloadLen = 0 ∧ s.shared.budget.buffered = 0) ∨
    s.shared.budget.limit = wordSize - 1

theorem State.Accepting.fits {message : Message} (h : s.Accepting message) :
    s.shared.budget.fits message.payloadLen = true := by
  unfold InboundBudget.fits InboundBudget.roomFor
  rw [h.overflowed, Bool.not_false, Bool.true_and, decide_eq_true_eq]
  rcases h.roomy with ⟨hlen, hbuffered⟩ | hlimit
  · rw [hlen, hbuffered]
    exact Nat.le_trans (Nat.min_le_left _ _) (Nat.zero_le _)
  · rw [hlimit]
    exact Nat.min_le_right _ _

/-- A message that has room is queued, and the next one has room again. -/
theorem accepts {outcome : Inbound} {message : Message} {allowed : Inbound → Prop}
    (hallowed : allowed outcome) (hmessage : outcome.message? = some message)
    (h : system.ReachableUnder (Floods allowed) s) (ha : s.Accepting message) :
    ∃ s', system.ReachableUnder (Floods allowed) s' ∧ s'.Accepting message ∧
      s'.shared.budget.limit = s.shared.budget.limit ∧
      s'.shared.queue.items.length = s.shared.queue.items.length + 1 := by
  have hpoll {s s' : State} (h : system.ReachableUnder (Floods allowed) s)
      (hs : s.poll = some s') : system.ReachableUnder (Floods allowed) s' :=
    h.step ⟨nofun, nofun⟩ (a := .poll) hs
  have harrived : system.ReachableUnder (Floods allowed) { s with inbound := [outcome] } := by
    refine h.step (a := .arrive [outcome]) ⟨nofun, ?_⟩ ?_
    · rintro _ ⟨⟩ o ho
      rwa [List.mem_singleton.mp ho]
    · show some { s with inbound := s.inbound ++ [outcome] } = _
      rw [ha.inbound]
      rfl
  have hcmd : system.ReachableUnder (Floods allowed)
      ({ s with inbound := [outcome] }.setPc (.select .read)) := by
    apply hpoll harrived
    simp only [State.poll, ha.pc, State.pollArm, ha.cmdsDone, ha.cmds, ha.sendersGone,
      Bool.false_eq_true, if_false]
  have hread : system.ReachableUnder (Floods allowed)
      ({ s with inbound := [] }.setPc (.resolved (.read outcome))) := hpoll hcmd rfl
  have hreserved : system.ReachableUnder (Floods allowed)
      ({ s with inbound := [] }.setPc (.reserved message)) := by
    apply hpoll hread
    show some (({ s with inbound := [] }.setPc (.resolved (.read outcome))).onRead outcome) = _
    have hdeliver : (({ s with inbound := [] }.setPc (.resolved (.read outcome))).onRead outcome) =
        (({ s with inbound := [] }.setPc (.resolved (.read outcome))).deliver message) := by
      cases outcome with
      | text | binary =>
        cases hmessage
        rfl
      | close | ping | pong | frame | capacity | connectionClosed | error => cases hmessage
    rw [hdeliver]
    have hfits := ha.fits
    have hopen := ha.wireClosing
    unfold State.deliver
    rw [if_neg (by rw [State.setPc]; simp [hopen]), if_pos (by exact hfits)]
    rfl
  have hcounted := hpoll hreserved rfl
  have hpushed := hpoll hcounted rfl
  refine ⟨_, hpushed, ⟨rfl, ha.cmdsDone, ha.cmds, ha.sendersGone, rfl, ha.wireClosing,
    ha.overflowed, ha.senderLive, ?_⟩, rfl, ?_⟩
  · rcases ha.roomy with ⟨hlen, hbuffered⟩ | hlimit
    · refine .inl ⟨hlen, ?_⟩
      show (s.shared.budget.fetchAdd wordBits message.payloadLen).buffered = 0
      unfold InboundBudget.fetchAdd
      rw [hlen, hbuffered]
      rfl
    · exact .inr hlimit
  · show (s.shared.queue.push message).items.length = _
    rw [Futures.Receiver.push_items_of_live ha.senderLive, List.length_append]
    rfl

/-- A message that costs nothing, or that a limit of `usize::MAX` never refuses, fills the queue
without bound. -/
theorem exists_backlog {limit : Nat} (hlimit : limit < wordSize) (allowed : Inbound → Prop)
    {outcome : Inbound} {message : Message} (hallowed : allowed outcome)
    (hmessage : outcome.message? = some message)
    (hroomy : message.payloadLen = 0 ∨ limit = wordSize - 1) (n : Nat) :
    ∃ s, system.ReachableUnder (Floods allowed) s ∧ s.shared.budget.limit = limit ∧
      s.shared.queue.items.length = n := by
  suffices hfill : ∃ s, system.ReachableUnder (Floods allowed) s ∧ s.Accepting message ∧
      s.shared.budget.limit = limit ∧ s.shared.queue.items.length = n by
    obtain ⟨s, h, -, hlim, hlen⟩ := hfill
    exact ⟨s, h, hlim, hlen⟩
  induction n with
  | zero =>
    have hreaches : 0 + (Duration.fromSecs 0).asNanos ≤ 0 := by decide
    refine ⟨State.start (.fromSecs 0) limit 0 0 hreaches,
      .init ⟨.fromSecs 0, limit, 0, 0, hreaches, hlimit, rfl⟩,
      ⟨rfl, rfl, rfl, rfl, rfl, rfl, rfl, rfl, ?_⟩, rfl, rfl⟩
    exact hroomy.imp (fun hlen => ⟨hlen, rfl⟩) id
  | succ n ih =>
    obtain ⟨s, h, ha, hlim, hlen⟩ := ih
    obtain ⟨s', h', ha', hlim', hlen'⟩ := accepts hallowed hmessage h ha
    exact ⟨s', h', ha', hlim'.trans hlim, hlen'.trans (by rw [hlen])⟩

/-- For a guest that never receives, a limit bounds the queue exactly when every message the peer may
send counts against it: it has a payload, and the limit is not `usize::MAX`. -/
theorem backlog_bounded_iff {limit : Nat} (hlimit : limit < wordSize) (allowed : Inbound → Prop) :
    (∃ bound, ∀ s, system.ReachableUnder (Floods allowed) s → s.shared.budget.limit = limit →
      s.shared.queue.items.length ≤ bound) ↔
    ∀ outcome, allowed outcome → ∀ message, outcome.message? = some message →
      0 < message.payloadLen ∧ limit < wordSize - 1 := by
  constructor
  · rintro ⟨bound, hbound⟩ outcome hallowed message hmessage
    by_contra hno
    have hroomy : message.payloadLen = 0 ∨ limit = wordSize - 1 := by omega
    obtain ⟨s, h, hlim, hlen⟩ := exists_backlog hlimit allowed hallowed hmessage hroomy (bound + 1)
    have hle := hbound s h hlim
    omega
  · intro hallowed
    exact ⟨limit, fun s h hlim => hlim ▸ (backlogged (hlim ▸ hallowed) h rfl).length_le⟩

/-- A peer whose messages are not empty, against a limit of one hundred bytes. -/
theorem backlog_bounded_nonempty :
    ∃ bound, ∀ s, system.ReachableUnder
        (Floods fun outcome => ∀ message, outcome.message? = some message → 0 < message.payloadLen)
        s → s.shared.budget.limit = 100 → s.shared.queue.items.length ≤ bound :=
  (backlog_bounded_iff (by decide) _).mpr fun _ hallowed message hmessage =>
    ⟨hallowed message hmessage, by decide⟩

/-- Empty messages fill the queue past every bound, with the default limit. -/
theorem empty_messages_unbounded :
    ¬ ∀ limit, limit < wordSize → ∃ bound, ∀ s,
      system.ReachableUnder (Floods fun _ => True) s → s.shared.budget.limit = limit →
        s.shared.queue.items.length ≤ bound := by
  intro h
  have hlimit : 8 * 1024 * 1024 < wordSize := by decide
  obtain ⟨bound, hbound⟩ := h (8 * 1024 * 1024) hlimit
  have hempty : Inbound.message? (.binary []) = some (.binary []) := rfl
  obtain ⟨s, hs, hlim, hlen⟩ :=
    exists_backlog hlimit (fun _ => True) trivial hempty (.inl rfl) (bound + 1)
  have hle := hbound s hs hlim
  omega

end Polymorph.Host
