import PolymorphWebsocket.Contract.Ending
import PolymorphWebsocket.Provider.Feeder

/-!
# The guest provider: a call of `close` on a connection that is closing or closed

`close` looks at its own flag only, so on a connection that is closing or closed it still makes the
local close, and every later `receive` fails with `closed`.  Without the call the end of the queue
is handed to one `receive` call at most, since its receiver is terminated from then on.  So the call
is seen on every connection: two `receive` calls fail with `closed` after it, and never without it.
-/

namespace Polymorph.Provider

open Futures Transition

variable {T : Tungstenite} {s s' : State T}

/-! ### The observer -/

/-- The action is no local close, and claims no stream. -/
def Action.receivesOnly : Action → Bool
  | .close _ _ | .drop | .receiveViaStream => false
  | _ => true

/-- A connection under the eyes of a guest that only receives: it makes no local close and claims no
stream. -/
def observed (T : Tungstenite) : Observed (State T) Observation :=
  (system T).observed (fun a => a.receivesOnly = true)
    (fun s s' => shownResults s.hist.received s'.hist.received)
    fun s => Ending.Tells ⟨s.shared.state, s.shared.closed, s.shared.closeInfo.join⟩
      (s.dropped = false)

/-! ### Without a local close -/

/-- The feeder's select leaves a terminated receiver alone. -/
theorem feederSelect_terminated (h : s.feederSelect = some s') (hl : s.shared.localClosed = false)
    (hterm : s.shared.queue.terminated = true) : False := by
  have hpending : s.shared.queue.pollArm = (.pending, s.shared.queue) := if_pos hterm
  unfold State.feederSelect at h
  rw [if_neg (by simp [hl]), hpending] at h
  cases h

/-- Without a local close a `receive` call that fails with `closed` terminates the receiver of the
queue. -/
theorem ends_of_step (hl : s.shared.localClosed = false) {a : Action} (ha : a.receivesOnly = true)
    (hs : step s a = some s') :
    s'.shared.localClosed = false ∧
      s.shared.queue.terminated.toNat +
          (shownResults s.hist.received s'.hist.received).countP Observation.isClosed ≤
        s'.shared.queue.terminated.toNat := by
  have hlocal : s'.shared.localClosed = false := by
    rcases localClosed_of_step hs with hsame | ⟨hno, -⟩
    · exact hsame.trans hl
    · refine absurd ⟨?_, ?_⟩ hno
      · rintro rfl
        cases ha
      · rintro code reason rfl
        cases ha
  refine ⟨hlocal, ?_⟩
  have hsame (hterm : s'.shared.queue.terminated = s.shared.queue.terminated)
      (hreceived : s'.hist.received = s.hist.received) :
      s.shared.queue.terminated.toNat +
          (shownResults s.hist.received s'.hist.received).countP Observation.isClosed ≤
        s'.shared.queue.terminated.toNat := by
    rw [shownResults_of_eq hreceived, hterm]
    exact le_rfl
  cases step_kind hs with
  | reader h => exact hsame (State.ReceiveSound.reader_terminated h) (by rw [ReaderFrame.step h])
  | cmd h => exact hsame (by rw [CmdFrame.step h]) (by rw [CmdFrame.step h])
  | flush t h =>
    exact hsame (by rw [FlushFrame.of_flushes h]) (by rw [FlushFrame.of_flushes h])
  | transport h => exact hsame (by rw [h]) (by rw [h])
  | guest h =>
    cases h with
    | send message =>
      apply hsame
      · unfold State.callSend
        dsimp only
        split <;> rfl
      · unfold State.callSend
        dsimp only
        split <;> rfl
    | receive =>
      by_cases hc : s.shared.streamClaimed = true
      · have hcall : s.callReceive = ({ s with nextId := s.nextId + 1 } : State T).resolveReceive
            s.nextId (.error .receivingViaStream) := by
          unfold State.callReceive
          dsimp only
          rw [if_neg (by simp [hl]), if_pos hc]
        have hreceived : s.callReceive.hist.received =
            s.hist.received ++ [(s.nextId, .error .receivingViaStream)] := by
          rw [hcall]
          rfl
        rw [shownResults_of_answer hreceived, hcall]
        exact le_rfl
      · have hcall : s.callReceive =
            { s with nextId := s.nextId + 1, receives := s.receives ++ [s.nextId] } := by
          unfold State.callReceive
          dsimp only
          rw [if_neg (by simp [hl]), if_neg hc]
        exact hsame (by rw [hcall]) (by rw [hcall])
    | receiveViaStream | close | drop => cases ha
    | @pollReceive id _ h =>
      cases receives_of_poll h with
      | claimed _ hq _ _ hr =>
        rw [shownResults_of_answer hr, hq]
        exact le_rfl
      | closed hlocal => cases hl.symm.trans hlocal
      | message m _ _ hq _ _ hr =>
        rw [shownResults_of_answer hr, hq.2]
        exact le_rfl
      | ended _ _ _ hn hq _ _ hr =>
        rw [shownResults_of_answer hr, hn, hq.2.2]
        exact (Nat.zero_add _).trans_le List.countP_le_length
      | waits _ _ _ hq _ _ hr => exact hsame (by rw [hq]) hr
    | feederNext _ h =>
      have hterm : s.shared.queue.terminated = false :=
        Bool.eq_false_iff.mpr fun ht => feederSelect_terminated h hl ht
      have hreceived : s'.hist.received = s.hist.received := by
        cases feeds_of_select h with
        | closed hlocal => cases hl.symm.trans hlocal
        | message _ _ _ _ _ hr => exact hr
        | ended _ _ _ _ _ hr => exact hr
      rw [shownResults_of_eq hreceived, hterm]
      exact Nat.zero_le _
    | feederLock | taken | dropped => exact hsame rfl rfl

/-- Without a local close one `receive` call at most fails with `closed`. -/
theorem one_closed (hl : s.shared.localClosed = false) {os : List Observation}
    (h : (observed T).Shows s os) : os.countP Observation.isClosed ≤ 1 := by
  obtain ⟨s', hrun⟩ := h
  have hmove (s : State T) (os : List Observation) (s' : State T)
      (hl : s.shared.localClosed = false) (h : (observed T).move s os s') :
      s'.shared.localClosed = false ∧
        s.shared.queue.terminated.toNat + os.countP Observation.isClosed ≤
          s'.shared.queue.terminated.toNat := by
    cases h with
    | step ha hs => exact ends_of_step hl ha hs
    | @inspect o ho =>
      refine ⟨hl, ?_⟩
      cases o with
      | received => cases ho
      | state | closed => exact le_rfl
  have hcounts := hrun.counts hmove hl
  have hle := Bool.toNat_le s'.shared.queue.terminated
  omega

/-! ### After a local close -/

/-- After a local close a `receive` call fails with `closed` at once. -/
theorem receive_of_localClosed (hl : s.shared.localClosed = true) (hd : s.dropped = false) :
    ∃ s', (observed T).Run s [.received (.error .closed)] s' ∧ s'.shared.localClosed = true ∧
      s'.dropped = false := by
  have hcall : s.callReceive =
      ({ s with nextId := s.nextId + 1 } : State T).resolveReceive s.nextId (.error .closed) :=
    if_pos hl
  have hreceived : s.callReceive.hist.received = s.hist.received ++ [(s.nextId, .error .closed)] := by
    rw [hcall]
    rfl
  have hrun : (observed T).Run s [.received (.error .closed)] s.callReceive :=
    (system T).run_step (a := .receive) rfl (guestCall_eq_some.mpr ⟨hd, rfl⟩)
      (shownResults_of_answer hreceived)
  refine ⟨s.callReceive, hrun, ?_, ?_⟩ <;> rw [hcall]
  · exact hl
  · exact hd

/-- The first `close` with valid arguments is seen on every connection, in whatever state it is. -/
theorem close_seen (hl : s.shared.localClosed = false) {code : Option UInt16} {reason : String}
    (hvalid : validateCloseArgs code reason = .ok ()) (hs : step s (.close code reason) = some s') :
    ¬ (observed T).Alike (observed T) s s' := by
  obtain ⟨hd, rfl⟩ := guestCall_eq_some.mp hs
  have hclosed : (s.callClose code reason).shared.localClosed = true ∧
      (s.callClose code reason).dropped = false := by
    rcases callClose_cases s code reason with ⟨hno | hno, -⟩ | ⟨-, -, -, hk⟩ | ⟨-, -, -, hk⟩
    · cases hl.symm.trans hno
    · exact absurd hvalid hno
    · rw [hk]
      exact ⟨rfl, hd⟩
    · rw [hk]
      exact ⟨rfl, hd⟩
  intro halike
  obtain ⟨s₁, hrun₁, hl₁, hd₁⟩ := receive_of_localClosed hclosed.1 hclosed.2
  obtain ⟨s₂, hrun₂, -, -⟩ := receive_of_localClosed hl₁ hd₁
  have hone := one_closed hl ((halike _).mpr ⟨s₂, hrun₁.append hrun₂⟩)
  exact absurd hone (by decide)

end Polymorph.Provider
