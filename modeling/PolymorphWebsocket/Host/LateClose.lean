import PolymorphWebsocket.Contract.Ending
import PolymorphWebsocket.Host.Exit
import PolymorphWebsocket.Host.Lifecycle
import PolymorphWebsocket.Host.Receiving

/-!
# The wasmtime host: a call of `close` on a connection that is closing or closed

`close` looks at its own flag only, so on a connection whose closing the peer or an overflow has begun
it still makes the local close, and every later `receive` fails with `closed`.  Nobody sees the call
exactly when nothing of this is left to see: the state is no longer open, nothing is queued, no
overflow is latched, no stream has been claimed, and the pump's exit is settled as a plain one.
-/

namespace Polymorph.Host

open Futures Transition Relation

variable {s s' : State} {r r' : Receiving}

/-! ### The observer -/

/-- The action is no local close, and claims no stream. -/
def ReceivingAction.receivesOnly : ReceivingAction → Bool
  | .conn (.close _ _) | .conn .drop | .receiveViaStream => false
  | _ => true

/-- A connection under the eyes of a guest that only receives: it makes no local close and claims no
stream. -/
def observed : Observed Receiving Observation :=
  receivingSystem.observed (fun a => a.receivesOnly = true)
    (fun r r' => shownResults r.received r'.received)
    fun r => Ending.Tells ⟨r.conn.shared.state, r.conn.shared.closed, r.conn.shared.closeInfo.join⟩
      (r.conn.calls.dropped = false ∧ r.conn.calls.unreleased = none)

/-- A guest that only receives makes no local close. -/
theorem not_close_of_receivesOnly {action : Action}
    (ha : (ReceivingAction.conn action).receivesOnly = true) :
    (∀ code reason, action ≠ .close code reason) ∧ action ≠ .drop := by
  refine ⟨fun code reason hclose => ?_, fun hdrop => ?_⟩
  · rw [hclose] at ha
    cases ha
  · rw [hdrop] at ha
    cases ha

/-! ### A connection that is over -/

/-- Nothing is left to see of a connection but its end: the state is no longer open, nothing is queued
or will be, and no overflow is latched or will be. -/
structure State.Over (s : State) : Prop where
  reachable : system.Reachable s
  live : s.calls.dropped = false
  idle : s.calls.unreleased = none
  moved : s.shared.state ≠ .open
  settling : s.Settling
  exit : s.exit = some .plain
  items : s.shared.queue.items = []
  overflowed : s.shared.budget.overflowed = false

/-- What is left of it. -/
def State.ending (s : State) : Ending where
  state := s.shared.state
  settled := s.shared.closed
  info := s.pump.peerFrame

/-- The end at a stage of the finalization. -/
def endingAt (stage : Nat) (info : Option CloseInfo) : Ending where
  state := if 7 ≤ stage then .closed else .closing
  settled := decide (8 ≤ stage)
  info := info

/-- The end goes on with the stage. -/
theorem endingAt_run {stage stage' : Nat} (h : stage ≤ stage') (info : Option CloseInfo) :
    Ending.observed.Run (endingAt stage info) [] (endingAt stage' info) := by
  have hadvance : Ending.observed.Run (endingAt stage info) []
      { endingAt stage info with state := (endingAt stage' info).state } := by
    refine .single (.advance _ _ ?_)
    unfold endingAt
    dsimp only
    split
    · rw [if_pos (by omega)]
    · split <;> decide
  by_cases hfired : 8 ≤ stage'
  · have hsettle : Ending.observed.Run
        { endingAt stage info with state := (endingAt stage' info).state } []
        { endingAt stage info with state := (endingAt stage' info).state, settled := true } :=
      .single (.settle _ (if_pos (by omega)))
    have heq : endingAt stage' info =
        { endingAt stage info with state := (endingAt stage' info).state, settled := true } := by
      unfold endingAt
      rw [decide_eq_true hfired]
    rw [heq]
    exact hadvance.append hsettle
  · have heq : endingAt stage' info =
        { endingAt stage info with state := (endingAt stage' info).state } := by
      unfold endingAt
      rw [decide_eq_false hfired, decide_eq_false (by omega)]
    rw [heq]
    exact hadvance

/-- Everyone else leaves the resource, the local close and the queue alone, a reader and a local close
apart. -/
theorem keeps_outer {a : Action} (hm : OuterMove s a s') (hreader : a.isReader = false)
    (hclose : ∀ code reason, a ≠ .close code reason) (hdrop : a ≠ .drop) :
    s'.calls.dropped = s.calls.dropped ∧ s'.calls.unreleased = s.calls.unreleased ∧
      s'.shared.localClosed = s.shared.localClosed ∧
      s'.shared.queue.items = s.shared.queue.items := by
  cases hm with
  | send message =>
    unfold State.callSend
    dsimp only
    split <;> exact ⟨rfl, rfl, rfl, rfl⟩
  | enqueue =>
    unfold State.enqueue
    dsimp only
    split <;> exact ⟨rfl, rfl, rfl, rfl⟩
  | close code reason => exact absurd rfl (hclose code reason)
  | enqueueClose =>
    unfold State.enqueueClose
    dsimp only
    split <;> exact ⟨rfl, rfl, rfl, rfl⟩
  | drop => exact absurd rfl hdrop
  | reader ha => rcases ha with rfl | rfl <;> cases hreader
  | dropSenders | arrive | tick => exact ⟨rfl, rfl, rfl, rfl⟩

/-- A step keeps the resource and the local close, a reader and a local close apart. -/
theorem keeps_step {a : Action} (hs : step s a = some s') (hreader : a.isReader = false)
    (hclose : ∀ code reason, a ≠ .close code reason) (hdrop : a ≠ .drop) :
    s'.calls.dropped = s.calls.dropped ∧ s'.calls.unreleased = s.calls.unreleased ∧
      s'.shared.localClosed = s.shared.localClosed := by
  cases step_kind hs with
  | poll hp =>
    rw [PollFrame.poll hp]
    exact ⟨rfl, rfl, rfl⟩
  | write ha hw =>
    rw [WriteFrame.step hw ha]
    exact ⟨rfl, rfl, rfl⟩
  | outer hm =>
    obtain ⟨hdropped, hunreleased, hlocal, -⟩ := keeps_outer hm hreader hclose hdrop
    exact ⟨hdropped, hunreleased, hlocal⟩

namespace State.Over

/-- What is left is told by the stage. -/
theorem ending_eq (h : s.Over) : s.ending = endingAt s.stage s.pump.peerFrame := by
  have hsound := end_sound h.reachable
  have hstate : s.shared.state = if 7 ≤ s.stage then .closed else .closing := by
    split
    · next hseven => exact hsound.stateClosed.mpr hseven
    · next hseven =>
      cases hstate : s.shared.state with
      | «open» => exact absurd hstate h.moved
      | closing => rfl
      | closed => exact absurd (hsound.stateClosed.mp hstate) hseven
  have hclosed : s.shared.closed = decide (8 ≤ s.stage) := by
    rw [Bool.eq_iff_iff, decide_eq_true_iff]
    exact hsound.closed
  unfold State.ending endingAt
  rw [hstate, hclosed]

/-- A step leaves it so, and keeps the close details. -/
theorem step (h : s.Over) {a : Action} (hs : Host.step s a = some s') (hreader : a.isReader = false)
    (hclose : ∀ code reason, a ≠ .close code reason) (hdrop : a ≠ .drop) :
    s'.Over ∧ s'.pump.peerFrame = s.pump.peerFrame := by
  have hreach : system.Reachable s' := h.reachable.next hs
  have hmoved : s'.shared.state ≠ .open := fun hopen => h.moved ((Answers.step hs).state hopen)
  obtain ⟨hdropped, hunreleased, -⟩ := keeps_step hs hreader hclose hdrop
  have hlive := hdropped.trans h.live
  have hidle := hunreleased.trans h.idle
  cases step_kind hs with
  | poll hp =>
    have hd := Discards.poll h.settling (end_sound h.reachable).reserving hp
    have hexit : s'.exit = some .plain := by
      rcases exit_poll hp h.exit with hkept | ⟨hno, -⟩
      · exact hkept
      · cases hno
    exact ⟨⟨hreach, hlive, hidle, hmoved, hd.settling, hexit, hd.items.trans h.items,
      (hd.overflowed h.exit).trans h.overflowed⟩, hd.peerFrame⟩
  | write ha hw =>
    have hd := Discards.write h.settling hw ha
    exact ⟨⟨hreach, hlive, hidle, hmoved, hd.settling, (exit_write hw ha).trans h.exit,
      hd.items.trans h.items, (hd.overflowed h.exit).trans h.overflowed⟩, hd.peerFrame⟩
  | outer hm =>
    have hpump : s'.pump = s.pump := by rw [OuterFrame.of_move hm]
    have hover : s'.shared.budget.overflowed = s.shared.budget.overflowed := by
      rw [OuterFrame.of_move hm]
    obtain ⟨-, -, -, hitems⟩ := keeps_outer hm hreader hclose hdrop
    refine ⟨⟨hreach, hlive, hidle, hmoved, ?_, exit_outer hm h.exit, hitems.trans h.items,
      hover.trans h.overflowed⟩, by rw [hpump]⟩
    unfold State.Settling
    rw [hpump]
    exact h.settling

/-- The pump's own steps leave it so. -/
theorem drives (h : s.Over) (hd : ReflTransGen Drives s s') :
    s'.Over ∧ s'.pump.peerFrame = s.pump.peerFrame := by
  induction hd with
  | refl => exact ⟨h, rfl⟩
  | tail _ hdrive ih =>
    obtain ⟨hover, hpeer⟩ := ih
    have hkept := (hdrive.keeps hover.reachable).discards hover.settling
    cases hdrive with
    | poll hs => exact ⟨(hover.step hs rfl nofun nofun).1, hkept.peerFrame.trans hpeer⟩
    | writeFailed err hs => exact ⟨(hover.step hs rfl nofun nofun).1, hkept.peerFrame.trans hpeer⟩

end State.Over

/-- Nobody sees the steps the pump takes by itself. -/
theorem run_of_drives (h : ReflTransGen Drives r.conn s') :
    observed.Run r [] { r with conn := s' } := by
  induction h with
  | refl => exact .nil r
  | @tail s₁ s₂ _ hdrive ih =>
    apply ih.append
    cases hdrive with
    | poll hs =>
      refine receivingSystem.run_step (a := .conn .poll) rfl ?_ (shownResults_of_eq rfl)
      show (step s₁ .poll).map _ = _
      rw [hs]
      rfl
    | writeFailed err hs =>
      refine receivingSystem.run_step (a := .conn (.writeFailed err)) rfl ?_ (shownResults_of_eq rfl)
      show (step s₁ (.writeFailed err)).map _ = _
      rw [hs]
      rfl

/-- A connection that is over, and no stream reads its queue. -/
structure Receiving.Over (r : Receiving) : Prop where
  conn : r.conn.Over
  lock : r.LockSound
  unclaimed : r.streamReceiving = false

namespace Receiving.Over

/-- A move shows what the end shows. -/
theorem step (h : r.Over) {a : ReceivingAction} (ha : a.receivesOnly = true)
    (hs : receivingStep r a = some r') :
    r'.Over ∧
      Ending.observed.Run r.conn.ending (shownResults r.received r'.received) r'.conn.ending := by
  have hlock := h.lock.step hs
  cases receives_of_step hs with
  | conn action hconn hreader hstep hrest =>
    obtain ⟨hclose, hdrop⟩ := not_close_of_receivesOnly (hconn ▸ ha)
    obtain ⟨hover, hpeer⟩ := h.conn.step hstep hreader hclose hdrop
    have hunclaimed : r'.streamReceiving = false := by
      rw [hrest]
      exact h.unclaimed
    refine ⟨⟨hover, hlock, hunclaimed⟩, ?_⟩
    have hreceived : r'.received = r.received := by rw [hrest]
    rw [shownResults_of_eq hreceived, h.conn.ending_eq, hover.ending_eq, hpeer]
    exact endingAt_run (stage_step h.conn.reachable hstep).1 _
  | fails id err why _ hconn hstream _ hreceived =>
    have hclosed : err = .closed := by
      cases why with
      | localClosed => rfl
      | claimed hclaimed => cases h.unclaimed.symm.trans hclaimed
      | ended =>
        unfold Receiving.endError
        rw [h.conn.overflowed]
        rfl
    refine ⟨⟨hconn ▸ h.conn, hlock, hstream.trans h.unclaimed⟩, ?_⟩
    rw [shownResults_of_answer hreceived, hclosed, hconn]
    exact .single (.receive _)
  | silent hconn hstream _ hreceived =>
    have hunclaimed : r'.streamReceiving = false := by
      refine (hstream ?_).trans h.unclaimed
      rintro rfl
      cases ha
    refine ⟨⟨hconn ▸ h.conn, hlock, hunclaimed⟩, ?_⟩
    rw [shownResults_of_eq hreceived, hconn]
    exact .nil _
  | takes _ htake =>
    simp only [Host.step] at htake
    split at htake
    · next hpoll =>
      obtain ⟨hitems, -⟩ := Receiver.pollNext_some hpoll
      cases h.conn.items.symm.trans hitems
    · cases htake
  | releases hrelease =>
    simp only [Host.step, h.conn.idle] at hrelease
    cases hrelease

/-- The pump takes it to every stage ahead, unseen. -/
theorem reaches (h : r.Over) {n : Nat} (hle : r.conn.stage ≤ n) (hn : n ≤ 8) :
    ∃ r', observed.Run r [] r' ∧ r'.Over ∧ r'.conn.stage = n ∧
      r'.conn.pump.peerFrame = r.conn.pump.peerFrame := by
  have hexit : r.conn.exit.isSome = true := by
    rw [h.conn.exit]
    rfl
  obtain ⟨s', hdrives, hstage⟩ := exists_stage h.conn.reachable h.conn.live hexit hle hn
  obtain ⟨hover, hpeer⟩ := h.conn.drives hdrives
  have hlock : Receiving.LockSound { r with conn := s' } := h.lock.congr rfl rfl rfl rfl
  exact ⟨_, run_of_drives hdrives, ⟨hover, hlock, h.unclaimed⟩, hstage, hpeer⟩

end Receiving.Over

/-! ### A call that receives -/

/-- The resource is there, no local close has been made, no stream has been claimed, and the readers
are between two polls. -/
structure Receiving.Ready (r : Receiving) : Prop where
  live : r.conn.calls.dropped = false
  idle : r.conn.calls.unreleased = none
  localOpen : r.conn.shared.localClosed = false
  unclaimed : r.streamReceiving = false
  lock : r.LockSound

namespace Receiving.Ready

/-- A `receive` call gets the lock: the one that has it, or a new one. -/
theorem exists_waiting (h : r.Ready) : ∃ r' id, observed.Run r [] r' ∧ id ∈ r'.waiting ∧
    r'.mayLock (.receive id) = true ∧ r'.conn = r.conn ∧ r'.Ready := by
  cases hlock : r.lock with
  | none =>
    have hcall : r.callReceive =
        { r with nextReceive := r.nextReceive + 1, waiting := r.waiting ++ [r.nextReceive] } := by
      unfold Receiving.callReceive
      dsimp only
      rw [if_neg (by simp [h.localOpen]), if_neg (by simp [h.unclaimed])]
    have hstep : receivingStep r .receive = some r.callReceive :=
      call_eq_some.mpr ⟨h.idle, h.live, rfl⟩
    have hrun : observed.Run r [] r.callReceive :=
      receivingSystem.run_step (a := .receive) rfl hstep (shownResults_of_eq (by rw [hcall]))
    have hsound := h.lock.step hstep
    rw [hcall] at hrun hsound
    refine ⟨_, r.nextReceive, hrun, List.mem_append_right _ List.mem_cons_self, ?_, rfl,
      ⟨h.live, h.idle, h.localOpen, h.unclaimed, hsound⟩⟩
    unfold Receiving.mayLock
    rw [hlock]
    rfl
  | some holder =>
    cases holder with
    | receive id =>
      refine ⟨r, id, .nil r, h.lock.receive id hlock, ?_, rfl, h⟩
      unfold Receiving.mayLock
      rw [hlock]
      simp
    | stream => cases h.unclaimed.symm.trans (h.lock.claimed (h.lock.stream hlock))

/-- A poll of a call gets to the queue. -/
theorem pollReceive_eq (h : r.Ready) {id : Nat} (hid : id ∈ r.waiting) :
    receivingStep r (.pollReceive id) = r.nextInbound id := by
  have hturn (next : Option Receiving) : r.turn next = next := by
    unfold Receiving.turn
    rw [h.idle]
    rfl
  simp only [receivingStep]
  rw [hturn, if_pos hid]
  unfold Receiving.pollReceive
  rw [if_neg (by simp [h.unclaimed]), if_neg (by simp [h.localOpen])]

/-- At the end of the queue a call fails with its error. -/
theorem shows_ended (h : r.Ready) (hitems : r.conn.shared.queue.items = [])
    (hended : r.conn.shared.queue.senderLive = false) :
    ∃ r', observed.Run r [.received (.error r.endError)] r' ∧ r'.conn = r.conn ∧ r'.Ready := by
  obtain ⟨r₁, id, hrun, hid, hlock, hconn, hready⟩ := h.exists_waiting
  have hpoll : r₁.conn.shared.queue.pollNext.1 = .ready none := by
    rw [hconn, Receiver.pollNext_of_nil hitems, hended]
    rfl
  have hstep : receivingStep r₁ (.pollReceive id) =
      some (r₁.answer id (.error r₁.endError)) := by
    rw [hready.pollReceive_eq hid]
    unfold Receiving.nextInbound
    rw [if_pos hlock, hpoll]
  have herr : r₁.endError = r.endError := by
    unfold Receiving.endError
    rw [hconn]
  have hrun' : observed.Run r₁ [.received (.error r.endError)]
      (r₁.answer id (.error r₁.endError)) := by
    rw [← herr]
    exact receivingSystem.run_step (a := .pollReceive id) rfl hstep (shownResults_of_answer rfl)
  refine ⟨_, hrun.append hrun', hconn, ?_⟩
  exact ⟨hready.live, hready.idle, hready.localOpen, hready.unclaimed, hready.lock.step hstep⟩

/-- A message that is queued is received. -/
theorem shows_next (h : r.Ready) {message : Message} {rest : List Message}
    (hitems : r.conn.shared.queue.items = message :: rest) :
    observed.Shows r [.received (.ok message)] := by
  obtain ⟨r₁, id, hrun, hid, hlock, hconn, hready⟩ := h.exists_waiting
  have hpoll : r₁.conn.shared.queue.pollNext.1 = .ready (some message) := by
    rw [hconn, Receiver.pollNext_of_cons hitems]
  obtain ⟨conn, htake, hunreleased⟩ : ∃ conn, step r₁.conn .take = some conn ∧
      conn.calls.unreleased = some message := by
    simp only [step, hready.idle]
    rw [← Prod.mk.eta (p := r₁.conn.shared.queue.pollNext), hpoll]
    exact ⟨_, rfl, rfl⟩
  have hstep : receivingStep r₁ (.pollReceive id) =
      some { r₁ with conn := conn, lock := some (.receive id) } := by
    rw [hready.pollReceive_eq hid]
    unfold Receiving.nextInbound
    rw [if_pos hlock, hpoll]
    show r₁.takeNext (.receive id) = _
    unfold Receiving.takeNext
    rw [htake]
    rfl
  obtain ⟨conn', hrelease⟩ : ∃ conn', step conn .release = some conn' := by
    simp only [step, hunreleased]
    exact ⟨_, rfl⟩
  let taken : Receiving := { r₁ with conn := conn, lock := some (.receive id) }
  let handed : Receiving := ({ taken with conn := conn' } : Receiving).answer id (.ok message)
  have hstep' : receivingStep taken .release = some handed := by
    refine (Receiving.release_of_receive (r := taken) rfl hunreleased).trans ?_
    show (step conn .release).map _ = _
    rw [hrelease]
    rfl
  have htakes : observed.Run r₁ [] taken :=
    receivingSystem.run_step (a := .pollReceive id) rfl hstep (shownResults_of_eq rfl)
  have hhands : observed.Run taken [.received (.ok message)] handed :=
    receivingSystem.run_step (a := .release) rfl hstep' (shownResults_of_answer rfl)
  exact ⟨handed, hrun.append (htakes.append hhands)⟩

end Receiving.Ready

namespace Receiving.Over

/-- A receive call fails with `closed`, at the latest when the pump has ended the queue. -/
theorem receive (h : r.Over) :
    ∃ r', observed.Run r [.received (.error .closed)] r' ∧ r'.Over ∧
      r'.conn.ending = r.conn.ending := by
  obtain ⟨r₁, hrun, hover, hstage, hpeer⟩ :=
    h.reaches (le_max_left r.conn.stage 3) (max_le r.conn.pump.pc.stage_le (by decide))
  have hsame : r₁.conn.ending = r.conn.ending := by
    have hseven : 7 ≤ max r.conn.stage 3 ↔ 7 ≤ r.conn.stage := by omega
    have height : 8 ≤ max r.conn.stage 3 ↔ 8 ≤ r.conn.stage := by omega
    rw [hover.conn.ending_eq, h.conn.ending_eq, hpeer, hstage]
    unfold endingAt
    simp only [hseven, height]
  by_cases hlocal : r₁.conn.shared.localClosed = true
  · have hcall : r₁.callReceive = ({ r₁ with nextReceive := r₁.nextReceive + 1 } : Receiving).answer
        r₁.nextReceive (.error .closed) := if_pos hlocal
    have hstep : receivingStep r₁ .receive = some r₁.callReceive :=
      call_eq_some.mpr ⟨hover.conn.idle, hover.conn.live, rfl⟩
    have hrun' : observed.Run r₁ [.received (.error .closed)] r₁.callReceive :=
      receivingSystem.run_step (a := .receive) rfl hstep (shownResults_of_answer (by rw [hcall]; rfl))
    refine ⟨r₁.callReceive, hrun.append hrun', (hover.step rfl hstep).1, ?_⟩
    rw [hcall]
    exact hsame
  · have hready : r₁.Ready :=
      ⟨hover.conn.live, hover.conn.idle, Bool.eq_false_iff.mpr hlocal, hover.unclaimed, hover.lock⟩
    have hended : r₁.conn.shared.queue.senderLive = false :=
      (end_sound hover.conn.reachable).ended (by rw [hstage]; exact le_max_right _ 3)
    obtain ⟨r', hrun', hconn, hready'⟩ := hready.shows_ended hover.conn.items hended
    have herr : r₁.endError = .closed := by
      unfold Receiving.endError
      rw [hover.conn.overflowed]
      rfl
    rw [herr] at hrun'
    refine ⟨r', hrun.append hrun', ⟨hconn ▸ hover.conn, hready'.lock, hready'.unclaimed⟩, ?_⟩
    rw [hconn, hsame]

/-- The pump takes it on to closed. -/
theorem advances (h : r.Over) {state : WsState} (hrank : r.conn.shared.state.rank ≤ state.rank) :
    ∃ r', observed.Run r [] r' ∧ r'.Over ∧ r'.conn.ending = { r.conn.ending with state := state } := by
  by_cases hsame : r.conn.shared.state = state
  · exact ⟨r, .nil r, h, by rw [← hsame]; rfl⟩
  · have hstates : r.conn.shared.state = .closing ∧ state = .closed := by
      cases hs : r.conn.shared.state with
      | «open» => exact absurd hs h.conn.moved
      | closing =>
        rw [hs] at hrank hsame
        cases state with
        | «open» => exact absurd hrank (by decide)
        | closing => exact absurd rfl hsame
        | closed => exact ⟨rfl, rfl⟩
      | closed =>
        rw [hs] at hrank hsame
        cases state with
        | closed => exact absurd rfl hsame
        | «open» | closing => exact absurd hrank (by decide)
    obtain ⟨hclosing, rfl⟩ := hstates
    have hlow : ¬ 7 ≤ r.conn.stage := fun hseven => by
      cases hclosing.symm.trans ((end_sound h.conn.reachable).stateClosed.mpr hseven)
    obtain ⟨r', hrun, hover, hstage, hpeer⟩ := h.reaches (Nat.le_of_not_le hlow) (by decide)
    refine ⟨r', hrun, hover, ?_⟩
    rw [hover.conn.ending_eq, h.conn.ending_eq, hpeer, hstage]
    unfold endingAt
    rw [decide_eq_false (p := 8 ≤ r.conn.stage) (by omega)]
    rfl

/-- The pump fires the closed signal at last. -/
theorem settles (h : r.Over) (hclosed : r.conn.shared.state = .closed) :
    ∃ r', observed.Run r [] r' ∧ r'.Over ∧ r'.conn.ending = { r.conn.ending with settled := true } := by
  obtain ⟨r', hrun, hover, hstage, hpeer⟩ := h.reaches r.conn.pump.pc.stage_le le_rfl
  have hseven : 7 ≤ r.conn.stage := (end_sound h.conn.reachable).stateClosed.mp hclosed
  refine ⟨r', hrun, hover, ?_⟩
  rw [hover.conn.ending_eq, h.conn.ending_eq, hpeer, hstage]
  unfold endingAt
  rw [if_pos hseven]
  rfl

/-- Such a connection shows what its end shows. -/
theorem alike (h : r.Over) : observed.Alike Ending.observed r r.conn.ending := by
  refine Observed.Simulates.alike (R := fun r e => Receiving.Over r ∧ e = r.conn.ending)
    (Q := fun e r => Receiving.Over r ∧ e = r.conn.ending) ?_ ?_ ⟨h, rfl⟩ (.nil r) ⟨h, rfl⟩
  · rintro r _ os r' ⟨hover, rfl⟩ hmove
    cases hmove with
    | step ha hs =>
      obtain ⟨hover', hrun⟩ := hover.step ha hs
      exact ⟨r'.conn.ending, hrun, hover', rfl⟩
    | @inspect o ho =>
      refine ⟨r.conn.ending, ?_, hover, rfl⟩
      cases o with
      | received => cases ho
      | state value =>
        obtain ⟨-, rfl⟩ := ho
        exact .single (.state _)
      | closed info =>
        obtain ⟨hclosed, rfl⟩ := ho
        have hsound := end_sound hover.conn.reachable
        have hinfo := hsound.closeInfo (Nat.le_trans (by decide) (hsound.closed.mp hclosed))
        rw [hinfo]
        exact .single (.waitClosed r.conn.ending hclosed)
  · rintro _ r os e' ⟨hover, rfl⟩ hmove
    cases hmove with
    | advance state hrank =>
      obtain ⟨r', hrun, hover', hsame⟩ := hover.advances hrank
      exact ⟨r', hrun, hover', hsame.symm⟩
    | settle hstate =>
      obtain ⟨r', hrun, hover', hsame⟩ := hover.settles hstate
      exact ⟨r', hrun, hover', hsame.symm⟩
    | receive =>
      obtain ⟨r', hrun, hover', hsame⟩ := hover.receive
      exact ⟨r', hrun, hover', hsame.symm⟩
    | state =>
      exact ⟨r, .single (.inspect ⟨⟨hover.conn.live, hover.conn.idle⟩, rfl⟩), hover, rfl⟩
    | waitClosed hsettled =>
      have hsound := end_sound hover.conn.reachable
      have hinfo := hsound.closeInfo (Nat.le_trans (by decide) (hsound.closed.mp hsettled))
      refine ⟨r, .single (.inspect ⟨hsettled, ?_⟩), hover, rfl⟩
      rw [hinfo]
      rfl

end Receiving.Over

/-! ### After a local close -/

/-- What is shown after a local close: a `receive` call that returns fails, with `closed` or, if it
waited when the stream was claimed, with `receiving-via-stream`; and the state is no longer open. -/
def AfterClose (o : Observation) : Prop :=
  (∀ result, o = .received result → result = .error .closed ∨ result = .error .receivingViaStream) ∧
    ∀ value, o = .state value → value ≠ .open

/-- A local close has been made. -/
structure Receiving.LocallyClosed (r : Receiving) : Prop where
  localClosed : r.conn.shared.localClosed = true
  idle : r.conn.calls.unreleased = none
  moved : r.conn.shared.state ≠ .open

/-- Nothing else is shown after a local close. -/
theorem localClosed_moves : ∀ r os r', Receiving.LocallyClosed r → observed.move r os r' →
    r'.LocallyClosed ∧ ∀ o ∈ os, AfterClose o := by
  rintro r os r' h hmove
  cases hmove with
  | step ha hs =>
    have hsilent (hsame : r'.received = r.received) :
        ∀ o ∈ shownResults r.received r'.received, AfterClose o := by
      rw [shownResults_of_eq hsame]
      exact List.forall_mem_nil _
    cases receives_of_step hs with
    | conn action hconn hreader hstep hrest =>
      obtain ⟨hclose, hdrop⟩ := not_close_of_receivesOnly (hconn ▸ ha)
      obtain ⟨-, hunreleased, hlocal⟩ := keeps_step hstep hreader hclose hdrop
      refine ⟨⟨hlocal.trans h.localClosed, hunreleased.trans h.idle,
        fun hopen => h.moved ((Answers.step hstep).state hopen)⟩, hsilent ?_⟩
      rw [hrest]
    | fails id err why _ hconn _ _ hreceived =>
      refine ⟨⟨hconn ▸ h.localClosed, hconn ▸ h.idle, hconn ▸ h.moved⟩, ?_⟩
      rw [shownResults_of_answer hreceived]
      intro o ho
      rw [List.mem_singleton.mp ho]
      refine ⟨fun result heq => ?_, by rintro state ⟨⟩⟩
      cases heq
      cases why with
      | localClosed => exact .inl rfl
      | claimed => exact .inr rfl
      | ended hlocal => cases h.localClosed.symm.trans hlocal
    | silent hconn _ _ hreceived =>
      exact ⟨⟨hconn ▸ h.localClosed, hconn ▸ h.idle, hconn ▸ h.moved⟩, hsilent hreceived⟩
    | takes hlocal => cases h.localClosed.symm.trans hlocal
    | releases hrelease =>
      simp only [step, h.idle] at hrelease
      cases hrelease
  | @inspect o ho =>
    refine ⟨h, fun o' ho' => ?_⟩
    rw [List.mem_singleton.mp ho']
    cases o with
    | received => cases ho
    | state value =>
      obtain ⟨-, rfl⟩ := ho
      refine ⟨by rintro result ⟨⟩, fun value heq => ?_⟩
      cases heq
      exact h.moved
    | closed => exact ⟨by rintro result ⟨⟩, by rintro state ⟨⟩⟩

/-- A `receive` call has failed with `receiving-via-stream`. -/
def showsClaim (o : Observation) : Bool := o == .received (.error .receivingViaStream)

/-- After a local close only the calls that wait may still fail so. -/
theorem claims_le {os : List Observation} (h : r.LocallyClosed) (hshows : observed.Shows r os) :
    os.countP showsClaim ≤ r.waiting.length := by
  obtain ⟨r', hrun⟩ := hshows
  have hmove (t : Receiving) (os : List Observation) (t' : Receiving)
      (ht : t.LocallyClosed ∧ t.waiting.length ≤ r.waiting.length) (hm : observed.move t os t') :
      (t'.LocallyClosed ∧ t'.waiting.length ≤ r.waiting.length) ∧
        r.waiting.length - t.waiting.length + os.countP showsClaim ≤
          r.waiting.length - t'.waiting.length := by
    obtain ⟨hclosed, hle⟩ := ht
    have hclosed' := (localClosed_moves t os t' hclosed hm).1
    suffices hpaid : t'.waiting.length + os.countP showsClaim ≤ t.waiting.length from
      ⟨⟨hclosed', by omega⟩, by omega⟩
    cases hm with
    | step ha hs =>
      have hsilent (hsame : t'.received = t.received) (hlen : t'.waiting.length ≤ t.waiting.length) :
          t'.waiting.length + (shownResults t.received t'.received).countP showsClaim ≤
            t.waiting.length := by
        rw [shownResults_of_eq hsame]
        exact hlen
      cases receives_of_step hs with
      | conn _ _ _ _ hrest =>
        refine hsilent ?_ ?_
        · rw [hrest]
        · rw [hrest]
      | fails id err why hid _ _ hwaiting hreceived =>
        rw [shownResults_of_answer hreceived, hwaiting]
        rcases hid with hid | hlocal | rfl
        · -- the call that fails waits no longer
          have hlen := List.length_erase_of_mem hid
          have hpos := List.length_pos_of_mem hid
          have hone := List.countP_le_length
            (p := showsClaim) (l := [Observation.received (.error err)])
          rw [List.length_singleton] at hone
          omega
        · cases hclosed.localClosed.symm.trans hlocal
        · exact List.length_erase_le
      | silent _ _ hwaiting hreceived => exact hsilent hreceived (hwaiting hclosed.localClosed)
      | takes hlocal => cases hclosed.localClosed.symm.trans hlocal
      | releases hrelease =>
        simp only [step, hclosed.idle] at hrelease
        cases hrelease
    | @inspect o ho =>
      cases o with
      | received => cases ho
      | state | closed => exact le_rfl
  have hcounts := hrun.counts hmove ⟨h, le_rfl⟩
  omega

/-! ### What is left to see -/

/-- Nothing that a local close changes is left to see: the state is no longer open, nothing is queued,
no overflow is latched, the pump leaves its loop plainly, and no stream has been claimed. -/
def Receiving.NothingLeft (r : Receiving) : Prop :=
  r.conn.shared.state ≠ .open ∧ r.conn.shared.queue.items = [] ∧
    r.conn.shared.budget.overflowed = false ∧ r.conn.exit = some .plain ∧ r.streamReceiving = false

instance (r : Receiving) : Decidable r.NothingLeft :=
  inferInstanceAs (Decidable (_ ∧ _ ∧ _ ∧ _ ∧ _))

/-- Such a connection is over, with a local close and without. -/
theorem over_of_nothingLeft (h : receivingSystem.Reachable r) (hd : r.conn.calls.dropped = false)
    (hidle : r.conn.calls.unreleased = none) (hl : r.conn.shared.localClosed = false)
    (hn : r.NothingLeft) : r.Over := by
  obtain ⟨hmoved, hitems, hover, hexit, hunclaimed⟩ := hn
  have hconn := conn_reachable h
  have hset : r.conn.Settling := by
    rcases (end_sound hconn).closing hmoved with hlocal | hwire | hsix
    · cases hl.symm.trans hlocal
    · have hnone : r.conn.hist.closeCall = none := by
        simpa [hl] using (closeFrame_sound hconn).localClosed.symm
      rcases (closeFrame_sound hconn).closing hwire hnone with hpeer | ho
      · exact .inr ⟨hwire, hpeer⟩
      · cases hover.symm.trans ho
    · refine .inl (Bool.of_not_eq_false fun hleft => ?_)
      have hzero : r.conn.stage = 0 := Pc.stage_eq_zero.mpr hleft
      omega
  exact ⟨⟨hconn, hd, hidle, hmoved, hset, hexit, hitems, hover⟩, lock_sound h, hunclaimed⟩

/-- A local close of a connection that is over leaves it so, with the same end. -/
theorem Receiving.Over.close (h : r.Over) {code : Option UInt16} {reason : String}
    (hreach : system.Reachable (r.conn.closed code reason)) :
    Receiving.Over { r with conn := r.conn.closed code reason } ∧
      (r.conn.closed code reason).ending = r.conn.ending := by
  have hstate : r.conn.shared.state.advance .closing = r.conn.shared.state := by
    cases hs : r.conn.shared.state with
    | «open» => exact absurd hs h.conn.moved
    | closing | closed => rfl
  refine ⟨⟨⟨hreach, h.conn.live, h.conn.idle, advance_ne_open _ nofun, h.conn.settling, h.conn.exit,
    h.conn.items, h.conn.overflowed⟩, h.lock.congr rfl rfl rfl rfl, h.unclaimed⟩, ?_⟩
  unfold State.ending
  show Ending.mk (r.conn.shared.state.advance .closing) _ _ = _
  rw [hstate]
  rfl

/-- After the claim of the stream any number of calls fail with `receiving-via-stream`. -/
theorem shows_claims (hd : r.conn.calls.dropped = false) (hidle : r.conn.calls.unreleased = none)
    (hl : r.conn.shared.localClosed = false) (hc : r.streamReceiving = true) (n : Nat) :
    observed.Shows r (List.replicate n (.received (.error .receivingViaStream))) := by
  induction n generalizing r with
  | zero => exact ⟨r, .nil r⟩
  | succ n ih =>
    have hcall : r.callReceive = ({ r with nextReceive := r.nextReceive + 1 } : Receiving).answer
        r.nextReceive (.error .receivingViaStream) := by
      unfold Receiving.callReceive
      dsimp only
      rw [if_neg (by simp [hl]), if_pos hc]
    have hstep : receivingStep r .receive = some r.callReceive :=
      call_eq_some.mpr ⟨hidle, hd, rfl⟩
    rw [hcall] at hstep
    have hfails : observed.Run r _ _ :=
      receivingSystem.run_step (a := .receive) rfl hstep (shownResults_of_answer rfl)
    obtain ⟨r', hrun⟩ := ih (r := ({ r with nextReceive := r.nextReceive + 1 } : Receiving).answer
      r.nextReceive (.error .receivingViaStream)) hd hidle hl hc
    exact ⟨r', hfails.append hrun⟩

/-- What the pump's own steps keep of a connection. -/
theorem keeps_drives (h : system.Reachable s) (hd : ReflTransGen Drives s s') :
    system.Reachable s' ∧ s'.calls = s.calls ∧ s'.shared.localClosed = s.shared.localClosed ∧
      (s.shared.budget.overflowed = true ∨ s.exit = some .overflow →
        s'.shared.budget.overflowed = true ∨ s'.exit = some .overflow) := by
  induction hd with
  | refl => exact ⟨h, rfl, rfl, id⟩
  | tail _ hdrive ih =>
    obtain ⟨hr, hcalls, hlocal, hover⟩ := ih
    have hkeeps := hdrive.keeps hr
    refine ⟨hkeeps.reachable, hkeeps.calls.trans hcalls, hkeeps.localClosed.trans hlocal,
      fun ho => ?_⟩
    rcases hover ho with hlatched | hexit
    · exact .inl (hkeeps.overflowed hlatched)
    · rcases hkeeps.exit _ hexit with hkept | ⟨-, -, hlatched⟩
      · exact .inr hkept
      · exact .inl hlatched

/-- A connection that overflows, or will, shows a message or the overflow. -/
theorem Receiving.Ready.shows_overflow (h : r.Ready) (hr : system.Reachable r.conn)
    (hexit : r.conn.exit.isSome = true)
    (hover : r.conn.shared.budget.overflowed = true ∨ r.conn.exit = some .overflow) :
    ∃ result, observed.Shows r [.received result] ∧ result ≠ .error .closed ∧
      result ≠ .error .receivingViaStream := by
  obtain ⟨s', hdrives, hstage⟩ := exists_stage hr h.live hexit r.conn.pump.pc.stage_le le_rfl
  obtain ⟨hr', hcalls, hlocal, hkeeps⟩ := keeps_drives hr hdrives
  have hready : Receiving.Ready { r with conn := s' } :=
    ⟨(congrArg Calls.dropped hcalls).trans h.live, (congrArg Calls.unreleased hcalls).trans h.idle,
      hlocal.trans h.localOpen, h.unclaimed, h.lock.congr rfl rfl rfl rfl⟩
  have hrun := run_of_drives hdrives
  have hlatched : s'.shared.budget.overflowed = true := by
    refine (hkeeps hover).resolve_right fun hno => ?_
    have hleft : s'.pump.pc.left = true := by
      refine Bool.of_not_eq_false fun hleft => ?_
      have hzero : s'.stage = 0 := Pc.stage_eq_zero.mpr hleft
      omega
    cases hno.symm.trans (exit_of_left hleft)
  cases hitems : s'.shared.queue.items with
  | cons message rest => exact ⟨.ok message, .after hrun (hready.shows_next hitems), nofun, nofun⟩
  | nil =>
    have hended : s'.shared.queue.senderLive = false :=
      (end_sound hr').ended (by rw [hstage]; decide)
    obtain ⟨r', hrun', -, -⟩ := hready.shows_ended hitems hended
    have herr : Receiving.endError { r with conn := s' } = .receiveBufferOverflow := if_pos hlatched
    rw [herr] at hrun'
    exact ⟨_, ⟨r', hrun.append hrun'⟩, nofun, nofun⟩

/-- The transport may end a loop whose exit is open, either way. -/
theorem Receiving.Ready.arrives (h : r.Ready) (hnone : r.conn.exit = none) (outcome : Inbound) :
    ∃ r', observed.Run r [] r' ∧ r'.Ready ∧ (system.Reachable r.conn → system.Reachable r'.conn) ∧
      r'.conn.exit = exitBy outcome ∧ r'.conn.shared = r.conn.shared := by
  let arrived : State := { r.conn with inbound := r.conn.inbound ++ [outcome] }
  have hconn : step r.conn (.arrive [outcome]) = some arrived := rfl
  have hstep : receivingStep r (.conn (.arrive [outcome])) = some { r with conn := arrived } := rfl
  have hready : Receiving.Ready { r with conn := arrived } :=
    ⟨h.live, h.idle, h.localOpen, h.unclaimed, h.lock.congr rfl rfl rfl rfl⟩
  have hrun : observed.Run r [] { r with conn := arrived } :=
    receivingSystem.run_step (a := .conn (.arrive [outcome])) rfl hstep (shownResults_of_eq rfl)
  exact ⟨_, hrun, hready, fun hr => hr.next (a := .arrive [outcome]) hconn,
    Pc.exit_arrives hnone outcome, rfl⟩

/-- A local close of a connection that has something left is seen. -/
theorem nothingLeft_of_alike (h : receivingSystem.Reachable r)
    (hd : r.conn.calls.dropped = false) (hidle : r.conn.calls.unreleased = none)
    (hl : r.conn.shared.localClosed = false) (hclosed : r'.LocallyClosed)
    (hwaiting : r'.waiting = r.waiting) (halike : observed.Alike observed r r') :
    r.NothingLeft := by
  have hr := conn_reachable h
  -- what is not seen after a local close
  have hnever (o : Observation) (hno : ¬ AfterClose o) (hshows : observed.Shows r [o]) : False :=
    hno (((halike _).mp hshows).keeps localClosed_moves hclosed o List.mem_cons_self)
  have hresult (hshows : ∃ result, observed.Shows r [.received result] ∧
      result ≠ .error .closed ∧ result ≠ .error .receivingViaStream) : False := by
    obtain ⟨result, hshows, hne, hne'⟩ := hshows
    exact hnever _ (fun hafter => (hafter.1 result rfl).elim hne hne') hshows
  have hunclaimed : r.streamReceiving = false := by
    refine Bool.eq_false_iff.mpr fun hc => ?_
    have hshows := shows_claims hd hidle hl hc (r.waiting.length + 1)
    have hle := claims_le hclosed ((halike _).mp hshows)
    have hclaims : showsClaim (.received (.error .receivingViaStream)) = true := rfl
    rw [List.countP_replicate, hwaiting, if_pos hclaims] at hle
    omega
  have hready : r.Ready := ⟨hd, hidle, hl, hunclaimed, lock_sound h⟩
  refine ⟨fun hopen => ?_, ?_, ?_, ?_, hunclaimed⟩
  · refine hnever (.state .open) (fun hafter => hafter.2 .open rfl rfl) ⟨r, .single ?_⟩
    exact .inspect ⟨⟨hd, hidle⟩, hopen.symm⟩
  · cases hitems : r.conn.shared.queue.items with
    | nil => rfl
    | cons message rest => exact (hresult ⟨.ok message, hready.shows_next hitems, nofun, nofun⟩).elim
  · refine Bool.eq_false_iff.mpr fun hover => hresult ?_
    cases hexit : r.conn.exit with
    | some exit => exact hready.shows_overflow hr (by rw [hexit]; rfl) (.inl hover)
    | none =>
      obtain ⟨r₁, hrun, hready₁, hr₁, hexit₁, hshared⟩ := hready.arrives hexit .connectionClosed
      obtain ⟨result, hshows, hne⟩ := hready₁.shows_overflow (hr₁ hr) (by rw [hexit₁]; rfl)
        (.inl (by rw [hshared]; exact hover))
      exact ⟨result, .after hrun hshows, hne⟩
  · cases hexit : r.conn.exit with
    | some exit =>
      cases exit with
      | plain => rfl
      | overflow =>
        exact (hresult (hready.shows_overflow hr (by rw [hexit]; rfl) (.inr hexit))).elim
    | none =>
      obtain ⟨r₁, hrun, hready₁, hr₁, hexit₁, -⟩ := hready.arrives hexit .capacity
      obtain ⟨result, hshows, hne⟩ :=
        hready₁.shows_overflow (hr₁ hr) (by rw [hexit₁]; rfl) (.inr hexit₁)
      exact (hresult ⟨result, .after hrun hshows, hne⟩).elim

/-- The first `close` with valid arguments goes unseen exactly when nothing of the connection is left
that a local close changes. -/
theorem close_unseen_iff (h : receivingSystem.Reachable r) (hl : r.conn.shared.localClosed = false)
    {code : Option UInt16} {reason : String} (hvalid : validateCloseArgs code reason = .ok ())
    (hs : receivingStep r (.conn (.close code reason)) = some r') :
    observed.Alike observed r r' ↔ r.NothingLeft := by
  obtain ⟨hidle, hs⟩ := turn_eq_some.mp hs
  obtain ⟨conn, hconn, rfl⟩ := Option.map_eq_some_iff.mp hs
  obtain ⟨hd, hcall⟩ := guestCall_eq_some.mp hconn
  have hk : conn = r.conn.closed code reason := by
    rcases callClose_cases r.conn code reason with ⟨hno | hno, -⟩ | ⟨-, -, hk⟩
    · cases hl.symm.trans hno
    · exact absurd hvalid hno
    · exact hcall.symm.trans hk
  subst hk
  constructor
  · have hclosed : Receiving.LocallyClosed { r with conn := r.conn.closed code reason } :=
      ⟨rfl, hidle, advance_ne_open _ nofun⟩
    exact nothingLeft_of_alike h hd hidle hl hclosed rfl
  · intro hn
    have hover := over_of_nothingLeft h hd hidle hl hn
    obtain ⟨hover', hending⟩ := hover.close ((conn_reachable h).next (a := .close code reason) hconn)
    exact hover.alike.trans (hending ▸ hover'.alike.symm)

end Polymorph.Host
