import PolymorphWebsocket.Shim.WebSocket

/-!
# The WHATWG shim: no accepted message is lost

The send chain runs in later callbacks, one entry at a time, while `close()` calls the WIT `close`
at once; an accepted message that the chain has not handed to `ws.send` by then is handed over
after the close, where it fails.  A Blob whose bytes cannot be read is not handed over at all.  In
the runs in which neither happens, every message accepted while OPEN is handed to `ws.send` before
the WIT `close`, in the order of the `send()` calls, or is still counted in `bufferedAmount`.
-/

namespace Polymorph.Shim

open Transition

variable {s s' : State}

/-- A call of the shim is a `ws.send`. -/
def HostCall.isSend : HostCall → Bool
  | .send _ _ => true
  | .close _ _ => false

/-- A call hands an accepted message to `ws.send`: the message itself, or some bytes for a Blob. -/
def Entry.SentBy (entry : Entry) : HostCall → Prop
  | .send id message => id = entry.id ∧
    match entry.data with
    | .payload message' => message = message'
    | .blob _ => ∃ bytes, message = .binary bytes
  | .close _ _ => False

/-- The calls of `ws.send` before the first WIT `close`. -/
def State.handed (s : State) : List HostCall := s.hist.calls.takeWhile HostCall.isSend

/-- No message accepted while OPEN is lost. -/
structure State.KeepsMessages (s : State) : Prop where
  kept : ∀ entry ∈ s.hist.accepted,
    (∃ call ∈ s.handed, entry.SentBy call) ∨ entry ∈ s.sendQueue
  order : ∃ gone, gone <+: s.hist.accepted ∧ List.Forall₂ Entry.SentBy gone s.handed
  counted : s.bufferedAmount =
    (s.sendQueue.map fun entry => entry.data.size).sum + s.hist.discarded

/-- The part of a send chain that has not been handed to `ws.send`. -/
def unhanded : List Entry → Stage → List Entry
  | queue, .waiting | queue, .reading => queue
  | queue, .sending | queue, .settled => queue.tail

/-- The condition on a step: a `close()` that closes the WIT connection finds every accepted message
handed over, and no Blob read fails. -/
def KeepsSends (s : State) (a : Action) : Prop :=
  a ≠ .blobRead none ∧ (s.closesOpen a = true → unhanded s.sendQueue s.stage = [])

instance (s : State) (a : Action) : Decidable (KeepsSends s a) := by
  unfold KeepsSends
  infer_instance

/-! ### The invariant -/

/-- What sending is about. -/
structure Outbox where
  readyState : ReadyState
  connect : ConnectPc
  sendQueue : List Entry
  stage : Stage
  bufferedAmount : Nat
  discarded : Nat
  accepted : List Entry
  calls : List HostCall

/-- The outbox of a WebSocket. -/
def State.outbox (s : State) : Outbox where
  readyState := s.readyState
  connect := s.connect
  sendQueue := s.sendQueue
  stage := s.stage
  bufferedAmount := s.bufferedAmount
  discarded := s.hist.discarded
  accepted := s.hist.accepted
  calls := s.hist.calls

namespace Outbox

variable {o : Outbox}

/-- The invariant: the accepted messages are those handed over and those that are not, and the WIT
`close` comes after the last of them. -/
structure Sound (o : Outbox) : Prop where
  pending : o.connect = .pending →
    o.readyState ≠ .open ∧ o.sendQueue = [] ∧ o.accepted = [] ∧ o.calls = []
  stage : o.sendQueue = [] → o.stage = .waiting
  reading : ∀ entry ∈ o.sendQueue.head?, o.stage = .reading → ∃ size, entry.data = .blob size
  calls : ∃ gone sent closes, o.accepted = gone ++ unhanded o.sendQueue o.stage ∧
    o.calls = sent ++ closes ∧ List.Forall₂ Entry.SentBy gone sent ∧
    (∀ call ∈ closes, call.isSend = false) ∧
    (closes ≠ [] → o.readyState ≠ .open ∧ unhanded o.sendQueue o.stage = [])
  counted : o.bufferedAmount = (o.sendQueue.map fun entry => entry.data.size).sum + o.discarded

theorem unhanded_subset (queue : List Entry) (stage : Stage) :
    ∀ entry ∈ unhanded queue stage, entry ∈ queue := by
  intro entry hentry
  cases stage with
  | waiting | reading => exact hentry
  | sending | settled => exact List.mem_of_mem_tail hentry

/-- An entry that joins the chain is not handed over yet. -/
theorem unhanded_append {queue : List Entry} {stage : Stage} (h : queue = [] → stage = .waiting)
    (entry : Entry) : unhanded (queue ++ [entry]) stage = unhanded queue stage ++ [entry] := by
  cases queue with
  | nil =>
    rw [h rfl]
    rfl
  | cons first rest => cases stage <;> rfl

/-- The calls that hand messages over are all sends. -/
theorem isSend_of_sentBy {gone : List Entry} {sent : List HostCall}
    (h : List.Forall₂ Entry.SentBy gone sent) : ∀ call ∈ sent, call.isSend = true := by
  induction h with
  | nil => exact nofun
  | cons hsent _ ih =>
    intro call hcall
    rcases List.mem_cons.mp hcall with rfl | hcall
    · cases call with
      | send => rfl
      | close => cases hsent
    · exact ih call hcall

/-- Every entry that has been handed over has its call. -/
theorem exists_sentBy {gone : List Entry} {sent : List HostCall}
    (h : List.Forall₂ Entry.SentBy gone sent) {entry : Entry} (hentry : entry ∈ gone) :
    ∃ call ∈ sent, entry.SentBy call := by
  induction h with
  | nil => cases hentry
  | cons hsent _ ih =>
    rcases List.mem_cons.mp hentry with rfl | hentry
    · exact ⟨_, List.mem_cons_self, hsent⟩
    · obtain ⟨call, hcall, hby⟩ := ih hentry
      exact ⟨call, List.mem_cons_of_mem _ hcall, hby⟩

namespace Sound

/-- The first entry is handed over. -/
theorem hand {entry : Entry} {rest : List Entry} {call : HostCall} (h : o.Sound)
    (hqueue : o.sendQueue = entry :: rest) (hstage : o.stage = .waiting ∨ o.stage = .reading)
    (hcall : entry.SentBy call) : { o with stage := .sending, calls := o.calls ++ [call] }.Sound := by
  obtain ⟨gone, sent, closes, hacc, hcalls, hsent, hclose, hlast⟩ := h.calls
  have hunhanded : unhanded o.sendQueue o.stage = entry :: rest := by
    rw [hqueue]
    rcases hstage with hstage | hstage <;> rw [hstage] <;> rfl
  have hnone : closes = [] := by
    by_contra hne
    exact List.cons_ne_nil _ _ (hunhanded.symm.trans (hlast hne).2)
  refine ⟨fun hpending => ?_, fun hempty => ?_, nofun, ⟨gone ++ [entry], sent ++ [call], [], ?_, ?_, ?_,
    nofun, fun hne => absurd rfl hne⟩, h.counted⟩
  · exact absurd ((h.pending hpending).2.1.symm.trans hqueue) (List.cons_ne_nil _ _).symm
  · exact absurd (hqueue.symm.trans hempty) (List.cons_ne_nil _ _)
  · show o.accepted = gone ++ [entry] ++ unhanded o.sendQueue .sending
    rw [hacc, hunhanded, hqueue, List.append_assoc]
    rfl
  · show o.calls ++ [call] = sent ++ [call] ++ []
    rw [hcalls, hnone, List.append_nil, List.append_nil]
  · exact List.rel_append hsent (.cons hcall .nil)

/-- The first entry gets to another stage, handed over or not as before. -/
theorem atStage {stage : Stage} (h : o.Sound) (hqueue : o.sendQueue ≠ [])
    (hreading : ∀ entry ∈ o.sendQueue.head?, stage = .reading → ∃ size, entry.data = .blob size)
    (hstage : unhanded o.sendQueue stage = unhanded o.sendQueue o.stage) :
    { o with stage := stage }.Sound where
  pending := h.pending
  stage hempty := absurd hempty hqueue
  reading := hreading
  calls := by
    obtain ⟨gone, sent, closes, hacc, hcalls, hsent, hclose, hlast⟩ := h.calls
    exact ⟨gone, sent, closes, hstage.symm ▸ hacc, hcalls, hsent, hclose,
      fun hne => ⟨(hlast hne).1, hstage.trans (hlast hne).2⟩⟩
  counted := h.counted

/-- The first entry leaves the chain. -/
theorem uncount {entry : Entry} {rest : List Entry} (h : o.Sound)
    (hqueue : o.sendQueue = entry :: rest) (hstage : o.stage = .settled) :
    { o with
      bufferedAmount := o.bufferedAmount - entry.data.size
      sendQueue := rest
      stage := .waiting }.Sound := by
  have hunhanded : unhanded o.sendQueue o.stage = rest := by rw [hqueue, hstage]; rfl
  obtain ⟨gone, sent, closes, hacc, hcalls, hsent, hclose, hlast⟩ := h.calls
  refine ⟨fun hpending => ?_, fun _ => rfl, nofun, ⟨gone, sent, closes, ?_, hcalls, hsent, hclose,
    fun hne => ⟨(hlast hne).1, hunhanded.symm.trans (hlast hne).2⟩⟩, ?_⟩
  · exact absurd ((h.pending hpending).2.1.symm.trans hqueue) (List.cons_ne_nil _ _).symm
  · rw [hacc, hunhanded]
    rfl
  · have hcounted := h.counted
    rw [hqueue, List.map_cons, List.sum_cons] at hcounted
    show o.bufferedAmount - entry.data.size =
      (rest.map fun entry => entry.data.size).sum + o.discarded
    omega

/-- The connection leaves OPEN, or stays out of it. -/
theorem atReadyState (readyState : ReadyState) (h : o.Sound) (hne : readyState ≠ .open) :
    { o with readyState := readyState }.Sound where
  pending hpending := ⟨hne, (h.pending hpending).2⟩
  stage := h.stage
  reading := h.reading
  calls := by
    obtain ⟨gone, sent, closes, hacc, hcalls, hsent, hclose, hlast⟩ := h.calls
    exact ⟨gone, sent, closes, hacc, hcalls, hsent, hclose, fun hc => ⟨hne, (hlast hc).2⟩⟩
  counted := h.counted

/-- The handshake settles. -/
theorem atConnect (connect : ConnectPc) (h : o.Sound) (hne : connect ≠ .pending) :
    { o with connect := connect }.Sound :=
  ⟨fun hpending => absurd hpending hne, h.stage, h.reading, h.calls, h.counted⟩

/-- The connection gets OPEN: nothing has been called yet. -/
theorem opens (h : o.Sound) (hpending : o.connect = .pending) :
    { o with readyState := .open, connect := .opening }.Sound := by
  obtain ⟨-, hqueue, hacc, hcalls⟩ := h.pending hpending
  refine ⟨nofun, h.stage, h.reading, ⟨[], [], [], ?_, hcalls, .nil, nofun, fun hne => absurd rfl hne⟩,
    h.counted⟩
  show o.accepted = [] ++ unhanded o.sendQueue o.stage
  rw [hacc, hqueue]
  cases o.stage <;> rfl

/-- The WIT `close`, out of OPEN and with every accepted message handed over. -/
theorem closes {code : Option Nat} {reason : String} (h : o.Sound) (hne : o.readyState ≠ .open)
    (hconnect : o.connect ≠ .pending) (hempty : unhanded o.sendQueue o.stage = []) :
    { o with calls := o.calls ++ [HostCall.close code reason] }.Sound := by
  obtain ⟨gone, sent, closes, hacc, hcalls, hsent, hclose, hlast⟩ := h.calls
  refine ⟨fun hpending => absurd hpending hconnect, h.stage, h.reading,
    ⟨gone, sent, closes ++ [.close code reason], hacc, ?_, hsent, ?_, fun _ => ⟨hne, hempty⟩⟩,
    h.counted⟩
  · rw [hcalls, List.append_assoc]
  · intro call hcall
    rcases List.mem_append.mp hcall with hcall | hcall
    · exact hclose call hcall
    · rw [List.mem_singleton.mp hcall]
      rfl

/-- A message is accepted while OPEN. -/
theorem accept (entry : Entry) (h : o.Sound) (hopen : o.readyState = .open) :
    { o with
      bufferedAmount := o.bufferedAmount + entry.data.size
      sendQueue := o.sendQueue ++ [entry]
      accepted := o.accepted ++ [entry] }.Sound := by
  obtain ⟨gone, sent, closes, hacc, hcalls, hsent, hclose, hlast⟩ := h.calls
  refine ⟨fun hpending => absurd hopen (h.pending hpending).1, fun hempty => ?_, ?_,
    ⟨gone, sent, closes, ?_, hcalls, hsent, hclose, fun hne => absurd hopen (hlast hne).1⟩, ?_⟩
  · exact absurd hempty (by simp)
  · intro first hfirst hreading
    have hne : o.sendQueue ≠ [] := fun hempty =>
      absurd ((h.stage hempty).symm.trans hreading) (by decide)
    refine h.reading first ?_ hreading
    rwa [List.head?_append_of_ne_nil _ hne] at hfirst
  · show o.accepted ++ [entry] = gone ++ unhanded (o.sendQueue ++ [entry]) o.stage
    rw [unhanded_append h.stage, hacc, List.append_assoc]
  · have hcounted := h.counted
    show o.bufferedAmount + entry.data.size =
      ((o.sendQueue ++ [entry]).map fun entry => entry.data.size).sum + o.discarded
    rw [List.map_append, List.sum_append, List.map_singleton, List.sum_singleton]
    omega

/-- The bytes of a message past OPEN are counted for good. -/
theorem discard (n : Nat) (h : o.Sound) :
    { o with bufferedAmount := o.bufferedAmount + n, discarded := o.discarded + n }.Sound := by
  refine ⟨h.pending, h.stage, h.reading, h.calls, ?_⟩
  have hcounted := h.counted
  show o.bufferedAmount + n =
    (o.sendQueue.map fun entry => entry.data.size).sum + (o.discarded + n)
  omega

end Sound

end Outbox

/-! ### The steps -/

/-- A new WebSocket. -/
theorem sound_start (url : String) : (State.start url).outbox.Sound where
  pending _ := ⟨nofun, rfl, rfl, rfl⟩
  stage _ := rfl
  reading := nofun
  calls := ⟨[], [], [], rfl, rfl, .nil, nofun, fun hne => absurd rfl hne⟩
  counted := rfl

/-- `send`. -/
theorem sound_send {data : Data} (h : s.outbox.Sound) :
    (orUnchanged s (s.send data)).outbox.Sound := by
  unfold State.send
  split
  · exact h
  · dsimp only
    split
    · exact h.discard data.size
    · next hopen =>
      exact h.accept { id := s.nextId, data := data } (not_not.mp hopen)

/-- `close`, which closes the WIT connection of an OPEN WebSocket only when nothing is left to hand
over. -/
theorem sound_close {code : Option Nat} {reason : Option String} (h : s.outbox.Sound)
    (hkeeps : KeepsSends s (.close code reason)) :
    (orUnchanged s (s.close code reason)).outbox.Sound := by
  have hclosesOpen : s.readyState = .open → (s.close code reason).isOk = true →
      unhanded s.sendQueue s.stage = [] := fun hopen hok =>
    hkeeps.2 (by simp [State.closesOpen, hopen, hok])
  revert hclosesOpen
  unfold State.close
  dsimp only
  split
  · exact fun _ => h
  · split
    · exact fun _ => h
    · split
      · exact fun _ => h
      · exact fun _ => h
      · exact fun _ => h.atReadyState .closing nofun
      · next hopen =>
        intro hempty
        have hconnect : s.connect ≠ .pending := fun hpending => (h.pending hpending).1 hopen
        exact (h.atReadyState .closing nofun).closes nofun hconnect
          (hempty hopen rfl)

/-- The handshake succeeds. -/
theorem sound_established {protocol : String} (h : s.outbox.Sound)
    (hs : s.established protocol = some s') : s'.outbox.Sound := by
  unfold State.established at hs
  split at hs
  · next hpending =>
    dsimp only at hs
    split at hs
    · next code reason _ =>
      obtain rfl := Option.some.inj hs
      obtain ⟨hne, hqueue, -, -⟩ := h.pending hpending
      have hempty : unhanded s.sendQueue s.stage = [] := by
        rw [show s.sendQueue = [] from hqueue]
        cases s.stage <;> rfl
      exact (h.atConnect .done nofun).closes hne nofun hempty
    · obtain rfl := Option.some.inj hs
      exact h.opens hpending
  · cases hs

/-- The handshake fails. -/
theorem sound_failed (h : s.outbox.Sound) (hs : s.failed = some s') : s'.outbox.Sound := by
  unfold State.failed at hs
  split at hs
  · dsimp only at hs
    split at hs
    · obtain rfl := Option.some.inj hs
      exact (h.atReadyState .closed nofun).atConnect .done nofun
    · obtain rfl := Option.some.inj hs
      exact (h.atReadyState .closed nofun).atConnect .failing nofun
  · cases hs

/-- The callback of the first entry. -/
theorem sound_runSend (h : s.outbox.Sound) (hs : s.runSend = some s') : s'.outbox.Sound := by
  unfold State.runSend at hs
  split at hs
  · next entry rest hqueue hstage =>
    split at hs
    · next message hdata =>
      obtain rfl := Option.some.inj hs
      refine h.hand hqueue (.inl hstage) ⟨rfl, ?_⟩
      rw [hdata]
    · next size hdata =>
      obtain rfl := Option.some.inj hs
      have hhead : s.outbox.sendQueue = entry :: rest := hqueue
      refine h.atStage (by rw [hhead]; nofun) (fun first hfirst _ => ⟨size, ?_⟩) ?_
      · rw [hhead] at hfirst
        exact Option.some.inj hfirst ▸ hdata
      show unhanded s.sendQueue .reading = unhanded s.sendQueue s.stage
      rw [hstage]
      rfl
  · cases hs

/-- The bytes of a Blob. -/
theorem sound_blobRead {bytes : Bytes} (h : s.outbox.Sound)
    (hs : s.blobRead (some bytes) = some s') : s'.outbox.Sound := by
  unfold State.blobRead at hs
  split at hs
  · next entry rest bytes' hqueue hstage hbytes =>
    obtain rfl := Option.some.inj hs
    have hhead : s.outbox.sendQueue = entry :: rest := hqueue
    obtain ⟨size, hdata⟩ := h.reading entry (by rw [hhead]; rfl) hstage
    refine h.hand hqueue (.inr hstage) ⟨rfl, ?_⟩
    rw [hdata]
    exact ⟨bytes', rfl⟩
  · next hbytes => cases hbytes
  · cases hs

/-- `ws.send` settles. -/
theorem sound_sendSettled (h : s.outbox.Sound) (hs : s.sendSettled = some s') :
    s'.outbox.Sound := by
  unfold State.sendSettled at hs
  split at hs
  · next hstage =>
    obtain rfl := Option.some.inj hs
    refine h.atStage (fun hempty => ?_) nofun ?_
    · exact absurd ((h.stage hempty).symm.trans hstage) (by decide)
    · show unhanded s.sendQueue .settled = unhanded s.sendQueue s.stage
      rw [hstage]
      rfl
  · cases hs

/-- The first entry is uncounted. -/
theorem sound_uncount (h : s.outbox.Sound) (hs : s.uncount = some s') : s'.outbox.Sound := by
  unfold State.uncount at hs
  split at hs
  · next entry rest hqueue hstage =>
    obtain rfl := Option.some.inj hs
    exact h.uncount hqueue hstage
  · cases hs

/-- The receive loop, `#settle` and the WIT host leave the outbox alone, but for the `readyState`
that `#settle` sets. -/
theorem sound_settleRuns (h : s.outbox.Sound) (hs : s.settleRuns = some s') :
    s'.outbox.Sound := by
  have hclosed := h.atReadyState .closed nofun
  unfold State.settleRuns at hs
  split at hs
  · dsimp only at hs
    split at hs
    · obtain rfl := Option.some.inj hs
      exact hclosed
    · split at hs
      · obtain rfl := Option.some.inj hs
        exact hclosed
      · obtain rfl := Option.some.inj hs
        exact hclosed
  · cases hs

/-- The step lemma. -/
theorem sound_step {a : Action} (h : s.outbox.Sound) (hkeeps : KeepsSends s a)
    (hs : step s a = some s') : s'.outbox.Sound := by
  replace hs := move_of_step hs
  cases a with
  | send data =>
    obtain rfl := Option.some.inj hs
    exact sound_send h
  | close code reason =>
    obtain rfl := Option.some.inj hs
    exact sound_close h hkeeps
  | setBinaryType =>
    obtain rfl := Option.some.inj hs
    exact h
  | established protocol => exact sound_established h hs
  | failed => exact sound_failed h hs
  | runSend => exact sound_runSend h hs
  | blobRead bytes =>
    cases bytes with
    | none => exact absurd rfl hkeeps.1
    | some bytes => exact sound_blobRead h hs
  | sendSettled => exact sound_sendSettled h hs
  | uncount => exact sound_uncount h hs
  | settleRuns => exact sound_settleRuns h hs
  | startLoops =>
    dsimp only [move, State.startLoops] at hs
    split at hs <;> cases hs
    exact h.atConnect .done nofun
  | failedCloses =>
    dsimp only [move, State.failedCloses] at hs
    split at hs <;> cases hs
    exact h.atConnect .done nofun
  | dispatchMessage | receiveAgain | settleCloses | hostReceive | hostReceiveFails
  | hostWaitResolves | hostArrive | hostDiscard | hostClose =>
    dsimp only [move, State.dispatchMessage, State.receiveAgain, State.settleCloses,
      State.hostReceive, State.hostReceiveFails, State.hostWaitResolves] at hs
    split at hs <;> cases hs
    exact h

/-- The run lemma. -/
theorem sound_of_reachable (h : system.ReachableUnder KeepsSends s) : s.outbox.Sound := by
  refine System.ReachableUnder.induction (I := fun s => s.outbox.Sound) ?_ ?_ h
  · rintro _ ⟨url, rfl⟩
    exact sound_start url
  · intro s a s' _ hsound hkeeps hs
    exact sound_step hsound hkeeps hs

/-- The calls before the first WIT `close` are those that hand the accepted messages over. -/
theorem handed_eq {sent closes : List HostCall} (hcalls : s.hist.calls = sent ++ closes)
    (hsent : ∀ call ∈ sent, call.isSend = true) (hclose : ∀ call ∈ closes, call.isSend = false) :
    s.handed = sent := by
  have htail : closes.takeWhile HostCall.isSend = [] := by
    cases closes with
    | nil => rfl
    | cons call rest => rw [List.takeWhile_cons, hclose call List.mem_cons_self]; rfl
  unfold State.handed
  rw [hcalls, List.takeWhile_append_of_pos hsent, htail, List.append_nil]

/-- In every run whose `close()` calls find all accepted messages handed over, and whose Blob reads
succeed, no message accepted while OPEN is lost. -/
theorem accepted_not_lost (h : system.ReachableUnder KeepsSends s) : s.KeepsMessages := by
  have hsound := sound_of_reachable h
  obtain ⟨gone, sent, closes, hacc, hcalls, hsent, hclose, -⟩ := hsound.calls
  have hhanded : s.handed = sent := handed_eq hcalls (Outbox.isSend_of_sentBy hsent) hclose
  refine ⟨fun entry hentry => ?_, ⟨gone, ⟨_, hacc.symm⟩, hhanded.symm ▸ hsent⟩, hsound.counted⟩
  rw [show s.hist.accepted = _ from hacc] at hentry
  rcases List.mem_append.mp hentry with hgone | hqueued
  · exact .inl (hhanded.symm ▸ Outbox.exists_sentBy hsent hgone)
  · exact .inr (Outbox.unhanded_subset _ _ entry hqueued)

/-- Two messages and a Blob are handed over, in order, before the close. -/
theorem accepted_not_lost_blob :
    ∃ s, system.runUnder KeepsSends (State.start "wss://host/")
        [.established "", .startLoops, .send (.payload (.string "x")), .send (.blob 1), .runSend,
          .sendSettled, .uncount, .runSend, .blobRead (some [7]), .close none none, .sendSettled,
          .uncount] = some s ∧
      s.hist.calls = [.send 0 (.string "x"), .send 1 (.binary [7]), .close none ""] ∧
      s.KeepsMessages := by
  obtain ⟨s, hrun, hcalls⟩ :
      ∃ s, system.runUnder KeepsSends (State.start "wss://host/")
          [.established "", .startLoops, .send (.payload (.string "x")), .send (.blob 1), .runSend,
            .sendSettled, .uncount, .runSend, .blobRead (some [7]), .close none none,
            .sendSettled, .uncount] = some s ∧
        s.hist.calls = [.send 0 (.string "x"), .send 1 (.binary [7]), .close none ""] :=
    ⟨_, rfl, rfl⟩
  have hstart : system.ReachableUnder KeepsSends (State.start "wss://host/") := .init ⟨_, rfl⟩
  exact ⟨s, hrun, hcalls, accepted_not_lost (hstart.runUnder hrun)⟩

/-- A `send()` followed at once by `close()`: the WIT `close` comes first, the message is neither
handed over before it nor counted any more. -/
theorem send_then_close_loses_message :
    ¬ ∀ s : State, system.Reachable s → s.KeepsMessages := by
  intro hclaim
  obtain ⟨s, hrun, hhanded, hqueue, hacc⟩ :
      ∃ s, system.run (State.start "wss://host/")
          [.established "", .startLoops, .send (.payload (.string "x")), .close none none,
            .runSend, .sendSettled, .uncount] = some s ∧
        s.handed = [] ∧ s.sendQueue = [] ∧
        s.hist.accepted = [{ id := 0, data := .payload (.string "x") }] :=
    ⟨_, rfl, rfl, rfl, rfl⟩
  have hkept := (hclaim s (reachable_of_run hrun)).kept _ (hacc ▸ List.mem_cons_self)
  rw [hhanded, hqueue] at hkept
  rcases hkept with ⟨call, hcall, -⟩ | hcall
  · cases hcall
  · cases hcall

end Polymorph.Shim
