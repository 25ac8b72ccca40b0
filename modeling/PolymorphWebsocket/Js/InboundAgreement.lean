import PolymorphWebsocket.Js.Inbox
import PolymorphWebsocket.Provider.Inbox

/-!
# The inbound queues of the JavaScript host and of the guest provider

Both queues are at the state of one inbox when they have been told the same and nothing can move any
more, so they have handed out the same messages.  They part at the end: the JavaScript queue rejects
every call that is left over, the provider's only the first one.
-/

namespace Polymorph

open Transition

variable {T : Provider.Tungstenite}

/-- How many receive calls failed with this error. -/
def failures (received : List (Nat × Except Error Message)) (error : Error) : Nat :=
  received.countP fun result => decide (result.2 = .error error)

/-- When all failures are of one error, they are the calls that returned nothing. -/
theorem failures_of {received : List (Nat × Except Error Message)} {endError : Error}
    (h : ∀ result ∈ received, ∀ error, result.2 = .error error → error = endError) :
    received.length =
        (received.filterMap fun result => result.2.toOption).length + failures received endError ∧
      ∀ error, error ≠ endError → failures received error = 0 := by
  unfold failures
  induction received with
  | nil => exact ⟨rfl, fun _ _ => rfl⟩
  | cons result received ih =>
    obtain ⟨hlength, hother⟩ := ih fun r hr => h r (List.mem_cons_of_mem _ hr)
    obtain ⟨id, result⟩ := result
    cases result with
    | ok message =>
      have hreturned : ((id, .ok message) :: received).filterMap (fun result => result.2.toOption) =
          message :: received.filterMap fun result => result.2.toOption := rfl
      rw [hreturned, List.length_cons, List.length_cons, List.countP_cons_of_neg (by simp)]
      refine ⟨by omega, fun error hne => ?_⟩
      rw [List.countP_cons_of_neg (by simp)]
      exact hother error hne
    | error err =>
      obtain rfl : err = endError := h (id, .error err) List.mem_cons_self err rfl
      have hreturned : ((id, .error err) :: received).filterMap (fun result => result.2.toOption) =
          received.filterMap fun result => result.2.toOption := rfl
      rw [hreturned, List.length_cons, List.countP_cons_of_pos (by simp)]
      refine ⟨by omega, fun error hne => ?_⟩
      rw [List.countP_cons_of_neg (by simpa using Ne.symm hne)]
      exact hother error hne

/-- The two queues have answered every call, with the same messages in the same order and the same
number of each error. -/
structure QueuesAgree (p : Provider.State T) (j : Js.State) : Prop where
  messages : p.hist.returned = j.hist.returned
  errors : ∀ error, failures p.hist.received error = failures j.hist.received error
  settled : p.pendingReceives = 0 ∧ j.incoming.waiters = []

/-- In the queue of the JavaScript host a call waits only while no message is queued, and the byte
count is that of the queued messages and keeps to the limit.  Told the same up to the end of the
connection, it and the guest provider's queue answer every call alike exactly when at most one call
is left over. -/
theorem inbound_queues_agree {p : Provider.State T} {j : Js.State} {events : List InboxEvent}
    (hp : (Provider.inboxSystem T).Reachable (p, events)) (hj : Js.inboxSystem.Reachable (j, events))
    (hlimit : p.shared.budget.limit = j.incoming.limit) :
    (j.incoming.waiters ≠ [] → j.incoming.messages = []) ∧
    j.incoming.buffered = totalLen (j.incoming.messages.map Js.QueuedMessage.message) ∧
    j.incoming.buffered ≤ j.incoming.limit ∧
    (p.reader = .finished → p.receivesIdle = true → j.incoming.closed = true →
      (QueuesAgree p j ↔ ((Inbox.new j.incoming.limit).run events).unanswered ≤ 1)) := by
  obtain ⟨hpr, hpi⟩ := Provider.refines_of_run hp
  obtain ⟨hjr, hji⟩ := Js.refines_of_run hj
  have hq := Js.queue_sound hjr
  change p.Refines _ at hpi
  change j.Refines _ at hji
  rw [hlimit] at hpi
  generalize (Inbox.new j.incoming.limit).run events = inbox at hpi hji
  refine ⟨fun hw => ?_, ?_, hq.bounded, fun hfin hidle hclosed => ?_⟩
  · by_contra hne
    exact hw (hq.idle hne)
  · rw [hq.counted, totalLen, List.map_map]
    exact congrArg List.sum (List.map_congr_left hji.sizes)
  obtain ⟨hphanded, -, hunanswered⟩ := hpi.at_rest hidle
  obtain ⟨hjhanded, -, -⟩ := hji.at_rest hq
  have hreturned : p.hist.returned = j.hist.returned := hphanded.symm.trans hjhanded
  have hpcalls := hpi.calls
  have hpfailed := hpi.failed
  have hjcalls := hji.calls
  have hwaiters := hq.ended hclosed
  rw [hwaiters, List.length_nil, Nat.add_zero] at hjcalls
  -- A call that still waits has found the end taken by another one.
  have htaken (hpending : p.pendingReceives ≠ 0) : p.shared.queue.terminated = true := by
    have hlive : ¬ p.shared.queue.senderLive = true := fun hlive =>
      (Provider.inbox_sound hpr).1.sender.mp hlive hfin
    exact (Provider.items_of_idle hidle hpending hpi.lock).2.resolve_left hlive
  have hle : p.shared.queue.terminated.toNat ≤ 1 := Bool.toNat_le _
  constructor
  · intro hagree
    have hnone := hagree.settled.1
    omega
  · intro hone
    have hsettled : p.pendingReceives = 0 := by
      by_contra hpending
      rw [htaken hpending, Bool.toNat_true] at hpfailed
      omega
    refine ⟨hreturned, fun error => ?_, hsettled, hwaiters⟩
    obtain ⟨hplength, hpother⟩ := failures_of hpi.errors
    obtain ⟨hjlength, hjother⟩ := failures_of fun result hmem error herror =>
      (hji.errors result hmem error herror).1
    by_cases herror : error = inbox.endError
    · change p.hist.received.length = p.hist.returned.length + _ at hplength
      change j.hist.received.length = j.hist.returned.length + _ at hjlength
      rw [← hreturned] at hjlength
      rw [herror]
      omega
    · rw [hpother error herror, hjother error herror]

/-- A message for a waiting call, and one call at the end. -/
theorem inbound_queues_agree_one_left :
    ∃ (p : Provider.State Provider.Core.tungstenite) (j : Js.State) (events : List InboxEvent),
      events = [.receive, .message (.binary [7]), .receive] ∧
      p.hist.returned = [.binary [7]] ∧ QueuesAgree p j := by
  have hprun : (Provider.inboxSystem Provider.Core.tungstenite).run
      (Provider.Core.connection 10 8388608, [])
      [(.receive, [.receive]), (.pollReceive 0, []), (.reader, []), (.chunk [.binary [7]], []),
        (.reader, [.message (.binary [7])]), (.pollReceive 0, []), (.reader, []),
        (.transportEnd, []), (.reader, []), (.reader, []), (.receive, [.receive]),
        (.pollReceive 1, [])] = some _ := rfl
  have hjrun : Js.inboxSystem.run (Js.State.start .default 0, [])
      [(.receive, [.receive]), (.message (.binary [7]), [.message (.binary [7])]),
        (.transportClosed, []), (.closeEvent 1000 "", []), (.receive, [.receive])] = some _ := rfl
  have hpstart : (Provider.inboxSystem Provider.Core.tungstenite).Reachable
      (Provider.Core.connection 10 8388608, []) :=
    .of_init ⟨⟨_, Provider.Core.fresh, .empty, 0, rfl, rfl, rfl⟩, rfl⟩
  have hjstart : Js.inboxSystem.Reachable (Js.State.start .default 0, []) :=
    .of_init ⟨⟨_, _, rfl⟩, rfl⟩
  have hagree := inbound_queues_agree (hpstart.run hprun) (hjstart.run hjrun) rfl
  exact ⟨_, _, _, rfl, rfl, (hagree.2.2.2 rfl rfl rfl).mpr (by decide)⟩

/-- Of two calls that wait at the end, the JavaScript queue rejects both, and the provider's only
one. -/
theorem second_call_unanswered :
    ¬ ∀ (T : Provider.Tungstenite) (p : Provider.State T) (j : Js.State) (events : List InboxEvent),
      (Provider.inboxSystem T).Reachable (p, events) → Js.inboxSystem.Reachable (j, events) →
      p.shared.budget.limit = j.incoming.limit → p.reader = .finished → p.receivesIdle = true →
      j.incoming.closed = true → QueuesAgree p j := by
  intro hclaim
  have hprun : (Provider.inboxSystem Provider.Core.tungstenite).run
      (Provider.Core.connection 10 8388608, [])
      [(.receive, [.receive]), (.pollReceive 0, []), (.receive, [.receive]), (.reader, []),
        (.transportEnd, []), (.reader, []), (.reader, []), (.pollReceive 0, []),
        (.pollReceive 1, [])] = some _ := rfl
  have hjrun : Js.inboxSystem.run (Js.State.start .default 0, [])
      [(.receive, [.receive]), (.receive, [.receive]), (.transportClosed, []),
        (.closeEvent 1000 "", [])] = some _ := rfl
  have hpstart : (Provider.inboxSystem Provider.Core.tungstenite).Reachable
      (Provider.Core.connection 10 8388608, []) :=
    .of_init ⟨⟨_, Provider.Core.fresh, .empty, 0, rfl, rfl, rfl⟩, rfl⟩
  have hjstart : Js.inboxSystem.Reachable (Js.State.start .default 0, []) :=
    .of_init ⟨⟨_, _, rfl⟩, rfl⟩
  have hagree := hclaim _ _ _ _ (hpstart.run hprun) (hjstart.run hjrun) rfl rfl rfl rfl
  exact absurd hagree.settled.1 (by decide)

end Polymorph
