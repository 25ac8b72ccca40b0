import PolymorphWebsocket.Shim.Carries
import PolymorphWebsocket.Shim.Polyengine

/-!
# A component with the shim on the JavaScript host

From the `WebSocket` of the platform to the one of the shim and back.  Of the platform an observer writes down
what it delivers: its message events, and its close event.  Between the two `WebSocket`s lie two queues, two
lists of promises and a polling loop; the application sees none of it.
-/

namespace Polymorph.Js

open Transition

/-! ### What the platform delivers -/

/-- An event of the platform that concerns the connection. -/
inductive Delivery
  | message (message : Message)
  /-- The close event, up to its listener that settles the connection. -/
  | close (code : UInt16) (reason : String)
  /-- The listener of the close event that settles the connection. -/
  | closeHeard
  /-- The close timer fires. -/
  | timeout
  deriving DecidableEq

/-- What a move delivers. -/
def SessionMove.brings : SessionMove → List Delivery
  | .conn (.message message) => [.message message]
  | .conn (.closeEvent code reason) => [.close code reason]
  | .conn .closeSettles => [.closeHeard]
  | .conn (.timer _) => [.timeout]
  | .conn _ | .buffered _ | .drainPoll => []

/-- The messages among them. -/
def deliveredMessages (deliveries : List Delivery) : List Message :=
  deliveries.filterMap fun
    | .message message => some message
    | .close _ _ | .closeHeard | .timeout => none

/-- The close events among them. -/
def deliveredCloses (deliveries : List Delivery) : List (UInt16 × String) :=
  deliveries.filterMap fun
    | .close code reason => some (code, reason)
    | .message _ | .closeHeard | .timeout => none

/-- The events at which `#settleClosed` is called. -/
def Delivery.settles : Delivery → Bool
  | .closeHeard | .timeout => true
  | .message _ | .close _ _ => false

/-- The first event at which `#settleClosed` has been called. -/
def settledBy (deliveries : List Delivery) : Option Delivery := deliveries.find? Delivery.settles

theorem deliveredMessages_append (deliveries later : List Delivery) :
    deliveredMessages (deliveries ++ later) = deliveredMessages deliveries ++ deliveredMessages later :=
  List.filterMap_append

theorem deliveredCloses_append (deliveries later : List Delivery) :
    deliveredCloses (deliveries ++ later) = deliveredCloses deliveries ++ deliveredCloses later :=
  List.filterMap_append

/-- A later call of `#settleClosed` is not the first. -/
theorem settledBy_append (deliveries later : List Delivery) :
    settledBy (deliveries ++ later) = (settledBy deliveries).or (settledBy later) :=
  List.find?_append

/-- The close events that a `WebSocket` has delivered. -/
def Socket.Heard (closes : List (UInt16 × String)) : Socket → Prop
  | .open | .closing | .closed _ => closes = []
  | .dispatching code reason => closes = [(code, reason)]
  | .done => ∃ event, closes = [event]

theorem Socket.Heard.close {closes : List (UInt16 × String)} {socket : Socket} (h : socket.Heard closes) :
    socket.close.Heard closes := by
  cases socket with
  | «open» | closing | closed | dispatching | done => exact h

/-- The settlement leaves the `WebSocket` to the platform. -/
theorem settleClosed_socket (s : State) (event : Option (UInt16 × String)) :
    (s.settleClosed event).socket = s.socket := by
  by_cases hsettled : s.closeSettled = true
  · rw [show s.settleClosed event = s from if_pos hsettled]
  · rw [settleClosed_eq (Bool.eq_false_iff.mpr hsettled)]

namespace Session

variable {x : Session} {conn : State} {out : List Message} {arrived : List Delivery} {a : Action}

/-! ### The messages that come in -/

/-- What the shim has got, and what `receive` still gets, are the first messages that the platform has
delivered, and all of them as long as the connection has neither overflowed nor been closed by the guest. -/
structure Inward (x : Session) (out : List Message) (arrived : List Delivery) : Prop where
  first : out ++ x.deliverable <+: deliveredMessages arrived
  whole : x.conn.localClosed = false → x.conn.incoming.overflowed = false →
    out ++ x.deliverable = deliveredMessages arrived

namespace Inward

/-- What the account looks at. -/
theorem of_same {x' : Session} (h : x.Inward out arrived) (hsame : resource.Same view x x')
    (hover : x'.conn.incoming.overflowed = x.conn.incoming.overflowed) : x'.Inward out arrived := by
  have hdeliverable : x'.deliverable = x.deliverable := hsame.deliverable
  have hlocal : x'.conn.localClosed = x.conn.localClosed := hsame.localClosed
  constructor
  · rw [hdeliverable]
    exact h.first
  · rw [hdeliverable, hlocal, hover]
    exact h.whole

/-- The messages that a move delivers are accepted, or the queue does not take messages any more. -/
theorem accepts_or (hs : step x.conn a = some conn) (ha : ofHost a = true) :
    x.conn.accepts a = deliveredMessages (SessionMove.conn a).brings ∧
        (x.conn.accepts a ≠ [] → x.conn.incoming.overflowed = false) ∨
      x.conn.accepts a = [] ∧ conn.incoming.overflowed = true := by
  cases a with
  | message message =>
    by_cases hover : x.conn.incoming.overflowed = true
    · refine .inr ⟨if_pos (by rw [hover, Bool.true_or]), ?_⟩
      exact (queue_of_step hs).latched.2 hover
    · by_cases hfull : x.conn.incoming.overflows message.payloadLen = true
      · refine .inr ⟨if_pos (by rw [hfull, Bool.or_true]), ?_⟩
        obtain ⟨-, rfl⟩ := platformEvent_eq_some.mp hs
        unfold State.onMessage
        dsimp only
        rw [if_neg hover, if_pos hfull, QueueMove.transportClosing]
        rfl
      · refine .inl ⟨if_neg ?_, fun _ => Bool.eq_false_iff.mpr hover⟩
        rw [Bool.or_eq_true]
        exact not_or_intro hover hfull
  | peerClosing | transportClosed | errorEvent | closeEvent | closeSettles | timer | tick | configure =>
    exact .inl ⟨rfl, fun hne => absurd rfl hne⟩
  | receive | receiveViaStream | state | waitClosed | close | dispose | read | react => cases ha

/-- A move of the platform. -/
theorem platform (h : x.Inward out arrived) (hx : x.Sound) (ha : ofHost a = true)
    (hs : step x.conn a = some conn) :
    ({ x with conn := conn } : Session).Inward out (arrived ++ (SessionMove.conn a).brings) := by
  obtain ⟨-, hdeliverable⟩ := hx.platform ha hs
  have hlocal : conn.localClosed = x.conn.localClosed := (forward_of_step hs ha).localClosed
  have hlatch (hover : conn.incoming.overflowed = false) : x.conn.incoming.overflowed = false := by
    rw [Bool.eq_false_iff]
    intro hyes
    cases hover.symm.trans ((queue_of_step hs).latched.2 hyes)
  have hmore : deliveredMessages arrived <+: deliveredMessages (arrived ++ (SessionMove.conn a).brings) := by
    rw [deliveredMessages_append]
    exact List.prefix_append _ _
  by_cases hclosed : x.conn.localClosed = true
  · rw [if_pos hclosed, List.append_nil] at hdeliverable
    refine ⟨?_, fun hopen => ?_⟩
    · rw [hdeliverable]
      exact h.first.trans hmore
    · cases hclosed.symm.trans (hlocal.symm.trans hopen)
  · rw [if_neg hclosed] at hdeliverable
    have hopen := Bool.eq_false_iff.mpr hclosed
    rcases accepts_or hs ha with ⟨hall, htakes⟩ | ⟨hnone, hover⟩
    · have hwhole (hover : x.conn.incoming.overflowed = false) :
          out ++ ({ x with conn := conn } : Session).deliverable =
            deliveredMessages (arrived ++ (SessionMove.conn a).brings) := by
        rw [hdeliverable, deliveredMessages_append, ← hall, ← h.whole hopen hover, List.append_assoc]
      refine ⟨?_, fun _ hover => hwhole (hlatch hover)⟩
      by_cases hempty : x.conn.accepts a = []
      · rw [hdeliverable, hempty, List.append_nil]
        exact h.first.trans hmore
      · rw [hwhole (htakes hempty)]
    · rw [hnone, List.append_nil] at hdeliverable
      refine ⟨?_, fun _ hno => ?_⟩
      · rw [hdeliverable]
        exact h.first.trans hmore
      · cases hover.symm.trans hno

/-- A local close discards what is queued. -/
theorem close (h : x.Inward out arrived) (hx : x.Sound) {code : Option Nat} {reason : String}
    (hvalid : (Shim.HostCall.close code reason).Valid) :
    (resource.close x code reason).Inward out arrived := by
  obtain ⟨-, hfirst, hlocal, -⟩ := hx.close hvalid
  refine ⟨((List.prefix_append_right_inj out).mpr hfirst).trans h.first, fun hopen => ?_⟩
  cases hlocal.symm.trans hopen

/-- The shim gets the result. -/
theorem collect (h : x.Inward out arrived) {result : Except Error Message} (hresult : x.received = some result) :
    (resource.collect x).Inward (out ++ result.toOption.toList) arrived := by
  have hmessage : x.message = result.toOption.toList := by
    unfold message
    rw [hresult]
    rfl
  have hsame : out ++ result.toOption.toList ++ (resource.collect x).deliverable = out ++ x.deliverable := by
    rw [List.append_assoc, ← hmessage]
    rfl
  constructor
  · rw [hsame]
    exact h.first
  · intro hlocal hover
    rw [hsame]
    exact h.whole hlocal hover

end Inward

/-! ### The messages that go out -/

/-- A `send` throws from now on: the guest has closed the connection, or the platform is past OPEN. -/
def Refuses (conn : State) : Prop := conn.localClosed = true ∨ conn.socket.readyState ≠ .open

/-- The messages that the shim has handed to `ws.send` have been handed to the platform in their order, the
last one perhaps not yet; once one has been refused none is handed over any more. -/
structure Outward (x : Session) (sends : List Message) (stage : Shim.Stage) : Prop where
  draining : x.draining.isSome = true → stage = .sending
  order : sends = x.wire ++ x.draining.toList ∨ x.wire <+: sends ∧ Refuses x.conn

namespace Outward

variable {sends : List Message} {stage stage' : Shim.Stage}

/-- A turn of the loop of `send`, with the message that it is about. -/
theorem trySend {message : Message} (horder : sends = x.wire ++ [message] ∨ x.wire <+: sends ∧ Refuses x.conn) :
    (x.trySend message).Outward sends .sending := by
  refine ⟨fun _ => rfl, ?_⟩
  have hfirst : x.wire <+: sends := by
    rcases horder with hall | ⟨hfirst, -⟩
    · rw [hall]
      exact List.prefix_append _ _
    · exact hfirst
  unfold Session.trySend
  by_cases hrefuses : (x.conn.localClosed || x.conn.socket.readyState != .open) = true
  · rw [if_pos hrefuses]
    refine .inr ⟨hfirst, ?_⟩
    rwa [Bool.or_eq_true, bne_iff_ne] at hrefuses
  · rw [if_neg hrefuses]
    rw [Bool.or_eq_true, bne_iff_ne] at hrefuses
    have hall := horder.resolve_right fun h => hrefuses h.2
    split
    · exact .inl (hall.trans (List.append_nil _).symm)
    · exact .inl hall

/-- `ws.send`: no other promise is awaited. -/
theorem send (h : x.Outward sends stage) (hstage : stage ≠ .sending) (message : Message) :
    (x.trySend message).Outward (sends ++ [message]) .sending := by
  have hnone : x.draining = none := by
    rw [← Option.not_isSome_iff_eq_none]
    exact fun hsome => hstage (h.draining hsome)
  apply trySend
  rcases h.order with hall | ⟨hfirst, hrefuses⟩
  · left
    rw [hall, hnone, Option.toList_none, List.append_nil]
  · exact .inr ⟨hfirst.trans (List.prefix_append _ _), hrefuses⟩

/-- The timer of the drain poll. -/
theorem drainPoll (h : x.Outward sends stage) {message : Message} (hdraining : x.draining = some message) :
    (x.trySend message).Outward sends stage := by
  have hstage : stage = .sending := h.draining (by rw [hdraining]; rfl)
  rw [hstage]
  apply trySend
  rcases h.order with hall | hrefused
  · left
    rw [hall, hdraining, Option.toList_some]
  · exact .inr hrefused

/-- A move of the connection takes no refusal back. -/
theorem onward (h : x.Outward sends stage) (conn : State) (hrefuses : Refuses x.conn → Refuses conn)
    {x' : Session} (hconn : x'.conn = conn) (hwire : x'.wire = x.wire) (hdraining : x'.draining = x.draining) :
    x'.Outward sends stage := by
  constructor
  · rw [hdraining]
    exact h.draining
  · rw [hwire, hdraining, hconn]
    exact h.order.imp_right (And.imp_right hrefuses)

/-- Nothing that is past OPEN gets back. -/
theorem refuses_of_forward {s s' : State} (h : Forward s s') (hrefuses : Refuses s) : Refuses s' := by
  rcases hrefuses with hlocal | hready
  · exact .inl (h.localClosed.trans hlocal)
  · refine .inr fun hopen => hready ?_
    have hle := h.ready
    rw [hopen] at hle
    cases hr : s.socket.readyState with
    | «open» => rfl
    | closing | closed =>
      rw [hr] at hle
      exact absurd hle (by decide)

end Outward

/-! ### The close -/

/-- The settlement: by the close event that the platform has delivered, or by the close timer that an overflow
or a local close has armed, whichever comes first. -/
structure Closes (x : Session) (arrived : List Delivery) : Prop where
  heard : x.conn.socket.Heard (deliveredCloses arrived)
  unsettled : settledBy arrived = none → x.conn.closeSettled = false
  timeout : settledBy arrived = some .timeout →
    x.conn.closeSettled = true ∧ x.conn.closeInfo = none ∧ x.conn.initiated = true
  event : settledBy arrived = some .closeHeard → x.conn.closeSettled = true ∧
    ∃ event, deliveredCloses arrived = [event] ∧ x.conn.closeInfo = State.closeOutcome (some event)

namespace Closes

variable {x' : Session}

/-- Nothing that concerns the close. -/
theorem onward (h : x.Closes arrived) (hsocket : ∀ closes, x.conn.socket.Heard closes → x'.conn.socket.Heard closes)
    (hsettled : x'.conn.closeSettled = x.conn.closeSettled) (hinfo : x'.conn.closeInfo = x.conn.closeInfo)
    (hinitiated : x.conn.initiated = true → x'.conn.initiated = true) : x'.Closes arrived := by
  refine ⟨hsocket _ h.heard, ?_, ?_, ?_⟩
  · rw [hsettled]
    exact h.unsettled
  · rw [hsettled, hinfo]
    exact fun hfirst => ⟨(h.timeout hfirst).1, (h.timeout hfirst).2.1, hinitiated (h.timeout hfirst).2.2⟩
  · rw [hsettled, hinfo]
    exact h.event

/-- What depends on the connection alone. -/
theorem of_conn (h : x.Closes arrived) (hconn : x'.conn = x.conn) : x'.Closes arrived :=
  h.onward (fun _ hheard => hconn ▸ hheard) (by rw [hconn]) (by rw [hconn]) (by rw [hconn]; exact id)

/-- What the platform delivers besides. -/
theorem deliver (h : x.Closes arrived) {later : List Delivery} (hcloses : deliveredCloses later = [])
    (hlater : settledBy later = none) : x.Closes (arrived ++ later) := by
  have hsame : deliveredCloses (arrived ++ later) = deliveredCloses arrived := by
    rw [deliveredCloses_append, hcloses, List.append_nil]
  have hfirst : settledBy (arrived ++ later) = settledBy arrived := by
    rw [settledBy_append, hlater, Option.or_none]
  refine ⟨?_, ?_, ?_, ?_⟩
  · rw [hsame]
    exact h.heard
  · rw [hfirst]
    exact h.unsettled
  · rw [hfirst]
    exact h.timeout
  · rw [hfirst, hsame]
    exact h.event

/-- A connection is settled when something has settled it. -/
theorem settled_iff (h : x.Closes arrived) : x.conn.closeSettled = true ↔
    settledBy arrived = some .timeout ∨ settledBy arrived = some .closeHeard := by
  constructor
  · intro hsettled
    cases hfirst : settledBy arrived with
    | none => cases hsettled.symm.trans (h.unsettled hfirst)
    | some delivery =>
      have hsettles := List.find?_some hfirst
      cases delivery with
      | message | close => cases hsettles
      | timeout => exact .inl rfl
      | closeHeard => exact .inr rfl
  · rintro (hfirst | hfirst)
    · exact (h.timeout hfirst).1
    · exact (h.event hfirst).1

/-- `#settleClosed` settles a connection that is not settled, and no other. -/
theorem settles (h : x.Closes arrived) {s : State} (event : Option (UInt16 × String)) (socket : Socket)
    (delivery : Delivery) (hsettles : delivery.settles = true)
    (hcloses : deliveredCloses [delivery] = [])
    (hsame : s.closeSettled = x.conn.closeSettled ∧ s.closeInfo = x.conn.closeInfo ∧
      s.initiated = x.conn.initiated)
    (hheard : socket.Heard (deliveredCloses arrived))
    (hevent : delivery = .timeout ∧ event = none ∧ x.conn.initiated = true ∨
      delivery = .closeHeard ∧ ∃ close, deliveredCloses arrived = [close] ∧ event = some close)
    (hconn : x'.conn = { s.settleClosed event with socket := socket }) :
    x'.Closes (arrived ++ [delivery]) := by
  obtain ⟨hsettled, hinfo, hinitiated⟩ := hsame
  have hkeeps : (s.settleClosed event).initiated = s.initiated := by
    unfold State.initiated
    rw [(Forward.settleClosed s event).localClosed]
    unfold State.settleClosed
    split
    · rfl
    · dsimp only
      rw [withQueue_incoming, endQueue_overflowed]
  have hinitiated' : x'.conn.initiated = x.conn.initiated := by
    rw [hconn]
    exact hkeeps.trans hinitiated
  have honly : deliveredCloses (arrived ++ [delivery]) = deliveredCloses arrived := by
    rw [deliveredCloses_append, hcloses, List.append_nil]
  have hnow : settledBy [delivery] = some delivery := by
    unfold settledBy
    rw [List.find?_cons_of_pos hsettles]
  have hheard' : x'.conn.socket.Heard (deliveredCloses (arrived ++ [delivery])) := by
    rw [honly, hconn]
    exact hheard
  by_cases hs : x.conn.closeSettled = true
  · have hdone : s.settleClosed event = s := if_pos (hsettled.trans hs)
    have hclosed : x'.conn.closeSettled = x.conn.closeSettled := by
      rw [hconn, hdone]
      exact hsettled
    have hinfo' : x'.conn.closeInfo = x.conn.closeInfo := by
      rw [hconn, hdone]
      exact hinfo
    have hfirst : settledBy (arrived ++ [delivery]) = settledBy arrived := by
      rw [settledBy_append]
      rcases h.settled_iff.mp hs with hfirst | hfirst <;> rw [hfirst] <;> rfl
    refine ⟨hheard', ?_, ?_, ?_⟩
    · rw [hfirst, hclosed]
      exact h.unsettled
    · rw [hfirst, hclosed, hinfo', hinitiated']
      exact h.timeout
    · rw [hfirst, hclosed, hinfo', honly]
      exact h.event
  · have hopen : s.closeSettled = false := hsettled.trans (Bool.eq_false_iff.mpr hs)
    have hnone : settledBy arrived = none := by
      cases hfirst : settledBy arrived with
      | none => rfl
      | some first =>
        refine absurd (h.settled_iff.mpr ?_) hs
        have hsettles := List.find?_some hfirst
        cases first with
        | message | close => cases hsettles
        | timeout => exact .inl hfirst
        | closeHeard => exact .inr hfirst
    have hfirst : settledBy (arrived ++ [delivery]) = some delivery := by
      rw [settledBy_append, hnone, hnow]
      rfl
    have houtcome : x'.conn.closeSettled = true ∧ x'.conn.closeInfo = State.closeOutcome event := by
      rw [hconn, settleClosed_eq hopen]
      exact ⟨rfl, rfl⟩
    refine ⟨hheard', ?_, ?_, ?_⟩
    · rw [hfirst]
      rintro ⟨⟩
    · intro hdelivery
      obtain rfl := Option.some.inj (hfirst.symm.trans hdelivery)
      rcases hevent with ⟨-, rfl, hwhy⟩ | ⟨hno, -⟩
      · exact ⟨houtcome.1, houtcome.2, hinitiated'.trans hwhy⟩
      · cases hno
    · intro hdelivery
      obtain rfl := Option.some.inj (hfirst.symm.trans hdelivery)
      rcases hevent with ⟨hno, -⟩ | ⟨-, close, hone, rfl⟩
      · cases hno
      · exact ⟨houtcome.1, close, honly.trans hone, houtcome.2⟩

/-- A move of the platform. -/
theorem platform (h : x.Closes arrived) (hr : system.Reachable x.conn) (ha : ofHost a = true)
    (hs : step x.conn a = some conn) :
    ({ x with conn := conn } : Session).Closes (arrived ++ (SessionMove.conn a).brings) := by
  have hkept (hwait : a ≠ .waitClosed) (hsettles : a ≠ .closeSettles) (htimer : ∀ handle, a ≠ .timer handle) :
      Kept x.conn conn := Kept.step (deadline_of_reachable hr) hs hwait hsettles htimer
  cases a with
  | message message =>
    have hk := hkept nofun nofun nofun
    have hsame : ({ x with conn := conn } : Session).Closes arrived := by
      refine h.onward (fun closes hheard => ?_) hk.settled hk.info hk.initiated
      obtain ⟨-, rfl⟩ := platformEvent_eq_some.mp hs
      show (x.conn.onMessage message).socket.Heard closes
      unfold State.onMessage
      dsimp only
      split
      · exact hheard
      · split
        · unfold State.transportClosing
          split
          · exact hheard.close
          · exact hheard.close
        · rw [InboundFrame.withQueue x.conn _]
          exact hheard
    exact hsame.deliver rfl rfl
  | peerClosing | transportClosed =>
    have hk := hkept nofun nofun nofun
    have hsame : ({ x with conn := conn } : Session).Closes arrived := by
      refine h.onward (fun closes hheard => ?_) hk.settled hk.info hk.initiated
      obtain ⟨⟨-, hsocket⟩, rfl⟩ := platformEvent_eq_some.mp hs
      first
      | rw [hsocket] at hheard
        exact hheard
      | rcases hsocket with hsocket | hsocket <;> rw [hsocket] at hheard <;> exact hheard
    exact hsame.deliver rfl rfl
  | errorEvent =>
    have hk := hkept nofun nofun nofun
    have hsame : ({ x with conn := conn } : Session).Closes arrived := by
      refine h.onward (fun closes hheard => ?_) hk.settled hk.info hk.initiated
      obtain ⟨⟨-, hsocket⟩, rfl⟩ := platformEvent_eq_some.mp hs
      rw [hsocket] at hheard
      exact hheard
    exact hsame.deliver rfl rfl
  | tick | configure =>
    have hk := hkept nofun nofun nofun
    have hsame : ({ x with conn := conn } : Session).Closes arrived := by
      refine h.onward (fun closes hheard => ?_) hk.settled hk.info hk.initiated
      cases hs
      exact hheard
    exact hsame.deliver rfl rfl
  | closeEvent code reason =>
    have hk := hkept nofun nofun nofun
    obtain ⟨⟨-, fired, hsocket⟩, rfl⟩ := platformEvent_eq_some.mp hs
    have hnone : deliveredCloses arrived = [] := by
      have hheard := h.heard
      rw [hsocket] at hheard
      exact hheard
    have hfirst : settledBy (arrived ++ [.close code reason]) = settledBy arrived := by
      rw [settledBy_append]
      exact Option.or_none
    refine ⟨?_, fun hsettled => ?_, fun hsettled => ?_, fun hsettled => ?_⟩
    · show deliveredCloses (arrived ++ _) = [(code, reason)]
      rw [deliveredCloses_append, hnone]
      rfl
    · exact hk.settled.trans (h.unsettled (hfirst.symm.trans hsettled))
    · obtain ⟨hdone, hinfo, hwhy⟩ := h.timeout (hfirst.symm.trans hsettled)
      exact ⟨hk.settled.trans hdone, hk.info.trans hinfo, hk.initiated hwhy⟩
    · obtain ⟨-, event, hone, -⟩ := h.event (hfirst.symm.trans hsettled)
      cases hnone.symm.trans hone
  | closeSettles =>
    simp only [step] at hs
    split at hs
    · next code reason hsocket =>
      obtain ⟨-, rfl⟩ := platformEvent_eq_some.mp hs
      have hone : deliveredCloses arrived = [(code, reason)] := by
        have hheard := h.heard
        rw [hsocket] at hheard
        exact hheard
      exact h.settles _ .done .closeHeard rfl rfl ⟨rfl, rfl, rfl⟩ ⟨_, hone⟩ (.inr ⟨rfl, _, hone, rfl⟩) rfl
    · cases hs
  | timer handle =>
    obtain ⟨⟨-, timer, hmem, -⟩, rfl⟩ := platformEvent_eq_some.mp hs
    have hwhy : x.conn.initiated = true := by
      unfold State.initiated
      rw [Bool.or_eq_true]
      exact ((settle_sound hr).timers (List.ne_nil_of_mem hmem)).symm
    refine h.settles (s := { x.conn with
      timers := x.conn.timers.filter fun timer => timer.handle != handle }) none x.conn.socket .timeout rfl rfl
        ⟨rfl, rfl, rfl⟩ h.heard (.inl ⟨rfl, rfl, hwhy⟩) ?_
    show State.settleClosed _ none = _
    generalize hfired : ({ x.conn with
      timers := x.conn.timers.filter fun timer => timer.handle != handle } : State) = s
    have hsocket : (s.settleClosed none).socket = x.conn.socket := by
      rw [← hfired]
      exact settleClosed_socket _ none
    rw [← hsocket]
  | receive | receiveViaStream | state | waitClosed | close | dispose | read | react => cases ha

end Closes

/-! ### The calls of the shim -/

/-- `receive` concerns the messages that come in alone. -/
theorem receive_carries {sends : List Message} {stage : Shim.Stage} (hx : x.Sound) (hnot : x.receiving = none)
    (hin : x.Inward out arrived) (hout : x.Outward sends stage) (hcloses : x.Closes arrived) :
    (resource.receive x).Inward out arrived ∧ (resource.receive x).Outward sends stage ∧
      (resource.receive x).Closes arrived := by
  obtain ⟨-, hsame⟩ := hx.receive hnot
  obtain ⟨-, -, -, hover⟩ := receive_frame hx.unclaimed
  have hframe : x.conn.receive = _ := InboundFrame.receive x.conn
  have hk : Kept x.conn x.conn.receive := .receive x.conn
  have hsocket : x.conn.receive.socket = x.conn.socket := by rw [hframe]
  refine ⟨hin.of_same hsame hover, hout.onward x.conn.receive ?_ rfl rfl rfl, ?_⟩
  · rintro (hlocal | hready)
    · left
      rw [hframe]
      exact hlocal
    · right
      rwa [hsocket]
  · refine hcloses.onward (fun closes hheard => ?_) hk.settled hk.info hk.initiated
    show x.conn.receive.socket.Heard closes
    rwa [hsocket]

/-- `close`: no message is handed to the platform any more. -/
theorem close_carries {sends : List Message} {stage : Shim.Stage} (hx : x.Sound) {code : Option Nat}
    {reason : String} (hvalid : (Shim.HostCall.close code reason).Valid)
    (hin : x.Inward out arrived) (hout : x.Outward sends stage) (hcloses : x.Closes arrived) :
    (resource.close x code reason).Inward out arrived ∧ (resource.close x code reason).Outward sends stage ∧
      (resource.close x code reason).Closes arrived := by
  obtain ⟨-, -, hlocal, -⟩ := hx.close hvalid
  have hk : Kept x.conn (x.conn.close (code.map UInt16.ofNat) reason).2 := .close x.conn _ _
  refine ⟨hin.close hx hvalid, hout.onward _ (fun _ => .inl hlocal) rfl rfl rfl,
    hcloses.onward (fun closes hheard => ?_) hk.settled hk.info hk.initiated⟩
  show (x.conn.close (code.map UInt16.ofNat) reason).2.socket.Heard closes
  rcases close_cases x.conn (code.map UInt16.ofNat) reason with ⟨-, hsame⟩ | ⟨-, -, hcloses⟩
  · rwa [hsame]
  · rw [hcloses, localClose_frame]
    exact hheard.close

/-- A connection that `connect` has resolved with. -/
theorem carries_opened (h : resource.opened x) (stage : Shim.Stage) :
    x.Inward [] [] ∧ x.Outward [] stage ∧ x.Closes [] := by
  obtain ⟨-, hnothing, -, -, -⟩ := sound_opened h
  obtain ⟨⟨knobs, now, hconn⟩, -, hdraining, hwire, -⟩ := h
  refine ⟨⟨?_, fun _ _ => ?_⟩, ⟨?_, .inl ?_⟩, ⟨?_, fun _ => ?_, by rintro ⟨⟩, by rintro ⟨⟩⟩⟩
  · rw [hnothing]
    exact List.prefix_refl _
  · rw [hnothing]
    rfl
  · rw [hdraining]
    rintro ⟨⟩
  · rw [hwire, hdraining]
    rfl
  · rw [hconn]
    rfl
  · rw [hconn]
    rfl

end Session

/-! ### The runs of a component -/

/-- The account that a `Websocket` keeps. -/
def carrier : Shim.Carrier resource_lawful Delivery where
  brings := SessionMove.brings
  Carries x out arrived sends stage := x.Inward out arrived ∧ x.Outward sends stage ∧ x.Closes arrived
  opened _ stage h := Session.carries_opened h stage
  move x m x' out arrived sends stage hx hs h := by
    obtain ⟨hin, hout, hcloses⟩ := h
    have hx' : x.Sound := hx
    cases m with
    | conn a =>
      simp only [resource] at hs
      split at hs
      · next ha =>
        obtain ⟨conn, hstep, rfl⟩ := Option.map_eq_some_iff.mp hs
        exact ⟨hin.platform hx' ha hstep,
          hout.onward _ (Session.Outward.refuses_of_forward (forward_of_step hstep ha)) rfl rfl rfl,
          hcloses.platform hx'.reachable ha hstep⟩
      · cases hs
    | buffered amount =>
      obtain rfl := Option.some.inj hs
      rw [show (SessionMove.buffered amount).brings = [] from rfl, List.append_nil]
      exact ⟨⟨hin.first, hin.whole⟩, ⟨hout.draining, hout.order⟩, hcloses.of_conn rfl⟩
    | drainPoll =>
      obtain ⟨message, hdraining, rfl⟩ := Option.map_eq_some_iff.mp hs
      obtain ⟨-, hsame, -⟩ := hx'.trySend message
      rw [show SessionMove.drainPoll.brings = [] from rfl, List.append_nil]
      have hconn : (x.trySend message).conn = x.conn := by rw [Session.trySend_frame]
      exact ⟨hin.of_same hsame (by rw [hconn]), hout.drainPoll hdraining, hcloses.of_conn hconn⟩
  send x message _ _ _ _ hx _ hstage h := by
    obtain ⟨hin, hout, hcloses⟩ := h
    obtain ⟨-, hsame, -⟩ := Session.Sound.trySend hx message
    have hconn : (resource.send x message).conn = x.conn := by
      show (x.trySend message).conn = _
      rw [Session.trySend_frame]
    exact ⟨hin.of_same hsame (by rw [hconn]), hout.send hstage message, hcloses.of_conn hconn⟩
  sent x _ _ _ _ _ _ hsent h := by
    refine ⟨h.1, ⟨fun hsome => ?_, h.2.1.order⟩, h.2.2⟩
    rw [Option.isNone_iff_eq_none.mp hsent] at hsome
    cases hsome
  stage _ _ _ _ _ _ hstage h := ⟨h.1, ⟨fun hsome => hstage (h.2.1.draining hsome), h.2.1.order⟩, h.2.2⟩
  receive x _ _ _ _ hx _ hnot h := by
    refine Session.receive_carries hx ?_ h.1 h.2.1 h.2.2
    rw [← Option.not_isSome_iff_eq_none, show x.receiving.isSome = false from hnot]
    exact Bool.false_ne_true
  collect _ _ _ _ _ _ _ hresult h := 
    ⟨h.1.collect hresult, ⟨h.2.1.draining, h.2.1.order⟩, h.2.2.of_conn rfl⟩
  close _ _ _ _ _ _ _ hx _ hvalid h := Session.close_carries hx hvalid h.1 h.2.1 h.2.2

/-- The WebSockets of a component on the JavaScript host, with what the platform delivers. -/
def component : System (Shim.Stack Session × List Delivery) (Shim.StackAction resource × List Delivery) :=
  Shim.carrying resource SessionMove.brings

/-! ### From end to end -/

section Ends

variable {s : Shim.Stack Session} {arrived : List Delivery} {x : Session}

/-- Over the JavaScript host the shim is, but for its host, in a state that it gets into over the host it
assumes.  That holds for every close info that `waitClosed` may still settle with, and there is one: the
assumed host has been closed as the `Websocket` has, and torn down with that close info once no message is
queued any more. -/
theorem shim_simulates (h : (Shim.stack resource).Reachable s) :
    (∃ final, ∀ x, s.resource = some x → x.conn.closeSettled = true → x.conn.closeInfo = final) ∧
    ∀ final, (∀ x, s.resource = some x → x.conn.closeSettled = true → x.conn.closeInfo = final) →
      ∃ host, Shim.system.Reachable (s.shim.over host) ∧ ∀ x, s.resource = some x →
        host.connected = true ∧ host.localClosed = x.conn.localClosed ∧
        host.closed = (if x.conn.ended then some final else none) ∧
        x.deliverable <+: host.backlog ∧
        (x.conn.localClosed = false → host.backlog = x.message ++ x.queued) := by
  obtain ⟨⟨final, hright⟩, hsimulates⟩ := Shim.stack_simulates resource_lawful h
  constructor
  · exact ⟨final, fun x hx hsettled => hright x hx _ (if_pos hsettled)⟩
  · intro final hfinal
    obtain ⟨host, hreach, hstands⟩ := hsimulates final fun x hx info hwait => by
      have hwait' : (if x.conn.closeSettled = true then some x.conn.closeInfo else none) =
        some info := hwait
      split at hwait'
      · next hsettled => exact (Option.some.inj hwait').symm.trans (hfinal x hx hsettled)
      · cases hwait'
    refine ⟨host, hreach, fun x hx => ?_⟩
    have hst := hstands x hx
    refine ⟨hst.connected, hst.localClosed, hst.closed, hst.backlog, fun hopen => ?_⟩
    have hexact : host.backlog = x.deliverable := hst.exact hopen
    rw [hexact]
    unfold Session.deliverable
    rw [hopen, if_neg Bool.false_ne_true]

/-- The message events carry the first messages that the platform has delivered, in order and each once; and
as long as the connection has neither overflowed nor been closed by the guest, every other message is on its
way to the listeners. -/
theorem message_events_of_deliveries (h : component.Reachable (s, arrived)) :
    Shim.messages s.shim.hist.events <+: deliveredMessages arrived ∧
      ∀ x, s.resource = some x → x.conn.localClosed = false → x.conn.incoming.overflowed = false →
        Shim.messages s.shim.hist.events ++ (s.shim.loop.held ++ x.message ++ x.queued) =
          deliveredMessages arrived := by
  obtain ⟨hreach, hholds⟩ := Shim.Carrier.holds_of_run carrier h
  have hreceived := (Shim.stack_ordered resource_lawful hreach).received
  cases hres : s.resource with
  | none =>
    obtain ⟨-, hout, -⟩ := hholds.fresh hres
    rw [hout] at hreceived
    rw [(List.append_eq_nil_iff.mp hreceived).1]
    exact ⟨List.nil_prefix, by rintro x ⟨⟩⟩
  | some x =>
    obtain ⟨hin, -, -⟩ := hholds.carries x hres
    constructor
    · refine List.IsPrefix.trans ?_ hin.first
      rw [← hreceived, List.append_assoc]
      exact List.prefix_append _ _
    · rintro x' ⟨⟩ hlocal hover
      rw [← hin.whole hlocal hover, ← hreceived]
      unfold Session.deliverable
      rw [hlocal, if_neg Bool.false_ne_true]
      simp only [List.append_assoc]

/-- The messages handed to the platform are messages that `send()` accepted, in the order of the calls and
each at most once, without a hole among those that have gone to `ws.send`; and while the connection is open
none is missing but the one that waits for the drain. -/
theorem socket_gets_messages (h : component.Reachable (s, arrived)) (hx : s.resource = some x) :
    (∃ entries, entries.Sublist s.shim.hist.accepted ∧
      List.Forall₂ (fun entry message => entry.SentBy (.send entry.id message)) entries x.wire) ∧
      x.wire <+: s.shim.sentMessages ∧
      (x.conn.localClosed = false → x.conn.socket.readyState = .open →
        x.wire ++ x.draining.toList = s.shim.sentMessages) := by
  obtain ⟨hreach, hholds⟩ := Shim.Carrier.holds_of_run carrier h
  obtain ⟨-, hout, -⟩ := hholds.carries x hx
  have hfirst : x.wire <+: s.shim.sentMessages := by
    rcases hout.order with hall | ⟨hfirst, -⟩
    · rw [hall]
      exact List.prefix_append _ _
    · exact hfirst
  refine ⟨(Shim.stack_ordered resource_lawful hreach).accepted hfirst, hfirst, fun hlocal hready => ?_⟩
  rcases hout.order with hall | ⟨-, hclosed | hnot⟩
  · exact hall.symm
  · cases hlocal.symm.trans hclosed
  · exact absurd hready hnot

/-- The close event of the shim reports an abnormal closure if the handshake has failed, or if the close timer,
which an overflow or a local close has armed, has fired before the platform's close event was heard; otherwise
it reports the close event of the platform, if its code is one that a close frame has carried, and an abnormal
closure if it is not.  A clean close is thus never made up. -/
theorem close_event_of_delivery (h : component.Reachable (s, arrived)) {wasClean : Bool} {code : UInt16}
    {reason : String} {readyState : Shim.ReadyState}
    (hmem : (.close wasClean code reason, readyState) ∈ s.shim.hist.events) :
    (s.resource = none ∧ (⟨wasClean, code, reason⟩ : Shim.Report) = Shim.Report.of false none ∨
      ∃ x, s.resource = some x ∧
        (settledBy arrived = some .timeout ∧ x.conn.initiated = true ∧
            (⟨wasClean, code, reason⟩ : Shim.Report) = Shim.Report.of s.shim.pendingClose.isSome none ∨
          settledBy arrived = some .closeHeard ∧ ∃ event, deliveredCloses arrived = [event] ∧
            (⟨wasClean, code, reason⟩ : Shim.Report) =
              Shim.Report.of s.shim.pendingClose.isSome (State.closeOutcome (some event)))) ∧
      (wasClean = true → settledBy arrived = some .closeHeard ∧ deliveredCloses arrived = [(code, reason)] ∧
        State.synthesized code = false) := by
  obtain ⟨hreach, hholds⟩ := Shim.Carrier.holds_of_run carrier h
  have hunclean {failed : Bool} (hreport : (⟨wasClean, code, reason⟩ : Shim.Report) = Shim.Report.of failed none) :
      wasClean = true → settledBy arrived = some .closeHeard ∧ deliveredCloses arrived = [(code, reason)] ∧
        State.synthesized code = false := by
    intro hclean
    obtain ⟨hwas, -, -⟩ := Shim.Report.mk.inj hreport
    cases hclean.symm.trans hwas
  rcases Shim.stack_close resource_lawful hreach hmem with ⟨hnone, hreport⟩ | ⟨info, hwait, hreport⟩
  · exact ⟨.inl ⟨hnone, hreport⟩, hunclean hreport⟩
  · obtain ⟨x, hx, hwait⟩ := Option.bind_eq_some_iff.mp hwait
    have hwait' : (if x.conn.closeSettled = true then some x.conn.closeInfo else none) = some info := hwait
    split at hwait'
    · next hsettled =>
      obtain rfl := Option.some.inj hwait'
      obtain ⟨-, -, hcloses⟩ := hholds.carries x hx
      rcases hcloses.settled_iff.mp hsettled with hfirst | hfirst
      · obtain ⟨-, hinfo, hwhy⟩ := hcloses.timeout hfirst
        rw [hinfo] at hreport
        exact ⟨.inr ⟨x, hx, .inl ⟨hfirst, hwhy, hreport⟩⟩, hunclean hreport⟩
      · obtain ⟨-, event, hone, hinfo⟩ := hcloses.event hfirst
        rw [hinfo] at hreport
        refine ⟨.inr ⟨x, hx, .inr ⟨hfirst, event, hone, hreport⟩⟩, fun hclean => ?_⟩
        cases houtcome : State.closeOutcome (some event) with
        | none =>
          rw [houtcome] at hreport
          exact hunclean hreport hclean
        | some info =>
          rw [houtcome] at hreport
          obtain ⟨-, hcode, hreason⟩ := Shim.Report.mk.inj hreport
          obtain ⟨hevent, hnot⟩ := closeOutcome_eq_some.mp houtcome
          obtain rfl : code = info.code := hcode
          obtain rfl : reason = info.reason := hreason
          refine ⟨hfirst, hone.trans (congrArg (fun close => [close]) (Option.some.inj hevent)), ?_⟩
          unfold State.synthesized
          simpa [and_assoc] using hnot
    · cases hwait'

end Ends

/-! ### A run -/

/-- A connection that `connect` has resolved with. -/
def Session.start : Session where
  conn := .start .default 0
  bufferedAmount := 0
  draining := none
  wire := []
  receiving := none

theorem Session.opened_start : resource.opened Session.start :=
  ⟨⟨_, _, rfl⟩, rfl, rfl, rfl, rfl⟩

/-- A WebSocket that gets a message, sends one that has to wait for the drain, and is closed by the peer; the
loop gets to know of the end between the two listeners of the close event. -/
def closedByEvent : List (Shim.StackAction resource) := .flatten
  [[.established "" .start Session.opened_start, .shim .startLoops, .move (.conn (.message (.string "a"))),
      .received, .shim .dispatchMessage, .shim .receiveAgain],
    [.move (.buffered (maxBufferedAmount + 1)), .shim (.send (.payload (.string "b"))), .shim .runSend,
      .move .drainPoll, .move (.buffered 0), .move .drainPoll, .sendSettled, .shim .uncount],
    [.move (.conn .transportClosed), .move (.conn (.closeEvent 1000 "bye")), .received,
      .move (.conn .closeSettles), .waitResolves, .shim .settleRuns]]

/-- Where it gets to. -/
theorem exists_closedByEvent : ∃ s arrived x, component.Reachable (s, arrived) ∧ s.resource = some x ∧
    Shim.messages s.shim.hist.events = [.string "a"] ∧ x.wire = [.string "b"] ∧
    (.close true 1000 "bye", .closed) ∈ s.shim.hist.events := by
  have hrun : (component.run (⟨Shim.State.start "ws://a/", none⟩, [])
      (closedByEvent.map fun a => (a, a.brings SessionMove.brings))).any (fun e =>
        decide (Shim.messages e.1.shim.hist.events = [.string "a"]) &&
        e.1.resource.any (fun x => x.wire = [.string "b"]) &&
        decide ((.close true 1000 "bye", .closed) ∈ e.1.shim.hist.events)) = true := by
    decide +kernel
  obtain ⟨⟨s, arrived⟩, he, hchecks⟩ := (Option.any_eq_true _ _).mp hrun
  rw [Bool.and_eq_true, Bool.and_eq_true] at hchecks
  obtain ⟨⟨hmessages, hsent⟩, hclose⟩ := hchecks
  obtain ⟨x, hx, hsent⟩ := (Option.any_eq_true _ _).mp hsent
  have hstart : component.Reachable (⟨Shim.State.start "ws://a/", none⟩, []) :=
    .of_init ⟨⟨⟨_, rfl⟩, rfl⟩, rfl⟩
  exact ⟨s, arrived, x, hstart.run he, hx, of_decide_eq_true hmessages, of_decide_eq_true hsent,
    of_decide_eq_true hclose⟩

/-- The shim over the `Websocket` that is closed by its peer. -/
theorem shim_simulates_closed : ∃ (s : Shim.Stack Session) (x : Session), s.resource = some x ∧
    ∃ (final : Option CloseInfo) (host : Shim.Host), Shim.system.Reachable (s.shim.over host) ∧
      host.localClosed = x.conn.localClosed ∧ x.deliverable <+: host.backlog ∧
      (x.conn.closeSettled = true → x.conn.closeInfo = final) := by
  obtain ⟨s, arrived, x, hreach, hx, -⟩ := exists_closedByEvent
  obtain ⟨⟨final, hfinal⟩, hsimulates⟩ :=
    shim_simulates (Shim.Carrier.holds_of_run carrier hreach).1
  obtain ⟨host, hover, hhost⟩ := hsimulates final hfinal
  obtain ⟨-, hlocal, -, hbacklog, -⟩ := hhost x hx
  exact ⟨s, x, hx, final, host, hover, hlocal, hbacklog, hfinal x hx⟩

/-- The listener gets the message. -/
theorem message_events_of_deliveries_closed : ∃ s arrived, component.Reachable (s, arrived) ∧
    Shim.messages s.shim.hist.events = [.string "a"] ∧
    Shim.messages s.shim.hist.events <+: deliveredMessages arrived := by
  obtain ⟨s, arrived, x, hreach, -, hmessages, -⟩ := exists_closedByEvent
  exact ⟨s, arrived, hreach, hmessages, (message_events_of_deliveries hreach).1⟩

/-- The platform gets the message. -/
theorem socket_gets_messages_closed : ∃ s arrived x, component.Reachable (s, arrived) ∧
    s.resource = some x ∧ x.wire = [.string "b"] ∧ x.wire <+: s.shim.sentMessages := by
  obtain ⟨s, arrived, x, hreach, hx, -, hsent, -⟩ := exists_closedByEvent
  exact ⟨s, arrived, x, hreach, hx, hsent, (socket_gets_messages hreach hx).2.1⟩

/-- The close event says what the platform has said. -/
theorem close_event_of_delivery_closed : ∃ s arrived, component.Reachable (s, arrived) ∧
    (.close true 1000 "bye", .closed) ∈ s.shim.hist.events ∧ deliveredCloses arrived = [(1000, "bye")] := by
  obtain ⟨s, arrived, x, hreach, -, -, -, hclose⟩ := exists_closedByEvent
  exact ⟨s, arrived, hreach, hclose, ((close_event_of_delivery hreach hclose).2 rfl).2.1⟩

end Polymorph.Js
