import PolymorphWebsocket.Host.State
import PolymorphWebsocket.Transition.System

/-!
# The wasmtime host: the inbound budget, one atomic operation at a time

`InboundBudget::reserve`, `InboundQueue::next` and `next_inbound` between the pump and any number of
readers, on a machine word of any width.  `reserve` is two loads, a comparison and an addition, and a
reader releases a message's bytes only after it has taken the message, so every other party may move
in between.

The counter is exact in every state: it is the bytes of the messages that have been counted and not
released, be they with the pump, in the queue or with the reader that holds the lock.  What the
comparison found room for still has room when it is counted, since in between the counter only falls.
A queue whose receiver is dropped is one from which nothing is taken any more.
-/

namespace Polymorph.Host

open Futures

/-! ### The pump and the readers -/

/-- Where the pump is with an inbound message. -/
inductive Delivery
  /-- Between two messages. -/
  | idle
  /-- `reserve` is about to load the overflow latch. -/
  | reserve (message : Message)
  /-- About to load the counter and compare. -/
  | load (message : Message)
  /-- About to add. -/
  | add (message : Message)
  /-- The reservation is made: about to enqueue. -/
  | send (message : Message)
  /-- About to latch the overflow. -/
  | store
  | beginClose
  /-- The pump has dropped its sender. -/
  | done
  deriving DecidableEq, Repr

/-- Where a `next_inbound` call is. -/
inductive Reader
  /-- In `incoming.lock()`. -/
  | waiting
  /-- In `queue.next()`. -/
  | holding
  /-- `next` has taken the message. -/
  | taken (message : Message)
  /-- `next` has returned `None`. -/
  | ended
  | finished (result : Except Error Message)
  | cancelled
  deriving DecidableEq

/-- The reader holds the lock of the queue. -/
def Reader.locks : Reader → Bool
  | .holding | .taken _ | .ended => true
  | .waiting | .finished _ | .cancelled => false

/-- The queue with its budget, the pump and the readers. -/
structure QueueState where
  budget : InboundBudget
  queue : Receiver Message
  delivery : Delivery
  wireClosing : Bool
  /-- The reader that holds the lock. -/
  lock : Option Nat
  readers : List Reader
  /-- The messages for which `reserve` found room.  The code reads none of the lists below. -/
  accepted : List Message
  enqueued : List Message
  released : List Message

/-- A new connection's queue. -/
def QueueState.start (limit : Nat) : QueueState where
  budget := { limit := limit, buffered := 0, overflowed := false }
  queue := .new
  delivery := .idle
  wireClosing := false
  lock := none
  readers := []
  accepted := []
  enqueued := []
  released := []

namespace QueueState

variable (w : Nat) (s : QueueState)

/-- The pump reads a data message: `deliver` discards it once the close has begun. -/
def arrive (message : Message) : Option QueueState :=
  match s.delivery with
  | .idle => some (if s.wireClosing then s else { s with delivery := .reserve message })
  | _ => none

/-- The next atomic operation of `deliver`. -/
def pump : Option QueueState :=
  match s.delivery with
  | .reserve message =>
    some { s with delivery := if s.budget.overflowed then .beginClose else .load message }
  | .load message =>
    some (if s.budget.roomFor w message.payloadLen then
      { s with delivery := .add message, accepted := s.accepted ++ [message] }
      else { s with delivery := .store })
  | .add message =>
    some { s with budget := s.budget.fetchAdd w message.payloadLen, delivery := .send message }
  | .send message =>
    some { s with
      queue := s.queue.push message, delivery := .idle, enqueued := s.enqueued ++ [message] }
  | .store => some { s with budget := s.budget.latchOverflow, delivery := .beginClose }
  | .beginClose => some { s with wireClosing := true, delivery := .idle }
  | .idle | .done => none

/-- The transport rejects a message past its cap. -/
def capacity : Option QueueState :=
  match s.delivery with
  | .idle => some { s with delivery := .store }
  | _ => none

/-- A close begins for another reason. -/
def beginClose : Option QueueState :=
  match s.delivery with
  | .idle => some { s with delivery := .beginClose }
  | _ => none

/-- The pump ends the queue. -/
def finish : Option QueueState :=
  match s.delivery with
  | .idle => some { s with queue := s.queue.dropSender, delivery := .done }
  | _ => none

/-- A reader takes the lock. -/
def acquire (i : Nat) : Option QueueState :=
  match s.readers[i]?, s.lock with
  | some .waiting, none => some { s with lock := some i, readers := s.readers.set i .holding }
  | _, _ => none

/-- The reader with the lock takes the next message, or finds the end of the queue. -/
def next (i : Nat) : Option QueueState :=
  match s.readers[i]?, s.queue.pollNext with
  | some .holding, (.ready (some message), queue) =>
    some { s with queue := queue, readers := s.readers.set i (.taken message) }
  | some .holding, (.ready none, queue) =>
    some { s with queue := queue, readers := s.readers.set i .ended }
  | _, _ => none

/-- The reader releases the bytes of its message and returns it. -/
def release (i : Nat) : Option QueueState :=
  match s.readers[i]? with
  | some (.taken message) =>
    some { s with
      budget := s.budget.fetchSub w message.payloadLen
      lock := none
      readers := s.readers.set i (.finished (.ok message))
      released := s.released ++ [message] }
  | _ => none

/-- The reader returns the error for the end of the queue. -/
def inspect (i : Nat) : Option QueueState :=
  match s.readers[i]? with
  | some .ended =>
    let err := if s.budget.overflowed then .receiveBufferOverflow else .closed
    some { s with lock := none, readers := s.readers.set i (.finished (.error err)) }
  | _ => none

/-- A call is cancelled at one of its two awaits. -/
def cancel (i : Nat) : Option QueueState :=
  match s.readers[i]? with
  | some .waiting => some { s with readers := s.readers.set i .cancelled }
  | some .holding => some { s with lock := none, readers := s.readers.set i .cancelled }
  | _ => none

end QueueState

/-- The moves of the pump and the readers. -/
inductive QueueAction
  | arrive (message : Message)
  | pump
  | capacity
  | beginClose
  | finish
  /-- Another `next_inbound` call. -/
  | call
  | acquire (i : Nat)
  | next (i : Nat)
  | release (i : Nat)
  | inspect (i : Nat)
  | cancel (i : Nat)
  deriving DecidableEq, Repr

/-- The state after a move, if the move is possible. -/
def queueStep (w : Nat) (s : QueueState) : QueueAction → Option QueueState
  | .arrive message => s.arrive message
  | .pump => s.pump w
  | .capacity => s.capacity
  | .beginClose => s.beginClose
  | .finish => s.finish
  | .call => some { s with readers := s.readers ++ [.waiting] }
  | .acquire i => s.acquire i
  | .next i => s.next i
  | .release i => s.release w i
  | .inspect i => s.inspect i
  | .cancel i => s.cancel i

/-- The inbound queue on a word of `w` bits. -/
def queueSystem (w limit : Nat) : Transition.System QueueState QueueAction where
  init s := s = .start limit
  step := queueStep w

/-! ### The bytes that are alive -/

/-- The bytes of some messages. -/
def payloadBytes (messages : List Message) : Nat := (messages.map Message.payloadLen).sum

@[simp] theorem payloadBytes_nil : payloadBytes [] = 0 := rfl

@[simp] theorem payloadBytes_cons (message : Message) (messages : List Message) :
    payloadBytes (message :: messages) = message.payloadLen + payloadBytes messages :=
  List.sum_cons

@[simp] theorem payloadBytes_append (messages messages' : List Message) :
    payloadBytes (messages ++ messages') = payloadBytes messages + payloadBytes messages' := by
  unfold payloadBytes
  rw [List.map_append, List.sum_append]

/-- The pump's message, before the comparison. -/
def Delivery.offered : Delivery → List Message
  | .reserve message | .load message => [message]
  | _ => []

/-- The pump's message, between the comparison and the addition. -/
def Delivery.granted : Delivery → List Message
  | .add message => [message]
  | _ => []

/-- The pump's message, after the addition. -/
def Delivery.counted : Delivery → List Message
  | .send message => [message]
  | _ => []

/-- The message a reader has taken. -/
def Reader.message : Reader → List Message
  | .taken message => [message]
  | _ => []

namespace QueueState

/-- The message that has been taken and not released. -/
def unreleased (s : QueueState) : List Message :=
  match s.lock with
  | some i => (s.readers[i]?.map Reader.message).getD []
  | none => []

/-- The messages that are reserved and not yet released, oldest first. -/
def live (s : QueueState) : List Message := s.unreleased ++ s.queue.items ++ s.delivery.counted

/-- The payload bytes in memory: those of the live messages, and of the one that is not counted
yet. -/
def liveBytes (s : QueueState) : Nat :=
  payloadBytes (s.live ++ s.delivery.granted ++ s.delivery.offered)

end QueueState

/-- The condition on a step: the payloads in memory are within the range of the word. -/
def LiveBelow (w : Nat) (s : QueueState) (_ : QueueAction) : Prop := s.liveBytes < 2 ^ w

instance (w : Nat) (s : QueueState) (a : QueueAction) : Decidable (LiveBelow w s a) :=
  inferInstanceAs (Decidable (_ < _))

/-- The invariant of the queue and its budget. -/
structure QueueState.Sound (limit : Nat) (s : QueueState) : Prop where
  limit_eq : s.budget.limit = limit
  buffered : s.budget.buffered = payloadBytes s.live
  room : s.budget.buffered + payloadBytes s.delivery.granted ≤ limit
  lock : ∀ i reader, s.readers[i]? = some reader → reader.locks = true → s.lock = some i
  accepted : s.accepted = s.released ++ s.live ++ s.delivery.granted
  sender : s.delivery ≠ .done → s.queue.senderLive = true

/-- A reader that has changed, or one that has not. -/
theorem getElem?_set_cases {readers : List Reader} {i j : Nat} {reader reader' : Reader}
    (h : (readers.set i reader)[j]? = some reader') :
    i = j ∧ reader = reader' ∨ i ≠ j ∧ readers[j]? = some reader' := by
  rw [List.getElem?_set] at h
  split at h
  · next hij =>
    split at h
    · exact .inl ⟨hij, Option.some.inj h⟩
    · cases h
  · next hij => exact .inr ⟨hij, h⟩

/-- A reader that was there, or the new one. -/
theorem getElem?_concat_cases {readers : List Reader} {i : Nat} {reader reader' : Reader}
    (h : (readers ++ [reader])[i]? = some reader') : readers[i]? = some reader' ∨ reader = reader' := by
  rw [List.getElem?_append] at h
  split at h
  · exact .inl h
  · have hmem := List.mem_of_getElem? h
    exact .inr (List.mem_singleton.mp hmem).symm

/-- The entry of a list that has been set. -/
theorem getElem?_set_of_some {readers : List Reader} {i : Nat} {reader : Reader}
    (h : readers[i]? = some reader) (reader' : Reader) :
    (readers.set i reader')[i]? = some reader' := by
  rw [List.getElem?_set_self]
  exact (List.getElem?_eq_some_iff.mp h).1

namespace QueueState

section Reading

variable {s : QueueState}

/-- With a free lock nothing is taken. -/
theorem unreleased_of_free (h : s.lock = none) : s.unreleased = [] := by
  unfold unreleased
  rw [h]

/-- What is taken is with the reader that holds the lock. -/
theorem unreleased_of_lock {i : Nat} {reader : Reader} (h : s.lock = some i)
    (hi : s.readers[i]? = some reader) : s.unreleased = reader.message := by
  unfold unreleased
  rw [h]
  simp only [hi]
  rfl

/-- A reader that carries as much as before. -/
theorem unreleased_set {i : Nat} {reader reader' : Reader} (hi : s.readers[i]? = some reader)
    (hmessage : reader'.message = reader.message) :
    ({ s with readers := s.readers.set i reader' } : QueueState).unreleased = s.unreleased := by
  unfold unreleased
  cases s.lock with
  | none => rfl
  | some j =>
    by_cases hij : i = j
    · subst hij
      simp only [getElem?_set_of_some hi, hi, Option.map_some, Option.getD_some, hmessage]
    · simp only [List.getElem?_set_ne hij]

/-- A call that waits carries nothing. -/
theorem unreleased_call :
    ({ s with readers := s.readers ++ [.waiting] } : QueueState).unreleased = s.unreleased := by
  unfold unreleased
  cases s.lock with
  | none => rfl
  | some i =>
    cases hi : (s.readers ++ [Reader.waiting])[i]? with
    | none =>
      have hlength : s.readers.length ≤ i := by
        rw [List.getElem?_eq_none_iff, List.length_append] at hi
        omega
      simp only [hi, List.getElem?_eq_none hlength]
    | some reader =>
      rcases getElem?_concat_cases hi with hi' | rfl
      · simp only [hi, hi']
      · simp only [hi]
        cases hi' : s.readers[i]? with
        | none => rfl
        | some reader =>
          rw [List.getElem?_append_left (List.getElem?_eq_some_iff.mp hi').1, hi'] at hi
          rw [Option.some.inj hi]

end Reading

namespace Sound

variable {w limit : Nat} {s s' : QueueState}

theorem start (limit : Nat) : (QueueState.start limit).Sound limit where
  limit_eq := rfl
  buffered := rfl
  room := Nat.zero_le _
  lock i reader h := by simp [QueueState.start] at h
  accepted := rfl
  sender _ := rfl

/-- The counter is within the range of the word. -/
theorem lt_word (h : s.Sound limit) (hlimit : limit < 2 ^ w) : s.budget.buffered < 2 ^ w := by
  have hroom := h.room
  omega

/-- Where the pump has nothing in its hands before and after, only the pump's point changes. -/
theorem setDelivery (h : s.Sound limit) (delivery : Delivery)
    (hgranted : delivery.granted = s.delivery.granted) (hcounted : delivery.counted = s.delivery.counted)
    (hdone : s.delivery ≠ .done) : ({ s with delivery := delivery } : QueueState).Sound limit := by
  have hlive : ({ s with delivery := delivery } : QueueState).live = s.live := by
    unfold live unreleased
    rw [hcounted]
  refine ⟨h.limit_eq, ?_, ?_, h.lock, ?_, fun _ => h.sender hdone⟩
  · rw [hlive]
    exact h.buffered
  · rw [hgranted]
    exact h.room
  · rw [hlive, hgranted]
    exact h.accepted

/-- An operation of `deliver`. -/
theorem pump (h : s.Sound limit) (hlimit : limit < 2 ^ w) (hlive : s.liveBytes < 2 ^ w)
    (hs : s.pump w = some s') : s'.Sound limit := by
  have hbuffered := h.buffered
  have hroom := h.room
  have haccepted := h.accepted
  unfold QueueState.pump at hs
  split at hs
  · next message hd =>
    obtain rfl := Option.some.inj hs
    apply h.setDelivery <;> cases s.budget.overflowed <;> simp [hd, Delivery.granted, Delivery.counted]
  · next message hd =>
    obtain rfl := Option.some.inj hs
    split
    · next hfits =>
      have hlt : s.budget.buffered + message.payloadLen < 2 ^ w := by
        unfold liveBytes at hlive
        simp [hd, Delivery.granted, Delivery.offered] at hlive
        omega
      have hle := InboundBudget.le_of_roomFor hlt hfits
      rw [h.limit_eq] at hle
      refine ⟨h.limit_eq, ?_, ?_, h.lock, ?_, fun _ => h.sender (by rw [hd]; exact nofun)⟩
      · rw [hbuffered]
        unfold live unreleased
        rw [hd]
        rfl
      · simpa [Delivery.granted] using hle
      · rw [haccepted]
        unfold live unreleased
        simp [hd, Delivery.granted, Delivery.counted]
    · apply h.setDelivery <;> simp [hd, Delivery.granted, Delivery.counted]
  · next message hd =>
    obtain rfl := Option.some.inj hs
    simp only [hd, Delivery.granted, payloadBytes_cons, payloadBytes_nil, Nat.add_zero] at hroom
    rw [InboundBudget.fetchAdd_of_lt (Nat.lt_of_le_of_lt hroom hlimit)]
    refine ⟨h.limit_eq, ?_, ?_, h.lock, ?_, fun _ => h.sender (by rw [hd]; exact nofun)⟩
    · show s.budget.buffered + message.payloadLen = _
      rw [hbuffered]
      unfold live unreleased
      simp [hd, Delivery.counted, Nat.add_assoc]
    · exact hroom
    · rw [haccepted]
      unfold live unreleased
      simp [hd, Delivery.granted, Delivery.counted]
  · next message hd =>
    obtain rfl := Option.some.inj hs
    have hsender := h.sender (by rw [hd]; exact nofun)
    have hlive' : ({ s with
        queue := s.queue.push message, delivery := .idle
        enqueued := s.enqueued ++ [message] } : QueueState).live = s.live := by
      unfold live unreleased
      rw [Receiver.push_items_of_live hsender, hd]
      simp [Delivery.counted]
    refine ⟨h.limit_eq, ?_, ?_, h.lock, ?_, fun _ => hsender⟩
    · rw [hlive']
      exact hbuffered
    · rw [hd] at hroom
      exact hroom
    · rw [hlive', haccepted, hd]
      rfl
  · next hd =>
    obtain rfl := Option.some.inj hs
    have hs := h.setDelivery .beginClose (by rw [hd]; rfl) (by rw [hd]; rfl) (by rw [hd]; exact nofun)
    exact ⟨hs.limit_eq, hs.buffered, hs.room, hs.lock, hs.accepted, hs.sender⟩
  · next hd =>
    obtain rfl := Option.some.inj hs
    have hs := h.setDelivery .idle (by rw [hd]; rfl) (by rw [hd]; rfl) (by rw [hd]; exact nofun)
    exact ⟨hs.limit_eq, hs.buffered, hs.room, hs.lock, hs.accepted, hs.sender⟩
  · cases hs
  · cases hs

/-- What the pump does between two messages. -/
theorem ofIdle (h : s.Sound limit) (hd : s.delivery = .idle) (delivery : Delivery)
    (hgranted : delivery.granted = []) (hcounted : delivery.counted = []) :
    ({ s with delivery := delivery } : QueueState).Sound limit := by
  apply h.setDelivery
  · rw [hd, hgranted]
    rfl
  · rw [hd, hcounted]
    rfl
  · rw [hd]
    exact nofun

/-- A reader moves without the messages or the counter. -/
theorem setReader (h : s.Sound limit) {i : Nat} {reader : Reader} {lock : Option Nat}
    (hlock : ∀ j r, s.readers[j]? = some r → i ≠ j → r.locks = true → lock = some j)
    (hself : reader.locks = true → lock = some i)
    (hsame : ({ s with lock := lock, readers := s.readers.set i reader } : QueueState).unreleased =
      s.unreleased) :
    ({ s with lock := lock, readers := s.readers.set i reader } : QueueState).Sound limit := by
  have hlive : ({ s with lock := lock, readers := s.readers.set i reader } : QueueState).live =
      s.live := by
    unfold live
    rw [hsame]
  refine ⟨h.limit_eq, ?_, h.room, ?_, ?_, h.sender⟩
  · rw [hlive]
    exact h.buffered
  · intro j r hj hlocks
    rcases getElem?_set_cases hj with ⟨rfl, rfl⟩ | ⟨hij, hj⟩
    · exact hself hlocks
    · exact hlock j r hj hij hlocks
  · rw [hlive]
    exact h.accepted

/-- No other reader holds the lock. -/
theorem lock_other (h : s.Sound limit) {i j : Nat} {reader r : Reader} {lock : Option Nat}
    (hi : s.readers[i]? = some reader) (hlocks : reader.locks = true) (hj : s.readers[j]? = some r)
    (hij : i ≠ j) (hr : r.locks = true) : lock = some j := by
  have hlock := h.lock i reader hi hlocks
  rw [h.lock j r hj hr] at hlock
  exact absurd (Option.some.inj hlock).symm hij

/-- Another call waits. -/
theorem call (h : s.Sound limit) :
    ({ s with readers := s.readers ++ [.waiting] } : QueueState).Sound limit := by
  have hlive : ({ s with readers := s.readers ++ [.waiting] } : QueueState).live = s.live := by
    unfold live
    rw [unreleased_call]
  refine ⟨h.limit_eq, ?_, h.room, ?_, ?_, h.sender⟩
  · rw [hlive]
    exact h.buffered
  · intro i reader hi hlocks
    rcases getElem?_concat_cases hi with hi | rfl
    · exact h.lock i reader hi hlocks
    · cases hlocks
  · rw [hlive]
    exact h.accepted

/-- A reader takes the lock. -/
theorem acquire (h : s.Sound limit) {i : Nat} (hs : s.acquire i = some s') : s'.Sound limit := by
  unfold QueueState.acquire at hs
  split at hs
  · next hi hfree =>
    obtain rfl := Option.some.inj hs
    apply h.setReader
    · intro j r hj _ hr
      rw [h.lock j r hj hr] at hfree
      cases hfree
    · exact fun _ => rfl
    · rw [unreleased_of_free hfree, unreleased_of_lock rfl (getElem?_set_of_some hi .holding)]
      rfl
  · cases hs

/-- The lock stays with the reader that has it. -/
theorem lock_set (h : s.Sound limit) {i : Nat} (hlock : s.lock = some i) (reader : Reader) :
    ∀ j r, (s.readers.set i reader)[j]? = some r → r.locks = true → s.lock = some j := by
  intro j r hj hlocks
  rcases getElem?_set_cases hj with ⟨rfl, rfl⟩ | ⟨hij, hj⟩
  · exact hlock
  · exact h.lock j r hj hlocks

/-- The reader with the lock takes a message, or finds the end. -/
theorem next (h : s.Sound limit) {i : Nat} (hs : s.next i = some s') : s'.Sound limit := by
  unfold QueueState.next at hs
  split at hs
  · next message queue hi hq =>
    obtain rfl := Option.some.inj hs
    obtain ⟨hitems, hsender⟩ := Receiver.pollNext_some hq
    have hlock := h.lock i _ hi rfl
    have hlive : s.live = message :: (queue.items ++ s.delivery.counted) := by
      unfold live
      rw [unreleased_of_lock hlock hi, hitems]
      rfl
    have hlive' : ({ s with
        queue := queue, readers := s.readers.set i (.taken message) } : QueueState).live = s.live := by
      have htaken : ({ s with
          queue := queue, readers := s.readers.set i (.taken message) } : QueueState).unreleased =
          (Reader.taken message).message := by
        apply unreleased_of_lock
        · exact hlock
        · exact getElem?_set_of_some hi _
      rw [hlive]
      unfold live
      rw [htaken]
      rfl
    refine ⟨h.limit_eq, ?_, h.room, h.lock_set hlock _, ?_, fun hd => ?_⟩
    · rw [hlive']
      exact h.buffered
    · rw [hlive']
      exact h.accepted
    · rw [hsender]
      exact h.sender hd
  · next queue hi hq =>
    obtain rfl := Option.some.inj hs
    obtain ⟨hitems, hsender, hitems', -⟩ := Receiver.pollNext_none hq
    have hlock := h.lock i _ hi rfl
    have hlive : ({ s with
        queue := queue, readers := s.readers.set i .ended } : QueueState).live = s.live := by
      have hended : ({ s with
          queue := queue, readers := s.readers.set i .ended } : QueueState).unreleased =
          Reader.ended.message := by
        apply unreleased_of_lock
        · exact hlock
        · exact getElem?_set_of_some hi _
      unfold live
      rw [unreleased_of_lock hlock hi, hended, hitems, hitems']
      rfl
    refine ⟨h.limit_eq, ?_, h.room, h.lock_set hlock _, ?_, fun hd => ?_⟩
    · rw [hlive]
      exact h.buffered
    · rw [hlive]
      exact h.accepted
    · rw [h.sender hd] at hsender
      cases hsender
  · cases hs

/-- A reader releases its message. -/
theorem release (h : s.Sound limit) (hlimit : limit < 2 ^ w) {i : Nat}
    (hs : s.release w i = some s') : s'.Sound limit := by
  unfold QueueState.release at hs
  split at hs
  · next message hi =>
    obtain rfl := Option.some.inj hs
    have hlock := h.lock i _ hi rfl
    have htaken : s.unreleased = [message] := unreleased_of_lock hlock hi
    have hbuffered := h.buffered
    have hroom := h.room
    have hlive : s.live = message :: (s.queue.items ++ s.delivery.counted) := by
      unfold live
      rw [htaken]
      rfl
    rw [hlive, payloadBytes_cons] at hbuffered
    rw [InboundBudget.fetchSub_of_le (by omega) (h.lt_word hlimit)]
    refine ⟨h.limit_eq, ?_, ?_, ?_, ?_, h.sender⟩
    · show s.budget.buffered - message.payloadLen = payloadBytes (s.queue.items ++ s.delivery.counted)
      omega
    · show s.budget.buffered - message.payloadLen + payloadBytes s.delivery.granted ≤ limit
      omega
    · intro j r hj hlocks
      rcases getElem?_set_cases hj with ⟨rfl, rfl⟩ | ⟨hij, hj⟩
      · cases hlocks
      · exact h.lock_other hi rfl hj hij hlocks
    · show s.accepted = s.released ++ [message] ++ (s.queue.items ++ s.delivery.counted) ++
        s.delivery.granted
      rw [h.accepted, hlive]
      simp
  · cases hs

/-- What a reader has taken is counted. -/
theorem payloadLen_le (h : s.Sound limit) {i : Nat} {message : Message}
    (hi : s.readers[i]? = some (.taken message)) : message.payloadLen ≤ s.budget.buffered := by
  have htaken : s.unreleased = [message] := unreleased_of_lock (h.lock i _ hi rfl) hi
  rw [h.buffered]
  unfold live
  rw [htaken, List.append_assoc, List.singleton_append, payloadBytes_cons]
  exact Nat.le_add_right _ _

/-- A reader returns the error of the end. -/
theorem inspect (h : s.Sound limit) {i : Nat} (hs : s.inspect i = some s') : s'.Sound limit := by
  unfold QueueState.inspect at hs
  split at hs
  · next hi =>
    obtain rfl := Option.some.inj hs
    have hlock := h.lock i _ hi rfl
    apply h.setReader
    · exact fun j r hj hij hr => h.lock_other hi rfl hj hij hr
    · exact nofun
    · rw [unreleased_of_lock hlock hi]
      rfl
  · cases hs

/-- A call is cancelled. -/
theorem cancel (h : s.Sound limit) {i : Nat} (hs : s.cancel i = some s') : s'.Sound limit := by
  unfold QueueState.cancel at hs
  split at hs
  · next hi =>
    obtain rfl := Option.some.inj hs
    apply h.setReader
    · exact fun j r hj _ hr => h.lock j r hj hr
    · exact nofun
    · exact unreleased_set hi rfl
  · next hi =>
    obtain rfl := Option.some.inj hs
    have hlock := h.lock i _ hi rfl
    apply h.setReader
    · exact fun j r hj hij hr => h.lock_other hi rfl hj hij hr
    · exact nofun
    · rw [unreleased_of_lock hlock hi]
      rfl
  · cases hs

/-- Every move keeps the invariant. -/
theorem step (h : s.Sound limit) (hlimit : limit < 2 ^ w) {a : QueueAction}
    (hlive : s.liveBytes < 2 ^ w) (hs : queueStep w s a = some s') : s'.Sound limit := by
  cases a with
  | arrive message =>
    change s.arrive message = some s' at hs
    unfold QueueState.arrive at hs
    split at hs
    · next hd =>
      obtain rfl := Option.some.inj hs
      split
      · exact h
      · exact h.ofIdle hd _ rfl rfl
    · cases hs
  | pump => exact h.pump hlimit hlive hs
  | capacity =>
    change s.capacity = some s' at hs
    unfold QueueState.capacity at hs
    split at hs
    · next hd =>
      obtain rfl := Option.some.inj hs
      exact h.ofIdle hd _ rfl rfl
    · cases hs
  | beginClose =>
    change s.beginClose = some s' at hs
    unfold QueueState.beginClose at hs
    split at hs
    · next hd =>
      obtain rfl := Option.some.inj hs
      exact h.ofIdle hd _ rfl rfl
    · cases hs
  | finish =>
    change s.finish = some s' at hs
    unfold QueueState.finish at hs
    split at hs
    · next hd =>
      obtain rfl := Option.some.inj hs
      have hs := h.ofIdle hd .done rfl rfl
      exact ⟨hs.limit_eq, hs.buffered, hs.room, hs.lock, hs.accepted, fun hne => absurd rfl hne⟩
    · cases hs
  | call =>
    obtain rfl := Option.some.inj hs
    exact h.call
  | acquire i => exact h.acquire hs
  | next i => exact h.next hs
  | release i => exact h.release hlimit hs
  | inspect i => exact h.inspect hs
  | cancel i => exact h.cancel hs

end Sound

end QueueState

/-- Every state of a run whose payloads are within the range of the word satisfies the invariant. -/
theorem queue_sound {w limit : Nat} (hlimit : limit < 2 ^ w) {s : QueueState}
    (h : (queueSystem w limit).ReachableUnder (LiveBelow w) s) : s.Sound limit := by
  refine h.induction ?_ ?_
  · rintro s rfl
    exact .start limit
  · intro s a s' _ hsound hlive hs
    exact hsound.step hlimit hlive hs

/-! ### A message that has room -/

/-- How many of its operations the pump has left until the message is in the queue. -/
def Delivery.toEnqueue (message : Message) : Delivery → Option Nat
  | .reserve m => if m = message then some 4 else none
  | .load m => if m = message then some 3 else none
  | .add m => if m = message then some 2 else none
  | .send m => if m = message then some 1 else none
  | _ => none

/-- The message is on its way into the queue behind those enqueued before, `k` operations from it. -/
structure QueueState.OnItsWay (message : Message) (before : List Message) (k : Nat)
    (s : QueueState) : Prop where
  pc : s.delivery.toEnqueue message = some k
  enqueued : s.enqueued = before
  fits : 3 ≤ k → s.budget.overflowed = false ∧
    s.budget.buffered + message.payloadLen ≤ s.budget.limit

section Acceptance

variable {w limit k : Nat} {s s' : QueueState} {message : Message} {before : List Message}

/-- The pump apart, everyone leaves a message on its way alone, and at most makes room. -/
theorem readers_step (h : s.Sound limit) (hlimit : limit < 2 ^ w) {a : QueueAction} (ha : a ≠ .pump)
    (hs : queueStep w s a = some s') :
    s'.enqueued = s.enqueued ∧ s'.budget.overflowed = s.budget.overflowed ∧
      s'.budget.limit = s.budget.limit ∧ s'.budget.buffered ≤ s.budget.buffered ∧
      (s.delivery ≠ .idle → s'.delivery = s.delivery) := by
  have hkeeps {t : QueueState} (ht : some t = some s') (henqueued : t.enqueued = s.enqueued)
      (hbudget : t.budget = s.budget) (hdelivery : s.delivery ≠ .idle → t.delivery = s.delivery) :
      s'.enqueued = s.enqueued ∧ s'.budget.overflowed = s.budget.overflowed ∧
        s'.budget.limit = s.budget.limit ∧ s'.budget.buffered ≤ s.budget.buffered ∧
        (s.delivery ≠ .idle → s'.delivery = s.delivery) := by
    obtain rfl := Option.some.inj ht
    rw [hbudget]
    exact ⟨henqueued, rfl, rfl, Nat.le_refl _, hdelivery⟩
  cases a with
  | pump => exact absurd rfl ha
  | arrive message =>
    change s.arrive message = some s' at hs
    unfold QueueState.arrive at hs
    split at hs
    · next hidle =>
      cases hclosing : s.wireClosing with
      | true =>
        rw [hclosing] at hs
        exact hkeeps hs rfl rfl fun _ => rfl
      | false =>
        rw [hclosing] at hs
        exact hkeeps hs rfl rfl fun hne => absurd hidle hne
    · cases hs
  | capacity =>
    change s.capacity = some s' at hs
    unfold QueueState.capacity at hs
    split at hs
    · next hidle => exact hkeeps hs rfl rfl fun hne => absurd hidle hne
    · cases hs
  | beginClose =>
    change s.beginClose = some s' at hs
    unfold QueueState.beginClose at hs
    split at hs
    · next hidle => exact hkeeps hs rfl rfl fun hne => absurd hidle hne
    · cases hs
  | finish =>
    change s.finish = some s' at hs
    unfold QueueState.finish at hs
    split at hs
    · next hidle => exact hkeeps hs rfl rfl fun hne => absurd hidle hne
    · cases hs
  | call => exact hkeeps hs rfl rfl fun _ => rfl
  | acquire i =>
    change s.acquire i = some s' at hs
    unfold QueueState.acquire at hs
    split at hs
    · exact hkeeps hs rfl rfl fun _ => rfl
    · cases hs
  | next i =>
    change s.next i = some s' at hs
    unfold QueueState.next at hs
    split at hs
    · exact hkeeps hs rfl rfl fun _ => rfl
    · exact hkeeps hs rfl rfl fun _ => rfl
    · cases hs
  | release i =>
    change s.release w i = some s' at hs
    unfold QueueState.release at hs
    split at hs
    · next message hi =>
      obtain rfl := Option.some.inj hs
      have hle := h.payloadLen_le hi
      rw [InboundBudget.fetchSub_of_le hle (h.lt_word hlimit)]
      exact ⟨rfl, rfl, rfl, Nat.sub_le _ _, fun _ => rfl⟩
    · cases hs
  | inspect i =>
    change s.inspect i = some s' at hs
    unfold QueueState.inspect at hs
    split at hs
    · exact hkeeps hs rfl rfl fun _ => rfl
    · cases hs
  | cancel i =>
    change s.cancel i = some s' at hs
    unfold QueueState.cancel at hs
    split at hs
    · exact hkeeps hs rfl rfl fun _ => rfl
    · exact hkeeps hs rfl rfl fun _ => rfl
    · cases hs

/-- The four points of a message on its way. -/
theorem toEnqueue_cases {delivery : Delivery} (h : delivery.toEnqueue message = some k) :
    delivery = .reserve message ∧ k = 4 ∨ delivery = .load message ∧ k = 3 ∨
      delivery = .add message ∧ k = 2 ∨ delivery = .send message ∧ k = 1 := by
  unfold Delivery.toEnqueue at h
  cases delivery with
  | reserve m | load m | add m | send m =>
    by_cases hm : m = message
    · subst hm
      simp only [if_true, Option.some.injEq] at h
      simp [h]
    · simp [hm] at h
  | idle | store | beginClose | done => cases h

/-- A message on its way is not in the queue yet. -/
theorem QueueState.OnItsWay.pos (h : s.OnItsWay message before k) : 0 < k := by
  rcases toEnqueue_cases h.pc with ⟨-, rfl⟩ | ⟨-, rfl⟩ | ⟨-, rfl⟩ | ⟨-, rfl⟩ <;> decide

/-- An operation of the pump brings a message that has room nearer to the queue. -/
theorem QueueState.OnItsWay.pump (h : s.OnItsWay message before k) (hs : s.pump w = some s') :
    2 ≤ k ∧ s'.OnItsWay message before (k - 1) ∨ k = 1 ∧ s'.enqueued = before ++ [message] := by
  unfold QueueState.pump at hs
  rcases toEnqueue_cases h.pc with ⟨hd, rfl⟩ | ⟨hd, rfl⟩ | ⟨hd, rfl⟩ | ⟨hd, rfl⟩
  · obtain ⟨hopen, hroom⟩ := h.fits (by omega)
    rw [hd] at hs
    dsimp only at hs
    rw [hopen] at hs
    obtain rfl := Option.some.inj hs
    exact .inl ⟨by omega, if_pos rfl, h.enqueued, fun _ => ⟨hopen, hroom⟩⟩
  · obtain ⟨-, hroom⟩ := h.fits (by omega)
    rw [hd] at hs
    dsimp only at hs
    rw [if_pos (InboundBudget.roomFor_of_le hroom)] at hs
    obtain rfl := Option.some.inj hs
    exact .inl ⟨by omega, if_pos rfl, h.enqueued, fun hk => absurd hk (by omega)⟩
  · rw [hd] at hs
    obtain rfl := Option.some.inj hs
    exact .inl ⟨by omega, if_pos rfl, h.enqueued, fun hk => absurd hk (by omega)⟩
  · rw [hd] at hs
    obtain rfl := Option.some.inj hs
    refine .inr ⟨rfl, ?_⟩
    show s.enqueued ++ [message] = before ++ [message]
    rw [h.enqueued]

/-- The others leave a message that has room on its way. -/
theorem QueueState.OnItsWay.others (hway : s.OnItsWay message before k) (h : s.Sound limit)
    (hlimit : limit < 2 ^ w) {a : QueueAction} (ha : a ≠ .pump) (hs : queueStep w s a = some s') :
    s'.OnItsWay message before k := by
  obtain ⟨henqueued, hoverflowed, hlimit', hle, hdelivery⟩ := readers_step h hlimit ha hs
  have hbusy : s.delivery ≠ .idle := by
    intro hidle
    have hpc := hway.pc
    rw [hidle] at hpc
    cases hpc
  refine ⟨?_, henqueued.trans hway.enqueued, fun hk => ?_⟩
  · rw [hdelivery hbusy]
    exact hway.pc
  · obtain ⟨hopen, hroom⟩ := hway.fits hk
    rw [hlimit', hoverflowed]
    exact ⟨hopen, by omega⟩

/-- The enqueued messages only grow. -/
theorem enqueued_step (h : s.Sound limit) (hlimit : limit < 2 ^ w) {a : QueueAction}
    (hs : queueStep w s a = some s') : s.enqueued <+: s'.enqueued := by
  by_cases ha : a = .pump
  · subst ha
    change s.pump w = some s' at hs
    unfold QueueState.pump at hs
    split at hs
    · obtain rfl := Option.some.inj hs
      exact List.prefix_rfl
    · obtain rfl := Option.some.inj hs
      split <;> exact List.prefix_rfl
    · obtain rfl := Option.some.inj hs
      exact List.prefix_rfl
    · obtain rfl := Option.some.inj hs
      exact List.prefix_append _ _
    · obtain rfl := Option.some.inj hs
      exact List.prefix_rfl
    · obtain rfl := Option.some.inj hs
      exact List.prefix_rfl
    · cases hs
    · cases hs
  · rw [(readers_step h hlimit ha hs).1]

/-- What a run has enqueued stays. -/
theorem enqueued_run (hlimit : limit < 2 ^ w) {actions : List QueueAction} (h : s.Sound limit)
    (hrun : (queueSystem w limit).runUnder (LiveBelow w) s actions = some s') :
    s.enqueued <+: s'.enqueued := by
  induction actions generalizing s with
  | nil =>
    obtain rfl : s = s' := Option.some.inj hrun
    exact List.prefix_rfl
  | cons a actions ih =>
    unfold Transition.System.runUnder at hrun
    split at hrun
    · next hlive =>
      obtain ⟨s₁, hs, hrest⟩ := Option.bind_eq_some_iff.mp hrun
      exact (enqueued_step h hlimit hs).trans (ih (h.step hlimit hlive hs) hrest)
    · cases hrun

/-- A message that has room is in the queue once the pump has taken its operations. -/
theorem onItsWay_run (hlimit : limit < 2 ^ w) {actions : List QueueAction} (h : s.Sound limit)
    (hway : s.OnItsWay message before k)
    (hrun : (queueSystem w limit).runUnder (LiveBelow w) s actions = some s')
    (hcount : k ≤ actions.count .pump) : (before ++ [message]) <+: s'.enqueued := by
  induction actions generalizing s k with
  | nil =>
    have hpos := hway.pos
    rw [List.count_nil] at hcount
    omega
  | cons a actions ih =>
    unfold Transition.System.runUnder at hrun
    split at hrun
    · next hlive =>
      obtain ⟨s₁, hs, hrest⟩ := Option.bind_eq_some_iff.mp hrun
      have h₁ : s₁.Sound limit := h.step hlimit hlive hs
      by_cases ha : a = .pump
      · subst ha
        rw [List.count_cons_self] at hcount
        rcases hway.pump hs with ⟨-, hway₁⟩ | ⟨-, henqueued⟩
        · exact ih h₁ hway₁ hrest (by omega)
        · rw [← henqueued]
          exact enqueued_run hlimit h₁ hrest
      · rw [List.count_cons_of_ne ha] at hcount
        exact ih h₁ (hway.others h hlimit ha hs) hrest hcount
    · cases hrun

end Acceptance

/-- The pump waits for nobody between reading a message and having dealt with it. -/
theorem pump_enabled {w limit : Nat} {s : QueueState} (hidle : s.delivery ≠ .idle)
    (hdone : s.delivery ≠ .done) : (queueSystem w limit).Enabled s .pump := by
  suffices hs : (s.pump w).isSome = true from Option.isSome_iff_exists.mp hs
  unfold QueueState.pump
  cases hd : s.delivery with
  | idle => exact absurd hd hidle
  | done => exact absurd hd hdone
  | reserve | load | add | send | store | beginClose => rfl

/-- The inbound budget is exact.  In every state of every run of the pump and the readers whose
payloads are within the range of the word, the counter is the bytes of the messages that are
reserved and not yet released; it is within the limit, and so is what the queue holds; a release
takes no more than is counted; and it is zero once every accepted message has been released.  A
message that the remaining room holds when `reserve` is called, no overflow being latched, is in the
queue once the pump has taken its four operations, for which it waits for nobody. -/
theorem inbound_budget_exact {w limit : Nat} (hlimit : limit < 2 ^ w) {s : QueueState}
    (h : (queueSystem w limit).ReachableUnder (LiveBelow w) s) :
    s.accepted = s.released ++ s.live ++ s.delivery.granted ∧
    s.budget.buffered = payloadBytes s.live ∧
    s.budget.buffered ≤ limit ∧
    payloadBytes s.queue.items ≤ limit ∧
    (∀ (i : Nat) (message : Message), s.readers[i]? = some (.taken message) →
      message.payloadLen ≤ s.budget.buffered) ∧
    (s.released = s.accepted → s.budget.buffered = 0) ∧
    (s.delivery ≠ .idle → s.delivery ≠ .done → (queueSystem w limit).Enabled s .pump) ∧
    ∀ message, s.delivery = .reserve message → s.budget.overflowed = false →
      s.budget.buffered + message.payloadLen ≤ limit →
      ∀ s' actions, (queueSystem w limit).runUnder (LiveBelow w) s actions = some s' →
        4 ≤ actions.count .pump → (s.enqueued ++ [message]) <+: s'.enqueued := by
  have hsound := queue_sound hlimit h
  have hbuffered := hsound.buffered
  have hroom := hsound.room
  refine ⟨hsound.accepted, hbuffered, by omega, ?_, fun i message => hsound.payloadLen_le, ?_,
    pump_enabled, ?_⟩
  · have hitems : payloadBytes s.queue.items ≤ payloadBytes s.live := by
      unfold QueueState.live
      rw [payloadBytes_append, payloadBytes_append]
      omega
    omega
  · intro hreleased
    have haccepted := hsound.accepted
    rw [← hreleased, List.append_assoc, List.self_eq_append_right, List.append_eq_nil_iff] at haccepted
    rw [hbuffered, haccepted.1, payloadBytes_nil]
  · intro message hd hopen hfits s' actions hrun hcount
    have hway : s.OnItsWay message s.enqueued 4 := by
      refine ⟨?_, rfl, fun _ => ⟨hopen, ?_⟩⟩
      · rw [hd]
        exact if_pos rfl
      · rw [hsound.limit_eq]
        exact hfits
    exact onItsWay_run hlimit hsound hway hrun hcount

/-- A reader has taken the first message and not released it when the second one comes and fills the
rest of the limit: it releases in the middle of the second reservation. -/
theorem inbound_budget_exact_between :
    ∃ s s' : QueueState, (queueSystem 8 3).ReachableUnder (LiveBelow 8) s ∧
      s.delivery = .reserve (.binary [3]) ∧ s.budget.buffered = 2 ∧
      (queueSystem 8 3).runUnder (LiveBelow 8) s [.pump, .release 0, .pump, .pump, .pump] = some s' ∧
      (s.enqueued ++ [.binary [3]]) <+: s'.enqueued := by
  obtain ⟨s, hrun, hd, hopen, hbuffered, s', hrest⟩ : ∃ s, (queueSystem 8 3).runUnder (LiveBelow 8)
      (.start 3) [.arrive (.binary [1, 2]), .pump, .pump, .pump, .pump, .call, .acquire 0, .next 0,
        .arrive (.binary [3])] = some s ∧
        s.delivery = .reserve (.binary [3]) ∧ s.budget.overflowed = false ∧ s.budget.buffered = 2 ∧
        ∃ s', (queueSystem 8 3).runUnder (LiveBelow 8) s [.pump, .release 0, .pump, .pump, .pump] =
          some s' := ⟨_, rfl, rfl, rfl, rfl, _, rfl⟩
  have hreach : (queueSystem 8 3).ReachableUnder (LiveBelow 8) s := .runUnder (.init rfl) hrun
  obtain ⟨-, -, -, -, -, -, -, haccepts⟩ := inbound_budget_exact (by decide) hreach
  have hfits : s.budget.buffered + (Message.binary [3]).payloadLen ≤ 3 := by
    rw [hbuffered]
    decide
  exact ⟨s, s', hreach, hd, hbuffered, hrest, haccepts _ hd hopen hfits s' _ hrest (by decide)⟩

end Polymorph.Host
