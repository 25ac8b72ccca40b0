import PolymorphWebsocket.Host.Pump

/-!
# The wasmtime host: the readers of a connection

`receive` and `receive_via_stream` of `rust/wasmtime/src/host.rs` beside the connection.  A `receive`
call finds a local close or the claim of the stream, or else waits at a biased select for the claim,
for a local close and for the next message, polled in this order.  The queue is behind a lock that a
reader keeps while it waits for a message; the producer of the stream reads the same queue.

A reader takes a message, releases its bytes and hands it out in one poll.  The guest's side takes no
other step in between; the pump, on its own thread, may.
-/

namespace Polymorph.Host

open Futures Transition

/-- A reader of the inbound queue. -/
inductive Holder
  | receive (id : Nat)
  | stream
  deriving DecidableEq, Repr

/-- A connection with its readers. -/
structure Receiving where
  conn : State
  /-- `stream_receiving`, stored together with the signal `stream_started`. -/
  streamReceiving : Bool
  /-- The producer of the claimed stream is there: the stream has not ended and the guest keeps it. -/
  producing : Bool
  /-- The `receive` calls that wait at their select. -/
  waiting : List Nat
  nextReceive : Nat
  /-- The reader that holds the lock of the queue. -/
  lock : Option Holder
  /-- The results of `receive` calls, in the order they returned. -/
  received : List (Nat × Except Error Message)

namespace Receiving

/-- The lock after this reader's future has dropped. -/
def unlock (r : Receiving) (holder : Holder) : Option Holder :=
  if r.lock = some holder then none else r.lock

/-- A `receive` call returns. -/
def answer (r : Receiving) (id : Nat) (result : Except Error Message) : Receiving :=
  { r with
    waiting := r.waiting.erase id
    lock := r.unlock (.receive id)
    received := r.received ++ [(id, result)] }

/-- The guest drops a `receive` call that waits. -/
def cancelReceive (r : Receiving) (id : Nat) : Receiving :=
  { r with waiting := r.waiting.erase id, lock := r.unlock (.receive id) }

/-- `receive`, up to its select. -/
def callReceive (r : Receiving) : Receiving :=
  let id := r.nextReceive
  let r := { r with nextReceive := id + 1 }
  if r.conn.shared.localClosed then r.answer id (.error .closed)
  else if r.streamReceiving then r.answer id (.error .receivingViaStream)
  else { r with waiting := r.waiting ++ [id] }

/-- `receive_via_stream`: the first claim of the messages starts the stream. -/
def receiveViaStream (r : Receiving) : Except Error Unit × Receiving :=
  if r.conn.shared.localClosed then (.error .closed, r)
  else if r.streamReceiving then (.error .receivingViaStream, r)
  else (.ok (), { r with streamReceiving := true, producing := true })

/-- The producer of the stream is gone. -/
def endStream (r : Receiving) : Receiving :=
  { r with producing := false, lock := r.unlock .stream }

/-- The lock is free, or this reader's already. -/
def mayLock (r : Receiving) (holder : Holder) : Bool := r.lock.isNone || r.lock == some holder

/-- A reader with the lock takes the next message. -/
def takeNext (r : Receiving) (holder : Holder) : Option Receiving :=
  (step r.conn .take).map fun conn => { r with conn := conn, lock := some holder }

/-- The error at the end of the queue. -/
def endError (r : Receiving) : Error :=
  if r.conn.shared.budget.overflowed then .receiveBufferOverflow else .closed

/-- `next_inbound`, polled once by a `receive` call, up to the message it takes.  A receiver whose
channel has ended reports the end again, so the queue stays as it is. -/
def nextInbound (r : Receiving) (id : Nat) : Option Receiving :=
  if r.mayLock (.receive id) then
    match r.conn.shared.queue.pollNext.1 with
    | .ready (some _) => r.takeNext (.receive id)
    | .ready none => some (r.answer id (.error r.endError))
    | .pending => some { r with lock := some (.receive id) }
  else some r

/-- One poll of the select of a `receive` call: the signals first, then the queue. -/
def pollReceive (r : Receiving) (id : Nat) : Option Receiving :=
  if r.streamReceiving then some (r.answer id (.error .receivingViaStream))
  else if r.conn.shared.localClosed then some (r.answer id (.error .closed))
  else r.nextInbound id

/-- One poll of the producer of the stream, up to the message it takes. -/
def pollStream (r : Receiving) : Option Receiving :=
  if r.conn.shared.localClosed then some r.endStream
  else if r.mayLock .stream then
    match r.conn.shared.queue.pollNext.1 with
    | .ready (some _) => r.takeNext .stream
    | .ready none => some r.endStream
    | .pending => some { r with lock := some .stream }
  else some r

/-- The reader that has taken a message releases its bytes and hands it out. -/
def release (r : Receiving) : Option Receiving :=
  match r.lock, r.conn.calls.unreleased with
  | some (.receive id), some message =>
    (step r.conn .release).map fun conn => { r with conn := conn }.answer id (.ok message)
  | some .stream, some _ =>
    (step r.conn .release).map fun conn => { r with conn := conn, lock := none }
  | _, _ => none

/-- A `receive` call hands its message out. -/
theorem release_of_receive {r : Receiving} {id : Nat} {message : Message}
    (hlock : r.lock = some (.receive id)) (htaken : r.conn.calls.unreleased = some message) :
    r.release = (step r.conn .release).map fun conn =>
      { r with conn := conn }.answer id (.ok message) := by
  unfold Receiving.release
  rw [hlock, htaken]

end Receiving

/-- The moves of a connection with its readers. -/
inductive ReceivingAction
  | conn (a : Action)
  | receive
  | receiveViaStream
  | pollReceive (id : Nat)
  | cancelReceive (id : Nat)
  | pollStream
  /-- The guest drops the stream. -/
  | dropStream
  | release
  deriving DecidableEq, Repr

/-- The moves of the connection that its readers make. -/
def Action.isReader : Action → Bool
  | .take | .release => true
  | _ => false

/-- The calls of the guest. -/
def Action.isCall : Action → Bool
  | .send _ | .close _ _ | .drop => true
  | _ => false

/-- The guest's side moves between two polls of its readers. -/
def Receiving.turn (r : Receiving) (next : Option Receiving) : Option Receiving :=
  if r.conn.calls.unreleased.isSome then none else next

/-- A guest call needs the resource. -/
def Receiving.call (r r' : Receiving) : Option Receiving :=
  r.turn (if r.conn.calls.dropped then none else some r')

/-- The state after a move, if the move is possible. -/
def receivingStep (r : Receiving) : ReceivingAction → Option Receiving
  | .conn a =>
    if a.isReader then none
    else if a.isCall then r.turn ((step r.conn a).map fun conn => { r with conn := conn })
    else (step r.conn a).map fun conn => { r with conn := conn }
  | .receive => r.call r.callReceive
  | .receiveViaStream => r.call r.receiveViaStream.2
  | .pollReceive id => r.turn (if id ∈ r.waiting then r.pollReceive id else none)
  | .cancelReceive id => r.turn (if id ∈ r.waiting then some (r.cancelReceive id) else none)
  | .pollStream => r.turn (if r.producing then r.pollStream else none)
  | .dropStream => r.turn (if r.producing then some r.endStream else none)
  | .release => r.release

/-- The connections of the wasmtime host with their readers. -/
def receivingSystem : System Receiving ReceivingAction where
  init r := system.init r.conn ∧ r.streamReceiving = false ∧ r.producing = false ∧ r.waiting = [] ∧
    r.lock = none ∧ r.received = []
  step := receivingStep

/-- A connection without readers. -/
def Receiving.start (conn : State) : Receiving where
  conn := conn
  streamReceiving := false
  producing := false
  waiting := []
  nextReceive := 0
  lock := none
  received := []

/-- A run from the start of a connection ends in a reachable state. -/
theorem receiving_of_run {limit : Nat} (hlimit : limit < wordSize)
    {actions : List ReceivingAction} {r : Receiving}
    (h : receivingSystem.run (.start (connection limit)) actions = some r) :
    receivingSystem.Reachable r :=
  .run (.of_init ⟨init_connection hlimit, rfl, rfl, rfl, rfl, rfl⟩) h

section Moves

variable {r r' : Receiving} {a : ReceivingAction}

theorem turn_eq_some {next : Option Receiving} :
    r.turn next = some r' ↔ r.conn.calls.unreleased = none ∧ next = some r' := by
  unfold Receiving.turn
  cases r.conn.calls.unreleased <;> simp

theorem call_eq_some {t : Receiving} : r.call t = some r' ↔
    r.conn.calls.unreleased = none ∧ r.conn.calls.dropped = false ∧ t = r' := by
  unfold Receiving.call
  rw [turn_eq_some]
  cases r.conn.calls.dropped <;> simp

/-! ### What a move does -/

/-- Why a `receive` call fails. -/
inductive Receiving.Fails (r : Receiving) : Error → Prop
  | localClosed (h : r.conn.shared.localClosed = true) : Fails r .closed
  | claimed (h : r.streamReceiving = true) : Fails r .receivingViaStream
  | ended (hlocal : r.conn.shared.localClosed = false)
      (hend : r.conn.shared.queue.pollNext.1 = .ready none) : Fails r r.endError

/-- A move is one of the connection, fails a `receive` call, takes a message, hands it out, or shows
nothing. -/
inductive Receives (r : Receiving) (a : ReceivingAction) (r' : Receiving) : Prop
  | conn (action : Action) (ha : a = .conn action) (hreader : action.isReader = false)
      (h : step r.conn action = some r'.conn) (hrest : r' = { r with conn := r'.conn })
  | fails (id : Nat) (err : Error) (why : r.Fails err)
      (hid : id ∈ r.waiting ∨ r.conn.shared.localClosed = false ∨ err = .closed)
      (hconn : r'.conn = r.conn) (hstream : r'.streamReceiving = r.streamReceiving)
      (hwaiting : r'.waiting = r.waiting.erase id)
      (hreceived : r'.received = r.received ++ [(id, .error err)])
  | silent (hconn : r'.conn = r.conn)
      (hstream : a ≠ .receiveViaStream → r'.streamReceiving = r.streamReceiving)
      (hwaiting : r.conn.shared.localClosed = true → r'.waiting.length ≤ r.waiting.length)
      (hreceived : r'.received = r.received)
  | takes (hlocal : r.conn.shared.localClosed = false) (h : step r.conn .take = some r'.conn)
      (hstream : r'.streamReceiving = r.streamReceiving) (hreceived : r'.received = r.received)
  | releases (h : step r.conn .release = some r'.conn)

theorem receives_answer {id next : Nat} {err : Error} (why : r.Fails err)
    (hid : id ∈ r.waiting ∨ r.conn.shared.localClosed = false ∨ err = .closed) :
    Receives r a (({ r with nextReceive := next } : Receiving).answer id (.error err)) :=
  .fails id err why hid rfl rfl rfl rfl

/-- A reader with the lock takes a message. -/
theorem receives_takeNext {holder : Holder} (hlocal : r.conn.shared.localClosed = false)
    (h : r.takeNext holder = some r') : Receives r a r' := by
  obtain ⟨conn, hstep, rfl⟩ := Option.map_eq_some_iff.mp h
  exact .takes hlocal hstep rfl rfl

/-- A poll of the stream shows nothing to the `receive` calls. -/
theorem receives_pollStream (h : r.pollStream = some r') : Receives r a r' := by
  have hsilent (producing : Bool) (lock : Option Holder) :
      Receives r a { r with producing := producing, lock := lock } :=
    .silent rfl (fun _ => rfl) (fun _ => le_rfl) rfl
  unfold Receiving.pollStream at h
  split at h
  · obtain rfl := Option.some.inj h
    exact hsilent _ _
  · next hlocal =>
    split at h
    · split at h
      · exact receives_takeNext (Bool.eq_false_iff.mpr hlocal) h
      · obtain rfl := Option.some.inj h
        exact hsilent _ _
      · obtain rfl := Option.some.inj h
        exact hsilent _ _
    · obtain rfl := Option.some.inj h
      exact hsilent _ _

/-- One poll of a `receive` call. -/
theorem receives_pollReceive {id : Nat} (hid : id ∈ r.waiting) (h : r.pollReceive id = some r') :
    Receives r a r' := by
  unfold Receiving.pollReceive at h
  split at h
  · next hclaimed =>
    obtain rfl := Option.some.inj h
    exact receives_answer (.claimed hclaimed) (.inl hid)
  · split at h
    · next hlocal =>
      obtain rfl := Option.some.inj h
      exact receives_answer (.localClosed hlocal) (.inl hid)
    · next hlocal =>
      unfold Receiving.nextInbound at h
      split at h
      · split at h
        · exact receives_takeNext (Bool.eq_false_iff.mpr hlocal) h
        · next hend =>
          obtain rfl := Option.some.inj h
          exact receives_answer (.ended (Bool.eq_false_iff.mpr hlocal) hend) (.inl hid)
        · obtain rfl := Option.some.inj h
          exact .silent rfl (fun _ => rfl) (fun _ => le_rfl) rfl
      · obtain rfl := Option.some.inj h
        exact .silent rfl (fun _ => rfl) (fun _ => le_rfl) rfl

/-- What a move does. -/
theorem receives_of_step (h : receivingStep r a = some r') : Receives r a r' := by
  have hconn (action : Action) (ha : a = .conn action) (hreader : action.isReader = false)
      (h : ((step r.conn action).map fun conn => { r with conn := conn }) = some r') :
      Receives r a r' := by
    obtain ⟨conn, hstep, rfl⟩ := Option.map_eq_some_iff.mp h
    exact .conn action ha hreader hstep rfl
  cases a with
  | conn action =>
    simp only [receivingStep] at h
    split at h
    · cases h
    · next hreader =>
      have hreader' : action.isReader = false := Bool.eq_false_iff.mpr hreader
      split at h
      · exact hconn action rfl hreader' (turn_eq_some.mp h).2
      · exact hconn action rfl hreader' h
  | receive =>
    obtain ⟨-, -, rfl⟩ := call_eq_some.mp h
    unfold Receiving.callReceive
    dsimp only
    split
    · next hlocal => exact receives_answer (.localClosed hlocal) (.inr (.inr rfl))
    · next hlocal =>
      have hlocal' : r.conn.shared.localClosed = false := Bool.eq_false_iff.mpr hlocal
      split
      · next hclaimed => exact receives_answer (.claimed hclaimed) (.inr (.inl hlocal'))
      · exact .silent rfl (fun _ => rfl) (fun hl => absurd hl hlocal) rfl
  | receiveViaStream =>
    obtain ⟨-, -, rfl⟩ := call_eq_some.mp h
    unfold Receiving.receiveViaStream
    split
    · exact .silent rfl (fun _ => rfl) (fun _ => le_rfl) rfl
    · split
      · exact .silent rfl (fun _ => rfl) (fun _ => le_rfl) rfl
      · exact .silent rfl (fun hne => absurd rfl hne) (fun _ => le_rfl) rfl
  | pollReceive id =>
    obtain ⟨-, h⟩ := turn_eq_some.mp h
    split at h
    · next hid => exact receives_pollReceive hid h
    · cases h
  | cancelReceive id =>
    obtain ⟨-, h⟩ := turn_eq_some.mp h
    split at h
    · obtain rfl := Option.some.inj h
      exact .silent rfl (fun _ => rfl) (fun _ => List.length_erase_le) rfl
    · cases h
  | pollStream =>
    obtain ⟨-, h⟩ := turn_eq_some.mp h
    split at h
    · exact receives_pollStream h
    · cases h
  | dropStream =>
    obtain ⟨-, h⟩ := turn_eq_some.mp h
    split at h
    · obtain rfl := Option.some.inj h
      exact .silent rfl (fun _ => rfl) (fun _ => le_rfl) rfl
    · cases h
  | release =>
    simp only [receivingStep, Receiving.release] at h
    split at h
    · obtain ⟨conn, hstep, rfl⟩ := Option.map_eq_some_iff.mp h
      exact .releases hstep
    · obtain ⟨conn, hstep, rfl⟩ := Option.map_eq_some_iff.mp h
      exact .releases hstep
    · cases h

/-- The connection of the readers is a connection. -/
theorem Receives.reachable (h : system.Reachable r.conn) (hr : Receives r a r') :
    system.Reachable r'.conn := by
  cases hr with
  | conn action _ _ hs => exact h.next (a := action) hs
  | fails _ _ _ _ hconn => exact hconn ▸ h
  | silent hconn => exact hconn ▸ h
  | takes _ hs => exact h.next (a := .take) hs
  | releases hs => exact h.next (a := .release) hs

end Moves

theorem conn_reachable {r : Receiving} (h : receivingSystem.Reachable r) :
    system.Reachable r.conn := by
  refine System.Reachable.induction (I := fun r => system.Reachable r.conn) ?_ ?_ h
  · rintro r ⟨hconn, -⟩
    exact .of_init hconn
  · intro r a r' _ hi hs
    exact (receives_of_step hs).reachable hi

/-! ### The lock -/

/-- Who holds the lock waits for a message, and a stream is produced only once it is claimed. -/
structure Receiving.LockSound (r : Receiving) : Prop where
  receive : ∀ id, r.lock = some (.receive id) → id ∈ r.waiting
  stream : r.lock = some .stream → r.producing = true
  claimed : r.producing = true → r.streamReceiving = true

namespace Receiving.LockSound

variable {r r' : Receiving}

/-- A reader whose future has dropped holds the lock no longer. -/
theorem unlock_eq_some {holder holder' : Holder} (h : r.unlock holder = some holder') :
    r.lock = some holder' ∧ holder' ≠ holder := by
  unfold Receiving.unlock at h
  split at h
  · cases h
  · next hne =>
    refine ⟨h, ?_⟩
    rintro rfl
    exact hne h

theorem congr (h : r.LockSound) (hlock : r'.lock = r.lock) (hwaiting : r'.waiting = r.waiting)
    (hproducing : r'.producing = r.producing) (hstream : r'.streamReceiving = r.streamReceiving) :
    r'.LockSound := by
  refine ⟨fun id hl => ?_, fun hl => ?_, fun hp => ?_⟩
  · rw [hwaiting]
    exact h.receive id (hlock.symm.trans hl)
  · rw [hproducing]
    exact h.stream (hlock.symm.trans hl)
  · rw [hstream]
    exact h.claimed (hproducing.symm.trans hp)

/-- A `receive` call is gone. -/
theorem erase (h : r.LockSound) (id : Nat) (hlock : r'.lock = r.unlock (.receive id))
    (hwaiting : r'.waiting = r.waiting.erase id) (hproducing : r'.producing = r.producing)
    (hstream : r'.streamReceiving = r.streamReceiving) : r'.LockSound := by
  refine ⟨fun id' hl => ?_, fun hl => ?_, fun hp => ?_⟩
  · obtain ⟨hl', hne⟩ := unlock_eq_some (hlock.symm.trans hl)
    rw [hwaiting]
    exact (List.mem_erase_of_ne fun heq => hne (by rw [heq])).mpr (h.receive id' hl')
  · obtain ⟨hl', -⟩ := unlock_eq_some (hlock.symm.trans hl)
    rw [hproducing]
    exact h.stream hl'
  · rw [hstream]
    exact h.claimed (hproducing.symm.trans hp)

/-- A `receive` call that waits gets the lock. -/
theorem locks (h : r.LockSound) {id : Nat} (hid : id ∈ r.waiting)
    (hlock : r'.lock = some (.receive id)) (hwaiting : r'.waiting = r.waiting)
    (hproducing : r'.producing = r.producing) (hstream : r'.streamReceiving = r.streamReceiving) :
    r'.LockSound := by
  refine ⟨fun id' hl => ?_, fun hl => ?_, fun hp => ?_⟩
  · cases hlock.symm.trans hl
    rw [hwaiting]
    exact hid
  · cases hlock.symm.trans hl
  · rw [hstream]
    exact h.claimed (hproducing.symm.trans hp)

/-- The stream gets the lock. -/
theorem locksStream (h : r.LockSound) (hp : r.producing = true) (hlock : r'.lock = some .stream)
    (hproducing : r'.producing = r.producing) (hstream : r'.streamReceiving = r.streamReceiving) :
    r'.LockSound := by
  refine ⟨fun id hl => ?_, fun _ => hproducing.trans hp, fun _ => hstream.trans (h.claimed hp)⟩
  cases hlock.symm.trans hl

/-- The producer of the stream is gone, and the lock with it. -/
theorem endStream (h : r.LockSound) : r.endStream.LockSound := by
  refine ⟨fun id hl => ?_, fun hl => ?_, nofun⟩
  · obtain ⟨hl', -⟩ := unlock_eq_some hl
    exact h.receive id hl'
  · exact absurd rfl (unlock_eq_some hl).2

/-- One poll of a `receive` call. -/
theorem pollReceive (h : r.LockSound) {id : Nat} (hid : id ∈ r.waiting)
    (hs : r.pollReceive id = some r') : r'.LockSound := by
  unfold Receiving.pollReceive at hs
  split at hs
  · obtain rfl := Option.some.inj hs
    exact h.erase id rfl rfl rfl rfl
  · split at hs
    · obtain rfl := Option.some.inj hs
      exact h.erase id rfl rfl rfl rfl
    · unfold Receiving.nextInbound at hs
      split at hs
      · split at hs
        · obtain ⟨conn, -, rfl⟩ := Option.map_eq_some_iff.mp hs
          exact h.locks hid rfl rfl rfl rfl
        · obtain rfl := Option.some.inj hs
          exact h.erase id rfl rfl rfl rfl
        · obtain rfl := Option.some.inj hs
          exact h.locks hid rfl rfl rfl rfl
      · obtain rfl := Option.some.inj hs
        exact h

/-- One poll of the producer of the stream. -/
theorem pollStream (h : r.LockSound) (hp : r.producing = true) (hs : r.pollStream = some r') :
    r'.LockSound := by
  unfold Receiving.pollStream at hs
  split at hs
  · obtain rfl := Option.some.inj hs
    exact h.endStream
  · split at hs
    · split at hs
      · obtain ⟨conn, -, rfl⟩ := Option.map_eq_some_iff.mp hs
        exact h.locksStream hp rfl rfl rfl
      · obtain rfl := Option.some.inj hs
        exact h.endStream
      · obtain rfl := Option.some.inj hs
        exact h.locksStream hp rfl rfl rfl
    · obtain rfl := Option.some.inj hs
      exact h

theorem step (h : r.LockSound) {a : ReceivingAction} (hs : receivingStep r a = some r') :
    r'.LockSound := by
  cases a with
  | conn action =>
    have hconn (h' : ((Host.step r.conn action).map fun conn => { r with conn := conn }) = some r') :
        r'.LockSound := by
      obtain ⟨conn, -, rfl⟩ := Option.map_eq_some_iff.mp h'
      exact h.congr rfl rfl rfl rfl
    simp only [receivingStep] at hs
    split at hs
    · cases hs
    · split at hs
      · exact hconn (turn_eq_some.mp hs).2
      · exact hconn hs
  | receive =>
    obtain ⟨-, -, rfl⟩ := call_eq_some.mp hs
    unfold Receiving.callReceive
    dsimp only
    split
    · exact h.erase r.nextReceive rfl rfl rfl rfl
    · split
      · exact h.erase r.nextReceive rfl rfl rfl rfl
      · exact ⟨fun id hl => List.mem_append_left _ (h.receive id hl), h.stream, h.claimed⟩
  | receiveViaStream =>
    obtain ⟨-, -, rfl⟩ := call_eq_some.mp hs
    unfold Receiving.receiveViaStream
    split
    · exact h
    · split
      · exact h
      · exact ⟨h.receive, fun _ => rfl, fun _ => rfl⟩
  | pollReceive id =>
    obtain ⟨-, hs⟩ := turn_eq_some.mp hs
    split at hs
    · next hid => exact h.pollReceive hid hs
    · cases hs
  | cancelReceive id =>
    obtain ⟨-, hs⟩ := turn_eq_some.mp hs
    split at hs
    · obtain rfl := Option.some.inj hs
      exact h.erase id rfl rfl rfl rfl
    · cases hs
  | pollStream =>
    obtain ⟨-, hs⟩ := turn_eq_some.mp hs
    split at hs
    · next hp => exact h.pollStream hp hs
    · cases hs
  | dropStream =>
    obtain ⟨-, hs⟩ := turn_eq_some.mp hs
    split at hs
    · obtain rfl := Option.some.inj hs
      exact h.endStream
    · cases hs
  | release =>
    simp only [receivingStep, Receiving.release] at hs
    split at hs
    · obtain ⟨conn, -, rfl⟩ := Option.map_eq_some_iff.mp hs
      exact h.erase _ rfl rfl rfl rfl
    · obtain ⟨conn, -, rfl⟩ := Option.map_eq_some_iff.mp hs
      exact ⟨nofun, nofun, h.claimed⟩
    · cases hs

end Receiving.LockSound

/-- Who holds the lock waits for a message, in every reachable state. -/
theorem lock_sound {r : Receiving} (h : receivingSystem.Reachable r) : r.LockSound := by
  refine System.Reachable.induction (I := Receiving.LockSound) ?_ (fun _ _ _ _ hi hs => hi.step hs) h
  rintro r ⟨-, -, hproducing, -, hlock, -⟩
  refine ⟨fun id hl => ?_, fun hl => ?_, fun hp => ?_⟩
  · cases hlock.symm.trans hl
  · cases hlock.symm.trans hl
  · cases hproducing.symm.trans hp

end Polymorph.Host
