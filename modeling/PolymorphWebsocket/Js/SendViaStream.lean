import PolymorphWebsocket.Js.Frames
import PolymorphWebsocket.Js.Payload

/-!
# The JavaScript host: sending via a stream

A call of `sendViaStream` beside everything else that happens to the connection.  The call awaits
the next element of its input, each chunk of its payload, and in `send` the drain of the platform's
buffer; only `send` looks whether the connection was closed.  `fails_closed_iff` says when a call
ends as it should after a local close: exactly when it gets to `send` once more.
-/

namespace Polymorph.Js

open Transition

/-- `MAX_BUFFERED_AMOUNT`. -/
def maxBufferedAmount : Nat := 8 * 1024 * 1024

/-- The `send-via-stream-error` record. -/
structure SendViaStreamError where
  error : Error
  /-- The number of messages sent before the error occurred. -/
  sent : Nat
  deriving DecidableEq, Repr

/-- The input of a call: the elements its producer provides, and whether it then ends the stream or
leaves it idle. -/
structure Input where
  elements : List LiftedStreamMessage
  ended : Bool

/-- Where a call is. -/
inductive SendPc
  /-- Awaiting the next element. -/
  | next
  /-- Collecting the payload of an element, of which these chunks are outstanding. -/
  | collecting (item : LiftedStreamMessage) (chunks : List Bytes) (collected : Collected)
  /-- In `send`, waiting for the timer of the drain poll. -/
  | draining (message : Message)
  /-- `send` has resolved; the call has not counted the message yet. -/
  | resolved
  | settled (result : Except SendViaStreamError Unit)

/-- One call of `sendViaStream`. -/
structure SendCall where
  /-- What is left of the input. -/
  input : Input
  pc : SendPc
  sent : Nat
  /-- The messages the call has handed to the platform.  The code does not read them. -/
  handed : List Message

/-- A call that begins; it does not look at the connection. -/
def SendCall.new (input : Input) : SendCall where
  input := input
  pc := .next
  sent := 0
  handed := []

/-- The call is not over. -/
def SendCall.pending (call : SendCall) : Bool :=
  match call.pc with
  | .settled _ => false
  | .next | .collecting _ _ _ | .draining _ | .resolved => true

/-- A connection with a call of `sendViaStream`. -/
structure Sender where
  conn : State
  /-- The `bufferedAmount` of the `WebSocket`. -/
  bufferedAmount : Nat
  call : Option SendCall

namespace Sender

/-- The call goes on to `pc`. -/
def goes (s : Sender) (call : SendCall) (pc : SendPc) : Sender :=
  { s with call := some { call with pc := pc } }

/-- The call fails; the error reports how many messages were sent before. -/
def fails (s : Sender) (call : SendCall) (error : Error) : Sender :=
  s.goes call (.settled (.error { error := error, sent := call.sent }))

/-- One turn of the loop of `send`. -/
def send (s : Sender) (call : SendCall) (message : Message) : Sender :=
  if s.conn.localClosed || s.conn.socket.readyState != .open then s.fails call .closed
  else if s.bufferedAmount ≤ maxBufferedAmount then
    { s with bufferedAmount := s.bufferedAmount + message.payloadLen }.goes
      { call with handed := call.handed ++ [message] } .resolved
  else s.goes call (.draining message)

/-- The call goes on from where it awaits, if what it awaits is there. -/
def resume (s : Sender) (call : SendCall) : Option Sender :=
  match call.pc with
  | .next =>
    match call.input.elements with
    | item :: rest =>
      some (s.goes { call with input := { call.input with elements := rest } }
        (.collecting item item.chunks .empty))
    | [] => if call.input.ended then some (s.goes call (.settled (.ok ()))) else none
  | .collecting item (chunk :: chunks) collected =>
    some (s.goes call (.collecting item chunks (collected.push item.length chunk)))
  | .collecting item [] collected =>
    if item.ended then
      match messageOf item collected with
      | .ok message => some (s.send call message)
      | .error error => some (s.fails call error)
    else none
  | .draining message => some (s.send call message)
  | .resolved => some (s.goes { call with sent := call.sent + 1 } .next)
  | .settled _ => none

end Sender

/-- The moves of a connection with a call of `sendViaStream`. -/
inductive SenderAction
  /-- Any move of the connection. -/
  | conn (a : Action)
  /-- The platform's buffer drains, or other messages are sent. -/
  | buffered (amount : Nat)
  | sendViaStream (input : Input)
  /-- The call goes on. -/
  | resume

/-- The state after a move, if the move is possible. -/
def senderStep (s : Sender) : SenderAction → Option Sender
  | .conn a => (step s.conn a).map fun conn => { s with conn := conn }
  | .buffered amount => some { s with bufferedAmount := amount }
  | .sendViaStream input =>
    if s.conn.disposed || s.call.isSome then none else some { s with call := some (.new input) }
  | .resume => s.call.bind s.resume

/-- The connections with a call of `sendViaStream`. -/
def senderSystem : System Sender SenderAction where
  init s := ∃ (knobs : Knobs) (now : Nat),
    s = { conn := .start knobs now, bufferedAmount := 0, call := none }
  step := senderStep

variable {s s' : Sender} {call : SendCall}

/-! ### The count and the payload of a call -/

/-- The count of a call is the number of messages it has handed over, but for the one that `send` has
just taken; a payload is collected up to the chunks outstanding. -/
structure SendCall.Sound (call : SendCall) : Prop where
  counted : call.handed.length = call.sent + match call.pc with
    | .resolved => 1
    | .next | .collecting _ _ _ | .draining _ | .settled _ => 0
  collected : ∀ item chunks collected, call.pc = .collecting item chunks collected →
    ∃ data, collected = .of item.length data ∧ data ++ chunks.flatten = item.payload

namespace SendCall.Sound

theorem new (input : Input) : (SendCall.new input).Sound := ⟨rfl, nofun⟩

/-- Outside of `send` every message handed over has been counted. -/
theorem counted_of_ne (h : call.Sound) (hpc : call.pc ≠ .resolved) :
    call.handed.length = call.sent := by
  rw [h.counted]
  cases hcall : call.pc with
  | resolved => exact absurd hcall hpc
  | next | collecting | draining | settled => rfl

/-- A call that has counted its messages goes on to where it collects nothing. -/
theorem goes (hcounted : call.handed.length = call.sent) {pc : SendPc} (hpc : pc ≠ .resolved)
    (hcollects : ∀ item chunks collected, pc ≠ .collecting item chunks collected) :
    ({ call with pc := pc } : SendCall).Sound := by
  refine ⟨?_, fun item chunks collected h => absurd h (hcollects item chunks collected)⟩
  cases pc with
  | resolved => exact absurd rfl hpc
  | next | collecting | draining | settled => exact hcounted

/-- A call that has counted its messages collects a payload. -/
theorem collects (hcounted : call.handed.length = call.sent) {item : LiftedStreamMessage}
    {chunks : List Bytes} {data : Bytes} (hdata : data ++ chunks.flatten = item.payload) :
    ({ call with pc := .collecting item chunks (.of item.length data) } : SendCall).Sound := by
  refine ⟨hcounted, fun item' chunks' collected' h => ?_⟩
  cases h
  exact ⟨data, rfl, hdata⟩

/-- `send` takes the message, or the call waits or fails; every outcome is counted. -/
theorem send (hcounted : call.handed.length = call.sent) (s : Sender) (message : Message) :
    ∃ call', (s.send call message).call = some call' ∧ call'.Sound := by
  unfold Sender.send
  split
  · exact ⟨_, rfl, goes hcounted nofun nofun⟩
  · split
    · refine ⟨_, rfl, ?_, nofun⟩
      show (call.handed ++ [message]).length = call.sent + 1
      rw [List.length_append, hcounted]
      rfl
    · exact ⟨_, rfl, goes hcounted nofun nofun⟩

theorem resume (h : call.Sound) (hs : s.resume call = some s') :
    ∃ call', s'.call = some call' ∧ call'.Sound := by
  unfold Sender.resume at hs
  split at hs
  · next hpc =>
    have hcounted := h.counted_of_ne (by rw [hpc]; nofun)
    split at hs
    · next item rest hrest =>
      cases hs
      refine ⟨_, rfl, ?_⟩
      rw [← Collected.of_nil item.length]
      have hcounted' : ({ call with
          input := { call.input with elements := rest } } : SendCall).handed.length =
            ({ call with input := { call.input with elements := rest } } : SendCall).sent := hcounted
      exact collects hcounted' (List.nil_append _)
    · split at hs
      · cases hs
        exact ⟨_, rfl, goes hcounted nofun nofun⟩
      · cases hs
  · next item chunk chunks collected hpc =>
    have hcounted := h.counted_of_ne (by rw [hpc]; nofun)
    obtain ⟨data, rfl, hdata⟩ := h.collected _ _ _ hpc
    cases hs
    refine ⟨_, rfl, ?_⟩
    rw [Collected.push_of]
    apply collects hcounted
    rw [← hdata, List.flatten_cons, List.append_assoc]
  · next item collected hpc =>
    have hcounted := h.counted_of_ne (by rw [hpc]; nofun)
    split at hs
    · split at hs
      · cases hs
        exact send hcounted s _
      · cases hs
        exact ⟨_, rfl, goes hcounted nofun nofun⟩
    · cases hs
  · next message hpc =>
    have hcounted := h.counted_of_ne (by rw [hpc]; nofun)
    cases hs
    exact send hcounted s _
  · next hpc =>
    cases hs
    have hcounted : ({ call with sent := call.sent + 1 } : SendCall).handed.length =
        ({ call with sent := call.sent + 1 } : SendCall).sent := by
      show call.handed.length = call.sent + 1
      rw [h.counted, hpc]
    exact ⟨_, rfl, goes hcounted nofun nofun⟩
  · cases hs

end SendCall.Sound

/-- The call of every reachable state has kept its books. -/
theorem call_sound (h : senderSystem.Reachable s) : ∀ call, s.call = some call → call.Sound := by
  refine h.induction (I := fun s => ∀ call, s.call = some call → call.Sound) ?_ ?_
  · rintro _ ⟨knobs, now, rfl⟩ call hcall
    cases hcall
  · intro s a s' _ ih hstep call hcall
    cases a with
    | conn a =>
      obtain ⟨conn, -, rfl⟩ := Option.map_eq_some_iff.mp hstep
      exact ih call hcall
    | buffered amount =>
      cases hstep
      exact ih call hcall
    | sendViaStream input =>
      change (if s.conn.disposed || s.call.isSome then none else _) = some s' at hstep
      split at hstep
      · cases hstep
      · cases hstep
        cases hcall
        exact .new input
    | resume =>
      obtain ⟨call₀, hcall₀, hresume⟩ := Option.bind_eq_some_iff.mp hstep
      obtain ⟨call', hcall', hsound⟩ := (ih call₀ hcall₀).resume hresume
      rw [hcall'] at hcall
      cases hcall
      exact hsound

/-! ### After a local close -/

/-- The call gets to `send` once more: it waits there, or the next element of its input is one that
ends, has the declared length and suits its kind. -/
def SendCall.reachesSend (call : SendCall) : Bool :=
  match call.pc with
  | .next | .resolved => call.input.elements.head?.any LiftedStreamMessage.wellFormed
  | .collecting item _ _ => item.wellFormed
  | .draining _ => true
  | .settled _ => false

/-- How many moves are left to a call that `send` refuses. -/
def SendCall.rank (call : SendCall) : Nat :=
  let rest := (call.input.elements.map fun item => item.chunks.length + 2).sum
  match call.pc with
  | .next => rest + 1
  | .collecting _ chunks _ => chunks.length + rest + 1
  | .draining _ => 1
  | .resolved => rest + 2
  | .settled _ => 0

/-- A call after a local close that found `sent` messages handed over: no other one is, and the call
fails closed with that count if it ends and `good` holds, otherwise in another way. -/
structure SendCall.Ends (good : Bool) (sent : Nat) (call : SendCall) : Prop where
  sound : call.Sound
  handed : call.handed.length = sent
  pending : call.pending = true → call.reachesSend = good
  settled : ∀ result, call.pc = .settled result →
    (result = .error { error := .closed, sent := sent } ↔ good = true)

namespace SendCall.Ends

variable {good : Bool} {sent : Nat}

/-- `send` refuses a message after a local close. -/
theorem send_eq (hl : s.conn.localClosed = true) (call : SendCall) (message : Message) :
    s.send call message = s.fails call .closed := by
  unfold Sender.send
  rw [if_pos (by simp [hl])]

/-- A call that fails closed, as it should. -/
theorem closed (h : call.Ends good sent) (hpc : call.pc ≠ .resolved) (hgood : good = true) :
    ({ call with pc := .settled (.error { error := .closed, sent := call.sent }) } : SendCall).Ends
      good sent := by
  have hcounted := h.sound.counted_of_ne hpc
  refine ⟨.goes hcounted nofun nofun, h.handed, nofun, fun result hresult => ?_⟩
  cases hresult
  rw [← hcounted, h.handed]
  exact ⟨fun _ => hgood, fun _ => rfl⟩

/-- A call that ends in another way. -/
theorem other (h : call.Ends good sent) (hpc : call.pc ≠ .resolved) (hgood : good = false)
    {result : Except SendViaStreamError Unit}
    (hresult : result ≠ .error { error := .closed, sent := sent }) :
    ({ call with pc := .settled result } : SendCall).Ends good sent := by
  refine ⟨.goes (h.sound.counted_of_ne hpc) nofun nofun, h.handed, nofun, fun result' hresult' => ?_⟩
  cases hresult'
  rw [hgood]
  exact ⟨fun heq => absurd heq hresult, nofun⟩

/-- After a local close a call goes on towards its end, and how it will end stays the same. -/
theorem resume (h : call.Ends good sent) (hl : s.conn.localClosed = true)
    (hs : s.resume call = some s') :
    s'.conn = s.conn ∧ ∃ call', s'.call = some call' ∧ call'.Ends good sent ∧
      call'.rank < call.rank := by
  have hsound := h.sound.resume hs
  unfold Sender.resume at hs
  split at hs
  · next hpc =>
    have hgood := h.pending (by rw [SendCall.pending, hpc])
    rw [SendCall.reachesSend, hpc] at hgood
    split at hs
    · next item rest hrest =>
      cases hs
      obtain ⟨call', hcall', hsound⟩ := hsound
      cases hcall'
      refine ⟨rfl, _, rfl, ⟨hsound, h.handed, fun _ => ?_, nofun⟩, ?_⟩
      · rw [hrest] at hgood
        exact hgood
      · simp only [SendCall.rank, hpc, hrest, List.map_cons, List.sum_cons]
        omega
    · next hrest =>
      rw [hrest] at hgood
      split at hs
      · cases hs
        refine ⟨rfl, _, rfl, h.other (by rw [hpc]; nofun) hgood.symm nofun, ?_⟩
        simp [SendCall.rank, hpc]
      · cases hs
  · next item chunk chunks collected hpc =>
    have hgood := h.pending (by rw [SendCall.pending, hpc])
    rw [SendCall.reachesSend, hpc] at hgood
    cases hs
    obtain ⟨call', hcall', hsound⟩ := hsound
    cases hcall'
    refine ⟨rfl, _, rfl, ⟨hsound, h.handed, fun _ => hgood, nofun⟩, ?_⟩
    simp only [SendCall.rank, hpc, List.length_cons]
    omega
  · next item collected hpc =>
    have hgood := h.pending (by rw [SendCall.pending, hpc])
    rw [SendCall.reachesSend, hpc] at hgood
    obtain ⟨data, rfl, hdata⟩ := h.sound.collected _ _ _ hpc
    rw [List.flatten_nil, List.append_nil] at hdata
    split at hs
    · next hended =>
      have hwell : item.wellFormed = true ↔
          data.length = item.length ∧ item.kind.accepts data = true := by
        rw [LiftedStreamMessage.wellFormed, ← hdata, hended]
        simp
      rcases messageOf_of item data with ⟨⟨message, hm⟩, hfits⟩ | ⟨⟨text, hm⟩, hfits⟩
      · rw [hm] at hs
        cases hs
        rw [send_eq hl]
        refine ⟨rfl, _, rfl, h.closed (by rw [hpc]; nofun) ?_, ?_⟩
        · rw [← hgood]
          exact hwell.mpr hfits
        · simp [SendCall.rank, hpc]
      · rw [hm] at hs
        cases hs
        refine ⟨rfl, _, rfl, h.other (by rw [hpc]; nofun) ?_ nofun, ?_⟩
        · rw [← hgood, ← Bool.not_eq_true]
          exact fun hno => hfits (hwell.mp hno)
        · simp [SendCall.rank, hpc]
    · cases hs
  · next message hpc =>
    have hgood := h.pending (by rw [SendCall.pending, hpc])
    rw [SendCall.reachesSend, hpc] at hgood
    cases hs
    rw [send_eq hl]
    refine ⟨rfl, _, rfl, h.closed (by rw [hpc]; nofun) hgood.symm, ?_⟩
    simp [SendCall.rank, hpc]
  · next hpc =>
    have hgood := h.pending (by rw [SendCall.pending, hpc])
    rw [SendCall.reachesSend, hpc] at hgood
    cases hs
    obtain ⟨call', hcall', hsound⟩ := hsound
    cases hcall'
    refine ⟨rfl, _, rfl, ⟨hsound, h.handed, fun _ => hgood, nofun⟩, ?_⟩
    simp only [SendCall.rank, hpc]
    omega
  · cases hs

/-- A call that gets to `send` does not wait for its input. -/
theorem not_pending (h : call.Ends true sent) (hs : s.resume call = none) :
    call.pending = false := by
  by_contra hpending
  rw [Bool.not_eq_false] at hpending
  have hgood := h.pending hpending
  rw [SendCall.reachesSend] at hgood
  unfold Sender.resume at hs
  split at hs
  · next hpc =>
    rw [hpc] at hgood
    split at hs
    · cases hs
    · next hrest =>
      rw [hrest] at hgood
      cases hgood
  · cases hs
  · next item collected hpc =>
    rw [hpc] at hgood
    have hended : item.ended = true := by
      simp only [LiftedStreamMessage.wellFormed, Bool.and_eq_true] at hgood
      exact hgood.1.1
    rw [if_pos hended] at hs
    split at hs <;> cases hs
  · cases hs
  · cases hs
  · next hpc =>
    rw [SendCall.pending, hpc] at hpending
    cases hpending

end SendCall.Ends

/-- A connection that has been closed locally, with a call that ends as told. -/
def Sender.Winds (good : Bool) (sent : Nat) (s : Sender) : Prop :=
  s.conn.localClosed = true ∧ ∃ call, s.call = some call ∧ call.Ends good sent

namespace Sender.Winds

variable {good : Bool} {sent : Nat}

theorem step {a : SenderAction} (h : s.Winds good sent) (hs : senderStep s a = some s') :
    s'.Winds good sent := by
  obtain ⟨hl, call, hcall, hends⟩ := h
  cases a with
  | conn a =>
    obtain ⟨conn, hconn, rfl⟩ := Option.map_eq_some_iff.mp hs
    exact ⟨localClosed_of_step hconn hl, call, hcall, hends⟩
  | buffered amount =>
    cases hs
    exact ⟨hl, call, hcall, hends⟩
  | sendViaStream input =>
    simp [senderStep, hcall] at hs
  | resume =>
    obtain ⟨call₀, hcall₀, hresume⟩ := Option.bind_eq_some_iff.mp hs
    rw [hcall] at hcall₀
    cases hcall₀
    obtain ⟨hconn, call', hcall', hends', -⟩ := hends.resume hl hresume
    exact ⟨by rw [hconn]; exact hl, call', hcall', hends'⟩

theorem run {actions : List SenderAction} (h : s.Winds good sent)
    (hrun : senderSystem.run s actions = some s') : s'.Winds good sent := by
  induction actions generalizing s with
  | nil =>
    obtain rfl : s = s' := Option.some.inj hrun
    exact h
  | cons a actions ih =>
    obtain ⟨s₁, hstep, hrest⟩ := Option.bind_eq_some_iff.mp hrun
    exact ih (h.step hstep) hrest

/-- Left alone, the call comes to its end or to where its input is idle. -/
theorem runs_out (h : s.Winds good sent) :
    ∃ n s', senderSystem.run s (List.replicate n .resume) = some s' ∧
      senderStep s' .resume = none := by
  obtain ⟨hl, call, hcall, hends⟩ := h
  induction hn : call.rank using Nat.strong_induction_on generalizing s call with
  | _ n ih =>
    cases hs : s.resume call with
    | none =>
      refine ⟨0, s, rfl, ?_⟩
      show s.call.bind s.resume = none
      rw [hcall]
      exact hs
    | some s₁ =>
      obtain ⟨hconn, call', hcall', hends', hlt⟩ := hends.resume hl hs
      have hl' : s₁.conn.localClosed = true := by
        rw [hconn]
        exact hl
      obtain ⟨k, s₂, hrun, hquiet⟩ := ih call'.rank (hn ▸ hlt) hl' call' hcall' hends' rfl
      refine ⟨k + 1, s₂, ?_, hquiet⟩
      rw [List.replicate_succ, System.run_cons]
      exact Option.bind_eq_some_iff.mpr
        ⟨s₁, Option.bind_eq_some_iff.mpr ⟨call, hcall, hs⟩, hrun⟩

end Sender.Winds

/-- What a local close owes a call of `sendViaStream` that is under way or made afterwards, `sent`
messages having been sent: whatever else happens, the call comes to rest, it does not rest before its
end, and it ends with `closed` and that count. -/
structure Sender.FailsClosed (s : Sender) (sent : Nat) : Prop where
  rests : ∀ actions t, senderSystem.run s actions = some t →
    ∃ n t', senderSystem.run t (List.replicate n .resume) = some t' ∧ senderStep t' .resume = none
  ends : ∀ actions t, senderSystem.run s actions = some t → senderStep t .resume = none →
    ∃ call, t.call = some call ∧ call.pending = false
  closed : ∀ actions t, senderSystem.run s actions = some t →
    ∀ call result, t.call = some call → call.pc = .settled result →
      result = .error { error := .closed, sent := sent }

/-- A call of `sendViaStream` fails closed after a local close, with the count of the messages it has
sent, exactly when it gets to `send` once more. -/
theorem fails_closed_iff (h : senderSystem.Reachable s) (hl : s.conn.localClosed = true)
    (hcall : s.call = some call) (hpending : call.pending = true) :
    s.FailsClosed call.handed.length ↔ call.reachesSend = true := by
  have hwinds : s.Winds call.reachesSend call.handed.length := by
    refine ⟨hl, call, hcall, call_sound h call hcall, rfl, fun _ => rfl, fun result hresult => ?_⟩
    rw [SendCall.pending, hresult] at hpending
    cases hpending
  constructor
  · intro hfails
    obtain ⟨n, t, hrun, hquiet⟩ := hwinds.runs_out
    obtain ⟨call', hcall', hdone⟩ := hfails.ends _ t hrun hquiet
    obtain ⟨-, call'', hcall'', hends⟩ := hwinds.run hrun
    rw [hcall'] at hcall''
    cases hcall''
    cases hpc : call'.pc with
    | settled result =>
      exact (hends.settled result hpc).mp (hfails.closed _ t hrun call' result hcall' hpc)
    | next | collecting | draining | resolved =>
      rw [SendCall.pending, hpc] at hdone
      cases hdone
  · intro hreaches
    rw [hreaches] at hwinds
    constructor
    · intro actions t hrun
      exact (hwinds.run hrun).runs_out
    · intro actions t hrun hquiet
      obtain ⟨-, call', hcall', hends⟩ := hwinds.run hrun
      refine ⟨call', hcall', hends.not_pending (s := t) ?_⟩
      change t.call.bind t.resume = none at hquiet
      rw [hcall'] at hquiet
      exact hquiet
    · intro actions t hrun call' result hcall' hresult
      obtain ⟨-, call'', hcall'', hends⟩ := hwinds.run hrun
      rw [hcall'] at hcall''
      cases hcall''
      exact (hends.settled result hresult).mpr rfl

/-- The idle connection before a run. -/
def Sender.start : Sender where
  conn := .start .default 0
  bufferedAmount := 0
  call := none

/-- A close after the first of two messages, the second one on its way. -/
theorem fails_closed_iff_second :
    ∃ s, senderSystem.run .start
        [.sendViaStream
            { elements := [⟨.binary, 1, [[7]], true⟩, ⟨.binary, 2, [[8], [9]], true⟩], ended := true },
          .resume, .resume, .resume, .conn (.close none "")] = some s ∧ s.FailsClosed 1 := by
  have hrun : senderSystem.run .start
      [.sendViaStream
          { elements := [⟨.binary, 1, [[7]], true⟩, ⟨.binary, 2, [[8], [9]], true⟩], ended := true },
        .resume, .resume, .resume, .conn (.close none "")] = some _ := rfl
  have hstart : senderSystem.Reachable .start := .of_init ⟨_, _, rfl⟩
  exact ⟨_, hrun, (fails_closed_iff (hstart.run hrun) rfl rfl rfl).mpr rfl⟩

/-- After a close, a call whose input is empty succeeds. -/
theorem empty_input_succeeds :
    ¬ ∀ s call, senderSystem.Reachable s → s.conn.localClosed = true → s.call = some call →
      call.pending = true → s.FailsClosed call.handed.length := by
  intro hclaim
  have hrun : senderSystem.run .start
      [.conn (.close none ""), .sendViaStream { elements := [], ended := true }] = some _ := rfl
  have hstart : senderSystem.Reachable .start := .of_init ⟨_, _, rfl⟩
  have hfails := hclaim _ _ (hstart.run hrun) rfl rfl rfl
  exact absurd (hfails.closed [.resume] _ rfl _ (.ok ()) rfl rfl) nofun

end Polymorph.Js
