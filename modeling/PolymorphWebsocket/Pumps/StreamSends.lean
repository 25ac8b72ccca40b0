import Mathlib.Data.List.Forall2
import PolymorphWebsocket.Host.SendViaStream
import PolymorphWebsocket.Provider.SendAll

/-!
# The two Rust senders via a stream

The guest provider reads one element after the other; the wasmtime host drains the payloads of many
elements at the same time.  On the same elements, with the same answers to their sends, the calls return
the same result all the same, the texts of the errors included: both return what `Futures.sendAll`
returns.  The counters of the guest provider have 32 bits, so the payloads have to stay below `2 ^ 32`
bytes.
-/

namespace Polymorph

open Futures

/-- The same element on the stream of a guest provider and on that of a wasmtime host, however its
payload is cut. -/
structure StreamMessagesAlike (guest : Provider.StreamMessage) (host : Host.StreamMessage) : Prop where
  kind : guest.kind = .string ↔ host.kind = .string
  length : guest.length = host.length
  payload : Provider.payload? guest.data = some (Host.payload host.data)
  short : (Host.payload host.data).length < 2 ^ 32

variable {guest : Provider.StreamMessage} {host : Host.StreamMessage}

/-- The part of a payload within the declared length, and the number of bytes past it, make up the
payload. -/
theorem length_take_add (bytes : Bytes) (declared : Nat) :
    (bytes.take declared).length + (bytes.length - declared) = bytes.length := by
  rw [List.length_take]
  omega

namespace StreamMessagesAlike

/-- Both calls make the same message of the element, or come to the same error. -/
theorem outcome_eq (h : StreamMessagesAlike guest host) : guest.outcome = host.message := by
  obtain ⟨hkind, hlength, hpayload, hshort⟩ := h
  have hexcess : (Host.payload host.data).length - host.length.toNat < 2 ^ 32 := by omega
  have hsum := length_take_add (Host.payload host.data) host.length.toNat
  unfold Provider.StreamMessage.outcome Host.StreamMessage.message Host.StreamMessage.collected
  rw [hpayload, hlength]
  unfold Provider.messageOf Host.messageOf Provider.usizeRange
  dsimp only [Option.getD_some]
  rw [Nat.mod_eq_of_lt hexcess, Nat.mod_eq_of_lt (Nat.lt_trans hexcess (by decide)), hsum,
    Nat.mod_eq_of_lt hshort, Nat.mod_eq_of_lt (Nat.lt_trans hshort (by decide)), hlength]
  split
  · rfl
  · have hstring : host.isString = decide (guest.kind = .string) := by
      rw [Host.StreamMessage.isString, beq_eq_decide]
      exact decide_eq_decide.mpr hkind.symm
    rw [hstring]
    cases guest.kind with
    | binary => rfl
    | string => rfl

/-- Both calls make the same messages of all the elements. -/
theorem outcomes_eq {guests : List Provider.StreamMessage} {hosts : List Host.StreamMessage}
    (h : List.Forall₂ StreamMessagesAlike guests hosts) :
    Provider.Sending.outcomes guests = Host.Sending.decoded hosts := by
  induction h with
  | nil => rfl
  | cons halike _ ih => exact congrArg₂ List.cons halike.outcome_eq ih

end StreamMessagesAlike

variable {messages : List (Provider.StreamResult × Option Provider.StreamMessage)}
  {batches : List (List Host.StreamMessage)} {p : Provider.Sending} {h : Host.Sending}

/-- A call that no local close has ended returns what the plain sender returns, also with further
answers. -/
theorem Provider.Sending.Plain.sendAll {items : List Provider.StreamMessage}
    {result : Except Provider.SendViaStreamError Unit} (hplain : p.Plain items result)
    (hopen : p.localClosed = false) {answers : List (Except Error Unit)}
    (hanswers : p.results <+: answers) :
    Futures.sendAll (Provider.Sending.outcomes items) answers 0 =
      some (result.mapError fun err => (err.error, err.sent)) := by
  rcases hplain with ⟨hclosed, -⟩ | hsend
  · rw [hopen] at hclosed
    cases hclosed
  · exact sendAll_mono hsend hanswers

theorem Host.Sending.Plain.sendAll {items : List Host.StreamMessage}
    {result : Except Host.SendViaStreamError Unit} (hplain : h.Plain items result)
    (hopen : h.localClosed = false) {answers : List (Except Error Unit)}
    (hanswers : h.results <+: answers) :
    Futures.sendAll (Host.Sending.decoded items) answers 0 =
      some (result.mapError fun err => (err.error, err.sent)) := by
  rcases hplain with ⟨hclosed, -⟩ | hsend
  · rw [hopen] at hclosed
    cases hclosed
  · exact sendAll_mono hsend hanswers

/-- On the same elements, and with sends that are answered alike, the calls of the two
implementations hand over the same messages, as far as each has got, and return the same result. -/
theorem send_via_stream_agree
    (halike : List.Forall₂ StreamMessagesAlike (Provider.elements messages) batches.flatten)
    (hp : (Provider.sendSystem messages).Reachable p) (hh : (Host.sendSystem batches).Reachable h) :
    (p.handed <+: h.handed ∨ h.handed <+: p.handed) ∧
      ∀ guestResult hostResult answers, p.pc = .returned guestResult → h.pc = .returned hostResult →
        p.localClosed = false → h.localClosed = false → p.results <+: answers → h.results <+: answers →
          guestResult.mapError (fun err => (err.error, err.sent)) =
            hostResult.mapError (fun err => (err.error, err.sent)) := by
  have heq := StreamMessagesAlike.outcomes_eq halike
  have hprogress := Provider.sending_progress hp
  obtain ⟨-, hhanded, hsound⟩ := Host.sending_sound hh
  constructor
  · have hguest := hprogress.isPrefix
    rw [heq] at hguest
    exact prefix_or_prefix hguest hhanded
  · intro guestResult hostResult answers hpc hpc' hopen hopen' hanswers hanswers'
    unfold Provider.Sending.Progress at hprogress
    rw [hpc] at hprogress
    rw [hpc'] at hsound
    have hguest := hprogress.2.sendAll hopen hanswers
    have hhost := hsound.sendAll hopen' hanswers'
    rw [heq, hhost] at hguest
    exact (Option.some.inj hguest).symm

/-- Two elements, the first payload cut in two for the guest provider and drained last by the wasmtime
host; the second send fails. -/
theorem send_via_stream_agree_fails :
    ∃ (p : Provider.Sending) (h : Host.Sending) (guestResult : Except Provider.SendViaStreamError Unit)
      (hostResult : Except Host.SendViaStreamError Unit),
      p.pc = .returned guestResult ∧ h.pc = .returned hostResult ∧ p.handed.length = 2 ∧
      h.handed.length = 2 ∧ guestResult.mapError (fun err => (err.error, err.sent)) =
        hostResult.mapError (fun err => (err.error, err.sent)) := by
  let messages : List (Provider.StreamResult × Option Provider.StreamMessage) :=
    [(.complete, some ⟨.binary, 2, [(.complete, [7]), (.dropped, [8])]⟩),
      (.complete, some ⟨.string, 0, [(.dropped, [])]⟩)]
  let batches : List (List Host.StreamMessage) :=
    [[⟨.binary, 2, [([7, 8], false)]⟩], [⟨.string, 0, []⟩]]
  obtain ⟨p, hprun, hppc, hpclosed, hpresults, hphanded⟩ : ∃ p : Provider.Sending,
      (Provider.sendSystem messages).run (.start false false messages)
        [.poll, .poll, .poll, .acknowledged (some (.ok ())), .poll, .poll,
          .acknowledged (some (.error (.other "gone")))] = some p ∧
      p.pc = .returned (.error { error := .other "gone", sent := 1 }) ∧ p.localClosed = false ∧
      p.results = [.ok (), .error (.other "gone")] ∧ p.handed.length = 2 :=
    ⟨_, rfl, rfl, rfl, rfl, rfl⟩
  obtain ⟨h, hhrun, hhpc, hhclosed, hhresults, hhhanded⟩ : ∃ h : Host.Sending,
      (Host.sendSystem batches).run (.start false false batches)
        [.consume, .consume, .drain 1, .poll, .drain 0, .drain 0, .poll, .acknowledged (some (.ok ())),
          .poll, .poll, .poll, .acknowledged (some (.error (.other "gone"))), .poll] = some h ∧
      h.pc = .returned (.error { error := .other "gone", sent := 1 }) ∧ h.localClosed = false ∧
      h.results = [.ok (), .error (.other "gone")] ∧ h.handed.length = 2 :=
    ⟨_, rfl, rfl, rfl, rfl, rfl⟩
  have hpstart : (Provider.sendSystem messages).Reachable (.start false false messages) :=
    .of_init ⟨false, false, rfl⟩
  have hhstart : (Host.sendSystem batches).Reachable (.start false false batches) :=
    .of_init ⟨false, false, rfl⟩
  have halike : List.Forall₂ StreamMessagesAlike (Provider.elements messages) batches.flatten :=
    .cons ⟨by decide, rfl, rfl, by decide⟩ (.cons ⟨by decide, rfl, rfl, by decide⟩ .nil)
  have hagree := send_via_stream_agree halike (hpstart.run hprun) (hhstart.run hhrun)
  exact ⟨p, h, _, _, hppc, hhpc, hphanded, hhhanded,
    hagree.2 _ _ _ hppc hhpc hpclosed hhclosed ⟨[], by rw [hpresults, List.append_nil]⟩
      ⟨[], by rw [hhresults, List.append_nil]⟩⟩

end Polymorph
