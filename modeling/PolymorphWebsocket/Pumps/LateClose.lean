import PolymorphWebsocket.Host.LateClose
import PolymorphWebsocket.Js.LateClose
import PolymorphWebsocket.Provider.LateClose

/-!
# A late call of `close` in the three implementations

A call of `close` on a connection that is closing or closed succeeds, and should be seen by nobody.
In every implementation it looks at its own flag only and makes the local close: messages that are
still queued are lost, and the error at the end of the queue becomes `closed`.  The wasmtime host and
the JavaScript host hide the call exactly when nothing of this is left to see.  The guest provider
never does: without the call the end of its queue is handed out once, and after it every `receive`
call fails.
-/

namespace Polymorph

/-- The first `close` of a connection with valid arguments, in whatever state it is reached: the
wasmtime host and the JavaScript host show the same with the call and without it exactly when nothing
of the connection is left that a local close changes, and the guest provider never does. -/
theorem late_close_unseen_iff {code : Option UInt16} {reason : String}
    (hvalid : validateCloseArgs code reason = .ok ()) :
    (∀ r r' : Host.Receiving, Host.receivingSystem.Reachable r →
      r.conn.shared.localClosed = false →
      Host.receivingStep r (.conn (.close code reason)) = some r' →
      (Host.observed.Alike Host.observed r r' ↔ r.NothingLeft)) ∧
    (∀ s s' : Js.State, Js.system.Reachable s → s.localClosed = false →
      Js.step s (.close code reason) = some s' →
      (s.close code reason).1 = .ok () ∧ (Js.observed.Alike Js.observed s s' ↔ s.NothingLeft)) ∧
    (∀ (T : Provider.Tungstenite) (s s' : Provider.State T), s.shared.localClosed = false →
      Provider.step s (.close code reason) = some s' →
      ¬ (Provider.observed T).Alike (Provider.observed T) s s') := by
  refine ⟨fun r r' h hl hs => Host.close_unseen_iff h hl hvalid hs, fun s s' h hl hs => ?_,
    fun T s s' hl hs => Provider.close_seen hl hvalid hs⟩
  refine ⟨?_, Js.close_unseen_iff h hl hvalid hs⟩
  have hchecked : Js.validateCloseArgs code reason = .ok () := hvalid
  unfold Js.State.close
  rw [hchecked]

/-- After the peer's close frame and the end of the transport, with nothing left to receive, nobody
sees a call of `close` in either host. -/
theorem late_close_unseen_iff_ended :
    validateCloseArgs none "" = .ok () ∧
    (∃ r r', Host.receivingSystem.run (.start (Host.connection 100))
        [.conn (.arrive [.close none, .connectionClosed]), .conn .poll, .conn .poll, .conn .poll,
          .conn .written] = some r ∧ r.conn.pump.peerFrame.isSome = true ∧
      Host.receivingStep r (.conn (.close none "")) = some r' ∧
      Host.observed.Alike Host.observed r r') ∧
    ∃ s s', Js.system.run (.start .default 0)
        [.transportClosed, .closeEvent 1000 "", .closeSettles] = some s ∧
      Js.step s (.close none "") = some s' ∧ Js.observed.Alike Js.observed s s' := by
  have hvalid : validateCloseArgs none "" = .ok () := rfl
  obtain ⟨hhost, hjs, -⟩ := late_close_unseen_iff hvalid
  obtain ⟨r, r', hr, hpeer, hlocal, hclose, hleft⟩ : ∃ r r',
      Host.receivingSystem.run (.start (Host.connection 100))
        [.conn (.arrive [.close none, .connectionClosed]), .conn .poll, .conn .poll, .conn .poll,
          .conn .written] = some r ∧ r.conn.pump.peerFrame.isSome = true ∧
      r.conn.shared.localClosed = false ∧
      Host.receivingStep r (.conn (.close none "")) = some r' ∧ r.NothingLeft :=
    ⟨_, _, rfl, rfl, rfl, rfl, by decide⟩
  obtain ⟨s, s', hs, hopen, hcall, hnothing⟩ : ∃ s s', Js.system.run (.start .default 0)
        [.transportClosed, .closeEvent 1000 "", .closeSettles] = some s ∧
      s.localClosed = false ∧ Js.step s (.close none "") = some s' ∧ s.NothingLeft :=
    ⟨_, _, rfl, rfl, rfl, by decide⟩
  have hreach : Host.receivingSystem.Reachable r :=
    Host.receiving_of_run (by decide) hr
  have hreach' : Js.system.Reachable s := .run (.of_init ⟨_, _, rfl⟩) hs
  exact ⟨hvalid, ⟨r, r', hr, hpeer, hclose, (hhost r r' hreach hlocal hclose).mpr hleft⟩,
    s, s', hs, hcall, ((hjs s s' hreach' hopen hcall).2).mpr hnothing⟩

/-- After the peer's close frame the message before it is still there to be received; a call of
`close` takes it away in both hosts, and in the guest provider it is seen without a message too. -/
theorem late_close_discards :
    (¬ ∀ (r r' : Host.Receiving) (code : Option UInt16) (reason : String),
      Host.receivingSystem.Reachable r → r.conn.pump.peerFrame.isSome = true →
      r.conn.shared.localClosed = false → validateCloseArgs code reason = .ok () →
      Host.receivingStep r (.conn (.close code reason)) = some r' →
      Host.observed.Alike Host.observed r r') ∧
    (¬ ∀ (s s' : Js.State) (code : Option UInt16) (reason : String), Js.system.Reachable s →
      s.closeSettled = true → s.localClosed = false → validateCloseArgs code reason = .ok () →
      Js.step s (.close code reason) = some s' → Js.observed.Alike Js.observed s s') ∧
    ¬ ∀ (T : Provider.Tungstenite) (s s' : Provider.State T) (code : Option UInt16)
      (reason : String), (Provider.system T).Reachable s → s.peerFrame.isSome = true →
      s.shared.localClosed = false → validateCloseArgs code reason = .ok () →
      Provider.step s (.close code reason) = some s' →
      (Provider.observed T).Alike (Provider.observed T) s s' := by
  have hvalid : validateCloseArgs none "" = .ok () := rfl
  refine ⟨fun hclaim => ?_, fun hclaim => ?_, fun hclaim => ?_⟩
  · obtain ⟨r, r', hr, hpeer, hlocal, hclose, hleft⟩ : ∃ r r',
        Host.receivingSystem.run (.start (Host.connection 100))
          [.conn (.arrive [.text "x", .close none]), .conn .poll, .conn .poll, .conn .poll,
            .conn .poll, .conn .poll, .conn .poll, .conn .poll, .conn .poll] = some r ∧
        r.conn.pump.peerFrame.isSome = true ∧ r.conn.shared.localClosed = false ∧
        Host.receivingStep r (.conn (.close none "")) = some r' ∧ ¬ r.NothingLeft :=
      ⟨_, _, rfl, rfl, rfl, rfl, by decide⟩
    have hreach : Host.receivingSystem.Reachable r :=
      Host.receiving_of_run (by decide) hr
    have halike := hclaim r r' none "" hreach hpeer hlocal hvalid hclose
    exact hleft ((Host.close_unseen_iff hreach hlocal hvalid hclose).mp halike)
  · obtain ⟨s, s', hs, hsettled, hopen, hcall, hleft⟩ : ∃ s s', Js.system.run (.start .default 0)
          [.message (.string "x"), .transportClosed, .closeEvent 1000 "", .closeSettles] =
            some s ∧ s.closeSettled = true ∧ s.localClosed = false ∧
        Js.step s (.close none "") = some s' ∧ ¬ s.NothingLeft :=
      ⟨_, _, rfl, rfl, rfl, rfl, by decide⟩
    have hreach : Js.system.Reachable s := .run (.of_init ⟨_, _, rfl⟩) hs
    have halike := hclaim s s' none "" hreach hsettled hopen hvalid hcall
    exact hleft ((Js.close_unseen_iff hreach hopen hvalid hcall).mp halike)
  · obtain ⟨s, s', hs, hpeer, hlocal, hcall⟩ : ∃ s s',
        (Provider.system Provider.Core.tungstenite).run (Provider.Core.connection 10 100)
          [.reader, .chunk [.close none], .reader] = some s ∧ s.peerFrame.isSome = true ∧
        s.shared.localClosed = false ∧ Provider.step s (.close none "") = some s' :=
      ⟨_, _, rfl, rfl, rfl, rfl⟩
    have hreach := Provider.Core.reachable_of_run hs
    exact Provider.close_seen hlocal hvalid hcall
      (hclaim _ s s' none "" hreach hpeer hlocal hvalid hcall)

end Polymorph
