import PolymorphWebsocket.Provider.Lifecycle
import PolymorphWebsocket.Host.Lifecycle

/-!
# `closed` and the state in both implementations

A call that has failed with `closed` says that the connection has been closed, and `state` should
say so too.  In both implementations it does in every run that refuses no call while the state is
open.  A step on an open connection fails a call with `closed` exactly in the refusing branches, so
nothing else has to be excluded: not the local close, not the deadline of a write, and in the
wasmtime host not the closing handshake.
-/

namespace Polymorph

/-- Once a `send` or a `receive` call has failed with `closed`, the state is closing or closed, in
every state of every run that refuses no call while the state is open; and on an open connection the
refusing branches are exactly those that fail a call with `closed`. -/
theorem closed_agrees_with_state {T : Provider.Tungstenite} {s : Provider.State T}
    {r : Host.Received} :
    ((Provider.system T).ReachableUnder Provider.RefusesClosing s → 0 < s.closedAnswers →
      s.shared.state ≠ .open) ∧
    ((Provider.system T).Reachable s → s.shared.state = .open → ∀ a s', Provider.step s a = some s' →
      s'.closedAnswers = s.closedAnswers + (s.refuses a).toNat) ∧
    (Host.receivedSystem.ReachableUnder Host.RefusesClosing r → 0 < r.closedAnswers →
      r.conn.shared.state ≠ .open) ∧
    (Host.receivedSystem.Reachable r → r.conn.shared.state = .open →
      ∀ a r', Host.receivedStep r a = some r' →
        r'.closedAnswers = r.closedAnswers + (r.refuses a).toNat) := by
  refine ⟨Provider.closed_not_open, ?_, Host.closed_not_open, ?_⟩
  · intro h hopen a s' hs
    exact Provider.closedAnswers_step (Provider.open_sound h hopen) (Provider.cmd_serving h) hs
  · intro h hopen a r' hs
    exact (Host.received_step (Host.received_sound h) hs).2 hopen

/-- After a local close a `send` call fails with `closed`, and the state of either implementation is
closing. -/
theorem closed_agrees_with_state_local_close :
    ∃ (s : Provider.State Provider.Core.tungstenite) (r : Host.Received),
      0 < s.closedAnswers ∧ s.shared.state ≠ .open ∧ 0 < r.closedAnswers ∧
        r.conn.shared.state ≠ .open := by
  obtain ⟨s, hs, hanswers⟩ : ∃ s, (Provider.system Provider.Core.tungstenite).runUnder
      Provider.RefusesClosing (Provider.Core.connection 10 100)
      [.close none "", .send (.binary [1])] = some s ∧ 0 < s.closedAnswers := ⟨_, rfl, by decide⟩
  obtain ⟨r, hr, hreceives⟩ : ∃ r, Host.receivedSystem.runUnder Host.RefusesClosing
      ⟨Host.connection 100, 0⟩
      [.conn (.close none ""), .conn (.send (.binary [1])), .localClosed] = some r ∧
        0 < r.closedAnswers := ⟨_, rfl, by decide⟩
  have hguest : (Provider.system Provider.Core.tungstenite).ReachableUnder
      Provider.RefusesClosing s := .runUnder (.init ⟨_, Provider.Core.fresh, .empty, 0, rfl, rfl, rfl⟩) hs
  have hhost : Host.receivedSystem.ReachableUnder Host.RefusesClosing r :=
    .runUnder (.init ⟨Host.init_connection (by decide), rfl⟩) hr
  have hagrees := closed_agrees_with_state (s := s) (r := r)
  exact ⟨s, r, hanswers, hagrees.1 hguest hanswers, hreceives, hagrees.2.2.1 hhost hreceives⟩

/-- In the guest provider a `send` call after an inbound overflow fails with `closed` and the state
stays open; in the wasmtime host a `receive` call that runs between two stores of the finalization
does. -/
theorem closed_while_open :
    (¬ ∀ (T : Provider.Tungstenite) (s : Provider.State T), (Provider.system T).Reachable s →
      0 < s.closedAnswers → s.shared.state ≠ .open) ∧
    ¬ ∀ r : Host.Received, Host.receivedSystem.Reachable r → 0 < r.closedAnswers →
      r.conn.shared.state ≠ .open := by
  constructor
  · intro hclaim
    obtain ⟨s, hs, hanswers, hopen⟩ : ∃ s, (Provider.system Provider.Core.tungstenite).run
        (Provider.Core.connection 10 1)
        [.reader, .chunk [.binary [1, 2]], .reader, .send (.binary [7]), .cmd] = some s ∧
          0 < s.closedAnswers ∧ s.shared.state = .open := ⟨_, rfl, by decide, rfl⟩
    exact hclaim _ s (Provider.Core.reachable_of_run hs) hanswers hopen
  · intro hclaim
    obtain ⟨r, hr, hanswers, hopen⟩ : ∃ r, Host.receivedSystem.run ⟨Host.connection 100, 0⟩
        [.conn (.arrive [.connectionClosed]), .conn .poll, .conn .poll, .conn .poll, .conn .poll,
          .conn .poll, .ended] = some r ∧ 0 < r.closedAnswers ∧ r.conn.shared.state = .open :=
      ⟨_, rfl, by decide, rfl⟩
    have hreach : Host.receivedSystem.Reachable r :=
      Transition.System.Reachable.run (.of_init ⟨Host.init_connection (by decide), rfl⟩) hr
    exact hclaim r hreach hanswers hopen

end Polymorph
