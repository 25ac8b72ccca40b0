import PolymorphWebsocket.Host.CloseFrame
import PolymorphWebsocket.Provider.CloseFrame
import PolymorphWebsocket.Provider.Protocol

/-!
# Close frame fidelity of the two Rust pumps

A `close` call that is accepted on a fresh connection names the close frame.  In both pumps the
call only raises a flag and sends a command, and the inbound path, which looks at neither, can
begin a close without a code before the command is processed: the guest provider's reader task
runs before its command task, and the wasmtime host's pump has polled its command arm before the
call and reads the message after it.
-/

namespace Polymorph

open Transition

/-- Close frame fidelity, in every run of either pump in which no message past the budget or past
the transport cap is read between a `close` call with a code and its command: the only close frame
initiated is the one of the first accepted call.  A step against the condition breaks it. -/
theorem close_frame_fidelity (T : Provider.Tungstenite) :
    (∀ s : Provider.State T, (Provider.system T).ReachableUnder Provider.KeepsCode s →
      s.KeepsCloseFrame) ∧
    (∀ s : Host.State, Host.system.ReachableUnder Host.KeepsCode s → s.KeepsCloseFrame) ∧
    (∀ s s' : Provider.State T, (Provider.system T).Reachable s → s.KeepsCloseFrame →
      Provider.step s .reader = some s' →
        (s'.KeepsCloseFrame ↔ Provider.KeepsCode s .reader)) ∧
    ∀ s s' : Host.State, Host.system.Reachable s → s.KeepsCloseFrame →
      Host.step s .poll = some s' → (s'.KeepsCloseFrame ↔ Host.KeepsCode s .poll) :=
  ⟨fun _ h => Provider.keeps_closeFrame h, fun _ h => Host.keeps_closeFrame h,
    fun _ _ h hk hs => hk.reader_iff (Provider.closeFrame_sound h) hs,
    fun _ _ h hk hs => hk.poll_iff (Host.closeFrame_sound h) hs⟩

/-- A close with a code in either pump, with a message that fits read in between. -/
theorem close_frame_fidelity_fits :
    (∃ s, (Provider.system Provider.Core.tungstenite).runUnder Provider.KeepsCode
        (Provider.Core.connection 10 100)
        [.reader, .close (some 1000) "done", .chunk [.binary [1, 2]], .reader, .cmd] = some s ∧
      s.KeepsCloseFrame) ∧
    ∃ s, Host.system.runUnder Host.KeepsCode (Host.connection 100)
        [.poll, .close (some 1000) "done", .enqueueClose, .arrive [.binary [1, 2]], .poll, .poll,
          .poll, .poll, .poll, .poll, .hand] = some s ∧
      s.KeepsCloseFrame := by
  have hguest : (Provider.system Provider.Core.tungstenite).runUnder Provider.KeepsCode
      (Provider.Core.connection 10 100)
      [.reader, .close (some 1000) "done", .chunk [.binary [1, 2]], .reader, .cmd] =
        some _ := rfl
  have hhost : Host.system.runUnder Host.KeepsCode (Host.connection 100)
      [.poll, .close (some 1000) "done", .enqueueClose, .arrive [.binary [1, 2]], .poll, .poll,
        .poll, .poll, .poll, .poll, .hand] = some _ := rfl
  have hguest₀ : (Provider.system Provider.Core.tungstenite).ReachableUnder Provider.KeepsCode
      (Provider.Core.connection 10 100) := .init ⟨_, Provider.Core.fresh, .empty, 0, rfl, rfl, rfl⟩
  have hhost₀ : Host.system.ReachableUnder Host.KeepsCode (Host.connection 100) :=
    .init (Host.init_connection (by decide))
  exact ⟨⟨_, hguest, (close_frame_fidelity _).1 _ (hguest₀.runUnder hguest)⟩,
    ⟨_, hhost, (close_frame_fidelity Provider.Core.tungstenite).2.1 _
      (hhost₀.runUnder hhost)⟩⟩

/-- In either pump a message past the budget, arriving between a `close` call with code 1000 and
its command, replaces the call's close frame with one without a code. -/
theorem overflow_replaces_close_frame :
    (¬ ∀ (T : Provider.Tungstenite) (s : Provider.State T), (Provider.system T).Reachable s →
      s.KeepsCloseFrame) ∧
    ¬ ∀ s : Host.State, Host.system.Reachable s → s.KeepsCloseFrame := by
  constructor
  · intro hclaim
    have hrun : (Provider.system Provider.Core.tungstenite).run (Provider.Core.connection 10 1)
        [.reader, .close (some 1000) "done", .chunk [.binary [1, 2]], .reader] = some _ := rfl
    have hkeeps := hclaim _ _ (Provider.Core.reachable_of_run hrun)
    exact absurd (hkeeps _ rfl rfl) (by decide)
  · intro hclaim
    have hrun : Host.system.run (Host.connection 1)
        [.poll, .close (some 1000) "done", .enqueueClose, .arrive [.binary [1, 2]], .poll,
          .poll] = some _ := rfl
    have hkeeps := hclaim _ (Host.reachable_of_run (by decide) hrun)
    exact absurd (hkeeps _ rfl rfl) (by decide)

end Polymorph
