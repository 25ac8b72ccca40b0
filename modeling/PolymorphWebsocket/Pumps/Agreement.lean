import PolymorphWebsocket.Provider.Protocol
import PolymorphWebsocket.Pumps.GuestProgress
import PolymorphWebsocket.Pumps.HostProgress

/-!
# The two pumps agree

The two tasks of the guest provider's pump and the select loop of the wasmtime host's, fed the same
events with the same buffer limit and with writes that succeed, do the same: both follow the fold of
`Conduct.apply` over the events, whatever suspension points they go through in between.  Each close
deadline is one its clock can read: past the largest `Instant` the host's pump panics.
-/

namespace Polymorph

open Transition

/-- The core stays open while it is active. -/
theorem Provider.Core.staysOpen :
    Core.tungstenite.StaysOpen fun core => core.phase = .active where
  send core message hactive := by
    refine ⟨messageFrame message, { core with queued := [] }, ?_, hactive⟩
    exact if_pos hactive
  read core r hactive hclose _ _ := by
    cases r with
    | none => exact hactive
    | some i =>
      cases i with
      | close frame => exact absurd rfl (hclose frame)
      | binary | text | ping | pong | frame | capacity | connectionClosed | error => exact hactive

/-- Fed the same events with the same buffer limit, on clocks that can read their close deadlines,
both pumps queue the same messages, latch the same overflow, put the same data frames and the same
close frame, at most one, on the wire, answer every send the same, latch the same close details and
are finalized or not alike; and every list of events can be fed to both. -/
theorem pumps_agree {T : Provider.Tungstenite} {isOpen : T.Ctx → Prop} (hT : T.StaysOpen isOpen)
    (config : Provider.Config) {ws : T.Ctx} (hws : isOpen ws) (now : Nat) {closeTimeout : Duration}
    {now' largest : Nat} (hreaches : now' + closeTimeout.asNanos ≤ largest) (events : List Event) :
    (∀ g h, (Provider.drive T).Fed (.start config ws .empty now) events g →
      Host.drive.Fed (.start closeTimeout config.maxInboundBufferBytes now' largest hreaches)
        events h →
      g.conduct = h.conduct ∧ g.conduct.closeFrames.length ≤ 1) ∧
    (0 < config.closeTimeoutNs → now + config.closeTimeoutNs < 2 ^ 64 → 0 < closeTimeout.asNanos →
      (∃ g, (Provider.drive T).Fed (.start config ws .empty now) events g) ∧
      ∃ h, Host.drive.Fed (.start closeTimeout config.maxInboundBufferBytes now' largest hreaches)
        events h) := by
  have hlimit : config.maxInboundBufferBytes < Host.wordSize - 1 :=
    config.maxInboundBufferBytes_lt.trans (by decide)
  obtain ⟨hg, hgout⟩ := Provider.driven_start config hws now
  obtain ⟨hh, hhout⟩ := Host.driven_start hreaches hlimit
  constructor
  · intro g h hfed hfed'
    obtain ⟨hgI, hgw, hgf⟩ := (Provider.tracks hT).fed hg hfed
    obtain ⟨hhI, hhw, -⟩ := Host.tracks.fed hh hfed'
    have hagree := (Provider.tracks hT).agree Host.tracks hg hh (hgout.trans hhout.symm) hfed hfed'
    rw [Provider.outlook_of_waiting hgI hgw] at hagree hgf
    rw [Host.outlook_of_waiting hhI hhw] at hagree
    refine ⟨hagree, ?_⟩
    rw [hgf, hgout]
    exact ((Conduct.closesOnce_start _).foldl events).once
  · intro htimeout hrange htimeout'
    exact ⟨Provider.exists_fed hT config hws now htimeout hrange events,
      Host.exists_fed hreaches htimeout' hlimit events⟩

/-- Over the core, with a budget of one byte: a message that fits, one that does not, and what comes
after the close the overflow begins. -/
theorem pumps_agree_overflow :
    ∃ g h, (Provider.drive Provider.Core.tungstenite).Fed
        (.start ⟨5, 1, by decide, by decide⟩ Provider.Core.fresh .empty 0)
        [.inbound (.binary [7]), .inbound (.binary [8]), .send (.binary []), .deadline] g ∧
      Host.drive.Fed (Host.connection 1)
        [.inbound (.binary [7]), .inbound (.binary [8]), .send (.binary []), .deadline] h ∧
      g.conduct = h.conduct := by
  have hreaches : 0 + (Duration.mk 0 10 (by decide)).asNanos ≤ 1000 := by decide
  have htimeout : 0 < (Duration.mk 0 10 (by decide)).asNanos := by decide
  obtain ⟨hagree, hfed⟩ := pumps_agree Provider.Core.staysOpen ⟨5, 1, by decide, by decide⟩
    (show Provider.Core.fresh.phase = .active from rfl) 0 hreaches
    [.inbound (.binary [7]), .inbound (.binary [8]), .send (.binary []), .deadline]
  obtain ⟨⟨g, hg⟩, h, hh⟩ := hfed (by decide) (by decide) htimeout
  exact ⟨g, h, hg, hh, (hagree g h hg hh).1⟩

end Polymorph
