import PolymorphWebsocket.Transition.System

/-!
# Simulation with a prophecy

A system simulates another one up to something that the simulated system says early and the simulating
one learns late.  The relation between their states carries a prophecy of it; a prophecy that is right
about a state is right about the states before it, so that one which is right at the end of a run is
right all along.
-/

namespace Transition

variable {σ α τ β π : Type*}

/-- A simulation of `C` in `A`, with the prophecies of `π`. -/
structure Prophecy (C : System σ α) (A : System τ β) (π : Type*) where
  /-- The prophecy has not been refuted. -/
  right : π → σ → Prop
  rel : π → σ → τ → Prop
  exists_right : ∀ s, C.Reachable s → ∃ p, right p s
  before : ∀ p s a s', C.Reachable s → C.step s a = some s' → right p s' → right p s
  init : ∀ p s, C.init s → right p s → ∃ t, A.Reachable t ∧ rel p s t
  step : ∀ p s t a s', C.Reachable s → C.step s a = some s' → right p s' → A.Reachable t →
    rel p s t → ∃ t', A.Reachable t' ∧ rel p s' t'

namespace Prophecy

variable {C : System σ α} {A : System τ β} (P : Prophecy C A π)

/-- The run lemma: whatever is still possible at the end, the simulating run agrees with it. -/
theorem simulates {s : σ} (h : C.Reachable s) :
    ∀ p, P.right p s → ∃ t, A.Reachable t ∧ P.rel p s t := by
  refine System.Reachable.induction (I := fun s => ∀ p, P.right p s → ∃ t, A.Reachable t ∧ P.rel p s t)
    (fun s hs p hp => P.init p s hs hp) ?_ h
  intro s a s' hs ih hstep p hp
  obtain ⟨t, ht, hrel⟩ := ih p (P.before p s a s' hs hstep hp)
  exact P.step p s t a s' hs hstep hp ht hrel

end Prophecy

end Transition
