import PolymorphWebsocket.Transition.System

/-!
# Runs with a trace

A system beside the record of what its runs do: an action comes with the events it stands for, and a
relation says which events an action may stand for in a state, and which actions are admitted at
all.
-/

namespace Transition

namespace System

variable {σ α ε : Type*}

/-- The runs of a system with the trace of their events. -/
def traced (S : System σ α) (L : σ → α → List ε → Prop) [∀ s a es, Decidable (L s a es)] :
    System (σ × List ε) (α × List ε) where
  init s := S.init s.1 ∧ s.2 = []
  step s a := if L s.1 a.1 a.2 then (S.step s.1 a.1).map fun s' => (s', s.2 ++ a.2) else none

variable {S : System σ α} {L : σ → α → List ε → Prop} [∀ s a es, Decidable (L s a es)]

theorem traced_step {s s' : σ × List ε} {a : α × List ε} :
    (S.traced L).step s a = some s' ↔
      L s.1 a.1 a.2 ∧ S.step s.1 a.1 = some s'.1 ∧ s'.2 = s.2 ++ a.2 := by
  show (if L s.1 a.1 a.2 then (S.step s.1 a.1).map fun s' => (s', s.2 ++ a.2) else none) = _ ↔ _
  split
  · next hl =>
    rw [Option.map_eq_some_iff]
    constructor
    · rintro ⟨t, ht, rfl⟩
      exact ⟨hl, ht, rfl⟩
    · rintro ⟨-, ht, htrace⟩
      exact ⟨s'.1, ht, by rw [← htrace]⟩
  · next hl => simp [hl]

/-- The invariant rule: a relation between states and traces that holds at the start, and that every
admitted step from a reached state keeps, holds in every run. -/
theorem Reachable.traced_induction {I : σ → List ε → Prop} (hinit : ∀ s, S.init s → I s [])
    (hstep : ∀ s es a new s', S.ReachableUnder (fun s a => ∃ new, L s a new) s → I s es →
      L s a new → S.step s a = some s' → I s' (es ++ new))
    {s : σ × List ε} (h : (S.traced L).Reachable s) :
    S.ReachableUnder (fun s a => ∃ new, L s a new) s.1 ∧ I s.1 s.2 := by
  refine h.induction (I := fun s => S.ReachableUnder (fun s a => ∃ new, L s a new) s.1 ∧ I s.1 s.2)
    ?_ ?_
  · intro s hs
    rw [hs.2]
    exact ⟨.init hs.1, hinit s.1 hs.1⟩
  · intro s a s' _ ⟨hr, hi⟩ hs
    obtain ⟨hl, hs, htrace⟩ := traced_step.mp hs
    rw [htrace]
    exact ⟨.step hr ⟨_, hl⟩ hs, hstep _ _ _ _ _ hr hi hl hs⟩

end System

/-! ### What comes before what -/

section Guarded

variable {ε : Type*} {p q : ε → Prop} {es : List ε} {e : ε}

/-- Each `q` of a record has a `p` before it. -/
def Guarded (p q : ε → Prop) (es : List ε) : Prop :=
  ∀ first e rest, es = first ++ e :: rest → q e → ∃ g ∈ first, p g

/-- A record goes on with an event that is no `q`, or that comes after a `p`. -/
theorem Guarded.append_singleton (h : Guarded p q es) (he : q e → ∃ g ∈ es, p g) :
    Guarded p q (es ++ [e]) := by
  intro first e' rest heq hq
  rcases List.eq_nil_or_concat rest with rfl | ⟨rest, last, rfl⟩
  · obtain ⟨hfirst, hlast⟩ := List.append_inj' heq rfl
    obtain rfl := List.singleton_inj.mp hlast
    rw [← hfirst]
    exact he hq
  · rw [List.concat_eq_append, ← List.cons_append, ← List.append_assoc] at heq
    exact h first e' rest (List.append_inj' heq rfl).1 hq

end Guarded

end Transition
