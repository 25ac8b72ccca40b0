import Mathlib.Logic.Relation

/-!
# Machines that are fed events and settle in between

A drive feeds events to a machine, each once the machine has settled: from the state an event puts
it in, the machine takes steps of its own until it waits for the next event.

An *outlook* of a state is what the machine will have done once it has settled.  The steps of the
machine keep it, so the outlook at the end of a fed run is a fold over the events: two drives with
the same fold agree, whatever steps their machines take in between.
-/

namespace Transition

open Relation

/-- A machine with its events, the steps it takes by itself and the states in which it waits. -/
structure Drive (σ ε : Type*) where
  feed : σ → ε → σ
  settle : σ → σ → Prop
  waiting : σ → Prop

namespace Drive

variable {σ τ ε β : Type*}

/-- The machine settles, and then is fed the events one after the other, settling after each. -/
inductive Fed (D : Drive σ ε) : σ → List ε → σ → Prop
  | nil {s s' : σ} (hsettle : ReflTransGen D.settle s s') (hwaiting : D.waiting s') : Fed D s [] s'
  | cons {s s₁ s' : σ} {e : ε} {es : List ε} (hsettle : ReflTransGen D.settle s s₁)
      (hwaiting : D.waiting s₁) (hrest : Fed D (D.feed s₁ e) es s') : Fed D s (e :: es) s'

/-- The outlook of the states that satisfy the invariant: the machine's own steps keep it, and an
event changes it as `apply` says. -/
structure Tracks (D : Drive σ ε) (I : σ → Prop) (outlook : σ → β) (apply : β → ε → β) : Prop where
  settle : ∀ s s', I s → D.settle s s' → I s' ∧ outlook s' = outlook s
  feed : ∀ s e, I s → D.waiting s → I (D.feed s e) ∧ outlook (D.feed s e) = apply (outlook s) e

variable {D : Drive σ ε} {I : σ → Prop} {outlook : σ → β} {apply : β → ε → β}

/-- The steps of the machine between two events. -/
theorem Tracks.settles (h : D.Tracks I outlook apply) {s s' : σ} (hs : I s)
    (hsettle : ReflTransGen D.settle s s') : I s' ∧ outlook s' = outlook s := by
  induction hsettle with
  | refl => exact ⟨hs, rfl⟩
  | tail _ hstep ih =>
    obtain ⟨hI, hout⟩ := h.settle _ _ ih.1 hstep
    exact ⟨hI, hout.trans ih.2⟩

/-- The outlook of a fed run is a fold over the events. -/
theorem Tracks.fed (h : D.Tracks I outlook apply) {s s' : σ} {es : List ε} (hs : I s)
    (hfed : D.Fed s es s') : I s' ∧ D.waiting s' ∧ outlook s' = es.foldl apply (outlook s) := by
  induction hfed with
  | nil hsettle hwaiting =>
    obtain ⟨hI, hout⟩ := h.settles hs hsettle
    exact ⟨hI, hwaiting, hout⟩
  | cons hsettle hwaiting _ ih =>
    obtain ⟨hI, hout⟩ := h.settles hs hsettle
    obtain ⟨hI', hout'⟩ := h.feed _ _ hI hwaiting
    rw [List.foldl_cons, ← hout, ← hout']
    exact ih hI'

/-- Two machines whose outlooks start equal and follow the same events end with equal outlooks. -/
theorem Tracks.agree {D' : Drive τ ε} {I' : τ → Prop} {outlook' : τ → β}
    (h : D.Tracks I outlook apply) (h' : D'.Tracks I' outlook' apply) {s s' : σ} {t t' : τ}
    {es : List ε} (hs : I s) (ht : I' t) (hstart : outlook s = outlook' t) (hfed : D.Fed s es s')
    (hfed' : D'.Fed t es t') : outlook s' = outlook' t' := by
  rw [(h.fed hs hfed).2.2, (h'.fed ht hfed').2.2, hstart]

/-- As long as the machine does not wait, some step of its own brings it nearer to waiting. -/
def Progresses (D : Drive σ ε) (I : σ → Prop) (rank : σ → Nat) : Prop :=
  ∀ s, I s → ¬ D.waiting s → ∃ s', D.settle s s' ∧ I s' ∧ rank s' < rank s

variable {rank : σ → Nat}

/-- A machine that makes progress settles. -/
theorem Progresses.settles (h : D.Progresses I rank) {s : σ} (hs : I s) :
    ∃ s', ReflTransGen D.settle s s' ∧ I s' ∧ D.waiting s' := by
  induction hr : rank s using Nat.strongRecOn generalizing s with
  | ind n ih =>
    by_cases hwaiting : D.waiting s
    · exact ⟨s, .refl, hs, hwaiting⟩
    · obtain ⟨s₁, hstep, hI, hrank⟩ := h s hs hwaiting
      obtain ⟨s', hsettle, hI', hwaiting'⟩ := ih (rank s₁) (hr ▸ hrank) hI rfl
      exact ⟨s', .head hstep hsettle, hI', hwaiting'⟩

/-- A machine that makes progress can be fed every list of events. -/
theorem Progresses.exists_fed (h : D.Progresses I rank)
    (hfeed : ∀ s e, I s → D.waiting s → I (D.feed s e)) (es : List ε) {s : σ} (hs : I s) :
    ∃ s', D.Fed s es s' := by
  induction es generalizing s with
  | nil =>
    obtain ⟨s', hsettle, -, hwaiting⟩ := h.settles hs
    exact ⟨s', .nil hsettle hwaiting⟩
  | cons e es ih =>
    obtain ⟨s₁, hsettle, hI, hwaiting⟩ := h.settles hs
    obtain ⟨s', hfed⟩ := ih (hfeed s₁ e hI hwaiting)
    exact ⟨s', .cons hsettle hwaiting hfed⟩

end Drive

end Transition
