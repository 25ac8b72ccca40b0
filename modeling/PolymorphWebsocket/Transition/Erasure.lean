import PolymorphWebsocket.Transition.System

/-!
# Runs that differ in hidden actions

Some actions of a system change only a part of the state, which `erase` puts back; they are hidden, and
always possible.  Where the other actions come out the same from the state with that part put back, a
run does the same as its visible actions alone.  So two runs with the same visible actions end alike,
as far as every step of both meets the condition under which they come out the same.
-/

namespace Transition

namespace System

variable {σ α : Type*} (S : System σ α)

/-- Every step of a run meets `C`, up to the first action that is disabled. -/
def Along (C : σ → α → Prop) : σ → List α → Prop
  | _, [] => True
  | s, a :: as => C s a ∧ ∀ s' ∈ S.step s a, Along C s' as

instance Along.decidable (C : σ → α → Prop) [∀ s a, Decidable (C s a)] :
    ∀ s as, Decidable (S.Along C s as)
  | _, [] => .isTrue trivial
  | s, a :: as =>
    have : ∀ s', Decidable (S.Along C s' as) := fun s' => Along.decidable C s' as
    inferInstanceAs (Decidable (C s a ∧ ∀ s' ∈ S.step s a, S.Along C s' as))

/-- The hidden actions are erased, and the visible ones that meet `C` come out the same. -/
structure Erases (hidden : α → Bool) (erase : σ → σ) (C : σ → α → Prop) : Prop where
  of_hidden {s : σ} {a : α} : hidden a = true → (S.step s a).map erase = some (erase s)
  of_visible {s : σ} {a : α} : hidden a = false → C s a →
    (S.step s a).map erase = S.step (erase s) a

variable {S} {hidden : α → Bool} {erase : σ → σ} {C : σ → α → Prop}

/-- A run does what its visible actions alone do. -/
theorem Erases.run (h : S.Erases hidden erase C) {s : σ} {as : List α} (hC : S.Along C s as) :
    (S.run s as).map erase = S.run (erase s) (as.filter fun a => !hidden a) := by
  induction as generalizing s with
  | nil => rfl
  | cons a as ih =>
    obtain ⟨hstep, hrest⟩ := hC
    cases ha : hidden a with
    | true =>
      obtain ⟨s', hs', heq⟩ := Option.map_eq_some_iff.mp (h.of_hidden (s := s) ha)
      rw [List.filter_cons_of_neg (by simp [ha]), run_cons, hs', ← heq]
      exact ih (hrest s' hs')
    | false =>
      rw [List.filter_cons_of_pos (by simp [ha]), run_cons, run_cons, ← h.of_visible ha hstep]
      cases hs' : S.step s a with
      | none => rfl
      | some s' => exact ih (hrest s' hs')

/-- Two runs with the same visible actions end alike. -/
theorem Erases.run_eq (h : S.Erases hidden erase C) {s : σ} {as bs : List α}
    (hvisible : as.filter (fun a => !hidden a) = bs.filter fun a => !hidden a)
    (has : S.Along C s as) (hbs : S.Along C s bs) :
    (S.run s as).map erase = (S.run s bs).map erase := by
  rw [h.run has, h.run hbs, hvisible]

end System

end Transition
