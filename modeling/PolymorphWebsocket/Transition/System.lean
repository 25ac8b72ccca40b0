import Mathlib.Logic.Relation

/-!
# Transition systems with an executable step

A system has a predicate of initial states and a partial step function: `step s a = some s'` when
the action `a` can be taken in `s`, and `none` when it is disabled there.  Runs are lists of
actions, so a run on concrete actions can be evaluated.

`ReachableUnder C` collects the states reached by the runs all of whose steps satisfy the step
condition `C`; `Reachable` puts no condition on the steps.  `ReachableUnder.induction` is the
invariant rule: it hands the induction step the reachability of the state before the step, so that
an invariant proved earlier can be used in the proof of the next one.
-/

namespace Transition

/-- A transition system: the initial states and a partial step function on states and actions. -/
structure System (σ α : Type*) where
  /-- The states a run may start in. -/
  init : σ → Prop
  /-- The state after an action, or `none` when the action is disabled. -/
  step : σ → α → Option σ

namespace System

variable {σ α : Type*} (S : System σ α)

/-- The states reached by runs all of whose steps satisfy `C` on the state before the step and the
action taken. -/
inductive ReachableUnder (C : σ → α → Prop) : σ → Prop
  | init {s : σ} (h : S.init s) : ReachableUnder C s
  | step {s s' : σ} {a : α} (hs : ReachableUnder C s) (hc : C s a) (h : S.step s a = some s') :
      ReachableUnder C s'

/-- The states reached by any run. -/
def Reachable (s : σ) : Prop := S.ReachableUnder (fun _ _ => True) s

/-- An action is enabled in a state when the step function has a successor for it. -/
def Enabled (s : σ) (a : α) : Prop := ∃ s', S.step s a = some s'

instance (s : σ) (a : α) : Decidable (S.Enabled s a) :=
  decidable_of_iff ((S.step s a).isSome = true) Option.isSome_iff_exists

variable {S}

/-- The invariant rule: a property of the initial states that every admitted step from a reached
state preserves holds in every reached state. -/
theorem ReachableUnder.induction {C : σ → α → Prop} {I : σ → Prop}
    (hinit : ∀ s, S.init s → I s)
    (hstep : ∀ s a s', S.ReachableUnder C s → I s → C s a → S.step s a = some s' → I s')
    {s : σ} (h : S.ReachableUnder C s) : I s := by
  induction h with
  | init h => exact hinit _ h
  | step hs hc h ih => exact hstep _ _ _ hs ih hc h

/-- Weakening the step condition keeps every reached state. -/
theorem ReachableUnder.mono {C D : σ → α → Prop} (hCD : ∀ s a, C s a → D s a) {s : σ}
    (h : S.ReachableUnder C s) : S.ReachableUnder D s := by
  induction h with
  | init h => exact .init h
  | step _ hc h ih => exact .step ih (hCD _ _ hc) h

/-- A state reached under a step condition is reached by some run. -/
theorem ReachableUnder.reachable {C : σ → α → Prop} {s : σ} (h : S.ReachableUnder C s) :
    S.Reachable s :=
  h.mono fun _ _ _ => trivial

/-- The invariant rule for all runs. -/
theorem Reachable.induction {I : σ → Prop} (hinit : ∀ s, S.init s → I s)
    (hstep : ∀ s a s', S.Reachable s → I s → S.step s a = some s' → I s')
    {s : σ} (h : S.Reachable s) : I s :=
  ReachableUnder.induction hinit (fun s a s' hs hi _ => hstep s a s' hs hi) h

/-- An initial state is reachable. -/
theorem Reachable.of_init {s : σ} (h : S.init s) : S.Reachable s :=
  .init h

/-- A step leads from a reachable state to a reachable state. -/
theorem Reachable.next {s s' : σ} {a : α} (hs : S.Reachable s) (h : S.step s a = some s') :
    S.Reachable s' :=
  .step hs trivial h

/-! ### Runs as lists of actions -/

variable (S)

/-- The state after the actions of a list, or `none` when one of them is disabled. -/
def run : σ → List α → Option σ
  | s, [] => some s
  | s, a :: as => (S.step s a).bind fun s' => run s' as

variable {S}

@[simp] theorem run_nil (s : σ) : S.run s [] = some s := rfl

theorem run_cons (s : σ) (a : α) (as : List α) :
    S.run s (a :: as) = (S.step s a).bind fun s' => S.run s' as := rfl

/-- A run that starts in a reachable state ends in a reachable state. -/
theorem Reachable.run {s s' : σ} {as : List α} (hs : S.Reachable s) (h : S.run s as = some s') :
    S.Reachable s' := by
  induction as generalizing s with
  | nil =>
    obtain rfl : s = s' := by simpa using h
    exact hs
  | cons a as ih =>
    obtain ⟨s₁, h₁, h₂⟩ := Option.bind_eq_some_iff.mp h
    exact ih (hs.next h₁) h₂

variable (S)

/-- The state after the actions of a list all of whose steps satisfy `C`. -/
def runUnder (C : σ → α → Prop) [∀ s a, Decidable (C s a)] : σ → List α → Option σ
  | s, [] => some s
  | s, a :: as => if C s a then (S.step s a).bind fun s' => runUnder C s' as else none

variable {S}

/-- A run under a step condition ends in a state reached under that condition. -/
theorem ReachableUnder.runUnder {C : σ → α → Prop} [∀ s a, Decidable (C s a)] {s s' : σ}
    {as : List α} (hs : S.ReachableUnder C s) (h : S.runUnder C s as = some s') :
    S.ReachableUnder C s' := by
  induction as generalizing s with
  | nil =>
    obtain rfl : s = s' := Option.some.inj h
    exact hs
  | cons a as ih =>
    unfold System.runUnder at h
    split at h
    · next hc =>
      obtain ⟨s₁, h₁, h₂⟩ := Option.bind_eq_some_iff.mp h
      exact ih (.step hs hc h₁) h₂
    · cases h

end System

end Transition
