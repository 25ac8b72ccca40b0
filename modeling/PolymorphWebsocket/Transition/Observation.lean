import PolymorphWebsocket.Transition.System

/-!
# What an observer sees of a system

An observer sees some of what the moves of a system do, one observation after the other; how many
moves lie between two observations he does not see.  Two states are alike if the same sequences of
observations can be made from them.  They need not be states of one system: a system of which all is
known serves as the measure of another.
-/

namespace Transition

/-- A system whose moves show an observer some observations, in order. -/
structure Observed (σ ο : Type*) where
  move : σ → List ο → σ → Prop

namespace Observed

variable {σ τ υ ο : Type*}

/-- Some moves, with all they show. -/
inductive Run (O : Observed σ ο) : σ → List ο → σ → Prop
  | nil (s : σ) : Run O s [] s
  | cons {s s₁ s' : σ} {os os' : List ο} (hmove : O.move s os s₁) (hrest : Run O s₁ os' s') :
      Run O s (os ++ os') s'

/-- These observations can be made from a state. -/
def Shows (O : Observed σ ο) (s : σ) (os : List ο) : Prop := ∃ s', O.Run s os s'

/-- The same observations can be made from either state. -/
def Alike (O : Observed σ ο) (P : Observed τ ο) (s : σ) (t : τ) : Prop :=
  ∀ os, O.Shows s os ↔ P.Shows t os

variable {O : Observed σ ο} {P : Observed τ ο} {Q : Observed υ ο}

/-- Being alike is symmetric. -/
theorem Alike.symm {s : σ} {t : τ} (h : O.Alike P s t) : P.Alike O t s := fun os => (h os).symm

/-- Being alike is transitive. -/
theorem Alike.trans {s : σ} {t : τ} {u : υ} (h : O.Alike P s t) (h' : P.Alike Q t u) :
    O.Alike Q s u :=
  fun os => (h os).trans (h' os)

/-! ### Runs -/

/-- One move is a run. -/
theorem Run.single {s s' : σ} {os : List ο} (h : O.move s os s') : O.Run s os s' := by
  have hrun : O.Run s (os ++ []) s' := .cons h (.nil s')
  rwa [List.append_nil] at hrun

/-- Runs compose, and so does what they show. -/
theorem Run.append {s s₁ s' : σ} {os os' : List ο} (h : O.Run s os s₁) (h' : O.Run s₁ os' s') :
    O.Run s (os ++ os') s' := by
  induction h with
  | nil s => exact h'
  | cons hmove _ ih =>
    rw [List.append_assoc]
    exact .cons hmove (ih h')

/-- Moves that show nothing, and then others. -/
theorem Run.after {s s₁ s' : σ} {os : List ο} (h : O.Run s [] s₁) (h' : O.Run s₁ os s') :
    O.Run s os s' :=
  h.append h'

/-- What can be shown after moves that show nothing can be shown. -/
theorem Shows.after {s s₁ : σ} {os : List ο} (h : O.Run s [] s₁) (h' : O.Shows s₁ os) :
    O.Shows s os := by
  obtain ⟨s', hrun⟩ := h'
  exact ⟨s', h.after hrun⟩

/-- The invariant rule: what every move keeps is kept, and what every move shows is all that is
shown. -/
theorem Run.keeps {I : σ → Prop} {seen : ο → Prop}
    (hmove : ∀ s os s', I s → O.move s os s' → I s' ∧ ∀ o ∈ os, seen o) {s s' : σ} {os : List ο}
    (h : O.Run s os s') (hs : I s) : I s' ∧ ∀ o ∈ os, seen o := by
  induction h with
  | nil s => exact ⟨hs, nofun⟩
  | cons hm _ ih =>
    obtain ⟨hI, hseen⟩ := hmove _ _ _ hs hm
    obtain ⟨hI', hseen'⟩ := ih hI
    exact ⟨hI', fun o ho => (List.mem_append.mp ho).elim (hseen o) (hseen' o)⟩

theorem Shows.keeps {I : σ → Prop} {seen : ο → Prop}
    (hmove : ∀ s os s', I s → O.move s os s' → I s' ∧ ∀ o ∈ os, seen o) {s : σ} {os : List ο}
    (h : O.Shows s os) (hs : I s) : ∀ o ∈ os, seen o := by
  obtain ⟨s', hrun⟩ := h
  exact (hrun.keeps hmove hs).2

/-- What one state shows and the other never does tells them apart. -/
theorem not_alike {I : τ → Prop} {seen : ο → Prop}
    (hmove : ∀ t os t', I t → P.move t os t' → I t' ∧ ∀ o ∈ os, seen o) {s : σ} {t : τ} (ht : I t)
    {os : List ο} (hs : O.Shows s os) {o : ο} (ho : o ∈ os) (hno : ¬ seen o) : ¬ O.Alike P s t :=
  fun h => hno (((h os).mp hs).keeps hmove ht o ho)

/-- What can be shown a limited number of times: if a number pays for every such observation and
never falls, its growth is what they cost. -/
theorem Run.counts {I : σ → Prop} {seen : ο → Bool} {paid : σ → Nat}
    (hmove : ∀ s os s', I s → O.move s os s' → I s' ∧ paid s + os.countP seen ≤ paid s') {s s' : σ}
    {os : List ο} (h : O.Run s os s') (hs : I s) : paid s + os.countP seen ≤ paid s' := by
  induction h with
  | nil s => exact Nat.le_refl _
  | cons hm _ ih =>
    obtain ⟨hI, hpaid⟩ := hmove _ _ _ hs hm
    have hrest := ih hI
    rw [List.countP_append]
    omega

/-- What may follow what: if every move that shows a first observation leads to states that only
show later ones, then only later ones follow a first one. -/
theorem Run.ordered {I J : σ → Prop} {first later : ο → Prop}
    (hmove : ∀ s os s', I s → O.move s os s' →
      I s' ∧ os.Pairwise (fun o o' => first o → later o') ∧ ((∃ o ∈ os, first o) → J s'))
    (hlater : ∀ s os s', J s → O.move s os s' → J s' ∧ ∀ o ∈ os, later o) {s s' : σ} {os : List ο}
    (h : O.Run s os s') (hs : I s) : os.Pairwise fun o o' => first o → later o' := by
  induction h with
  | nil s => exact List.Pairwise.nil
  | cons hm hrest ih =>
    obtain ⟨hI, hpair, hJ⟩ := hmove _ _ _ hs hm
    refine List.pairwise_append.mpr ⟨hpair, ih hI, fun o ho o' ho' hfirst => ?_⟩
    exact (hrest.keeps hlater (hJ ⟨o, ho, hfirst⟩)).2 o' ho'

/-! ### Simulations -/

/-- Every move of the first system is matched by moves of the second that show the same. -/
def Simulates (O : Observed σ ο) (P : Observed τ ο) (R : σ → τ → Prop) : Prop :=
  ∀ s t os s', R s t → O.move s os s' → ∃ t', P.Run t os t' ∧ R s' t'

/-- A run is matched by a run that shows the same. -/
theorem Simulates.run {R : σ → τ → Prop} (h : O.Simulates P R) {s s' : σ} {t : τ} {os : List ο}
    (hR : R s t) (hrun : O.Run s os s') : ∃ t', P.Run t os t' ∧ R s' t' := by
  induction hrun generalizing t with
  | nil s => exact ⟨t, .nil t, hR⟩
  | cons hmove _ ih =>
    obtain ⟨t₁, hrun₁, hR₁⟩ := h _ _ _ _ hR hmove
    obtain ⟨t', hrun', hR'⟩ := ih hR₁
    exact ⟨t', hrun₁.append hrun', hR'⟩

/-- What one state shows its match shows. -/
theorem Simulates.shows {R : σ → τ → Prop} (h : O.Simulates P R) {s : σ} {t : τ} {os : List ο}
    (hR : R s t) (hs : O.Shows s os) : P.Shows t os := by
  obtain ⟨s', hrun⟩ := hs
  obtain ⟨t', hrun', -⟩ := h.run hR hrun
  exact ⟨t', hrun'⟩

/-- Simulations both ways make states alike; the one back may first take moves that show nothing. -/
theorem Simulates.alike {R : σ → τ → Prop} {Q : τ → σ → Prop} (h : O.Simulates P R)
    (h' : P.Simulates O Q) {s s₁ : σ} {t : τ} (hR : R s t) (hrun : O.Run s [] s₁)
    (hQ : Q t s₁) : O.Alike P s t :=
  fun _ => ⟨h.shows hR, fun hshows => (h'.shows hQ hshows).after hrun⟩

end Observed

/-! ### Records that grow -/

section Grown

variable {ρ ο : Type*} {seen : ρ → ο} {before after : List ρ}

/-- What a record has grown by, as an observer sees its entries. -/
def grown (seen : ρ → ο) (before after : List ρ) : List ο := (after.drop before.length).map seen

/-- What an observer sees of a record that goes on is what it goes on with. -/
theorem grown_of_append {entries : List ρ} (h : after = before ++ entries) :
    grown seen before after = entries.map seen := by
  rw [grown, h, List.drop_left]

/-- Nothing is seen of a record that has not grown. -/
theorem grown_of_eq (h : after = before) : grown seen before after = [] :=
  grown_of_append (h.trans (List.append_nil _).symm)

/-- What is seen is an entry of what the record has grown by. -/
theorem exists_of_mem_grown {o : ο} {entries : List ρ} (h : after = before ++ entries)
    (ho : o ∈ grown seen before after) : ∃ entry ∈ entries, seen entry = o := by
  rw [grown_of_append h] at ho
  exact List.mem_map.mp ho

end Grown

/-! ### Transition systems -/

variable {σ α ο : Type*}

/-- The moves of a system under observation: an admitted action, which shows what `shown` makes of
the states around it, or an inspection, which changes nothing. -/
inductive System.Moves (S : System σ α) (admitted : α → Prop) (shown : σ → σ → List ο)
    (inspects : σ → ο → Prop) : σ → List ο → σ → Prop
  | step {s s' : σ} {a : α} (ha : admitted a) (hs : S.step s a = some s') :
      Moves S admitted shown inspects s (shown s s') s'
  | inspect {s : σ} {o : ο} (ho : inspects s o) : Moves S admitted shown inspects s [o] s

/-- A system under observation. -/
def System.observed (S : System σ α) (admitted : α → Prop) (shown : σ → σ → List ο)
    (inspects : σ → ο → Prop) : Observed σ ο where
  move := S.Moves admitted shown inspects

/-- An admitted step, with what it shows. -/
theorem System.run_step (S : System σ α) {admitted : α → Prop} {shown : σ → σ → List ο}
    {inspects : σ → ο → Prop} {s s' : σ} {a : α} {os : List ο} (ha : admitted a)
    (hs : S.step s a = some s') (h : shown s s' = os) :
    (S.observed admitted shown inspects).Run s os s' := by
  rw [← h]
  exact .single (.step ha hs)

end Transition
