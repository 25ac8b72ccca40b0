import Mathlib.Data.List.Infix

/-!
# A search through candidates

The candidates are tried one at a time, each is asked for or fails before that, and the search ends with the
first that is found, or with the error of the last.
-/

namespace Transition

variable {α ε : Type*} {candidates left asked : List α} {attempts : List (α × Except ε Unit)} {candidate : α}
  {err : ε}

/-- A search that tries one candidate after the other and has not found any: what has been tried has failed,
and of what is left only the first may have been asked for. -/
structure Searching (candidates : List α) (attempts : List (α × Except ε Unit)) (asked left : List α) :
    Prop where
  tried : attempts.map Prod.fst ++ left = candidates
  failed : ∀ attempt ∈ attempts, ∃ err, attempt.2 = .error err
  asked : asked.Sublist (attempts.map Prod.fst ++ left.take 1)

/-- A search that has found a candidate: the last that it has tried. -/
structure Found (candidates : List α) (attempts : List (α × Except ε Unit)) (asked : List α) : Prop where
  tried : attempts.map Prod.fst <+: candidates
  failed : ∀ attempt ∈ attempts.dropLast, ∃ err, attempt.2 = .error err
  last : ∃ candidate, attempts.getLast? = some (candidate, .ok ())
  asked : asked.Sublist (attempts.map Prod.fst)

/-- A search that ends without a candidate, with the error that it keeps. -/
structure Exhausted (candidates : List α) (attempts : List (α × Except ε Unit)) (asked : List α) (err : ε) :
    Prop where
  tried : Searching candidates attempts asked []
  last : candidates = [] ∨ ∃ candidate, attempts.getLast? = some (candidate, .error err)

theorem Searching.start (candidates : List α) :
    Searching candidates ([] : List (α × Except ε Unit)) [] candidates := by
  refine ⟨rfl, ?_, List.nil_sublist _⟩
  intro attempt hattempt
  cases hattempt

/-- The next candidate is asked for. -/
theorem Searching.ask (h : Searching candidates attempts asked (candidate :: left))
    (hasked : asked.Sublist (attempts.map Prod.fst)) :
    Searching candidates attempts (asked ++ [candidate]) (candidate :: left) :=
  ⟨h.tried, h.failed, hasked.append (List.Sublist.refl _)⟩

/-- The candidate fails. -/
theorem Searching.fail (h : Searching candidates attempts asked (candidate :: left)) (err : ε) :
    Searching candidates (attempts ++ [(candidate, Except.error err)]) asked left ∧
      asked.Sublist ((attempts ++ [(candidate, Except.error err)]).map Prod.fst) := by
  have hasked : asked.Sublist ((attempts ++ [(candidate, Except.error err)]).map Prod.fst) := by
    rw [List.map_append]
    exact h.asked
  refine ⟨⟨?_, ?_, hasked.trans (List.sublist_append_left _ _)⟩, hasked⟩
  · rw [← h.tried, List.map_append, List.append_assoc]
    rfl
  · intro attempt hattempt
    rcases List.mem_append.mp hattempt with hattempt | hattempt
    · exact h.failed attempt hattempt
    · obtain rfl := List.mem_singleton.mp hattempt
      exact ⟨err, rfl⟩

/-- The candidate is found. -/
theorem Searching.found (h : Searching candidates attempts asked (candidate :: left)) :
    Found candidates (attempts ++ [(candidate, .ok ())]) asked := by
  refine ⟨⟨left, ?_⟩, ?_, ⟨candidate, by simp⟩, ?_⟩
  · rw [← h.tried, List.map_append, List.append_assoc]
    rfl
  · rw [List.dropLast_concat]
    exact h.failed
  · rw [List.map_append]
    exact h.asked

/-- The candidate fails, and was the last. -/
theorem Searching.exhausted (h : Searching candidates attempts asked [candidate]) (err : ε) :
    Exhausted candidates (attempts ++ [(candidate, Except.error err)]) asked err :=
  ⟨(h.fail err).1, .inr ⟨candidate, by simp⟩⟩

/-! ### What a search has come to -/

/-- A search under way, ended by a find, ended without one, or given up. -/
inductive Searched (candidates : List α) (attempts : List (α × Except ε Unit)) (asked : List α) :
    Option (Except ε Unit) → Prop
  | searching (left : List α) (h : Searching candidates attempts asked left) :
      Searched candidates attempts asked none
  | found (h : Found candidates attempts asked) : Searched candidates attempts asked (some (.ok ()))
  | exhausted (err : ε) (h : Exhausted candidates attempts asked err) :
      Searched candidates attempts asked (some (.error err))

variable {result : Option (Except ε Unit)}

/-- The candidates are tried in order. -/
theorem Searched.tried (h : Searched candidates attempts asked result) :
    attempts.map Prod.fst <+: candidates := by
  cases h with
  | searching left h => exact ⟨left, h.tried⟩
  | found h => exact h.tried
  | exhausted err h => exact ⟨[], h.tried.tried⟩

/-- Each candidate is asked for in its turn, and at most once. -/
theorem Searched.asks (h : Searched candidates attempts asked result) : asked.Sublist candidates := by
  cases h with
  | searching left h =>
    rw [← h.tried]
    exact h.asked.trans (List.Sublist.append_left (List.take_sublist _ _) _)
  | found h => exact h.asked.trans h.tried.sublist
  | exhausted err h =>
    rw [← h.tried.tried]
    exact h.tried.asked

/-- All attempts but the last fail. -/
theorem Searched.fails (h : Searched candidates attempts asked result) :
    ∀ attempt ∈ attempts.dropLast, ∃ err, attempt.2 = .error err := by
  intro attempt hattempt
  cases h with
  | searching left h => exact h.failed attempt (List.mem_of_mem_dropLast hattempt)
  | found h => exact h.failed attempt hattempt
  | exhausted err h => exact h.tried.failed attempt (List.mem_of_mem_dropLast hattempt)

/-- A candidate is found when the last attempt succeeds. -/
theorem Searched.ok_iff (h : Searched candidates attempts asked result) :
    result = some (.ok ()) ↔ ∃ candidate, attempts.getLast? = some (candidate, .ok ()) := by
  have hfailed (hall : ∀ attempt ∈ attempts, ∃ err, attempt.2 = Except.error err) :
      ¬ ∃ candidate, attempts.getLast? = some (candidate, .ok ()) := by
    rintro ⟨candidate, hlast⟩
    obtain ⟨err, herr⟩ := hall _ (List.mem_of_getLast? hlast)
    cases herr
  cases h with
  | searching left h => exact iff_of_false (by simp) (hfailed h.failed)
  | found h => exact iff_of_true rfl h.last
  | exhausted err h => exact iff_of_false (by simp) (hfailed h.tried.failed)

/-- Without a find every candidate has been tried, and the error is the last one's. -/
theorem Searched.of_error {err : ε} (h : Searched candidates attempts asked (some (.error err))) :
    attempts.map Prod.fst = candidates ∧
      (candidates = [] ∨ ∃ candidate, attempts.getLast? = some (candidate, .error err)) := by
  cases h with
  | exhausted err h =>
    refine ⟨?_, h.last⟩
    have htried := h.tried.tried
    rwa [List.append_nil] at htried

end Transition
