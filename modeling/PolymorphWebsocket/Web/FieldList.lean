import Mathlib.Data.List.Basic

/-!
# Comma-separated lists in header fields

A list of elements is written into a field with a separator that is a comma and padding, and read back
by splitting at the commas and trimming.  Elements that have neither commas nor whitespace come back as
they were.
-/

namespace Web

/-- The `White_Space` property of Unicode. -/
def isWhitespace (c : Char) : Bool :=
  (0x09 ≤ c.toNat && c.toNat ≤ 0x0d) || (0x2000 ≤ c.toNat && c.toNat ≤ 0x200a) ||
    [0x20, 0x85, 0xa0, 0x1680, 0x2028, 0x2029, 0x202f, 0x205f, 0x3000].contains c.toNat

/-- A text without the whitespace at its ends. -/
def trim (text : List Char) : List Char :=
  ((text.dropWhile isWhitespace).reverse.dropWhile isWhitespace).reverse

/-- The elements of a text between the commas, trimmed. -/
def elements (text : String) : List String :=
  (text.toList.splitOn ',').map fun element => String.ofList (trim element)

theorem dropWhile_of_none {α : Type*} {p : α → Bool} {l : List α} (h : ∀ a ∈ l, p a = false) :
    l.dropWhile p = l := by
  cases l with
  | nil => rfl
  | cons a l => exact List.dropWhile_cons_of_neg (by simp [h a List.mem_cons_self])

/-- Padding in front of a text that has no whitespace is trimmed. -/
theorem trim_pad {pad text : List Char} (hpad : ∀ c ∈ pad, isWhitespace c = true)
    (htext : ∀ c ∈ text, isWhitespace c = false) : trim (pad ++ text) = text := by
  unfold trim
  rw [List.dropWhile_append_of_pos hpad, dropWhile_of_none htext, dropWhile_of_none,
    List.reverse_reverse]
  intro c hc
  exact htext c (List.mem_reverse.mp hc)

/-- The first element takes what stands before it. -/
theorem intercalate_append {α : Type*} (sep pad l : List α) (ls : List (List α)) :
    sep.intercalate ((pad ++ l) :: ls) = pad ++ sep.intercalate (l :: ls) := by
  cases ls with
  | nil => simp
  | cons l' ls => simp

/-- The padding of the separators belongs to the elements after them. -/
theorem intercalate_pad {α : Type*} (x : α) (pad l : List α) (ls : List (List α)) :
    (x :: pad).intercalate (l :: ls) = [x].intercalate (l :: ls.map (pad ++ ·)) := by
  induction ls generalizing l with
  | nil => simp
  | cons l' ls ih =>
    rw [List.map_cons, List.intercalate_cons_cons, List.intercalate_cons_cons, intercalate_append,
      ih l']
    simp

/-- A list that is written with padded separators is split into its elements, all but the first with
the padding. -/
theorem splitOn_intercalate_pad {α : Type*} [DecidableEq α] {x : α} {pad : List α}
    (hpad : x ∉ pad) {l : List α} {ls : List (List α)} (hls : ∀ l' ∈ l :: ls, x ∉ l') :
    ((x :: pad).intercalate (l :: ls)).splitOn x = l :: ls.map (pad ++ ·) := by
  rw [intercalate_pad]
  refine List.splitOn_intercalate x ?_ (List.cons_ne_nil _ _)
  intro l' hl'
  rcases List.mem_cons.mp hl' with rfl | hl'
  · exact hls _ List.mem_cons_self
  · obtain ⟨l'', hl'', rfl⟩ := List.mem_map.mp hl'
    rw [List.mem_append, not_or]
    exact ⟨hpad, hls l'' (List.mem_cons_of_mem _ hl'')⟩

/-- What is in a list of elements with separators is in an element or in a separator. -/
theorem forall_mem_intercalate {α : Type*} {P : α → Prop} {sep : List α} {ls : List (List α)}
    (hsep : ∀ a ∈ sep, P a) (hls : ∀ l ∈ ls, ∀ a ∈ l, P a) : ∀ a ∈ sep.intercalate ls, P a := by
  induction ls with
  | nil => exact nofun
  | cons l ls ih =>
    have hl := hls l List.mem_cons_self
    have hrest := ih fun l' hl' => hls l' (List.mem_cons_of_mem _ hl')
    cases ls with
    | nil => simpa using hl
    | cons l' ls =>
      intro a ha
      rw [List.intercalate_cons_cons, List.mem_append, List.mem_append] at ha
      rcases ha with (ha | ha) | ha
      · exact hl a ha
      · exact hsep a ha
      · exact hrest a ha

/-- A list of elements without commas and whitespace comes back from the field. -/
theorem elements_intercalate {fields : List String} (hne : fields ≠ [])
    (h : ∀ f ∈ fields, ∀ c ∈ f.toList, c ≠ ',' ∧ isWhitespace c = false) :
    elements (String.intercalate ", " fields) = fields := by
  obtain ⟨f, fs, rfl⟩ := List.exists_cons_of_ne_nil hne
  have hsplit : (String.intercalate ", " (f :: fs)).toList.splitOn ','
      = f.toList :: (fs.map String.toList).map ([' '] ++ ·) := by
    rw [String.toList_intercalate]
    refine splitOn_intercalate_pad (by decide) fun l hl hcomma => ?_
    obtain ⟨f', hf', rfl⟩ := List.mem_map.mp (show l ∈ (f :: fs).map String.toList from hl)
    exact (h f' hf' _ hcomma).1 rfl
  have htrim : ∀ pad, (∀ c ∈ pad, isWhitespace c = true) → ∀ f' ∈ f :: fs,
      String.ofList (trim (pad ++ f'.toList)) = f' := by
    intro pad hpad f' hf'
    rw [trim_pad hpad fun c hc => (h f' hf' c hc).2, String.ofList_toList]
  unfold elements
  rw [hsplit, List.map_cons, List.map_map, List.map_map]
  refine congrArg₂ List.cons (htrim [] nofun f List.mem_cons_self) ?_
  refine (List.map_congr_left fun f' hf' => ?_).trans (List.map_id fs)
  exact htrim [' '] (List.forall_mem_singleton.mpr rfl) f' (List.mem_cons_of_mem _ hf')

end Web
