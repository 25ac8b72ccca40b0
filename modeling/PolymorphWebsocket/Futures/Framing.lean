import Mathlib.Algebra.BigOperators.Group.List.Basic
import Mathlib.Algebra.GroupWithZero.Nat
import Mathlib.Data.List.Flatten

/-!
# Frames on a byte stream

A frame occupies a number of cells of a byte stream, one for each of its bytes.  The decoder that
reads the stream sees nothing of a frame but that another cell has come, until the last cell, which
completes it.  A frame's other cells are therefore alike, and the last one carries the frame.

A stretch of a stream is *framed* when it is the rest of a sequence of frames of which the reader has
heard the first few cells.
-/

namespace Futures

/-- One byte of a stream of frames. -/
inductive Cell (φ : Type*)
  /-- A byte before the last one of its frame. -/
  | part
  /-- The last byte of this frame. -/
  | last (frame : φ)
  deriving DecidableEq, Repr

namespace Cell

variable {φ : Type*}

/-- The frame a cell completes. -/
def frame? : Cell φ → Option φ
  | part => none
  | last frame => some frame

/-- The frames that some cells complete. -/
def frames (cells : List (Cell φ)) : List φ := cells.filterMap frame?

@[simp] theorem frames_nil : frames ([] : List (Cell φ)) = [] := rfl

@[simp] theorem frames_append (cells cells' : List (Cell φ)) :
    frames (cells ++ cells') = frames cells ++ frames cells' :=
  List.filterMap_append

@[simp] theorem frames_part (cells : List (Cell φ)) : frames (part :: cells) = frames cells := rfl

@[simp] theorem frames_last (frame : φ) (cells : List (Cell φ)) :
    frames (last frame :: cells) = frame :: frames cells := rfl

@[simp] theorem frames_replicate (n : Nat) : frames (List.replicate n (part : Cell φ)) = [] := by
  induction n with
  | zero => rfl
  | succ n ih => exact ih

variable (parts : φ → Nat)

/-- The cells of a frame; `parts` counts those before the last one. -/
def encode (frame : φ) : List (Cell φ) := List.replicate (parts frame) part ++ [last frame]

/-- How many cells some frames occupy. -/
def size (fs : List φ) : Nat := (fs.map fun frame => parts frame + 1).sum

/-- No frame takes no cell. -/
@[simp] theorem size_nil : size parts ([] : List φ) = 0 := rfl

/-- A frame takes its parts and its last cell. -/
theorem size_cons (frame : φ) (fs : List φ) :
    size parts (frame :: fs) = parts frame + 1 + size parts fs :=
  List.sum_cons

/-- A frame is encoded as its parts and its last cell. -/
@[simp] theorem length_encode (frame : φ) : (encode parts frame).length = parts frame + 1 := by
  unfold encode
  rw [List.length_append, List.length_replicate, List.length_singleton]

/-- The cells of a frame hold that frame. -/
@[simp] theorem frames_encode (frame : φ) : frames (encode parts frame) = [frame] := by
  unfold encode
  rw [frames_append, frames_replicate, List.nil_append, frames_last, frames_nil]

/-- The cells of frames. -/
theorem length_flatMap_encode (fs : List φ) :
    (fs.flatMap (encode parts)).length = size parts fs := by
  induction fs with
  | nil => rfl
  | cons frame fs ih =>
    rw [List.flatMap_cons, List.length_append, length_encode, ih, size_cons]

variable {parts}

/-- The cells are the rest of the frames they complete, after the first `heard` cells. -/
def Framed (parts : φ → Nat) (heard : Nat) (cells : List (Cell φ)) : Prop :=
  List.replicate heard part ++ cells = (frames cells).flatMap (encode parts)

/-- No cell holds no frame. -/
theorem framed_nil : Framed parts 0 ([] : List (Cell φ)) := rfl

variable {heard : Nat} {cells : List (Cell φ)}

/-- Another frame is written. -/
theorem Framed.write (h : Framed parts heard cells) (frame : φ) :
    Framed parts heard (cells ++ encode parts frame) := by
  unfold Framed at *
  rw [← List.append_assoc, h, frames_append, frames_encode, List.flatMap_append,
    List.flatMap_cons, List.flatMap_nil, List.append_nil]

/-- The reader hears another cell. -/
theorem Framed.hear (h : Framed parts heard (part :: cells)) : Framed parts (heard + 1) cells := by
  unfold Framed at *
  rw [frames_part] at h
  rw [← h, List.replicate_succ', List.append_assoc]
  rfl

/-- As many cells alike come before the last cell of the frame on either side. -/
theorem replicate_part_append_last {m n : Nat} {frame frame' : φ} {cells cells' : List (Cell φ)}
    (h : List.replicate m part ++ last frame :: cells =
      List.replicate n part ++ last frame' :: cells') : m = n ∧ cells = cells' := by
  induction m generalizing n with
  | zero =>
    cases n with
    | zero =>
      cases h
      exact ⟨rfl, rfl⟩
    | succ n => cases h
  | succ m ih =>
    cases n with
    | zero => cases h
    | succ n =>
      rw [List.replicate_succ, List.replicate_succ, List.cons_append, List.cons_append] at h
      obtain ⟨hmn, hcells⟩ := ih (List.cons.inj h).2
      exact ⟨congrArg Nat.succ hmn, hcells⟩

/-- The reader hears the last cell of a frame. -/
theorem Framed.complete {frame : φ} (h : Framed parts heard (last frame :: cells)) :
    heard = parts frame ∧ Framed parts 0 cells := by
  unfold Framed at *
  rw [frames_last, List.flatMap_cons] at h
  unfold encode at h
  rw [List.append_assoc] at h
  exact replicate_part_append_last h

/-- The frames occupy the cells at least. -/
theorem Framed.length_le (h : Framed parts heard cells) : cells.length ≤ size parts (frames cells) := by
  have hlength := congrArg List.length h
  rw [List.length_append, List.length_replicate, length_flatMap_encode] at hlength
  omega

end Cell

end Futures
