import Mathlib.Logic.Relation

/-!
# Who keeps whom alive

Reference-counted values hold each other, and the roots (running tasks, handles of the embedder) are
held from outside.  A value lives while a root reaches it.  Without cycles this is what the counts
compute: a value is dropped when the last one that holds it is.

The end of a channel comes to its receiver once no sender lives.  A task that waits for that end
while it reaches a sender itself waits for its own end.
-/

namespace Futures

open Relation

/-- Values that hold each other, and the ones that are held from outside. -/
structure Ownership (ν : Type*) where
  root : ν → Prop
  holds : ν → ν → Prop

namespace Ownership

variable {ν : Type*} {G : Ownership ν} {m n : ν}

/-- A value lives while a root reaches it. -/
def Live (G : Ownership ν) (n : ν) : Prop := ∃ r, G.root r ∧ ReflTransGen G.holds r n

/-- A root lives. -/
theorem Live.of_root (h : G.root n) : G.Live n := ⟨n, h, .refl⟩

/-- What a live value holds lives. -/
theorem Live.of_holds (h : G.Live m) (hmn : G.holds m n) : G.Live n := by
  obtain ⟨r, hr, hreach⟩ := h
  exact ⟨r, hr, hreach.tail hmn⟩

end Ownership

end Futures
