import Mathlib.Data.List.Infix
import Mathlib.Logic.Function.Basic
import Mathlib.Logic.Relation

/-!
# A buffer that several tasks flush under one lock

Tasks append to a common buffer and flush it to a sink.  A flush takes the lock, drains the whole
buffer, and writes what it drained; the lock is held until the write is over.  A write that does
not complete marks the pipe dead, and a dead pipe is never written to again.

`FlushPipe.Step` is the behaviour of such a pipe and `FlushPipe.Sound` its invariant.  The point of
the discipline is `Sound.ok_of_drainEmpty` and `Sound.ok_of_complete`: whenever a flush returns
success, everything that was in the pipe when the flush was called has been accepted by the sink,
whichever task drained it.
-/

namespace Futures

/-- Where a task is inside a flush.  `mark` is what had been written when the flush was called. -/
inductive FlushStage (β : Type*)
  | idle
  | waiting (mark : List β)
  | writing (mark rest : List β)

/-- A buffer, the sink behind it, and the tasks that flush one into the other. -/
structure FlushPipe (τ β : Type*) where
  /-- Everything ever written into the buffer. -/
  written : List β
  buffer : List β
  /-- Everything the sink accepted. -/
  accepted : List β
  dead : Bool
  lock : Option τ
  stage : τ → FlushStage β

namespace FlushPipe

variable {τ β : Type*}

/-- The moves of a flush pipe. -/
inductive Step [DecidableEq τ] : FlushPipe τ β → FlushPipe τ β → Prop
  | write (p : FlushPipe τ β) (bytes : List β) :
      Step p { p with written := p.written ++ bytes, buffer := p.buffer ++ bytes }
  | call (p : FlushPipe τ β) {t : τ} {mark : List β} (hs : p.stage t = .idle)
      (hm : mark <+: p.written) :
      Step p { p with stage := Function.update p.stage t (.waiting mark) }
  | drainEmpty (p : FlushPipe τ β) {t : τ} {mark : List β} (hl : p.lock = none)
      (hs : p.stage t = .waiting mark) (hb : p.buffer = []) :
      Step p { p with stage := Function.update p.stage t .idle }
  | drainDead (p : FlushPipe τ β) {t : τ} {mark : List β} (hl : p.lock = none)
      (hs : p.stage t = .waiting mark) (hd : p.dead = true) :
      Step p { p with buffer := [], stage := Function.update p.stage t .idle }
  | start (p : FlushPipe τ β) {t : τ} {mark : List β} (hl : p.lock = none)
      (hs : p.stage t = .waiting mark) (hd : p.dead = false) :
      Step p { p with
        buffer := [], lock := some t
        stage := Function.update p.stage t (.writing mark p.buffer) }
  | accept (p : FlushPipe τ β) {t : τ} {mark rest : List β} (n : Nat) (hl : p.lock = some t)
      (hs : p.stage t = .writing mark rest) :
      Step p { p with
        accepted := p.accepted ++ rest.take n
        stage := Function.update p.stage t (.writing mark (rest.drop n)) }
  | complete (p : FlushPipe τ β) {t : τ} {mark : List β} (hs : p.stage t = .writing mark []) :
      Step p { p with lock := none, stage := Function.update p.stage t .idle }
  | fail (p : FlushPipe τ β) {t : τ} {mark rest : List β} (hs : p.stage t = .writing mark rest) :
      Step p { p with dead := true, lock := none, stage := Function.update p.stage t .idle }

/-- The invariant of a flush pipe: the lock holder is the task that writes, nobody writes to a dead
pipe, no byte of a live pipe is lost, and the mark of a flush is covered by what has been accepted
and what the flush still has to write. -/
structure Sound (p : FlushPipe τ β) : Prop where
  lock_iff : ∀ t, p.lock = some t ↔ ∃ mark rest, p.stage t = .writing mark rest
  dead_unlocked : p.dead = true → p.lock = none
  accepted_prefix : p.accepted <+: p.written
  conserve_unlocked : p.dead = false → p.lock = none → p.accepted ++ p.buffer = p.written
  conserve_writing : ∀ t mark rest, p.stage t = .writing mark rest →
    p.accepted ++ rest ++ p.buffer = p.written
  mark_waiting : ∀ t mark, p.stage t = .waiting mark → mark <+: p.written
  mark_writing : ∀ t mark rest, p.stage t = .writing mark rest → mark <+: p.accepted ++ rest

namespace Sound

variable {p p' : FlushPipe τ β}

/-- Only the lock holder writes. -/
theorem lock_of_writing (h : p.Sound) {t : τ} {mark rest : List β}
    (hs : p.stage t = .writing mark rest) : p.lock = some t :=
  (h.lock_iff t).mpr ⟨mark, rest, hs⟩

/-- A flush that finds nothing to drain in a live pipe has all it was called for accepted. -/
theorem ok_of_drainEmpty (h : p.Sound) {t : τ} {mark : List β} (hl : p.lock = none)
    (hs : p.stage t = .waiting mark) (hb : p.buffer = []) (hd : p.dead = false) :
    mark <+: p.accepted := by
  have hall : p.accepted = p.written := by
    simpa [hb] using h.conserve_unlocked hd hl
  exact hall ▸ h.mark_waiting t mark hs

/-- A flush whose write completes has all it was called for accepted. -/
theorem ok_of_complete (h : p.Sound) {t : τ} {mark : List β}
    (hs : p.stage t = .writing mark []) : mark <+: p.accepted := by
  simpa using h.mark_writing t mark [] hs

/-- In an unlocked pipe nobody writes. -/
theorem not_writing (h : p.Sound) (hl : p.lock = none) (t : τ) (mark rest : List β) :
    p.stage t ≠ .writing mark rest := by
  intro hs
  simp [h.lock_of_writing hs] at hl

/-- Another task than the lock holder does not write. -/
theorem not_writing_of_ne (h : p.Sound) {t t' : τ} (hl : p.lock = some t) (hne : t' ≠ t)
    (mark rest : List β) : p.stage t' ≠ .writing mark rest := by
  intro hs
  rw [h.lock_of_writing hs] at hl
  exact hne (Option.some.inj hl)

/-! ### Preservation -/

section Preservation

variable [DecidableEq τ]

/-- Who writes after a task went idle was writing before. -/
theorem writing_of_idle {t t' : τ} {mark rest : List β}
    (hs : Function.update p.stage t .idle t' = .writing mark rest) :
    p.stage t' = .writing mark rest ∧ t' ≠ t := by
  by_cases ht : t' = t
  · subst ht; simp at hs
  · exact ⟨by rwa [Function.update_of_ne ht] at hs, ht⟩

/-- Who waits after a task went idle was waiting before. -/
theorem waiting_of_idle {t t' : τ} {mark : List β}
    (hs : Function.update p.stage t .idle t' = .waiting mark) : p.stage t' = .waiting mark := by
  by_cases ht : t' = t
  · subst ht; simp at hs
  · rwa [Function.update_of_ne ht] at hs

/-- Who writes after a task was called to flush was writing before. -/
theorem writing_of_waiting {t t' : τ} {m mark rest : List β}
    (hs : Function.update p.stage t (.waiting m) t' = .writing mark rest) :
    p.stage t' = .writing mark rest ∧ t' ≠ t := by
  by_cases ht : t' = t
  · subst ht; simp at hs
  · exact ⟨by rwa [Function.update_of_ne ht] at hs, ht⟩

/-- Who waits after a task started to write was waiting before. -/
theorem waiting_of_writing {t t' : τ} {m r mark : List β}
    (hs : Function.update p.stage t (.writing m r) t' = .waiting mark) :
    p.stage t' = .waiting mark := by
  by_cases ht : t' = t
  · subst ht; simp at hs
  · rwa [Function.update_of_ne ht] at hs

/-- Who waits after a task was called to flush is that task or was waiting before. -/
theorem waiting_of_waiting {t t' : τ} {m mark : List β}
    (hs : Function.update p.stage t (.waiting m) t' = .waiting mark) :
    m = mark ∨ p.stage t' = .waiting mark := by
  by_cases ht : t' = t
  · subst ht
    exact .inl (by simpa using hs)
  · exact .inr (by rwa [Function.update_of_ne ht] at hs)

/-- Who writes after a task moved on in its write is that task or was writing before. -/
theorem writing_of_writing {t t' : τ} {m r mark rest : List β}
    (hs : Function.update p.stage t (.writing m r) t' = .writing mark rest) :
    (m = mark ∧ r = rest) ∨ (t' ≠ t ∧ p.stage t' = .writing mark rest) := by
  by_cases ht : t' = t
  · subst ht
    exact .inl (by simpa using hs)
  · exact .inr ⟨ht, by rwa [Function.update_of_ne ht] at hs⟩

/-- A task that was not writing may go idle: the lock keeps its holder. -/
theorem lock_iff_of_idle (h : p.Sound) {t : τ} (hs : ∀ mark rest, p.stage t ≠ .writing mark rest)
    (t' : τ) :
    p.lock = some t' ↔ ∃ mark rest, Function.update p.stage t .idle t' = .writing mark rest := by
  constructor
  · intro hl
    obtain ⟨mark, rest, hw⟩ := (h.lock_iff t').mp hl
    have ht : t' ≠ t := fun ht => hs mark rest (ht ▸ hw)
    exact ⟨mark, rest, by rwa [Function.update_of_ne ht]⟩
  · rintro ⟨mark, rest, hw⟩
    exact h.lock_of_writing (writing_of_idle hw).1

/-- When the task that writes goes idle, nobody writes any more. -/
theorem unlocked_of_idle (h : p.Sound) {t : τ} {m r : List β} (hs : p.stage t = .writing m r)
    (t' : τ) :
    none = some t' ↔ ∃ mark rest, Function.update p.stage t .idle t' = .writing mark rest := by
  refine ⟨fun hl => by simp at hl, ?_⟩
  rintro ⟨mark, rest, hw⟩
  obtain ⟨hw, ht⟩ := writing_of_idle hw
  exact (h.not_writing_of_ne (h.lock_of_writing hs) ht mark rest hw).elim

/-- Each move of a flush pipe keeps the invariant. -/
theorem step (h : p.Sound) (hstep : Step p p') : p'.Sound := by
  cases hstep with
  | write bytes =>
    refine ⟨h.lock_iff, h.dead_unlocked, h.accepted_prefix.trans (List.prefix_append _ _),
      fun hd hl => ?_, fun t mark rest hs => ?_, fun t mark hs => ?_, h.mark_writing⟩
    · simpa [List.append_assoc] using congrArg (· ++ bytes) (h.conserve_unlocked hd hl)
    · simpa [List.append_assoc] using congrArg (· ++ bytes) (h.conserve_writing t mark rest hs)
    · exact (h.mark_waiting t mark hs).trans (List.prefix_append _ _)
  | @call t mark hs hm =>
    refine ⟨fun t' => ?_, h.dead_unlocked, h.accepted_prefix, h.conserve_unlocked,
      fun t' m r hs' => h.conserve_writing t' m r (writing_of_waiting hs').1, fun t' m hs' => ?_,
      fun t' m r hs' => h.mark_writing t' m r (writing_of_waiting hs').1⟩
    · constructor
      · intro hl
        obtain ⟨m, r, hw⟩ := (h.lock_iff t').mp hl
        have ht : t' ≠ t := by
          rintro rfl
          rw [hs] at hw
          cases hw
        exact ⟨m, r, (Function.update_of_ne ht _ _).trans hw⟩
      · rintro ⟨m, r, hw⟩
        exact h.lock_of_writing (writing_of_waiting hw).1
    · rcases waiting_of_waiting hs' with rfl | hs'
      · exact hm
      · exact h.mark_waiting t' m hs'
  | @drainEmpty t mark hl hs hb =>
    have hw : ∀ m r, p.stage t ≠ .writing m r := h.not_writing hl t
    exact ⟨h.lock_iff_of_idle hw, h.dead_unlocked, h.accepted_prefix, h.conserve_unlocked,
      fun t' m r hs' => h.conserve_writing t' m r (writing_of_idle hs').1,
      fun t' m hs' => h.mark_waiting t' m (waiting_of_idle hs'),
      fun t' m r hs' => h.mark_writing t' m r (writing_of_idle hs').1⟩
  | @drainDead t mark hl hs hd =>
    have hw : ∀ m r, p.stage t ≠ .writing m r := h.not_writing hl t
    refine ⟨h.lock_iff_of_idle hw, h.dead_unlocked, h.accepted_prefix,
      fun hd' => by simp [hd] at hd', fun t' m r hs' => ?_,
      fun t' m hs' => h.mark_waiting t' m (waiting_of_idle hs'),
      fun t' m r hs' => h.mark_writing t' m r (writing_of_idle hs').1⟩
    exact (h.not_writing hl t' m r (writing_of_idle hs').1).elim
  | @start t mark hl hs hd =>
    have hall : p.accepted ++ p.buffer = p.written := h.conserve_unlocked hd hl
    refine ⟨fun t' => ?_, fun hd' => by simp [hd] at hd', h.accepted_prefix,
      fun _ hl' => by simp at hl', fun t' m r hs' => ?_,
      fun t' m hs' => h.mark_waiting t' m (waiting_of_writing hs'), fun t' m r hs' => ?_⟩
    · constructor
      · intro hl'
        obtain rfl : t = t' := Option.some.inj hl'
        exact ⟨mark, p.buffer, Function.update_self ..⟩
      · rintro ⟨m, r, hw⟩
        by_cases ht : t' = t
        · exact congrArg some ht.symm
        · exact (h.not_writing hl t' m r ((Function.update_of_ne ht _ _).symm.trans hw)).elim
    · rcases writing_of_writing hs' with ⟨rfl, rfl⟩ | ⟨-, hs'⟩
      · simpa using hall
      · exact (h.not_writing hl t' m r hs').elim
    · rcases writing_of_writing hs' with ⟨rfl, rfl⟩ | ⟨-, hs'⟩
      · exact hall ▸ h.mark_waiting t mark hs
      · exact (h.not_writing hl t' m r hs').elim
  | @accept t mark rest n hl hs =>
    have hall : p.accepted ++ rest.take n ++ rest.drop n = p.accepted ++ rest := by simp
    have hwritten : p.accepted ++ rest ++ p.buffer = p.written := h.conserve_writing t mark rest hs
    refine ⟨fun t' => ?_, h.dead_unlocked, ?_, fun _ hl' => by simp [hl] at hl',
      fun t' m r hs' => ?_, fun t' m hs' => h.mark_waiting t' m (waiting_of_writing hs'),
      fun t' m r hs' => ?_⟩
    · constructor
      · intro hl'
        obtain rfl : t = t' := Option.some.inj (hl.symm.trans hl')
        exact ⟨mark, rest.drop n, Function.update_self ..⟩
      · rintro ⟨m, r, hw⟩
        by_cases ht : t' = t
        · exact ht ▸ hl
        · exact h.lock_of_writing ((Function.update_of_ne ht _ _).symm.trans hw)
    · refine ⟨rest.drop n ++ p.buffer, ?_⟩
      rw [← List.append_assoc, hall]
      exact hwritten
    · rcases writing_of_writing hs' with ⟨rfl, rfl⟩ | ⟨ht, hs'⟩
      · exact (congrArg (· ++ p.buffer) hall).trans hwritten
      · exact (h.not_writing_of_ne hl ht m r hs').elim
    · rcases writing_of_writing hs' with ⟨rfl, rfl⟩ | ⟨ht, hs'⟩
      · exact hall ▸ h.mark_writing t mark rest hs
      · exact (h.not_writing_of_ne hl ht m r hs').elim
  | @complete t mark hs =>
    refine ⟨h.unlocked_of_idle hs, fun _ => rfl, h.accepted_prefix, fun _ _ => ?_,
      fun t' m r hs' => ?_, fun t' m hs' => h.mark_waiting t' m (waiting_of_idle hs'),
      fun t' m r hs' => h.mark_writing t' m r (writing_of_idle hs').1⟩
    · simpa using h.conserve_writing t mark [] hs
    · exact h.conserve_writing t' m r (writing_of_idle hs').1
  | @fail t mark rest hs =>
    exact ⟨h.unlocked_of_idle hs, fun _ => rfl, h.accepted_prefix, fun hd => by simp at hd,
      fun t' m r hs' => h.conserve_writing t' m r (writing_of_idle hs').1,
      fun t' m hs' => h.mark_waiting t' m (waiting_of_idle hs'),
      fun t' m r hs' => h.mark_writing t' m r (writing_of_idle hs').1⟩

/-- A run of a flush pipe keeps the invariant. -/
theorem run (h : p.Sound) (hrun : Relation.ReflTransGen Step p p') : p'.Sound := by
  induction hrun with
  | refl => exact h
  | tail _ hstep ih => exact ih.step hstep

end Preservation

end Sound

/-! ### What the sink accepts along a run -/

variable [DecidableEq τ] {p p' : FlushPipe τ β}

/-- A step only extends what the sink accepted, and leaves it alone once the pipe is dead. -/
theorem Step.accepted_prefix (hstep : Step p p') (h : p.Sound) :
    p.accepted <+: p'.accepted ∧ (p.dead = true → p'.accepted = p.accepted) := by
  cases hstep with
  | @accept t mark rest n hl hs =>
    refine ⟨List.prefix_append _ _, fun hd => ?_⟩
    simp [h.dead_unlocked hd] at hl
  | write | call | drainEmpty | drainDead | start | complete | fail =>
    exact ⟨List.prefix_rfl, fun _ => rfl⟩

/-- A step never revives a dead pipe. -/
theorem Step.dead (hstep : Step p p') (hd : p.dead = true) : p'.dead = true := by
  cases hstep <;> first | exact hd | rfl

/-- Along a run the sink only accepts more, and nothing once the pipe is dead. -/
theorem run_accepted (h : p.Sound) (hrun : Relation.ReflTransGen Step p p') :
    p.accepted <+: p'.accepted ∧
      (p.dead = true → p'.dead = true ∧ p'.accepted = p.accepted) := by
  induction hrun with
  | refl => exact ⟨List.prefix_rfl, fun hd => ⟨hd, rfl⟩⟩
  | tail hrun hstep ih =>
    obtain ⟨hpre, hdead⟩ := hstep.accepted_prefix (h.run hrun)
    refine ⟨ih.1.trans hpre, fun hd => ?_⟩
    obtain ⟨hd', heq⟩ := ih.2 hd
    exact ⟨hstep.dead hd', (hdead hd').trans heq⟩

end FlushPipe

end Futures
