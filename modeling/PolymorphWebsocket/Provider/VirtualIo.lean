import PolymorphWebsocket.Provider.State
import PolymorphWebsocket.Transition.System

/-!
# The guest provider: the virtual transport as a byte pipe

`IoHandle` and `VirtualIo` of `rust/guest-provider/src/io.rs`.  The pump feeds what the peer has sent
and drains what tungstenite has written; tungstenite reads and writes at the other end.  Each call
borrows the buffers to its end, so the calls of both sides interleave as wholes.

Beside the buffers stands what went in and what came out, call by call.  The inbound half holds what
has been fed and not yet read, the outbound half what has been written and not yet drained; what a
read without bytes says follows from that.
-/

namespace Polymorph.Provider

open Transition

/-- The error that `VirtualIo::read` returns, by its `ErrorKind`. -/
inductive IoError
  | wouldBlock
  deriving DecidableEq, Repr

/-- A call of `VirtualIo::read`: the bytes it has filled in, or its error. -/
abbrev IoRead (ι : Type*) := Except IoError (List ι)

namespace Buffers

variable {ι : Type*}

/-- The loop of `read`, which fills `n` slots; `none` is its `expect`, on an empty buffer. -/
def popFront : Nat → List ι → Option (List ι × List ι)
  | 0, inbound => some ([], inbound)
  | _ + 1, [] => none
  | n + 1, item :: inbound => (popFront n inbound).map fun (slots, rest) => (item :: slots, rest)

/-- `VirtualIo::read` with a buffer of `size` slots; `none` is a panic. -/
def read (b : Buffers ι) (size : Nat) : Option (IoRead ι × Buffers ι) :=
  if b.inbound.isEmpty then
    some (if b.eof then .ok [] else .error .wouldBlock, b)
  else
    (popFront (min size b.inbound.length) b.inbound).map fun (slots, rest) =>
      (.ok slots, { b with inbound := rest })

/-- The loop takes the front of the buffer off. -/
theorem popFront_of_le {n : Nat} {inbound : List ι} (h : n ≤ inbound.length) :
    popFront n inbound = some (inbound.take n, inbound.drop n) := by
  induction n generalizing inbound with
  | zero => rfl
  | succ n ih =>
    cases inbound with
    | nil => simp at h
    | cons item inbound =>
      unfold popFront
      rw [ih (Nat.le_of_succ_le_succ h)]
      rfl

/-- A read of an empty buffer. -/
theorem read_of_nil {b : Buffers ι} (h : b.inbound = []) (size : Nat) :
    b.read size = some (if b.eof then .ok [] else .error .wouldBlock, b) := by
  unfold read
  rw [h]
  rfl

/-- A read of a buffer that holds something: as much as fits. -/
theorem read_of_ne {b : Buffers ι} (h : b.inbound ≠ []) (size : Nat) :
    b.read size = some (.ok (b.inbound.take size), { b with inbound := b.inbound.drop size }) := by
  have htake : b.inbound.take (min size b.inbound.length) = b.inbound.take size := by
    rw [List.take_eq_take_iff]
    omega
  have hdrop : b.inbound.drop (min size b.inbound.length) = b.inbound.drop size := by
    rcases Nat.le_total size b.inbound.length with hle | hle
    · rw [Nat.min_eq_left hle]
    · rw [Nat.min_eq_right hle, List.drop_length, List.drop_eq_nil_of_le hle]
  unfold read
  rw [if_neg (by simpa using h), popFront_of_le (Nat.min_le_right _ _), htake, hdrop]
  rfl

end Buffers

/-! ### The pipe -/

/-- The buffers, with what every call of the two sides gave or got. -/
structure Pipe where
  io : Buffers UInt8
  /-- `set_eof` has been called. -/
  ended : Bool
  feeds : List Bytes
  /-- What the reads that returned bytes have returned. -/
  reads : List Bytes
  writes : List Bytes
  drains : List Bytes

namespace Pipe

/-- `IoHandle::new`. -/
def new : Pipe where
  io := .empty
  ended := false
  feeds := []
  reads := []
  writes := []
  drains := []

/-- A read, with what it returned. -/
def noteRead (p : Pipe) (result : IoRead UInt8 × Buffers UInt8) : Pipe :=
  match result.1 with
  | .ok bytes => { p with io := result.2, reads := p.reads ++ [bytes] }
  | .error _ => { p with io := result.2 }

end Pipe

/-- The calls on the two ends. -/
inductive PipeAction
  | feed (bytes : Bytes)
  | setEof
  | drainOutbound
  | read (size : Nat)
  | write (bytes : Bytes)
  | flush
  deriving DecidableEq, Repr

/-- The pipe after a call; a read that panics has none. -/
def pipeStep (p : Pipe) : PipeAction → Option Pipe
  | .feed bytes => some { p with io := p.io.feed bytes, feeds := p.feeds ++ [bytes] }
  | .setEof => some { p with io := p.io.setEof, ended := true }
  | .drainOutbound =>
    some { p with io := p.io.drainOutbound.2, drains := p.drains ++ [p.io.drainOutbound.1] }
  | .read size => (p.io.read size).map p.noteRead
  | .write bytes => some { p with io := p.io.write bytes, writes := p.writes ++ [bytes] }
  | .flush => some p

/-- The virtual transport under any interleaving of calls. -/
def pipeSystem : System Pipe PipeAction where
  init p := p = .new
  step := pipeStep

/-! ### What the buffers hold -/

namespace Pipe

variable {p p' : Pipe}

/-- The books of the pipe. -/
structure Sound (p : Pipe) : Prop where
  inbound : p.reads.flatten ++ p.io.inbound = p.feeds.flatten
  eof : p.io.eof = p.ended
  outbound : p.drains.flatten ++ p.io.outbound = p.writes.flatten

theorem Sound.step (h : p.Sound) {a : PipeAction} (hs : pipeStep p a = some p') : p'.Sound := by
  cases a with
  | feed bytes =>
    obtain rfl := Option.some.inj hs
    refine ⟨?_, h.eof, h.outbound⟩
    show p.reads.flatten ++ (p.io.inbound ++ bytes) = (p.feeds ++ [bytes]).flatten
    rw [← List.append_assoc, h.inbound, List.flatten_append, List.flatten_singleton]
  | setEof =>
    obtain rfl := Option.some.inj hs
    exact ⟨h.inbound, rfl, h.outbound⟩
  | drainOutbound =>
    obtain rfl := Option.some.inj hs
    refine ⟨h.inbound, h.eof, ?_⟩
    show (p.drains ++ [p.io.outbound]).flatten ++ [] = p.writes.flatten
    rw [List.append_nil, List.flatten_append, List.flatten_singleton, h.outbound]
  | read size =>
    obtain ⟨result, hread, rfl⟩ := Option.map_eq_some_iff.mp hs
    by_cases hin : p.io.inbound = []
    · rw [Buffers.read_of_nil hin] at hread
      obtain rfl := Option.some.inj hread
      unfold noteRead
      cases heof : p.io.eof with
      | true =>
        refine ⟨?_, h.eof, h.outbound⟩
        show (p.reads ++ [[]]).flatten ++ p.io.inbound = p.feeds.flatten
        rw [List.flatten_append, List.flatten_singleton, List.append_nil, h.inbound]
      | false => exact h
    · rw [Buffers.read_of_ne hin] at hread
      obtain rfl := Option.some.inj hread
      refine ⟨?_, h.eof, h.outbound⟩
      show (p.reads ++ [p.io.inbound.take size]).flatten ++ p.io.inbound.drop size = p.feeds.flatten
      rw [List.flatten_append, List.flatten_singleton, List.append_assoc, List.take_append_drop,
        h.inbound]
  | write bytes =>
    obtain rfl := Option.some.inj hs
    refine ⟨h.inbound, h.eof, ?_⟩
    show p.drains.flatten ++ (p.io.outbound ++ bytes) = (p.writes ++ [bytes]).flatten
    rw [← List.append_assoc, h.outbound, List.flatten_append, List.flatten_singleton]
  | flush =>
    obtain rfl := Option.some.inj hs
    exact h

theorem sound (h : pipeSystem.Reachable p) : p.Sound := by
  refine System.Reachable.induction (I := Sound) ?_ (fun _ _ _ _ hi hs => hi.step hs) h
  rintro p rfl
  exact ⟨rfl, rfl, rfl⟩

/-! ### A faithful pipe -/

/-- The reads return a prefix of what has been fed, and nothing is lost, repeated or reordered on the
way out; a read that returns no byte tells why. -/
structure Faithful (p : Pipe) : Prop where
  inbound : p.reads.flatten <+: p.feeds.flatten
  outbound : p.drains.flatten ++ p.io.outbound = p.writes.flatten
  /-- No read panics. -/
  total : ∀ size, (p.io.read size).isSome = true
  /-- `WouldBlock` says that all has been read and no end set. -/
  wouldBlock : ∀ size, (p.io.read size).map Prod.fst = some (.error .wouldBlock) ↔
    p.reads.flatten = p.feeds.flatten ∧ p.ended = false
  /-- `Ok(0)` says that all has been read and the end set. -/
  endOfFile : ∀ size, 0 < size → ((p.io.read size).map Prod.fst = some (.ok []) ↔
    p.reads.flatten = p.feeds.flatten ∧ p.ended = true)

/-- All that was fed has been read exactly when the inbound half is empty. -/
theorem Sound.read_all_iff (h : p.Sound) :
    p.reads.flatten = p.feeds.flatten ↔ p.io.inbound = [] := by
  rw [← h.inbound]
  exact List.self_eq_append_right

end Pipe

/-- Over every interleaving of the calls of its two ends the virtual transport is a byte pipe. -/
theorem virtual_io_faithful {p : Pipe} (h : pipeSystem.Reachable p) : p.Faithful := by
  have hsound := Pipe.sound h
  refine ⟨⟨p.io.inbound, hsound.inbound⟩, hsound.outbound, fun size => ?_, fun size => ?_,
    fun size hsize => ?_⟩
  · by_cases hin : p.io.inbound = []
    · rw [Buffers.read_of_nil hin]
      rfl
    · rw [Buffers.read_of_ne hin]
      rfl
  · rw [hsound.read_all_iff, ← hsound.eof]
    by_cases hin : p.io.inbound = []
    · rw [Buffers.read_of_nil hin]
      cases p.io.eof <;> simp [hin]
    · rw [Buffers.read_of_ne hin]
      simp [hin]
  · rw [hsound.read_all_iff, ← hsound.eof]
    by_cases hin : p.io.inbound = []
    · rw [Buffers.read_of_nil hin]
      cases p.io.eof <;> simp [hin]
    · rw [Buffers.read_of_ne hin]
      have htaken : p.io.inbound.take size ≠ [] := by
        intro hnil
        rcases List.take_eq_nil_iff.mp hnil with hzero | hempty
        · omega
        · exact hin hempty
      simp [hin, htaken]

/-- A read across two feeds while the end is set already, and a drain between two writes. -/
theorem virtual_io_faithful_across_feeds :
    ∃ p, pipeSystem.run .new
        [.feed [1, 2], .read 1, .write [7], .feed [3], .setEof, .drainOutbound, .write [8], .read 8,
          .read 4] = some p ∧
      p.reads = [[1], [2, 3], []] ∧ p.drains = [[7]] ∧ p.Faithful := by
  have hrun : pipeSystem.run .new
      [.feed [1, 2], .read 1, .write [7], .feed [3], .setEof, .drainOutbound, .write [8], .read 8,
        .read 4] = some _ := rfl
  have hnew : pipeSystem.Reachable .new := .of_init rfl
  exact ⟨_, hrun, rfl, rfl, virtual_io_faithful (hnew.run hrun)⟩

end Polymorph.Provider
