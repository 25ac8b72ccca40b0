import Mathlib.Data.List.Nodup
import PolymorphWebsocket.Contract.Types
import PolymorphWebsocket.Web.Utf8

/-!
# The subprotocol offer

The eager validation of `connect`'s `protocols`.  `ValidOffer` is what the contract asks for: tokens
in the sense of RFC 2616, no two alike.  Both Rust implementations go over the bytes of an entry, with
the separators written out differently and diagnostics of their own; `checkOffer` is the loop they
share, `tokenBytes` the check of an entry.  An entry of ASCII characters has one byte for each, and
every other character has bytes outside of ASCII, so the bytes tell the same as the characters.
-/

namespace Polymorph

/-! ### Texts in diagnostics -/

/-- A character in a text under `{:?}`; `printable` is the Unicode table of what is shown as it is. -/
def debugChar (printable : Char → Bool) (c : Char) : String :=
  match c.toNat with
  | 0x00 => "\\0"
  | 0x09 => "\\t"
  | 0x0a => "\\n"
  | 0x0d => "\\r"
  | 0x22 => "\\\""
  | 0x5c => "\\\\"
  | code =>
    if printable c then String.ofList [c]
    else "\\u\x7b" ++ String.ofList (Nat.toDigits 16 code) ++ "\x7d"

/-- A text under `{:?}`. -/
def debugStr (printable : Char → Bool) (text : String) : String :=
  "\"" ++ String.join (text.toList.map (debugChar printable)) ++ "\""

/-! ### What the contract asks for -/

/-- The separators of RFC 2616. -/
def separators : List Char :=
  ['(', ')', '<', '>', '@', ',', ';', ':', '\\', '"', '/', '[', ']', '?', '=', '\x7b', '\x7d', ' ',
    '\t']

/-- A character that a token of RFC 2616 may have: it is of ASCII, no control and no separator. -/
def IsTokenChar (c : Char) : Prop :=
  c.toNat < 128 ∧ ¬ (c.toNat < 32 ∨ c.toNat = 127) ∧ c ∉ separators

instance (c : Char) : Decidable (IsTokenChar c) := by unfold IsTokenChar; infer_instance

/-- The codes that pass a check are those of the characters of a token. -/
theorem isTokenChar_iff_code {α : Type} {ascii : Nat → α} {P : α → Prop}
    (h : ∀ n < 128, P (ascii n) ↔ IsTokenChar (Char.ofNat n)) (c : Char) :
    c.toNat < 128 ∧ P (ascii c.toNat) ↔ IsTokenChar c := by
  constructor
  · rintro ⟨hlt, hP⟩
    rw [← Char.ofNat_toNat c]
    exact (h c.toNat hlt).mp hP
  · intro hc
    refine ⟨hc.1, (h c.toNat hc.1).mpr ?_⟩
    rwa [Char.ofNat_toNat]

/-- A token of RFC 2616. -/
def IsToken (text : String) : Prop := text ≠ "" ∧ ∀ c ∈ text.toList, IsTokenChar c

instance (text : String) : Decidable (IsToken text) := by unfold IsToken; infer_instance

/-- An offer of distinct tokens. -/
def ValidOffer (protocols : List String) : Prop := (∀ p ∈ protocols, IsToken p) ∧ protocols.Nodup

/-! ### The check of an entry -/

/-- `is_valid_protocol_token`, with the separators as bytes. -/
def tokenBytes (spelled : Bytes) (token : String) : Bool :=
  token ≠ "" && token.toUTF8.toList.all fun byte =>
    (0x21 ≤ byte && byte ≤ 0x7e) && !spelled.contains byte

/-- The separators are those of RFC 2616 among the bytes that the range lets through. -/
def SpellsSeparators (spelled : Bytes) : Prop :=
  ∀ n < 128, (0x21 ≤ UInt8.ofNat n ∧ UInt8.ofNat n ≤ 0x7e) ∧ UInt8.ofNat n ∉ spelled ↔
    IsTokenChar (Char.ofNat n)

instance (spelled : Bytes) : Decidable (SpellsSeparators spelled) := by
  unfold SpellsSeparators; infer_instance

theorem tokenBytes_iff {spelled : Bytes} (h : SpellsSeparators spelled) (token : String) :
    tokenBytes spelled token = true ↔ IsToken token := by
  have hbytes : (∀ byte ∈ token.toUTF8.toList,
      (0x21 ≤ byte ∧ byte ≤ 0x7e) ∧ byte ∉ spelled) ↔ ∀ c ∈ token.toList, IsTokenChar c := by
    rw [Web.forall_bytes_iff]
    · exact forall₂_congr fun c _ => isTokenChar_iff_code
        (P := fun byte : UInt8 => (0x21 ≤ byte ∧ byte ≤ 0x7e) ∧ byte ∉ spelled) h c
    · rintro byte ⟨⟨-, hle⟩, -⟩
      exact Nat.lt_of_le_of_lt (UInt8.le_iff_toNat_le.mp hle) (by decide)
  unfold tokenBytes IsToken
  rw [Bool.and_eq_true, decide_eq_true_iff, List.all_eq_true, ← hbytes]
  simp

/-! ### The check of an offer -/

/-- `validate_protocols` over the check of an entry, with the two diagnostics. -/
def checkOffer (isToken : String → Bool) (notToken twice : String → String)
    (protocols : List String) : Except String Unit :=
  protocols.zipIdx.forM fun (protocol, index) =>
    if !isToken protocol then .error (notToken protocol)
    else if (protocols.take index).contains protocol then .error (twice protocol)
    else .ok ()

/-- A check that is followed by others. -/
theorem check_eq_ok_iff {ε α : Type} {p : Prop} [Decidable p] {e : ε} {after : Except ε α} {a : α} :
    (if p then .error e else after) = .ok a ↔ ¬ p ∧ after = .ok a := by
  by_cases h : p
  · simp [h]
  · simp [h]

/-- A step that is followed by others. -/
theorem bind_eq_ok_iff {ε α β : Type} {x : Except ε α} {after : α → Except ε β} {b : β} :
    x >>= after = .ok b ↔ ∃ a, x = .ok a ∧ after a = .ok b := by
  cases x with
  | error e => exact ⟨nofun, nofun⟩
  | ok a => exact ⟨fun h => ⟨a, rfl, h⟩, fun ⟨_, h, hafter⟩ => Except.ok.inj h ▸ hafter⟩

/-- A loop of checks passes if each of them does. -/
theorem forM_eq_ok_iff {α ε : Type} {check : α → Except ε Unit} {l : List α} :
    l.forM check = .ok () ↔ ∀ a ∈ l, check a = .ok () := by
  induction l with
  | nil => exact ⟨fun _ => nofun, fun _ => rfl⟩
  | cons a l ih =>
    show (check a >>= fun _ => l.forM check) = .ok () ↔ _
    rw [List.forall_mem_cons, ← ih]
    cases check a with
    | error e => exact ⟨nofun, nofun⟩
    | ok u => exact ⟨fun h => ⟨rfl, h⟩, fun h => h.2⟩

/-- The entries of a list are distinct if each is the first of its kind. -/
theorem nodup_iff_idxOf {α : Type} [DecidableEq α] {l : List α} :
    l.Nodup ↔ ∀ x ∈ l.zipIdx, l.idxOf x.1 = x.2 := by
  constructor
  · rintro h ⟨a, i⟩ hx
    obtain ⟨hi, rfl⟩ := List.getElem?_eq_some_iff.mp (List.mk_mem_zipIdx_iff_getElem?.mp hx)
    exact h.idxOf_getElem i hi
  · intro h
    refine List.nodup_iff_injective_getElem.mpr fun i j hij => ?_
    have hfirst : ∀ k : Fin l.length, l.idxOf l[k] = k := fun k =>
      h (l[k], k) (List.mk_mem_zipIdx_iff_getElem?.mpr (List.getElem?_eq_getElem k.2))
    refine Fin.ext ?_
    rw [← hfirst i, ← hfirst j]
    exact congrArg l.idxOf hij

/-- No entry is one of those before it if each is the first of its kind. -/
theorem notMem_take_iff {α : Type} [DecidableEq α] {l : List α} {a : α} {i : Nat}
    (h : (a, i) ∈ l.zipIdx) : a ∉ l.take i ↔ l.idxOf a = i := by
  have hget := List.mk_mem_zipIdx_iff_getElem?.mp h
  have hmem := List.mem_of_getElem? hget
  have hle : l.idxOf a < i + 1 := by
    obtain ⟨hi, hai⟩ := List.getElem?_eq_some_iff.mp hget
    refine (List.mem_take_iff_idxOf_lt hmem).mp (List.mem_take_iff_getElem.mpr ⟨i, ?_, hai⟩)
    omega
  rw [List.mem_take_iff_idxOf_lt hmem]
  omega

/-- An offer is valid if each entry is a token and the first of its kind. -/
theorem validOffer_iff {protocols : List String} :
    ValidOffer protocols ↔
      ∀ x ∈ protocols.zipIdx, IsToken x.1 ∧ protocols.idxOf x.1 = x.2 := by
  unfold ValidOffer
  rw [nodup_iff_idxOf, forall₂_and]
  refine and_congr_left fun _ => ?_
  constructor
  · rintro hall ⟨p, i⟩ hx
    exact hall p (List.mem_of_getElem? (List.mk_mem_zipIdx_iff_getElem?.mp hx))
  · intro hall p hp
    obtain ⟨i, hi⟩ := List.getElem?_of_mem hp
    exact hall (p, i) (List.mk_mem_zipIdx_iff_getElem?.mpr hi)

theorem checkOffer_eq_ok_iff {isToken : String → Bool} {notToken twice : String → String}
    (h : ∀ token, isToken token = true ↔ IsToken token) (protocols : List String) :
    checkOffer isToken notToken twice protocols = .ok () ↔ ValidOffer protocols := by
  unfold checkOffer
  rw [forM_eq_ok_iff, validOffer_iff]
  refine forall₂_congr ?_
  rintro ⟨protocol, index⟩ hx
  rw [← h, ← notMem_take_iff hx]
  cases htoken : isToken protocol with
  | false => simp [htoken]
  | true => simp [htoken]

/-! ### The two implementations -/

namespace Provider

/-- The byte string of `is_valid_protocol_token`. -/
def tokenSeparators : Bytes := "()<>@,;:\\\"/[]?=\x7b\x7d ".toUTF8.toList

/-- `is_valid_protocol_token` of the guest provider. -/
def isValidProtocolToken (protocol : String) : Bool := tokenBytes tokenSeparators protocol

/-- `validate_protocols` of the guest provider. -/
def validateProtocols (printable : Char → Bool) (protocols : List String) : Except String Unit :=
  checkOffer isValidProtocolToken
    (fun protocol => s!"invalid subprotocol {debugStr printable protocol}")
    (fun protocol => s!"subprotocol {debugStr printable protocol} offered twice") protocols

theorem spellsSeparators : SpellsSeparators tokenSeparators := by
  unfold tokenSeparators
  rw [Web.toUTF8_toList]
  decide +kernel

theorem isValidProtocolToken_iff (protocol : String) :
    isValidProtocolToken protocol = true ↔ IsToken protocol :=
  tokenBytes_iff spellsSeparators protocol

theorem validateProtocols_eq_ok_iff (printable : Char → Bool) (protocols : List String) :
    validateProtocols printable protocols = .ok () ↔ ValidOffer protocols :=
  checkOffer_eq_ok_iff isValidProtocolToken_iff protocols

end Provider

namespace Host

/-- The byte string of `is_valid_protocol_token`. -/
def tokenSeparators : Bytes := "\"(),/:;<=>?@[\\]\x7b\x7d".toUTF8.toList

/-- `is_valid_protocol_token` of the wasmtime host. -/
def isValidProtocolToken (token : String) : Bool := tokenBytes tokenSeparators token

/-- `validate_protocols` of the wasmtime host. -/
def validateProtocols (printable : Char → Bool) (protocols : List String) : Except String Unit :=
  checkOffer isValidProtocolToken
    (fun protocol => s!"subprotocol {debugStr printable protocol} is not a valid token")
    (fun protocol => s!"subprotocol {debugStr printable protocol} is offered twice") protocols

theorem spellsSeparators : SpellsSeparators tokenSeparators := by
  unfold tokenSeparators
  rw [Web.toUTF8_toList]
  decide +kernel

theorem isValidProtocolToken_iff (token : String) :
    isValidProtocolToken token = true ↔ IsToken token :=
  tokenBytes_iff spellsSeparators token

theorem validateProtocols_eq_ok_iff (printable : Char → Bool) (protocols : List String) :
    validateProtocols printable protocols = .ok () ↔ ValidOffer protocols :=
  checkOffer_eq_ok_iff isValidProtocolToken_iff protocols

end Host

end Polymorph
