import PolymorphWebsocket.Contract.Offer

/-!
# The JavaScript host: eager validation

`validateUrl` and `validateProtocols` of `js/polyengine/websocket.ts`.  A string of JavaScript is a
sequence of UTF-16 code units; the host is handed strings without lone surrogates.  The URL parser
is the platform's.
-/

namespace Polymorph.Js

/-! ### Strings of the platform -/

/-- The UTF-16 code units of a character. -/
def utf16Units (c : Char) : List UInt16 :=
  if c.val < 0x10000 then [c.val.toUInt16]
  else
    let offset := c.val - 0x10000
    [(0xd800 : UInt16) + (offset >>> 10).toUInt16, (0xdc00 : UInt16) + (offset &&& 0x3ff).toUInt16]

/-- The UTF-16 code units of a string. -/
def utf16 (text : String) : List UInt16 := text.toList.flatMap utf16Units

/-- A character in a string literal of JSON. -/
def jsonChar (c : Char) : String :=
  match c.toNat with
  | 0x08 => "\\b"
  | 0x09 => "\\t"
  | 0x0a => "\\n"
  | 0x0c => "\\f"
  | 0x0d => "\\r"
  | 0x22 => "\\\""
  | 0x5c => "\\\\"
  | code =>
    if code < 0x20 then
      "\\u00" ++ String.ofList [Nat.digitChar (code / 16), Nat.digitChar (code % 16)]
    else String.ofList [c]

/-- `JSON.stringify` of a string. -/
def jsonStringify (text : String) : String :=
  "\"" ++ String.join (text.toList.map jsonChar) ++ "\""

/-! ### The URL -/

/-- The parts of a `URL` that are checked. -/
structure ParsedUrl where
  protocol : String
  hostname : String
  username : String
  password : String

/-- `validateUrl`; `parse` is the platform's `new URL(url)`, which throws with a message. -/
def validateUrl (parse : String → Except String ParsedUrl) (url : String) : Except Error Unit :=
  if url.toList.contains '#' then .error (.invalidUrl "URL must not have a fragment")
  else
    match parse url with
    | .error message => .error (.invalidUrl s!"URL does not parse: {message}")
    | .ok parsed =>
      if parsed.protocol ≠ "ws:" ∧ parsed.protocol ≠ "wss:" then
        .error (.invalidUrl
          s!"URL scheme must be ws or wss, not {jsonStringify parsed.protocol}")
      else if parsed.hostname = "" then .error (.invalidUrl "URL must have a host")
      else if parsed.username ≠ "" ∨ parsed.password ≠ "" then
        .error (.invalidUrl "URL must not have userinfo")
      else .ok ()

/-! ### The subprotocols -/

/-- The separators that a token must not have. -/
def tokenSeparators : String := "\"(),/:;<=>?@[\\]\x7b\x7d"

/-- `isValidProtocolToken`. -/
def isValidProtocolToken (token : String) : Bool :=
  !(utf16 token).isEmpty &&
    (utf16 token).all fun c => !(c ≤ 0x20 || c ≥ 0x7f) && !(utf16 tokenSeparators).contains c

/-- `validateProtocols`: each entry is a token, and the first of its kind. -/
def validateProtocols (protocols : List String) : Except Error Unit :=
  protocols.zipIdx.forM fun (protocol, i) =>
    if !isValidProtocolToken protocol then
      .error (.invalidArgument s!"subprotocol {jsonStringify protocol} is not a valid token")
    else if protocols.idxOf protocol ≠ i then
      .error (.invalidArgument s!"subprotocol {jsonStringify protocol} is offered twice")
    else .ok ()

/-! ### What is accepted -/

theorem validateUrl_eq_ok_iff {parse : String → Except String ParsedUrl} {url : String} :
    validateUrl parse url = .ok () ↔
      '#' ∉ url.toList ∧ ∃ parsed, parse url = .ok parsed ∧
        (parsed.protocol = "ws:" ∨ parsed.protocol = "wss:") ∧ parsed.hostname ≠ "" ∧
        parsed.username = "" ∧ parsed.password = "" := by
  unfold validateUrl
  rw [check_eq_ok_iff, List.contains_iff_mem]
  refine and_congr_right fun _ => ?_
  cases parse url with
  | error message => exact ⟨nofun, nofun⟩
  | ok parsed =>
    simp only [Except.ok.injEq, exists_eq_left']
    rw [check_eq_ok_iff, check_eq_ok_iff, check_eq_ok_iff]
    simp only [not_and_or, not_or, ne_eq, not_not, and_true]

theorem utf16Units_of_lt {c : Char} (h : c.toNat < 128) :
    utf16Units c = [UInt16.ofNat c.toNat] := by
  unfold utf16Units
  rw [if_pos (UInt32.lt_iff_toNat_lt.mpr (Nat.lt_trans h (by decide)))]
  rfl

/-- Outside of ASCII a character has a code unit that is outside of ASCII. -/
theorem exists_le_utf16Units {c : Char} (h : 128 ≤ c.toNat) : ∃ u ∈ utf16Units c, 128 ≤ u.toNat := by
  unfold utf16Units
  split
  · next hlt =>
    refine ⟨_, List.mem_singleton_self _, ?_⟩
    have hlt : c.toNat < 0x10000 := UInt32.lt_iff_toNat_lt.mp hlt
    rw [UInt32.toNat_toUInt16, Char.toNat_val, Nat.mod_eq_of_lt hlt]
    exact h
  · next hge =>
    refine ⟨_, List.mem_cons_self, ?_⟩
    have hlt : c.toNat < 0x110000 := by
      rcases c.valid with hlt | ⟨-, hlt⟩
      · exact Nat.lt_trans hlt (by decide)
      · exact hlt
    have hge : 0x10000 ≤ c.toNat := Nat.not_lt.mp fun hlt => hge (UInt32.lt_iff_toNat_lt.mpr hlt)
    have hoffset : (c.val - 0x10000).toNat = c.toNat - 0x10000 :=
      UInt32.toNat_sub_of_le _ _ (UInt32.le_iff_toNat_le.mpr hge)
    rw [UInt16.toNat_add, UInt32.toNat_toUInt16, UInt32.toNat_shiftRight, hoffset]
    show 128 ≤ (0xd800 + (c.toNat - 0x10000) >>> 10 % 2 ^ 16) % 2 ^ 16
    rw [Nat.shiftRight_eq_div_pow]
    omega

theorem utf16_eq_nil_iff {text : String} : utf16 text = [] ↔ text = "" := by
  have hunits : ∀ c, utf16Units c ≠ [] := by
    intro c
    unfold utf16Units
    split <;> exact List.cons_ne_nil _ _
  unfold utf16
  rw [List.flatMap_eq_nil_iff]
  constructor
  · intro hall
    rw [← String.toList_eq_nil_iff, List.eq_nil_iff_forall_not_mem]
    exact fun c hc => hunits c (hall c hc)
  · rintro rfl
    exact nofun

theorem isValidProtocolToken_iff (token : String) :
    isValidProtocolToken token = true ↔ IsToken token := by
  have hcodes : ∀ n < 128, (¬ (UInt16.ofNat n ≤ 0x20 ∨ UInt16.ofNat n ≥ 0x7f) ∧
      UInt16.ofNat n ∉ utf16 tokenSeparators) ↔ IsTokenChar (Char.ofNat n) := by
    decide +kernel
  have hunits : (∀ u ∈ utf16 token, ¬ (u ≤ 0x20 ∨ u ≥ 0x7f) ∧ u ∉ utf16 tokenSeparators) ↔
      ∀ c ∈ token.toList, IsTokenChar c := by
    refine (Web.forall_encoded_iff (fun c hlt => utf16Units_of_lt hlt) ?_ token.toList).trans ?_
    · intro c hc
      obtain ⟨u, hu, hle⟩ := exists_le_utf16Units hc
      refine ⟨u, hu, fun hP => hP.1 (.inr (UInt16.le_iff_toNat_le.mpr ?_))⟩
      exact Nat.le_trans (by decide) hle
    · exact forall₂_congr fun c _ => isTokenChar_iff_code
        (P := fun u : UInt16 => ¬ (u ≤ 0x20 ∨ u ≥ 0x7f) ∧ u ∉ utf16 tokenSeparators) hcodes c
  unfold isValidProtocolToken IsToken
  rw [Bool.and_eq_true, Bool.not_eq_true', ← Bool.not_eq_true, List.isEmpty_iff,
    utf16_eq_nil_iff, List.all_eq_true, ← hunits]
  simp

/-- `validateProtocols` accepts the valid offers. -/
theorem validateProtocols_eq_ok_iff (protocols : List String) :
    validateProtocols protocols = .ok () ↔ ValidOffer protocols := by
  unfold validateProtocols
  rw [forM_eq_ok_iff, validOffer_iff]
  refine forall₂_congr ?_
  rintro ⟨protocol, i⟩ hx
  rw [← isValidProtocolToken_iff]
  cases htoken : isValidProtocolToken protocol with
  | false => simp [htoken]
  | true => simp [htoken]

end Polymorph.Js
