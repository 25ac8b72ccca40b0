import Mathlib.Data.List.Basic
import PolymorphWebsocket.Contract.Offer

/-!
# The URL of a connection

The eager validation of `connect`'s `url`.  `Url` is a URL of the form
`scheme://[userinfo@]host[:port][/path][?query][#fragment]` in its parts, with no delimiter inside a
part that ends there, so that `Url.text` can be taken apart again.  `validateUrl` is that of both Rust
implementations, over the `Uri` that the parser makes of the text.
-/

namespace Polymorph

/-! ### URLs in their parts -/

/-- A text in lower case. -/
def lower (text : String) : String := String.ofList (text.toList.map Char.toLower)

/-- The characters that an authority ends at; the platform's parser takes a backslash for a slash. -/
def authorityEnds : List Char := ['/', '?', '#', '\\']

/-- The characters that the platform's parser removes before it reads a URL. -/
def removedChars : List Char := ['\t', '\n', '\r']

/-- A URL with an authority. -/
structure Url where
  scheme : String
  userinfo : Option String
  host : String
  port : Option String
  path : String
  query : Option String
  fragment : Option String
  scheme_head : ∃ c ∈ scheme.toList.head?, c.isAlpha
  scheme_chars : ∀ c ∈ scheme.toList, c.isAlphanum ∨ c ∈ ['+', '-', '.']
  userinfo_chars : ∀ i ∈ userinfo, ∀ c ∈ i.toList, c ∉ authorityEnds ∧ c ∉ removedChars
  host_ne : host ≠ ""
  host_chars : ∀ c ∈ host.toList, c ∉ authorityEnds ∧ c ≠ '@'
  /-- The host is an address in brackets, or has no colon. -/
  host_colon : ':' ∈ host.toList → '[' ∈ host.toList.head?
  port_digits : ∀ p ∈ port, ∀ c ∈ p.toList, c.isDigit
  path_head : path = "" ∨ '/' ∈ path.toList.head?
  path_chars : ∀ c ∈ path.toList, c ≠ '?' ∧ c ≠ '#'
  query_chars : ∀ q ∈ query, ∀ c ∈ q.toList, c ≠ '#'

namespace Url

/-- A part with the delimiter that introduces it. -/
def part (delimiter : Char) : Option String → List Char
  | some text => delimiter :: text.toList
  | none => []

/-- The userinfo with the delimiter that ends it. -/
def credentials : Option String → List Char
  | some text => text.toList ++ ['@']
  | none => []

variable (u : Url)

/-- The authority: host and port, after the userinfo. -/
def authority : String :=
  String.ofList (credentials u.userinfo ++ (u.host.toList ++ part ':' u.port))

/-- What follows the authority. -/
def rest : List Char := u.path.toList ++ (part '?' u.query ++ part '#' u.fragment)

/-- The URL as it is written. -/
def text : String :=
  String.ofList (u.scheme.toList ++ (':' :: '/' :: '/' :: (u.authority.toList ++ u.rest)))

/-- There is no character in a userinfo that is not there. -/
theorem no_userinfo : ∀ i ∈ (none : Option String),
    ∀ c ∈ i.toList, c ∉ authorityEnds ∧ c ∉ removedChars :=
  nofun

/-- The scheme is a spelling of `ws` or `wss`. -/
def IsWs : Prop := lower u.scheme ∈ ["ws", "wss"]

instance : Decidable u.IsWs := by unfold IsWs; infer_instance

variable {u}

theorem mem_part {delimiter c : Char} {text : Option String} :
    c ∈ part delimiter text ↔ ∃ s ∈ text, c = delimiter ∨ c ∈ s.toList := by
  cases text <;> simp [part]

theorem mem_credentials {c : Char} {userinfo : Option String} :
    c ∈ credentials userinfo ↔ ∃ i ∈ userinfo, c ∈ i.toList ∨ c = '@' := by
  cases userinfo <;> simp [credentials]

/-- A character of the authority does not end it. -/
theorem notMem_ends_of_mem_authority {c : Char} (hc : c ∈ u.authority.toList) :
    c ∉ authorityEnds := by
  unfold authority at hc
  rw [String.toList_ofList, List.mem_append, List.mem_append, mem_credentials, mem_part] at hc
  rcases hc with ⟨i, hi, hc | rfl⟩ | hc | ⟨p, hp, rfl | hc⟩
  · exact (u.userinfo_chars i hi c hc).1
  · decide
  · exact (u.host_chars c hc).1
  · decide
  · have hdigit := u.port_digits p hp c hc
    intro hmem
    simp only [authorityEnds, List.mem_cons, List.not_mem_nil, or_false] at hmem
    rcases hmem with rfl | rfl | rfl | rfl <;> cases hdigit

/-- The authority has an `@` if there is a userinfo, and only there. -/
theorem at_mem_authority : '@' ∈ u.authority.toList ↔ u.userinfo.isSome = true := by
  unfold authority
  rw [String.toList_ofList, List.mem_append, List.mem_append, mem_credentials, mem_part,
    Option.isSome_iff_exists]
  constructor
  · rintro (⟨i, hi, -⟩ | hhost | ⟨p, hp, heq | hc⟩)
    · exact ⟨i, hi⟩
    · exact absurd rfl (u.host_chars _ hhost).2
    · cases heq
    · cases u.port_digits p hp _ hc
  · rintro ⟨i, hi⟩
    exact .inl ⟨i, hi, .inr rfl⟩

/-- A character of the scheme is none of the delimiters. -/
theorem scheme_ne {c d : Char} (hc : c ∈ u.scheme.toList) (hd : d.isAlphanum = false)
    (hother : d ∉ ['+', '-', '.']) : c ≠ d := by
  rintro rfl
  rcases u.scheme_chars _ hc with h | h
  · rw [hd] at h
    cases h
  · exact hother h

/-- The text has a `#` if there is a fragment. -/
theorem hash_mem_text : '#' ∈ u.text.toList ↔ u.fragment.isSome = true := by
  unfold text rest
  rw [String.toList_ofList, Option.isSome_iff_exists]
  simp only [List.mem_append, List.mem_cons, mem_part]
  constructor
  · rintro (hscheme | hcolon | hslash | hslash | hauthority | hpath | ⟨q, hq, heq | hc⟩ | ⟨f, hf, -⟩)
    · exact absurd rfl (scheme_ne hscheme (by decide) (by decide))
    · cases hcolon
    · cases hslash
    · cases hslash
    · exact absurd (by decide) (notMem_ends_of_mem_authority hauthority)
    · exact absurd rfl (u.path_chars _ hpath).2
    · cases heq
    · exact absurd rfl (u.query_chars q hq _ hc)
    · exact ⟨f, hf⟩
  · rintro ⟨f, hf⟩
    exact .inr (.inr (.inr (.inr (.inr (.inr (.inr ⟨f, hf, .inl trivial⟩))))))

/-! ### A URL taken apart -/

/-- The scheme of a text. -/
def readScheme (text : List Char) : List Char := text.takeWhile (· ≠ ':')

/-- The authority of a text. -/
def readAuthority (text : List Char) : List Char :=
  ((text.dropWhile (· ≠ ':')).drop 3).takeWhile (· ∉ authorityEnds)

/-- The host and the port of an authority. -/
def readHostPort (authority : List Char) : List Char :=
  (authority.reverse.takeWhile (· ≠ '@')).reverse

/-- The host of an authority. -/
def readHost (authority : List Char) : List Char :=
  if (readHostPort authority).head? = some '[' then
    (readHostPort authority).takeWhile (· ≠ ']') ++ [']']
  else (readHostPort authority).takeWhile (· ≠ ':')

/-- The userinfo of an authority; there is none in one without an `@`. -/
def readUserinfo (authority : List Char) : List Char :=
  (authority.reverse.dropWhile (· ≠ '@')).tail.reverse

/-- A run of characters of one kind, and what does not begin with such a character. -/
theorem takeWhile_run {p : Char → Bool} {run after : List Char} (hrun : ∀ c ∈ run, p c = true)
    (hafter : ∀ c ∈ after.head?, p c = false) :
    (run ++ after).takeWhile p = run ∧ (run ++ after).dropWhile p = after := by
  have hnone : after.takeWhile p = [] ∧ after.dropWhile p = after := by
    cases after with
    | nil => exact ⟨rfl, rfl⟩
    | cons c after =>
      have hc := hafter c rfl
      exact ⟨List.takeWhile_cons_of_neg (by simp [hc]), List.dropWhile_cons_of_neg (by simp [hc])⟩
  rw [List.takeWhile_append_of_pos hrun, List.dropWhile_append_of_pos hrun, hnone.1, hnone.2]
  exact ⟨List.append_nil _, rfl⟩

theorem mem_ends_of_head_rest : ∀ c ∈ u.rest.head?, c ∈ authorityEnds := by
  unfold rest
  rcases u.path_head with hpath | hpath
  · rw [hpath]
    cases u.query with
    | some q =>
      rintro c ⟨⟩
      decide
    | none =>
      cases u.fragment with
      | some f =>
        rintro c ⟨⟩
        decide
      | none => exact nofun
  · intro c hc
    obtain ⟨after, hafter⟩ := List.head?_eq_some_iff.mp hpath
    rw [hafter] at hc
    obtain rfl := Option.some.inj hc
    decide

/-- The scheme ends at the first colon. -/
theorem text_runs : u.text.toList.takeWhile (· ≠ ':') = u.scheme.toList ∧
    u.text.toList.dropWhile (· ≠ ':') = ':' :: '/' :: '/' :: (u.authority.toList ++ u.rest) := by
  unfold text
  rw [String.toList_ofList]
  refine takeWhile_run (fun c hc => ?_) ?_
  · rw [decide_eq_true_iff]
    exact scheme_ne hc (by decide) (by decide)
  · rintro c ⟨⟩
    decide

theorem readScheme_text : readScheme u.text.toList = u.scheme.toList := text_runs.1

theorem readAuthority_text : readAuthority u.text.toList = u.authority.toList := by
  unfold readAuthority
  rw [text_runs.2]
  refine (takeWhile_run (fun c hc => ?_) fun c hc => ?_).1
  · rw [decide_eq_true_iff]
    exact notMem_ends_of_mem_authority hc
  · rw [decide_eq_false_iff_not, not_not]
    exact mem_ends_of_head_rest c hc

/-- The userinfo ends at the last `@`. -/
theorem authority_runs :
    u.authority.toList.reverse.takeWhile (· ≠ '@') = (u.host.toList ++ part ':' u.port).reverse ∧
    u.authority.toList.reverse.dropWhile (· ≠ '@') = (credentials u.userinfo).reverse := by
  unfold authority
  rw [String.toList_ofList, List.reverse_append]
  refine takeWhile_run (fun c hc => ?_) ?_
  · rw [List.mem_reverse, List.mem_append, mem_part] at hc
    rw [decide_eq_true_iff]
    rcases hc with hc | ⟨p, hp, rfl | hc⟩
    · exact (u.host_chars c hc).2
    · decide
    · rintro rfl
      cases u.port_digits p hp _ hc
  · cases u.userinfo with
    | none => exact nofun
    | some i =>
      rw [credentials, List.reverse_append]
      rintro c ⟨⟩
      decide

theorem readUserinfo_authority :
    readUserinfo u.authority.toList = u.userinfo.elim [] String.toList := by
  unfold readUserinfo
  rw [authority_runs.2]
  cases u.userinfo with
  | none => rfl
  | some i => simp [credentials]

/-- A host is read from the authority. -/
theorem readHost_authority_ne : readHost u.authority.toList ≠ [] := by
  unfold readHost readHostPort
  rw [authority_runs.1, List.reverse_reverse]
  split
  · exact List.append_ne_nil_of_right_ne_nil _ (List.cons_ne_nil _ _)
  · next hbracket =>
    obtain ⟨c, host, hhost⟩ : ∃ c host, u.host.toList = c :: host :=
      List.exists_cons_of_ne_nil fun h => u.host_ne (String.toList_eq_nil_iff.mp h)
    have hcolon : c ≠ ':' := by
      rintro rfl
      have hhead := u.host_colon (by rw [hhost]; exact List.mem_cons_self)
      rw [hhost] at hhead
      cases hhead
    rw [hhost, List.cons_append, List.takeWhile_cons_of_pos (by simpa using hcolon)]
    exact List.cons_ne_nil _ _

end Url

/-! ### The validation -/

/-- The parts of an `http::Uri` that are checked. -/
structure Uri where
  scheme : Option String
  host : Option String
  authority : Option String

/-- The check of the scheme in `validate_url`. -/
def checkScheme (printable : Char → Bool) : Option String → Except String Unit
  | some "ws" => .ok ()
  | some "wss" => .ok ()
  | some other => .error s!"URL scheme must be ws or wss, not {debugStr printable other}"
  | none => .error "URL must be absolute (ws: or wss:)"

/-- `validate_url`; `parse` is that of `http::Uri`, which fails with a message. -/
def validateUrl (printable : Char → Bool) (parse : String → Except String Uri) (url : String) :
    Except String Unit :=
  if '#' ∈ url.toList then .error "URL must not have a fragment"
  else
    match parse url with
    | .error err => .error s!"URL does not parse: {err}"
    | .ok uri =>
      match checkScheme printable uri.scheme with
      | .error err => .error err
      | .ok () =>
        if ∀ host ∈ uri.host, host = "" then .error "URL must have a host"
        else if ∃ authority ∈ uri.authority, '@' ∈ authority.toList then
          .error "URL must not have userinfo"
        else .ok ()

theorem checkScheme_eq_ok_iff {printable : Char → Bool} {scheme : Option String} :
    checkScheme printable scheme = .ok () ↔ scheme = some "ws" ∨ scheme = some "wss" := by
  unfold checkScheme
  split
  · simp
  · simp
  · next other hws hwss =>
    refine iff_of_false nofun ?_
    rintro (heq | heq)
    · exact hws (Option.some.inj heq)
    · exact hwss (Option.some.inj heq)
  · simp

theorem validateUrl_eq_ok_iff {printable : Char → Bool} {parse : String → Except String Uri}
    {url : String} :
    validateUrl printable parse url = .ok () ↔
      '#' ∉ url.toList ∧ ∃ uri, parse url = .ok uri ∧
        (uri.scheme = some "ws" ∨ uri.scheme = some "wss") ∧
        (∃ host ∈ uri.host, host ≠ "") ∧ ∀ authority ∈ uri.authority, '@' ∉ authority.toList := by
  unfold validateUrl
  rw [check_eq_ok_iff]
  refine and_congr_right fun _ => ?_
  cases parse url with
  | error err => exact ⟨nofun, nofun⟩
  | ok uri =>
    simp only [Except.ok.injEq, exists_eq_left']
    rw [← @checkScheme_eq_ok_iff printable]
    cases checkScheme printable uri.scheme with
    | error err => exact ⟨nofun, nofun⟩
    | ok u =>
      show (if _ then _ else _) = _ ↔ _
      rw [check_eq_ok_iff, check_eq_ok_iff]
      simp

end Polymorph
