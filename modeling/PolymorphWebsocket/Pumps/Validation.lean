import PolymorphWebsocket.Contract.Url
import PolymorphWebsocket.Js.Validation

/-!
# Eager validation across the hosts

What `connect` refuses before any network activity is the same on all hosts for the subprotocol
offers.  For the URLs it is not: the Rust implementations compare the scheme as it is spelled and look
for an `@` in the authority, the JavaScript host has the scheme in lower case and looks for a user
name or a password.  So `WS://host/` passes on the one side and `ws://@host/` on the other only.

The URL parsers are the `http` crate's and the platform's.  `ReadsUri` and `ReadsUrl` say what they
make of a URL that is written out of its parts, if they accept it.  Which ones they accept is theirs
to say, and not the same: a port past 65535 is refused by the platform's parser alone, a `<` in the
path by the crate's alone.
-/

namespace Polymorph

/-- The three validators accept the same offers, those of distinct tokens. -/
theorem validate_protocols_agree (printable : Char → Bool) (protocols : List String) :
    (Provider.validateProtocols printable protocols = .ok () ↔ ValidOffer protocols) ∧
    (Host.validateProtocols printable protocols = .ok () ↔ ValidOffer protocols) ∧
    (Js.validateProtocols protocols = .ok () ↔ ValidOffer protocols) :=
  ⟨Provider.validateProtocols_eq_ok_iff printable protocols,
    Host.validateProtocols_eq_ok_iff printable protocols, Js.validateProtocols_eq_ok_iff protocols⟩

/-! ### What the parsers make of a URL -/

theorem isOk_iff {ε α : Type} {result : Except ε α} :
    result.isOk = true ↔ ∃ a, result = .ok a := by
  cases result with
  | error e => exact ⟨nofun, nofun⟩
  | ok a => exact ⟨fun _ => ⟨a, rfl⟩, fun _ => rfl⟩

/-- What `http::Uri` makes of a URL: the authority as it is written, and the scheme, of which it
changes the letter case in `http` and `https` only. -/
structure ReadsUri (parse : String → Except String Uri) : Prop where
  scheme {u : Url} {uri : Uri} : parse u.text = .ok uri →
    uri.scheme = some u.scheme ∨
      lower u.scheme ∈ ["http", "https"] ∧ uri.scheme = some (lower u.scheme)
  host {u : Url} {uri : Uri} : parse u.text = .ok uri → ∃ host ∈ uri.host, host ≠ ""
  authority {u : Url} {uri : Uri} : parse u.text = .ok uri → uri.authority = some u.authority

/-- What the platform's `URL` makes of a URL of one of the two schemes: the scheme in lower case, and
no user name and no password if there is nothing in the userinfo but the colon between them. -/
structure ReadsUrl (parse : String → Except String Js.ParsedUrl) : Prop where
  protocol {u : Url} {parsed : Js.ParsedUrl} : parse u.text = .ok parsed →
    parsed.protocol = lower u.scheme ++ ":"
  hostname {u : Url} {parsed : Js.ParsedUrl} : u.IsWs → parse u.text = .ok parsed →
    parsed.hostname ≠ ""
  credentials {u : Url} {parsed : Js.ParsedUrl} : u.IsWs → parse u.text = .ok parsed →
    (parsed.username = "" ∧ parsed.password = "" ↔ ∀ i ∈ u.userinfo, i = "" ∨ i = ":")

/-! ### Parsers of that kind -/

/-- A parser that takes a text apart as `http::Uri` does. -/
def readUri (text : String) : Except String Uri :=
  .ok {
    scheme := some (String.ofList (Url.readScheme text.toList))
    host := some (String.ofList (Url.readHost (Url.readAuthority text.toList)))
    authority := some (String.ofList (Url.readAuthority text.toList)) }

/-- A parser that takes a text apart as the platform's `URL` does. -/
def readUrl (text : String) : Except String Js.ParsedUrl :=
  let userinfo := Url.readUserinfo (Url.readAuthority text.toList)
  .ok {
    protocol := lower (String.ofList (Url.readScheme text.toList)) ++ ":"
    hostname := String.ofList (Url.readHost (Url.readAuthority text.toList))
    username := String.ofList (userinfo.takeWhile (· ≠ ':'))
    password := String.ofList ((userinfo.dropWhile (· ≠ ':')).drop 1) }

theorem readHost_ne {u : Url} :
    String.ofList (Url.readHost (Url.readAuthority u.text.toList)) ≠ "" := by
  rw [Url.readAuthority_text]
  intro h
  have hnil := congrArg String.toList h
  rw [String.toList_ofList] at hnil
  exact Url.readHost_authority_ne hnil

theorem readsUri_readUri : ReadsUri readUri where
  scheme h := by
    obtain rfl := Except.ok.inj h
    rw [Url.readScheme_text, String.ofList_toList]
    exact .inl rfl
  host h := by
    obtain rfl := Except.ok.inj h
    exact ⟨_, rfl, readHost_ne⟩
  authority h := by
    obtain rfl := Except.ok.inj h
    rw [Url.readAuthority_text, String.ofList_toList]

/-- Nothing stands before and after the first colon of a text if it is empty or that colon. -/
theorem split_colon_eq_nil {text : List Char} :
    text.takeWhile (· ≠ ':') = [] ∧ (text.dropWhile (· ≠ ':')).drop 1 = [] ↔
      text = [] ∨ text = [':'] := by
  cases text with
  | nil => simp
  | cons c text =>
    by_cases hc : c = ':'
    · simp [hc]
    · simp [hc]

theorem readsUrl_readUrl : ReadsUrl readUrl where
  protocol h := by
    obtain rfl := Except.ok.inj h
    rw [Url.readScheme_text, String.ofList_toList]
  hostname _ h := by
    obtain rfl := Except.ok.inj h
    exact readHost_ne
  credentials {u} _ _ h := by
    obtain rfl := Except.ok.inj h
    have hempty : ∀ l, String.ofList l = "" ↔ l = [] := by
      intro l
      rw [← String.toList_eq_nil_iff, String.toList_ofList]
    have hcolon : ∀ i : String, i.toList = [':'] ↔ i = ":" := by
      intro i
      rw [← String.toList_inj]
      rfl
    simp only [hempty]
    rw [split_colon_eq_nil, Url.readAuthority_text, Url.readUserinfo_authority]
    cases u.userinfo with
    | none => simp
    | some i => simp [hcolon, String.toList_eq_nil_iff]

/-! ### Where the hosts agree -/

/-- The parser accepts the text. -/
def Accepts {α : Type} (parse : String → Except String α) (text : String) : Prop :=
  (parse text).isOk = true

instance {α : Type} (parse : String → Except String α) (text : String) :
    Decidable (Accepts parse text) :=
  inferInstanceAs (Decidable (_ = true))

/-- The URLs on which the hosts agree: those that both refuse for their fragment or scheme; without a
userinfo, those that the crate's parser accepts with a scheme in lower case exactly when the
platform's accepts them; with one, those that the platform's parser refuses or finds credentials
in. -/
def Url.Alike (parseUri : String → Except String Uri) (parse : String → Except String Js.ParsedUrl)
    (u : Url) : Prop :=
  u.fragment ≠ none ∨ ¬ u.IsWs ∨
    match u.userinfo with
    | none => (u.scheme = "ws" ∨ u.scheme = "wss") ∧ Accepts parseUri u.text ↔ Accepts parse u.text
    | some i => Accepts parse u.text → i ≠ "" ∧ i ≠ ":"

/-- The URLs that are spelled alike for both: a fragment, another scheme, a scheme in lower case and no
userinfo, or a userinfo with something in it. -/
def Url.SpelledAlike (u : Url) : Prop :=
  u.fragment ≠ none ∨ ¬ u.IsWs ∨
    match u.userinfo with
    | none => u.scheme = "ws" ∨ u.scheme = "wss"
    | some i => i ≠ "" ∧ i ≠ ":"

instance (u : Url) : Decidable u.SpelledAlike := by
  unfold Url.SpelledAlike
  cases u.userinfo <;> infer_instance

section Agreement

variable {printable : Char → Bool} {parseUri : String → Except String Uri}
  {parse : String → Except String Js.ParsedUrl} {u : Url}

/-- A scheme in lower case is one of the spellings. -/
theorem Url.isWs_of_scheme (h : u.scheme = "ws" ∨ u.scheme = "wss") : u.IsWs := by
  unfold Url.IsWs
  rcases h with h | h
  · rw [h]
    decide
  · rw [h]
    decide

/-- The two schemes are read as they are spelled. -/
theorem ReadsUri.scheme_iff (h : ReadsUri parseUri) {uri : Uri} (hparse : parseUri u.text = .ok uri) :
    uri.scheme = some "ws" ∨ uri.scheme = some "wss" ↔ u.scheme = "ws" ∨ u.scheme = "wss" := by
  rcases h.scheme hparse with heq | ⟨hhttp, heq⟩
  · rw [heq, Option.some.injEq, Option.some.injEq]
  · -- no spelling of `http` or `https` is one of `ws` or `wss`
    have hother : ¬ u.IsWs := by
      intro hws
      rcases List.mem_pair.mp hws with hws | hwss
      · rw [hws] at hhttp
        exact absurd hhttp (by decide)
      · rw [hwss] at hhttp
        exact absurd hhttp (by decide)
    rw [heq, Option.some.injEq, Option.some.injEq]
    exact iff_of_false (fun h => hother (List.mem_pair.mpr h)) fun h => hother (Url.isWs_of_scheme h)

/-- The Rust implementations accept a URL whose scheme is `ws` or `wss` as it is spelled, without
fragment and without an `@` in its authority. -/
theorem ReadsUri.validateUrl_iff (h : ReadsUri parseUri) :
    validateUrl printable parseUri u.text = .ok () ↔
      u.fragment = none ∧ (u.scheme = "ws" ∨ u.scheme = "wss") ∧ u.userinfo = none ∧
        Accepts parseUri u.text := by
  rw [validateUrl_eq_ok_iff, Url.hash_mem_text, Accepts, isOk_iff]
  constructor
  · rintro ⟨hfragment, uri, hparse, hscheme, -, hauthority⟩
    have hat := hauthority _ (h.authority hparse)
    rw [Url.at_mem_authority] at hat
    exact ⟨by simpa using hfragment, (h.scheme_iff hparse).mp hscheme, by simpa using hat, uri, hparse⟩
  · rintro ⟨hfragment, hscheme, huserinfo, uri, hparse⟩
    refine ⟨by simp [hfragment], uri, hparse, (h.scheme_iff hparse).mpr hscheme, h.host hparse, ?_⟩
    intro authority hauthority
    rw [h.authority hparse] at hauthority
    obtain rfl := Option.some.inj hauthority
    rw [Url.at_mem_authority, huserinfo]
    exact nofun

/-- The JavaScript host accepts a URL whose scheme is a spelling of `ws` or `wss`, without fragment
and with nothing but a colon in its userinfo. -/
theorem ReadsUrl.validateUrl_iff (h : ReadsUrl parse) :
    Js.validateUrl parse u.text = .ok () ↔
      u.fragment = none ∧ u.IsWs ∧ (∀ i ∈ u.userinfo, i = "" ∨ i = ":") ∧
        Accepts parse u.text := by
  rw [Js.validateUrl_eq_ok_iff, Url.hash_mem_text, Accepts, isOk_iff]
  have hprotocol : ∀ parsed, parse u.text = .ok parsed →
      (parsed.protocol = "ws:" ∨ parsed.protocol = "wss:" ↔ u.IsWs) := by
    intro parsed hparse
    have hws : ("ws:" : String) = "ws" ++ ":" := rfl
    have hwss : ("wss:" : String) = "wss" ++ ":" := rfl
    rw [h.protocol hparse, hws, hwss, String.append_left_inj, String.append_left_inj]
    simp [Url.IsWs]
  constructor
  · rintro ⟨hfragment, parsed, hparse, hscheme, -, huser⟩
    have hws := (hprotocol parsed hparse).mp hscheme
    exact ⟨by simpa using hfragment, hws, (h.credentials hws hparse).mp huser, parsed, hparse⟩
  · rintro ⟨hfragment, hws, huser, parsed, hparse⟩
    exact ⟨by simp [hfragment], parsed, hparse, (hprotocol parsed hparse).mpr hws,
      h.hostname hws hparse, (h.credentials hws hparse).mpr huser⟩

/-- Where both parsers accept the URL, its spelling decides. -/
theorem Url.alike_iff_of_accepts (huri : Accepts parseUri u.text) (hurl : Accepts parse u.text) :
    u.Alike parseUri parse ↔ u.SpelledAlike := by
  unfold Url.Alike Url.SpelledAlike
  cases u.userinfo with
  | none => simp only [huri, hurl, and_true, iff_true]
  | some i => simp only [hurl, true_implies]

/-- The validators accept a URL alike, and refuse it if it has a fragment or an `@` in its authority,
exactly when it is `Alike`. -/
theorem Url.alike_iff (huri : ReadsUri parseUri) (hurl : ReadsUrl parse) :
    ((validateUrl printable parseUri u.text = .ok () ↔ Js.validateUrl parse u.text = .ok ()) ∧
      (u.fragment ≠ none ∨ '@' ∈ u.authority.toList →
        validateUrl printable parseUri u.text ≠ .ok () ∧ Js.validateUrl parse u.text ≠ .ok ())) ↔
      u.Alike parseUri parse := by
  simp only [ne_eq, huri.validateUrl_iff, hurl.validateUrl_iff, Url.at_mem_authority]
  unfold Url.Alike
  by_cases hfragment : u.fragment = none
  · by_cases hws : u.IsWs
    · cases huserinfo : u.userinfo with
      | none => simp [hfragment, hws]
      | some i =>
        -- the crate's side refuses the `@`, so the platform's has to
        have hrefuses : ¬ ((i = "" ∨ i = ":") ∧ Accepts parse u.text) ↔
            (Accepts parse u.text → i ≠ "" ∧ i ≠ ":") := by
          rw [← not_or, imp_not_comm, not_and]
        simpa [hfragment, hws] using hrefuses
    · have hscheme : ¬ (u.scheme = "ws" ∨ u.scheme = "wss") := fun h => hws (Url.isWs_of_scheme h)
      simp [hws, hscheme]
  · simp [hfragment]

/-- The validators accept a URL alike, and refuse it if it has a fragment or an `@` in its authority,
exactly when it is `Alike`; on a URL that both parsers accept, exactly when it is spelled alike. -/
theorem validate_url_agree (huri : ReadsUri parseUri) (hurl : ReadsUrl parse) :
    (((validateUrl printable parseUri u.text = .ok () ↔ Js.validateUrl parse u.text = .ok ()) ∧
      (u.fragment ≠ none ∨ '@' ∈ u.authority.toList →
        validateUrl printable parseUri u.text ≠ .ok () ∧ Js.validateUrl parse u.text ≠ .ok ())) ↔
      u.Alike parseUri parse) ∧
    (Accepts parseUri u.text → Accepts parse u.text →
      (((validateUrl printable parseUri u.text = .ok () ↔ Js.validateUrl parse u.text = .ok ()) ∧
        (u.fragment ≠ none ∨ '@' ∈ u.authority.toList →
          validateUrl printable parseUri u.text ≠ .ok () ∧ Js.validateUrl parse u.text ≠ .ok ())) ↔
        u.SpelledAlike)) := by
  refine ⟨Url.alike_iff huri hurl, fun hacc hacc' => ?_⟩
  exact (Url.alike_iff huri hurl).trans (Url.alike_iff_of_accepts hacc hacc')

end Agreement

/-! ### The failing URLs -/

/-- A URL of a scheme and a userinfo. -/
def Url.plain (scheme : String) (userinfo : Option String)
    (scheme_head : ∃ c ∈ scheme.toList.head?, c.isAlpha)
    (scheme_chars : ∀ c ∈ scheme.toList, c.isAlphanum ∨ c ∈ ['+', '-', '.'])
    (userinfo_chars : ∀ i ∈ userinfo, ∀ c ∈ i.toList, c ∉ authorityEnds ∧ c ∉ removedChars) : Url where
  scheme := scheme
  userinfo := userinfo
  host := "a"
  port := none
  path := "/"
  query := none
  fragment := none
  scheme_head := scheme_head
  scheme_chars := scheme_chars
  userinfo_chars := userinfo_chars
  host_ne := by decide
  host_chars := by decide
  host_colon := by decide
  port_digits := nofun
  path_head := .inr rfl
  path_chars := by decide
  query_chars := nofun

/-- `WS://a/`. -/
def Url.upperCase : Url := .plain "WS" none ⟨'W', rfl, rfl⟩ (by decide) Url.no_userinfo

/-- `ws://@a/`. -/
def Url.emptyUserinfo : Url := .plain "ws" (some "") ⟨'w', rfl, rfl⟩ (by decide) (by simp)

/-- `wss://user:secret@a/`. -/
def Url.withUserinfo : Url :=
  .plain "wss" (some "user:secret") ⟨'w', rfl, rfl⟩ (by decide) (by rintro i ⟨⟩; decide)

/-- The hosts agree on a URL with credentials; they do not on one with an empty userinfo. -/
theorem validate_url_agree_credentials :
    (validateUrl (fun _ => true) readUri Url.withUserinfo.text ≠ .ok () ∧
      Js.validateUrl readUrl Url.withUserinfo.text ≠ .ok ()) ∧
    ¬ (validateUrl (fun _ => true) readUri Url.emptyUserinfo.text = .ok () ↔
        Js.validateUrl readUrl Url.emptyUserinfo.text = .ok ()) := by
  have hagree (u : Url) := (@validate_url_agree (fun _ => true) readUri readUrl u readsUri_readUri
    readsUrl_readUrl).2 rfl rfl
  refine ⟨((hagree .withUserinfo).mpr (by decide)).2 (.inr (by decide)), fun hsame => ?_⟩
  have hspelled : Url.emptyUserinfo.SpelledAlike :=
    (hagree .emptyUserinfo).mp ⟨hsame, fun _ => ⟨by decide, fun hjs => ?_⟩⟩
  · exact absurd hspelled (by decide)
  · exact absurd (hsame.mpr hjs) (by decide)

/-- One side refuses `WS://a/` and the other accepts it, and one side accepts `ws://@a/` although
there is an `@` in its authority. -/
theorem validate_url_disagree :
    Url.upperCase.text = "WS://a/" ∧
    ¬ (validateUrl (fun _ => true) readUri Url.upperCase.text = .ok () ↔
        Js.validateUrl readUrl Url.upperCase.text = .ok ()) ∧
    Url.emptyUserinfo.text = "ws://@a/" ∧
    ¬ ('@' ∈ Url.emptyUserinfo.authority.toList →
        Js.validateUrl readUrl Url.emptyUserinfo.text ≠ .ok ()) := by
  decide

end Polymorph
