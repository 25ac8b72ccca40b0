import PolymorphWebsocket.Contract.Url
import PolymorphWebsocket.Provider.Protocol
import PolymorphWebsocket.Web.FieldList

/-!
# The guest provider: `connect`

`connect` and `establish` of `rust/guest-provider/src/connect.rs`, from the eager validation over the
upgrade request to the check of the negotiated subprotocol, and how the suite's server reads the offer.
The URL parser, the header values of the `http` crate, the sockets, TLS and tungstenite's handshake are
parameters; the handshake answers in rounds, and one that is out of rounds is still under way when the
deadline comes.

A token has neither commas nor whitespace and is written in visible ASCII.  So a valid offer is always
a header value, and is read back from it as it was.
-/

namespace Polymorph.Provider

/-! ### What `connect` is built on -/

/-- The header values of the `http` crate. -/
structure HeaderValues (H : Type) where
  /-- `HeaderValue::from_str`. -/
  parse : String → Option H
  /-- `HeaderValue::to_str`. -/
  toStr : H → Option String
  /-- Visible ASCII characters and spaces make a header value, which is read back as that text. -/
  visible : ∀ text : String, (∀ c ∈ text.toList, 0x20 ≤ c.toNat ∧ c.toNat ≤ 0x7e) →
    ∃ value, parse text = some value ∧ toStr value = some text

/-- `Config`, as far as `connect` reads it. -/
structure ConnectConfig extends Config where
  /-- A `Duration` of whole milliseconds. -/
  connectTimeoutMs : Nat
  tlsRootsPem : Option String

/-- An answer of `pending.handshake()`, with what the transport does about it. -/
inductive Round (C H : Type)
  /-- The connection is established; the subprotocol header of the response, if it has one, and what
  the handshake has left in the virtual transport. -/
  | ok (ws : C) (selected : Option H) (io : Buffers Inbound)
  /-- The handshake waits for the transport: what it wants written and what of that is not, or a read
  of the transport. -/
  | interrupted (outbound unwritten : Bytes) (dropped : Bool) (chunk : Bytes)
  | failure (err : String)

/-- The code that `connect` calls. -/
structure Platform (T : Tungstenite) (H : Type) extends HeaderValues H where
  /-- `url.parse::<http::Uri>()`. -/
  parseUri : String → Except String Uri
  /-- `parse_pem_certificates`. -/
  parsePem : String → Except String Unit
  /-- `resolve` and `connect_first`. -/
  socket : Uri → Except String Unit
  /-- The handshake of the TLS connector. -/
  tls : Uri → Except String Unit
  /-- `into_client_request`. -/
  clientRequest : String → Except String Unit
  /-- `ClientHandshake::start`, with the subprotocol headers of the request. -/
  start : List H → Except String Unit
  /-- The rounds of the handshake until the deadline. -/
  rounds : List H → List (Round T.Ctx H)

/-- A `Duration` of whole milliseconds under `{:?}`. -/
def debugMillis (ms : Nat) : String :=
  if 1000 ≤ ms then
    let digits := [ms / 100 % 10, ms / 10 % 10, ms % 10]
    let fraction := (digits.reverse.dropWhile (· = 0)).reverse
    if fraction = [] then s!"{ms / 1000}s"
    else s!"{ms / 1000}." ++ String.ofList (fraction.map Nat.digitChar) ++ "s"
  else if 0 < ms then s!"{ms}ms"
  else "0ns"

/-! ### The offer -/

/-- The header of the offer in `establish`. -/
def offerHeader {H : Type} (V : HeaderValues H) (protocols : List String) : Except String (List H) :=
  if protocols = [] then .ok []
  else
    match V.parse (String.intercalate ", " protocols) with
    | some value => .ok [value]
    | none => .error "subprotocol offer is not a valid header value"

/-- The offer as the suite's server reads it from the request. -/
def offered {H : Type} (V : HeaderValues H) (headers : List H) : List String :=
  (headers.filterMap V.toStr).flatMap Web.elements

/-- The check of the negotiated subprotocol after the handshake. -/
def checkNegotiated (printable : Char → Bool) (protocols : List String) (negotiated : String) :
    Except Error Unit :=
  if protocols ≠ [] ∧ negotiated ∉ protocols then
    .error (.connectFailed (if negotiated = "" then
        "server selected no subprotocol although one was offered"
      else
        s!"server selected subprotocol {debugStr printable negotiated} which was not offered"))
  else if protocols = [] ∧ negotiated ≠ "" then
    .error (.connectFailed
      s!"server selected subprotocol {debugStr printable negotiated} although none was offered")
  else .ok ()

/-! ### The call -/

/-- The loop of `establish`; `none` is a handshake that is still under way. -/
def handshake {C H : Type} :
    List (Round C H) → Option (Except String (C × Option H × Buffers Inbound))
  | [] => none
  | .ok ws selected io :: _ => some (.ok (ws, selected, io))
  | .failure err :: _ => some (.error s!"handshake: {err}")
  | .interrupted outbound unwritten dropped chunk :: rounds =>
    if outbound ≠ [] then
      if unwritten ≠ [] then
        some (.error "connection closed while sending the upgrade request")
      else handshake rounds
    else if dropped && chunk.isEmpty then some (.error "connection closed during the handshake")
    else handshake rounds

section Connect

variable {T : Tungstenite} {H : Type} (printable : Char → Bool) (P : Platform T H)
  (config : ConnectConfig)

/-- `establish` up to the handshake: the subprotocol headers of the request. -/
def upgradeRequest (url : String) (protocols : List String) : Except String (List H) := do
  let uri ← (P.parseUri url).mapError fun err => s!"URL: {err}"
  let secure := uri.scheme = some "wss"
  if secure then
    match config.tlsRootsPem with
    | some pem => P.parsePem pem
    | none =>
      .error <| "no TLS trust anchors configured; wss: fails closed (set " ++
        "POLYMORPH_WEBSOCKET_TLS_ROOTS_PEM; see the provider README)"
  P.socket uri
  if secure then (P.tls uri).mapError fun err => s!"TLS handshake: {err}"
  (P.clientRequest url).mapError fun err => s!"request: {err}"
  let headers ← offerHeader P.toHeaderValues protocols
  (P.start headers).mapError fun err => s!"handshake: {err}"
  return headers

/-- What `establish` returns. -/
structure Established (T : Tungstenite) where
  websocket : T.Ctx
  /-- What is in the virtual transport behind the handle. -/
  handle : Buffers Inbound
  negotiated : String

/-- `establish`. -/
def establish (url : String) (protocols : List String) : Option (Except String (Established T)) :=
  match upgradeRequest P config url protocols with
  | .error err => some (.error err)
  | .ok headers =>
    (handshake (P.rounds headers)).map fun result =>
      result.map fun (ws, selected, io) => ⟨ws, io, (selected.bind P.toStr).getD ""⟩

/-- The attempt of `connect` against the deadline. -/
def attempt (url : String) (protocols : List String) : Except Error (Established T) :=
  match establish P config url protocols with
  | some result => result.mapError .connectFailed
  | none =>
    .error (.connectFailed s!"handshake timed out after {debugMillis config.connectTimeoutMs}")

/-- `connect`: the connection as the pump starts it, and the negotiated subprotocol. -/
def connect (now : Nat) (url : String) (protocols : List String) :
    Except Error (State T × String) := do
  (validateUrl printable P.parseUri url).mapError .invalidUrl
  (validateProtocols printable protocols).mapError .invalidArgument
  let established ← attempt P config url protocols
  checkNegotiated printable protocols established.negotiated
  return (.start config.toConfig established.websocket established.handle now, established.negotiated)

end Connect

/-! ### The round trip -/

/-- The characters of a token are visible, and neither commas nor whitespace. -/
theorem isTokenChar_visible {c : Char} (h : IsTokenChar c) :
    (0x20 ≤ c.toNat ∧ c.toNat ≤ 0x7e) ∧ c ≠ ',' ∧ Web.isWhitespace c = false := by
  have hall : ∀ n < 128, IsTokenChar (Char.ofNat n) →
      (0x20 ≤ (Char.ofNat n).toNat ∧ (Char.ofNat n).toNat ≤ 0x7e) ∧ Char.ofNat n ≠ ',' ∧
        Web.isWhitespace (Char.ofNat n) = false := by
    decide +kernel
  have hc := hall c.toNat h.1
  rw [Char.ofNat_toNat] at hc
  exact hc h

section RoundTrip

variable {H : Type} (V : HeaderValues H) {protocols : List String}

/-- A valid offer is a header value: the error after the validation is never returned. -/
theorem offerHeader_of_valid (hne : protocols ≠ []) (h : ValidOffer protocols) :
    ∃ value, offerHeader V protocols = .ok [value] ∧
      V.toStr value = some (String.intercalate ", " protocols) := by
  have hvisible : ∀ c ∈ (String.intercalate ", " protocols).toList,
      0x20 ≤ c.toNat ∧ c.toNat ≤ 0x7e := by
    rw [String.toList_intercalate]
    refine Web.forall_mem_intercalate (by decide) fun l hl c hc => ?_
    obtain ⟨protocol, hprotocol, rfl⟩ := List.mem_map.mp hl
    exact (isTokenChar_visible ((h.1 protocol hprotocol).2 c hc)).1
  obtain ⟨value, hparse, htext⟩ := V.visible _ hvisible
  refine ⟨value, ?_, htext⟩
  unfold offerHeader
  rw [if_neg hne, hparse]

/-- The server reads the offer that was made. -/
theorem offered_of_valid (hne : protocols ≠ []) (h : ValidOffer protocols) {value : H}
    (htext : V.toStr value = some (String.intercalate ", " protocols)) :
    offered V [value] = protocols := by
  unfold offered
  rw [List.filterMap_cons_some htext, List.filterMap_nil, List.flatMap_singleton]
  refine Web.elements_intercalate hne fun protocol hprotocol c hc => ?_
  exact (isTokenChar_visible ((h.1 protocol hprotocol).2 c hc)).2

end RoundTrip

theorem checkNegotiated_eq_ok_iff {printable : Char → Bool} {protocols : List String}
    {negotiated : String} :
    checkNegotiated printable protocols negotiated = .ok () ↔
      negotiated ∈ protocols ∨ protocols = [] ∧ negotiated = "" := by
  unfold checkNegotiated
  rw [check_eq_ok_iff, check_eq_ok_iff]
  cases protocols with
  | nil => simp
  | cons protocol protocols => simp [← or_iff_not_imp_left]

/-- A call of `connect` that succeeds has checked what was negotiated. -/
theorem connect_eq_ok {T : Tungstenite} {H : Type} {printable : Char → Bool} {P : Platform T H}
    {config : ConnectConfig} {now : Nat} {url : String} {protocols : List String} {s : State T}
    {negotiated : String}
    (h : connect printable P config now url protocols = .ok (s, negotiated)) :
    checkNegotiated printable protocols negotiated = .ok () := by
  unfold connect at h
  obtain ⟨-, -, h⟩ := bind_eq_ok_iff.mp h
  obtain ⟨-, -, h⟩ := bind_eq_ok_iff.mp h
  obtain ⟨established, -, h⟩ := bind_eq_ok_iff.mp h
  obtain ⟨⟨⟩, hcheck, h⟩ := bind_eq_ok_iff.mp h
  cases Except.ok.inj h
  exact hcheck

/-- For every non-empty offer that the validation accepts the request has a header with it, from which
the server reads the offer as it was; and a call of `connect` succeeds only with a subprotocol of the
offer, or with none if none was offered. -/
theorem subprotocol_offer_round_trip {T : Tungstenite} {H : Type} (printable : Char → Bool)
    (P : Platform T H) (protocols : List String) :
    (protocols ≠ [] → validateProtocols printable protocols = .ok () →
      ∃ value, offerHeader P.toHeaderValues protocols = .ok [value] ∧
        P.toStr value = some (String.intercalate ", " protocols) ∧
        offered P.toHeaderValues [value] = protocols) ∧
    ∀ config now url s negotiated,
      connect printable P config now url protocols = .ok (s, negotiated) →
        negotiated ∈ protocols ∨ protocols = [] ∧ negotiated = "" := by
  constructor
  · intro hne hvalid
    have hoffer := (validateProtocols_eq_ok_iff printable protocols).mp hvalid
    obtain ⟨value, hheader, htext⟩ := offerHeader_of_valid P.toHeaderValues hne hoffer
    exact ⟨value, hheader, htext, offered_of_valid P.toHeaderValues hne hoffer htext⟩
  · intro config now url s negotiated h
    exact checkNegotiated_eq_ok_iff.mp (connect_eq_ok h)

/-- The texts of visible ASCII characters and spaces as header values. -/
def visibleText : HeaderValues String where
  parse text := if ∀ c ∈ text.toList, 0x20 ≤ c.toNat ∧ c.toNat ≤ 0x7e then some text else none
  toStr text := some text
  visible text h := ⟨text, if_pos h, rfl⟩

/-- An offer of two subprotocols. -/
theorem subprotocol_offer_round_trip_two :
    ∃ value, offerHeader visibleText ["chat", "echo"] = .ok [value] ∧ value = "chat, echo" ∧
      offered visibleText [value] = ["chat", "echo"] := by
  let P : Platform Core.tungstenite String :=
    { visibleText with
      parseUri := fun _ => .error "relative"
      parsePem := fun _ => .ok ()
      socket := fun _ => .ok ()
      tls := fun _ => .ok ()
      clientRequest := fun _ => .ok ()
      start := fun _ => .ok ()
      rounds := fun _ => [] }
  obtain ⟨value, hheader, htext, hoffered⟩ :=
    (subprotocol_offer_round_trip (fun _ => true) P ["chat", "echo"]).1 (by decide)
      ((validateProtocols_eq_ok_iff _ _).mpr ⟨by decide, by decide⟩)
  exact ⟨value, hheader, Option.some.inj htext, hoffered⟩

end Polymorph.Provider
