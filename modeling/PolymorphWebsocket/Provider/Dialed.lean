import PolymorphWebsocket.Provider.Dialing

/-!
# The guest provider: `connect` as one function

A call of `connect` that returns before the deadline returns what the function of `Provider.Connect` returns,
at the answers that the network has given.  One that does not returns the error of the deadline.
-/

namespace Polymorph.Provider

open Transition

variable {T : Tungstenite} {H : Type} {printable : Char → Bool} {D : Dialer T H} {config : ConnectConfig}
  {url : String} {protocols : List String} {s s' : Dial D}

/-- What `connect` is built on, with the answers of the network. -/
def Dialer.platform (D : Dialer T H) (socket tls : Except String Unit) (rounds : List (Round T.Ctx H)) :
    Platform T H where
  toHeaderValues := D.toHeaderValues
  parseUri := D.parseUri
  parsePem pem := (parsePemCertificates D pem).map fun _ => ()
  socket _ := socket
  tls _ := tls
  clientRequest := D.clientRequest
  start headers := (D.start headers).map fun _ => ()
  rounds _ := rounds

/-- The answers of the network to a call. -/
def Dial.platform (s : Dial D) : Platform T H :=
  D.platform (s.socket.getD (.ok ())) (s.tls.getD (.ok ())) s.rounds

/-! ### The upgrade request -/

section Request

variable {socket tls : Except String Unit} {rounds : List (Round T.Ctx H)} {target : Target} {err : String}

/-- The upgrade request with the headers that it has, up to `ClientHandshake::start`. -/
def startedHeaders (D : Dialer T H) (url : String) (protocols : List String) : Except String (List H) := do
  (D.clientRequest url).mapError fun err => s!"request: {err}"
  let headers ← offerHeader D.toHeaderValues protocols
  let _ ← (D.start headers).mapError fun err => s!"handshake: {err}"
  return headers

theorem startedHeaders_eq : startedHeaders D url protocols = (do
    (D.clientRequest url).mapError fun err => s!"request: {err}"
    let headers ← offerHeader D.toHeaderValues protocols
    ((D.start headers).map fun _ => ()).mapError fun err => s!"handshake: {err}"
    return headers) := by
  unfold startedHeaders
  congr 1
  funext _
  congr 1
  funext headers
  cases D.start headers <;> rfl

/-- The request of the function, one await after the other. -/
theorem upgradeRequest_eq : upgradeRequest (D.platform socket tls rounds) config url protocols = (do
    let target ← Provider.target D config url
    socket
    if target.secure then tls.mapError fun err => s!"TLS handshake: {err}"
    startedHeaders D url protocols) := by
  rw [startedHeaders_eq]
  unfold upgradeRequest Provider.target trustAnchors Dialer.platform
  dsimp only
  cases D.parseUri url with
  | error err => rfl
  | ok uri =>
    dsimp only [Except.mapError, bind, Except.bind]
    by_cases hsecure : uri.scheme = some "wss"
    · simp only [hsecure, if_true, decide_true]
      cases config.tlsRootsPem with
      | none => rfl
      | some pem =>
        dsimp only
        cases parsePemCertificates D pem <;> rfl
    · simp only [hsecure, if_false, decide_false]
      rfl

/-- A URL that leads nowhere. -/
theorem upgradeRequest_of_target (htarget : Provider.target D config url = .error err) :
    upgradeRequest (D.platform socket tls rounds) config url protocols = .error err := by
  rw [upgradeRequest_eq, htarget]
  rfl

/-- No address has answered. -/
theorem upgradeRequest_of_socket (htarget : Provider.target D config url = .ok target) :
    upgradeRequest (D.platform (.error err) tls rounds) config url protocols = .error err := by
  rw [upgradeRequest_eq, htarget]
  rfl

/-- TLS has failed. -/
theorem upgradeRequest_of_tls (htarget : Provider.target D config url = .ok target)
    (hsecure : target.secure = true) :
    upgradeRequest (D.platform (.ok ()) (.error err) rounds) config url protocols =
      .error s!"TLS handshake: {err}" := by
  rw [upgradeRequest_eq, htarget]
  show (do
    if target.secure then (Except.error err).mapError fun err => s!"TLS handshake: {err}"
    startedHeaders D url protocols) = _
  rw [hsecure]
  rfl

/-- The transport is there. -/
theorem upgradeRequest_of_ok (htarget : Provider.target D config url = .ok target) :
    upgradeRequest (D.platform (.ok ()) (.ok ()) rounds) config url protocols =
      startedHeaders D url protocols := by
  rw [upgradeRequest_eq, htarget]
  show (do
    if target.secure then (Except.ok ()).mapError fun err => s!"TLS handshake: {err}"
    startedHeaders D url protocols) = _
  cases target.secure <;> rfl

/-- The handshake starts with the headers of the request. -/
theorem started_cases (D : Dialer T H) (url : String) (protocols : List String) :
    (∃ err, started D url protocols = .error err ∧ startedHeaders D url protocols = .error err) ∨
      ∃ mid headers, started D url protocols = .ok mid ∧ startedHeaders D url protocols = .ok headers := by
  unfold started startedHeaders
  cases D.clientRequest url with
  | error err => exact .inl ⟨_, rfl, rfl⟩
  | ok request =>
    cases offerHeader D.toHeaderValues protocols with
    | error err => exact .inl ⟨_, rfl, rfl⟩
    | ok headers =>
      dsimp only [Except.mapError, bind, Except.bind]
      cases D.start headers with
      | error err => exact .inl ⟨_, rfl, rfl⟩
      | ok mid => exact .inr ⟨mid, headers, rfl, rfl⟩

end Request

/-! ### The function -/

/-- `connect` hands the connection over to the pump, with the virtual transport as it is. -/
def handOver (D : Dialer T H) (config : ConnectConfig) (now : Nat) (io : Buffers UInt8)
    (result : Except Error (T.Ctx × String)) : Except Error (State T × String) :=
  result.map fun (ws, negotiated) => (.start config.toConfig ws (D.left ws io) now, negotiated)

section Function

variable {P : Platform T H} {now : Nat} {headers : List H} {err : String} {ws : T.Ctx} {selected : Option H}
  {io : Buffers Inbound}

theorem connect_of_request (hurl : validateUrl printable P.parseUri url = .ok ())
    (hoffer : validateProtocols printable protocols = .ok ())
    (hrequest : upgradeRequest P config url protocols = .error err) :
    connect printable P config now url protocols = .error (.connectFailed err) := by
  unfold connect attempt establish
  rw [hurl, hoffer, hrequest]
  rfl

theorem connect_of_failure (hurl : validateUrl printable P.parseUri url = .ok ())
    (hoffer : validateProtocols printable protocols = .ok ())
    (hrequest : upgradeRequest P config url protocols = .ok headers)
    (hrounds : handshake (P.rounds headers) = some (.error err)) :
    connect printable P config now url protocols = .error (.connectFailed err) := by
  unfold connect attempt establish
  rw [hurl, hoffer, hrequest]
  dsimp only
  rw [hrounds]
  rfl

theorem connect_of_established (hurl : validateUrl printable P.parseUri url = .ok ())
    (hoffer : validateProtocols printable protocols = .ok ())
    (hrequest : upgradeRequest P config url protocols = .ok headers)
    (hrounds : handshake (P.rounds headers) = some (.ok (ws, selected, io))) :
    connect printable P config now url protocols =
      (checkNegotiated printable protocols ((selected.bind P.toStr).getD "")).map
        fun () => (.start config.toConfig ws io now, (selected.bind P.toStr).getD "") := by
  unfold connect attempt establish
  rw [hurl, hoffer, hrequest]
  dsimp only
  rw [hrounds]
  show (do
    checkNegotiated printable protocols ((selected.bind P.toStr).getD "")
    return (State.start config.toConfig ws io now, (selected.bind P.toStr).getD "")) = _
  cases checkNegotiated printable protocols ((selected.bind P.toStr).getD "") <;> rfl

end Function

/-! ### The runs -/

/-- The function is at the handshake too, after the rounds so far. -/
def Upgrading (config : ConnectConfig) (url : String) (protocols : List String) (s : Dial D) : Prop :=
  ∃ headers, upgradeRequest s.platform config url protocols = .ok headers ∧
    ∀ more, handshake (s.rounds ++ more) = handshake more

/-- What the function says, at each place of a call. -/
def Follows (printable : Char → Bool) (config : ConnectConfig) (url : String) (protocols : List String)
    (s : Dial D) : Prop :=
  match s.pc with
  | .called | .resolving | .creating _ | .connecting _ => s.tls = none ∧ s.rounds = []
  | .tlsConnecting =>
    s.socket = some (.ok ()) ∧ s.rounds = [] ∧ ∃ target, s.target = some target ∧ target.secure = true
  | .writing _ outbound => outbound ≠ [] ∧ Upgrading config url protocols s
  | .handshaking _ | .reading _ => Upgrading config url protocols s
  | .returned result =>
    ∀ now, connect printable s.platform config now url protocols = handOver D config now s.io result

variable {target : Target}

/-- A socket that is there, and TLS if it is needed: the function goes on to the request. -/
theorem Follows.request (hleads : Leads printable D config url protocols target) (hsocket : s.socket = some (.ok ()))
    (htls : s.tls = some (.ok ()) ∨ s.tls = none) (hrounds : s.rounds = []) :
    Follows printable config url protocols (s.request url protocols) := by
  have hplatform : s.platform = D.platform (.ok ()) (.ok ()) s.rounds := by
    unfold Dial.platform
    rcases htls with htls | htls <;> rw [hsocket, htls] <;> rfl
  have hrequest : upgradeRequest s.platform config url protocols = startedHeaders D url protocols := by
    rw [hplatform]
    exact upgradeRequest_of_ok hleads.leads
  rcases started_cases D url protocols with ⟨err, hstarted, hheaders⟩ | ⟨mid, headers, hstarted, hheaders⟩
  · have heq : s.request url protocols = s.fails err := by
      unfold Dial.request
      rw [hstarted]
    rw [heq]
    intro now
    exact connect_of_request hleads.validUrl hleads.validOffer (hrequest.trans hheaders)
  · have heq : s.request url protocols = { s with pc := .handshaking mid, io := .empty } := by
      unfold Dial.request
      rw [hstarted]
    rw [heq]
    refine ⟨headers, hrequest.trans hheaders, ?_⟩
    intro more
    show handshake (s.rounds ++ more) = handshake more
    rw [hrounds]
    rfl

/-- A round of the handshake after which it goes on. -/
theorem Upgrading.goesOn (h : Upgrading config url protocols s) {round : Round T.Ctx H}
    (hround : ∀ more, handshake (round :: more) = handshake more) :
    Upgrading config url protocols (s.notesRound round) := by
  obtain ⟨headers, hheaders, hrounds⟩ := h
  refine ⟨headers, hheaders, ?_⟩
  intro more
  show handshake ((s.rounds ++ [round]) ++ more) = handshake more
  rw [List.append_assoc, List.singleton_append, hrounds]
  exact hround more

/-- A round of the handshake that is its last. -/
theorem Upgrading.ends (h : Upgrading config url protocols s) (round : Round T.Ctx H)
    {result : Except String (T.Ctx × Option H × Buffers Inbound)} (hround : handshake [round] = some result) :
    ∃ headers, upgradeRequest (s.notesRound round).platform config url protocols = .ok headers ∧
      handshake ((s.notesRound round).platform.rounds headers) = some result := by
  obtain ⟨headers, hheaders, hrounds⟩ := h
  exact ⟨headers, hheaders, (hrounds [round]).trans hround⟩

/-- The handshake fails. -/
theorem Upgrading.fails (h : Upgrading config url protocols s)
    (hleads : Leads printable D config url protocols target) {round : Round T.Ctx H} {err : String}
    (hround : handshake [round] = some (.error err)) :
    Follows printable config url protocols ((s.notesRound round).fails err) := by
  obtain ⟨headers, hheaders, hrounds⟩ := h.ends round hround
  intro now
  exact connect_of_failure (P := (s.notesRound round).platform) hleads.validUrl hleads.validOffer hheaders hrounds

/-- Without an address that answers, the function fails with the same error. -/
theorem Follows.failsSocket (hleads : Leads printable D config url protocols target) (s : Dial D) (err : String) :
    Follows printable config url protocols (s.failsSocket err) := by
  intro now
  refine connect_of_request hleads.validUrl hleads.validOffer ?_
  exact upgradeRequest_of_socket hleads.leads

/-- A move that is not the deadline keeps the call in step with the function. -/
theorem follows_step (haimed : Aimed printable config url protocols s)
    (h : Follows printable config url protocols s) (hs : Dials printable config url protocols s s')
    (hexpired : s'.expired = false) : Follows printable config url protocols s' := by
  unfold Follows at h
  cases hs with
  | refused error hpc herror =>
    intro now
    rcases herror with ⟨err, hurl, rfl⟩ | ⟨hurl, ⟨err, hoffer, rfl⟩ | ⟨hoffer, err, htarget, rfl⟩⟩
    · unfold connect
      have hurl' : validateUrl printable s.platform.parseUri url = .error err := hurl
      show (validateUrl printable s.platform.parseUri url).mapError Error.invalidUrl >>= _ = _
      rw [hurl']
      rfl
    · unfold connect
      have hurl' : validateUrl printable s.platform.parseUri url = .ok () := hurl
      show (validateUrl printable s.platform.parseUri url).mapError Error.invalidUrl >>= _ = _
      rw [hurl', hoffer]
      rfl
    · exact connect_of_request (P := s.platform) hurl hoffer (upgradeRequest_of_target htarget)
  | literal target ip hpc hleads hip =>
    rw [hpc] at h
    exact h
  | lookup target hpc hleads hip =>
    rw [hpc] at h
    exact h
  | unresolved result err hpc hresult =>
    obtain ⟨target, htarget⟩ := haimed.exists_target (by simp [hpc]) (by simp [hpc])
    exact .failsSocket (haimed.leads target htarget).1 { s with resolution := some result } err
  | resolved target ip ips hpc htarget =>
    rw [hpc] at h
    exact h
  | created address rest hpc =>
    rw [hpc] at h
    exact h
  | fails address rest lastError hpc =>
    have hcalled : s.pc ≠ .called := by rcases hpc with hpc | hpc <;> simp [hpc]
    have hreturned : ∀ result, s.pc ≠ .returned result := by rcases hpc with hpc | hpc <;> simp [hpc]
    obtain ⟨target, htarget⟩ := haimed.exists_target hcalled hreturned
    cases rest with
    | nil => exact .failsSocket (haimed.leads target htarget).1 (s.notes address (.error lastError)) lastError
    | cons next rest => rcases hpc with hpc | hpc <;> rwa [hpc] at h
  | secured address rest target hpc htarget hsecure =>
    rw [hpc] at h
    exact ⟨rfl, h.2, target, htarget, hsecure⟩
  | plain address rest target hpc htarget hsecure =>
    rw [hpc] at h
    exact .request (haimed.leads target htarget).1 rfl (.inr h.1) h.2
  | tlsConnected hpc =>
    rw [hpc] at h
    obtain ⟨target, htarget⟩ := haimed.exists_target (by simp [hpc]) (by simp [hpc])
    exact .request (haimed.leads target htarget).1 h.1 (.inl rfl) h.2.1
  | tlsFails err hpc =>
    rw [hpc] at h
    obtain ⟨hsocket, -, target, htarget, hsecure⟩ := h
    have hleads := (haimed.leads target htarget).1
    intro now
    refine connect_of_request hleads.validUrl hleads.validOffer ?_
    show upgradeRequest (D.platform (s.socket.getD (.ok ())) (.error err) s.rounds) config url protocols = _
    rw [hsocket]
    exact upgradeRequest_of_tls hleads.leads hsecure
  | established mid turn ws selected hpc hresult =>
    rw [hpc] at h
    obtain ⟨target, htarget⟩ := haimed.exists_target (by simp [hpc]) (by simp [hpc])
    have hleads := (haimed.leads target htarget).1
    have hturned : Upgrading config url protocols (s.turned turn) := h
    obtain ⟨headers, hheaders, hrounds⟩ := hturned.ends (.ok ws selected (D.left ws (s.turned turn).io)) rfl
    intro now
    refine (connect_of_established hleads.validUrl hleads.validOffer hheaders hrounds).trans ?_
    show (checkNegotiated printable protocols ((selected.bind D.toStr).getD "")).map _ =
      handOver D config now (s.turned turn).io
        ((checkNegotiated printable protocols ((selected.bind D.toStr).getD "")).map _)
    cases checkNegotiated printable protocols ((selected.bind D.toStr).getD "") <;> rfl
  | failure mid turn err hpc hresult =>
    rw [hpc] at h
    obtain ⟨target, htarget⟩ := haimed.exists_target (by simp [hpc]) (by simp [hpc])
    have hturned : Upgrading config url protocols (s.turned turn) := h
    exact hturned.fails (haimed.leads target htarget).1 rfl
  | writes mid mid' turn hpc hresult hne =>
    rw [hpc] at h
    exact ⟨hne, h⟩
  | waits mid mid' turn hpc hresult hnil =>
    rw [hpc] at h
    exact h
  | wrote mid outbound accepted hpc =>
    rw [hpc] at h
    obtain ⟨hne, hupgrading⟩ := h
    have hsent : Upgrading config url protocols { s with sent := s.sent ++ outbound.take accepted } := hupgrading
    unfold Dial.wrote
    dsimp only
    split
    · next hunwritten =>
      obtain ⟨target, htarget⟩ := haimed.exists_target (by simp [hpc]) (by simp [hpc])
      refine hsent.fails (haimed.leads target htarget).1 ?_
      unfold handshake
      rw [if_pos hne, if_pos hunwritten]
    · next hunwritten =>
      refine hsent.goesOn ?_
      intro more
      rw [handshake, if_pos hne, if_neg hunwritten]
  | read mid dropped chunk hpc =>
    rw [hpc] at h
    have hfed : Upgrading config url protocols
        { s with io := s.io.feed chunk, received := s.received ++ chunk } := h
    unfold Dial.reads
    dsimp only
    split
    · next hclosed =>
      obtain ⟨target, htarget⟩ := haimed.exists_target (by simp [hpc]) (by simp [hpc])
      refine hfed.fails (haimed.leads target htarget).1 ?_
      rw [handshake, if_neg (not_not.mpr rfl), if_pos hclosed]
    · next hopen =>
      refine hfed.goesOn ?_
      intro more
      rw [handshake, if_neg (not_not.mpr rfl), if_neg hopen]
  | deadline hwaits => cases hexpired

/-- The error of the deadline. -/
def timedOut (config : ConnectConfig) : Error :=
  .connectFailed s!"handshake timed out after {debugMillis config.connectTimeoutMs}"

/-- The deadline ends the call. -/
theorem expired_of_dials (hexpired : s.expired = false) (hs : Dials printable config url protocols s s') :
    s'.expired = false ∨ s'.pc = .returned (.error (timedOut config)) := by
  cases hs with
  | deadline hwaits => exact .inr rfl
  | fails address rest lastError hpc => cases rest <;> exact .inl hexpired
  | plain address rest target hpc htarget hsecure =>
    rcases request_cases url protocols
      { s.notes address (.ok ()) with socket := some (.ok ()) } with ⟨err, -, heq⟩ | ⟨mid, -, heq⟩
    · exact .inl (heq ▸ hexpired)
    · exact .inl (heq ▸ hexpired)
  | tlsConnected hpc =>
    rcases request_cases url protocols { s with tls := some (.ok ()) } with
      ⟨err, -, heq⟩ | ⟨mid, -, heq⟩
    · exact .inl (heq ▸ hexpired)
    · exact .inl (heq ▸ hexpired)
  | wrote mid outbound accepted hpc =>
    rcases wrote_cases s mid outbound accepted with ⟨err, heq⟩ | ⟨-, heq⟩
    · exact .inl (heq ▸ hexpired)
    · exact .inl (heq ▸ hexpired)
  | read mid dropped chunk hpc =>
    rcases reads_cases s mid dropped chunk with ⟨err, heq⟩ | ⟨-, heq⟩
    · exact .inl (heq ▸ hexpired)
    · exact .inl (heq ▸ hexpired)
  | _ => exact .inl hexpired

/-- A call that has returned makes no move. -/
theorem not_dials_of_returned {result : Except Error (T.Ctx × String)} (hpc : s.pc = .returned result) :
    ¬ Dials printable config url protocols s s' := by
  intro hs
  cases hs with
  | deadline hwaits =>
    unfold Dial.waits at hwaits
    rw [hpc] at hwaits
    cases hwaits
  | _ => simp_all

/-- A move leaves the stream of the virtual transport open. -/
theorem eof_of_dials (heof : s.io.eof = false) (hs : Dials printable config url protocols s s') :
    s'.io.eof = false := by
  cases hs with
  | fails address rest lastError hpc => cases rest <;> exact heof
  | plain address rest target hpc htarget hsecure =>
    rcases request_cases url protocols
      { s.notes address (.ok ()) with socket := some (.ok ()) } with ⟨err, -, heq⟩ | ⟨mid, -, heq⟩
    · exact heq ▸ heof
    · exact heq ▸ rfl
  | tlsConnected hpc =>
    rcases request_cases url protocols { s with tls := some (.ok ()) } with
      ⟨err, -, heq⟩ | ⟨mid, -, heq⟩
    · exact heq ▸ heof
    · exact heq ▸ rfl
  | wrote mid outbound accepted hpc =>
    rcases wrote_cases s mid outbound accepted with ⟨err, heq⟩ | ⟨-, heq⟩ <;> exact heq ▸ heof
  | read mid dropped chunk hpc =>
    rcases reads_cases s mid dropped chunk with ⟨err, heq⟩ | ⟨-, heq⟩ <;> exact heq ▸ heof
  | _ => exact heof

/-- The handshake never sees the end of the stream. -/
theorem eof_of_reachable (h : (dialing printable config url protocols).Reachable s) :
    s.io.eof = false := by
  refine h.induction (I := fun s => s.io.eof = false) ?_ fun s a s' _ heof hs =>
    eof_of_dials heof (dials_of_step hs)
  intro s hs
  obtain rfl : s = .called := hs
  rfl

/-- A call that returns before the deadline is in step with the function. -/
theorem followed_of_reachable (h : (dialing printable config url protocols).Reachable s) :
    s.expired = false ∧ Follows printable config url protocols s ∨
      s.expired = true ∧ s.pc = .returned (.error (timedOut config)) := by
  refine h.induction (I := fun s => s.expired = false ∧ Follows printable config url protocols s ∨
    s.expired = true ∧ s.pc = .returned (.error (timedOut config))) ?_ ?_
  · intro s hs
    obtain rfl : s = .called := hs
    exact .inl ⟨rfl, rfl, rfl⟩
  · intro s a s' hr h hs
    have hdials := dials_of_step hs
    rcases h with ⟨hexpired, hfollows⟩ | ⟨-, hpc⟩
    · cases hexpired' : s'.expired with
      | false => exact .inl ⟨rfl, follows_step (aimed_of_reachable hr) hfollows hdials hexpired'⟩
      | true =>
        rcases expired_of_dials hexpired hdials with hfalse | hpc
        · cases hfalse.symm.trans hexpired'
        · exact .inr ⟨rfl, hpc⟩
    · exact absurd hdials (not_dials_of_returned hpc)

/-- A call that has returned before the deadline has returned what the function returns, at the answers that
the network has given it; one that has not has returned the error of the deadline.  What it hands over is
where the pump starts. -/
theorem connect_of_run (h : (dialing printable config url protocols).Reachable s)
    {result : Except Error (T.Ctx × String)} (hpc : s.pc = .returned result) :
    (s.expired = false →
      ∀ now, connect printable s.platform config now url protocols = handOver D config now s.io result) ∧
      (s.expired = true → result = .error (timedOut config)) ∧
      ∀ ws negotiated, result = .ok (ws, negotiated) → T.queued ws = [] → ∀ now,
        (system T).init (.start config.toConfig ws (D.left ws s.io) now) := by
  have hinit (ws : T.Ctx) (hqueued : T.queued ws = []) (now : Nat) :
      (system T).init (.start config.toConfig ws (D.left ws s.io) now) :=
    ⟨_, ws, _, now, hqueued, eof_of_reachable h, rfl⟩
  rcases followed_of_reachable h with ⟨hexpired, hfollows⟩ | ⟨hexpired, hreturned⟩
  · unfold Follows at hfollows
    rw [hpc] at hfollows
    refine ⟨fun _ => hfollows, ?_, fun ws _ _ => hinit ws⟩
    intro hsome
    cases hexpired.symm.trans hsome
  · refine ⟨?_, ?_, fun ws _ _ => hinit ws⟩
    · intro hnone
      cases hexpired.symm.trans hnone
    · intro _
      exact DialPc.returned.inj (hpc.symm.trans hreturned)

/-- The function takes the connection to the second address. -/
theorem connect_of_run_second :
    ∃ s, Core.dials.run .called Core.dialActions = some s ∧
      connect (fun _ => true) s.platform (Core.dialConfig 10 16) 0 "wss://a.example/" [] =
        .ok (Core.connection 10 16, "") := by
  have hrun : (Core.dials.run .called Core.dialActions).any (fun s =>
      s.expired = false ∧ s.io = .empty ∧ s.result = some (.ok (Core.fresh, ""))) = true := by
    decide +kernel
  obtain ⟨s, hs, hreturned⟩ := (Option.any_eq_true _ _).mp hrun
  obtain ⟨hexpired, hio, hreturned⟩ := of_decide_eq_true hreturned
  have hreachable : Core.dials.Reachable s := (System.Reachable.of_init rfl).run hs
  have hconnect := (connect_of_run hreachable (pc_of_result hreturned)).1 hexpired 0
  rw [hio] at hconnect
  exact ⟨s, hs, hconnect⟩

end Polymorph.Provider
