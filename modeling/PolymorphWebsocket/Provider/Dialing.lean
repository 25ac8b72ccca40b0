import PolymorphWebsocket.Provider.Establish
import PolymorphWebsocket.Transition.Search
import PolymorphWebsocket.Transition.Traces

/-!
# The guest provider: what `connect` does to the network

Three things about every run of `connect`, whatever the network answers and whenever the deadline comes.  The
addresses are tried one at a time and in order, up to the first that answers.  A `wss:` URL without usable
trust anchors never leads to any of it, and no byte of the upgrade goes out before the TLS handshake.  And the
upgrade itself neither loses nor reorders a byte, up to the hand-over to the pump.
-/

namespace Polymorph.Provider

open Transition

variable {T : Tungstenite} {H : Type} {printable : Char → Bool} {D : Dialer T H} {config : ConnectConfig}
  {url : String} {protocols : List String} {s s' : Dial D} {a : DialAction}

/-! ### The moves -/

/-- The eager validation, and what a URL leads to. -/
structure Leads (printable : Char → Bool) (D : Dialer T H) (config : ConnectConfig) (url : String)
    (protocols : List String) (target : Target) : Prop where
  validUrl : validateUrl printable D.parseUri url = .ok ()
  validOffer : validateProtocols printable protocols = .ok ()
  leads : Provider.target D config url = .ok target

/-- The moves of a call, one by one. -/
inductive Dials (printable : Char → Bool) (config : ConnectConfig) (url : String) (protocols : List String)
    (s : Dial D) : Dial D → Prop
  | refused (error : Error) (hpc : s.pc = .called)
      (herror : (∃ err, validateUrl printable D.parseUri url = .error err ∧ error = .invalidUrl err) ∨
        validateUrl printable D.parseUri url = .ok () ∧
          ((∃ err, validateProtocols printable protocols = .error err ∧ error = .invalidArgument err) ∨
          validateProtocols printable protocols = .ok () ∧
            ∃ err, Provider.target D config url = .error err ∧ error = .connectFailed err)) :
      Dials printable config url protocols s (s.returns (.error error))
  | literal (target : Target) (ip : IpAddress) (hpc : s.pc = .called)
      (hleads : Leads printable D config url protocols target)
      (hip : D.parseIp (bareHost target.host) = some ip) : Dials printable config url protocols s
        ({ s with target := some target }.connectFirst [ipAddr ip target.port])
  | lookup (target : Target) (hpc : s.pc = .called)
      (hleads : Leads printable D config url protocols target)
      (hip : D.parseIp (bareHost target.host) = none) : Dials printable config url protocols s
        { s with pc := .resolving, target := some target, net := s.net ++ [.lookup target.host] }
  | unresolved (result : Except String (List IpAddress)) (err : String) (hpc : s.pc = .resolving)
      (hresult : ∀ ip ips, result ≠ .ok (ip :: ips)) :
      Dials printable config url protocols s ({ s with resolution := some result }.failsSocket err)
  | resolved (target : Target) (ip : IpAddress) (ips : List IpAddress) (hpc : s.pc = .resolving)
      (htarget : s.target = some target) : Dials printable config url protocols s
        ({ s with resolution := some (.ok (ip :: ips)) }.connectFirst
          ((ip :: ips).map fun ip => ipAddr ip target.port))
  | created (address : IpSocketAddress) (rest : List IpSocketAddress)
      (hpc : s.pc = .creating (address :: rest)) : Dials printable config url protocols s
        { s with pc := .connecting (address :: rest), net := s.net ++ [.connect address] }
  | fails (address : IpSocketAddress) (rest : List IpSocketAddress) (lastError : String)
      (hpc : s.pc = .creating (address :: rest) ∨ s.pc = .connecting (address :: rest)) :
      Dials printable config url protocols s ((s.notes address (.error lastError)).tryNext rest lastError)
  | secured (address : IpSocketAddress) (rest : List IpSocketAddress) (target : Target)
      (hpc : s.pc = .connecting (address :: rest)) (htarget : s.target = some target)
      (hsecure : target.secure = true) : Dials printable config url protocols s
        { s.notes address (.ok ()) with
          pc := .tlsConnecting
          socket := some (.ok ())
          net := s.net ++ [.tls target.host target.roots] }
  | plain (address : IpSocketAddress) (rest : List IpSocketAddress) (target : Target)
      (hpc : s.pc = .connecting (address :: rest)) (htarget : s.target = some target)
      (hsecure : target.secure = false) : Dials printable config url protocols s
        ({ s.notes address (.ok ()) with socket := some (.ok ()) }.request url protocols)
  | tlsConnected (hpc : s.pc = .tlsConnecting) :
      Dials printable config url protocols s ({ s with tls := some (.ok ()) }.request url protocols)
  | tlsFails (err : String) (hpc : s.pc = .tlsConnecting) : Dials printable config url protocols s
      ({ s with tls := some (.error err) }.fails s!"TLS handshake: {err}")
  | established (mid : D.Mid) (turn : HandshakeTurn D.Mid T.Ctx H) (ws : T.Ctx) (selected : Option H)
      (hpc : s.pc = .handshaking mid) (hresult : turn.result = .ok ws selected) :
      Dials printable config url protocols s
        (((s.turned turn).notesRound (.ok ws selected (D.left ws (s.turned turn).io))).established
          printable protocols ws ((selected.bind D.toStr).getD ""))
  | failure (mid : D.Mid) (turn : HandshakeTurn D.Mid T.Ctx H) (err : String)
      (hpc : s.pc = .handshaking mid) (hresult : turn.result = .failure err) :
      Dials printable config url protocols s
        (((s.turned turn).notesRound (.failure err)).fails s!"handshake: {err}")
  | writes (mid mid' : D.Mid) (turn : HandshakeTurn D.Mid T.Ctx H) (hpc : s.pc = .handshaking mid)
      (hresult : turn.result = .interrupted mid') (hne : (s.turned turn).io.outbound ≠ []) :
      Dials printable config url protocols s
        { s.turned turn with
          pc := .writing mid' (s.turned turn).io.outbound
          io := (s.turned turn).io.drainOutbound.2
          net := s.net ++ [.write (s.turned turn).io.outbound] }
  | waits (mid mid' : D.Mid) (turn : HandshakeTurn D.Mid T.Ctx H) (hpc : s.pc = .handshaking mid)
      (hresult : turn.result = .interrupted mid') (hnil : (s.turned turn).io.outbound = []) :
      Dials printable config url protocols s
        { s.turned turn with
          pc := .reading mid'
          io := (s.turned turn).io.drainOutbound.2
          net := s.net ++ [.read] }
  | wrote (mid : D.Mid) (outbound : Bytes) (accepted : Nat) (hpc : s.pc = .writing mid outbound) :
      Dials printable config url protocols s (s.wrote mid outbound accepted)
  | read (mid : D.Mid) (dropped : Bool) (chunk : Bytes) (hpc : s.pc = .reading mid) :
      Dials printable config url protocols s (s.reads mid dropped chunk)
  | deadline (hwaits : s.waits = true) : Dials printable config url protocols s
      ({ s with expired := true }.fails s!"handshake timed out after {debugMillis config.connectTimeoutMs}")

/-- The call checks its arguments, and looks the host up or connects to the address it is. -/
theorem dials_of_call (hpc : s.pc = .called) :
    Dials printable config url protocols s (s.call printable config url protocols) := by
  unfold Dial.call
  split
  · next err hurl => exact .refused _ hpc (.inl ⟨err, hurl, rfl⟩)
  · next hurl =>
    split
    · next err hoffer => exact .refused _ hpc (.inr ⟨hurl, .inl ⟨err, hoffer, rfl⟩⟩)
    · next hoffer =>
      split
      · next err htarget => exact .refused _ hpc (.inr ⟨hurl, .inr ⟨hoffer, err, htarget, rfl⟩⟩)
      · next target htarget =>
        have hleads : Leads printable D config url protocols target := ⟨hurl, hoffer, htarget⟩
        unfold Dial.resolve
        split
        · next ip hip => exact .literal target ip hpc hleads hip
        · next hip => exact .lookup target hpc hleads hip

/-- The resolver answers. -/
theorem dials_of_resolved {target : Target} {result : Except String (List IpAddress)}
    (hpc : s.pc = .resolving) (htarget : s.target = some target) :
    Dials printable config url protocols s (s.resolved printable target result) := by
  unfold Dial.resolved
  dsimp only
  split
  · exact .unresolved _ _ hpc (by simp)
  · exact .unresolved _ _ hpc (by simp)
  · next ip ips => exact .resolved target ip ips hpc htarget

/-- The address at hand accepts the connection. -/
theorem dials_of_connected {address : IpSocketAddress} {rest : List IpSocketAddress} {target : Target}
    (hpc : s.pc = .connecting (address :: rest)) (htarget : s.target = some target) :
    Dials printable config url protocols s ((s.notes address (.ok ())).secures url protocols target) := by
  unfold Dial.secures
  split
  · next hsecure => exact .secured address rest target hpc htarget hsecure
  · next hsecure => exact .plain address rest target hpc htarget (Bool.eq_false_iff.mpr hsecure)

/-- The handshake goes on, ends or fails. -/
theorem dials_of_shake {mid : D.Mid} (hpc : s.pc = .handshaking mid) :
    Dials printable config url protocols s (s.shake printable protocols mid) := by
  unfold Dial.shake
  dsimp only
  split
  · next ws selected hresult => exact .established mid _ ws selected hpc hresult
  · next err hresult => exact .failure mid _ err hpc hresult
  · next mid' hresult =>
    split
    · next hne => exact .writes mid mid' _ hpc hresult hne
    · next hnil => exact .waits mid mid' _ hpc hresult (not_not.mp hnil)

/-- Every step of a `connect` call is one of these moves. -/
theorem dials_of_step (h : dialStep printable config url protocols s a = some s') :
    Dials printable config url protocols s s' := by
  unfold dialStep at h
  split at h
  · next hpc =>
    obtain rfl := Option.some.inj h
    exact dials_of_call hpc
  · next hpc htarget =>
    obtain rfl := Option.some.inj h
    exact dials_of_resolved hpc htarget
  · next hpc =>
    obtain rfl := Option.some.inj h
    exact .created _ _ hpc
  · next hpc =>
    obtain rfl := Option.some.inj h
    exact .fails _ _ _ (.inl hpc)
  · next hpc htarget =>
    obtain rfl := Option.some.inj h
    exact dials_of_connected hpc htarget
  · next hpc =>
    obtain rfl := Option.some.inj h
    exact .fails _ _ _ (.inr hpc)
  · next hpc =>
    obtain rfl := Option.some.inj h
    exact .tlsConnected hpc
  · next hpc =>
    obtain rfl := Option.some.inj h
    exact .tlsFails _ hpc
  · next hpc =>
    obtain rfl := Option.some.inj h
    exact dials_of_shake hpc
  · next hpc =>
    split at h
    · obtain rfl := Option.some.inj h
      exact .wrote _ _ _ hpc
    · cases h
  · next hpc =>
    split at h
    · obtain rfl := Option.some.inj h
      exact .read _ _ _ hpc
    · cases h
  · split at h
    · next hwaits =>
      obtain rfl := Option.some.inj h
      exact .deadline hwaits
    · cases h
  · cases h

/-- A call with a result has returned it. -/
theorem pc_of_result {result : Except Error (T.Ctx × String)} (h : s.result = some result) :
    s.pc = .returned result := by
  unfold Dial.result at h
  split at h
  · next hpc =>
    obtain rfl := Option.some.inj h
    exact hpc
  · cases h

/-- The upgrade request changes where the call is, and the virtual transport. -/
theorem request_cases (url : String) (protocols : List String) (s : Dial D) :
    (∃ err, started D url protocols = .error err ∧ s.request url protocols = s.fails err) ∨
      ∃ mid, started D url protocols = .ok mid ∧
        s.request url protocols = { s with pc := .handshaking mid, io := .empty } := by
  unfold Dial.request
  cases hstarted : started D url protocols with
  | error err => exact .inl ⟨err, rfl, rfl⟩
  | ok mid => exact .inr ⟨mid, rfl, rfl⟩

/-- Sending the request keeps the target. -/
theorem request_target (s : Dial D) : (s.request url protocols).target = s.target := by
  rcases request_cases url protocols s with ⟨err, -, heq⟩ | ⟨mid, -, heq⟩
  · rw [heq]
    rfl
  · rw [heq]

/-- A write that is cut short ends the call, and a whole one goes on with the handshake. -/
theorem wrote_cases (s : Dial D) (mid : D.Mid) (outbound : Bytes) (accepted : Nat) :
    (∃ err, s.wrote mid outbound accepted = ({ s with sent := s.sent ++ outbound.take accepted }.notesRound
        (.interrupted outbound (outbound.drop accepted) false [])).fails err) ∨
      outbound.drop accepted = [] ∧ s.wrote mid outbound accepted =
        { { s with sent := s.sent ++ outbound.take accepted }.notesRound
          (.interrupted outbound (outbound.drop accepted) false []) with pc := .handshaking mid } := by
  unfold Dial.wrote
  dsimp only
  split
  · exact .inl ⟨_, rfl⟩
  · next hnil => exact .inr ⟨not_not.mp hnil, rfl⟩

/-- The end of the transport ends the call, and bytes go on with the handshake. -/
theorem reads_cases (s : Dial D) (mid : D.Mid) (dropped : Bool) (chunk : Bytes) :
    (∃ err, s.reads mid dropped chunk =
        ({ s with io := s.io.feed chunk, received := s.received ++ chunk }.notesRound
          (.interrupted [] [] dropped chunk)).fails err) ∨
      (dropped && chunk.isEmpty) = false ∧ s.reads mid dropped chunk =
        { { s with io := s.io.feed chunk, received := s.received ++ chunk }.notesRound
          (.interrupted [] [] dropped chunk) with pc := .handshaking mid } := by
  unfold Dial.reads
  dsimp only
  split
  · exact .inl ⟨_, rfl⟩
  · next hopen => exact .inr ⟨Bool.eq_false_iff.mpr hopen, rfl⟩

/-! ### One address after the other -/

/-- The address that an effect connects to. -/
def NetEffect.address : NetEffect → Option IpSocketAddress
  | .connect address => some address
  | _ => none

/-- The addresses that the network was asked to connect to. -/
def connects (net : List NetEffect) : List IpSocketAddress := net.filterMap NetEffect.address

/-- One more effect on the network. -/
@[simp] theorem connects_append (net : List NetEffect) (effect : NetEffect) :
    connects (net ++ [effect]) = connects net ++ effect.address.toList := by
  unfold connects
  rw [List.filterMap_append]
  cases effect <;> rfl

/-- How far `connect_first` is, at each place of a call. -/
def InOrder (s : Dial D) : Prop :=
  match s.pc with
  | .called | .resolving =>
    s.attempts = [] ∧ s.addresses = [] ∧ connects s.net = [] ∧ s.socket = none
  | .creating left =>
    Searching s.addresses s.attempts (connects s.net) left ∧
      (connects s.net).Sublist (s.attempts.map Prod.fst) ∧ s.socket = none
  | .connecting left => Searching s.addresses s.attempts (connects s.net) left ∧ s.socket = none
  | .tlsConnecting | .handshaking _ | .writing _ _ | .reading _ =>
    Found s.addresses s.attempts (connects s.net) ∧ s.socket = some (.ok ())
  | .returned _ => Searched s.addresses s.attempts (connects s.net) s.socket

/-- What the order of the attempts says at the end of a call. -/
theorem InOrder.searched (h : InOrder s) : Searched s.addresses s.attempts (connects s.net) s.socket := by
  unfold InOrder at h
  split at h
  · obtain ⟨hattempts, haddresses, hconnects, hsocket⟩ := h
    rw [hattempts, haddresses, hconnects, hsocket]
    exact .searching [] (.start [])
  · obtain ⟨hattempts, haddresses, hconnects, hsocket⟩ := h
    rw [hattempts, haddresses, hconnects, hsocket]
    exact .searching [] (.start [])
  · obtain ⟨h, -, hsocket⟩ := h
    rw [hsocket]
    exact .searching _ h
  · obtain ⟨h, hsocket⟩ := h
    rw [hsocket]
    exact .searching _ h
  · rw [h.2]
    exact .found h.1
  · rw [h.2]
    exact .found h.1
  · rw [h.2]
    exact .found h.1
  · rw [h.2]
    exact .found h.1
  · exact h

/-- The search begins with an address. -/
theorem InOrder.connectFirst (hattempts : s.attempts = []) (hconnects : connects s.net = [])
    (hsocket : s.socket = none) (address : IpSocketAddress) (rest : List IpSocketAddress) :
    InOrder (s.connectFirst (address :: rest)) := by
  show Searching (address :: rest) s.attempts (connects (s.net ++ [.create address.family])) (address :: rest) ∧
    (connects (s.net ++ [.create address.family])).Sublist (s.attempts.map Prod.fst) ∧ s.socket = none
  have hcreate : connects (s.net ++ [.create address.family]) = [] := by simp [hconnects, NetEffect.address]
  rw [hcreate, hattempts]
  exact ⟨.start _, List.nil_sublist _, hsocket⟩

/-- An address fails: the next one is tried, or the search is over. -/
theorem InOrder.tryNext {address : IpSocketAddress} {rest : List IpSocketAddress}
    (h : Searching s.addresses s.attempts (connects s.net) (address :: rest)) (hsocket : s.socket = none)
    (lastError : String) : InOrder ((s.notes address (.error lastError)).tryNext rest lastError) := by
  cases rest with
  | nil => exact .exhausted lastError (h.exhausted lastError)
  | cons next rest =>
    obtain ⟨hsearching, hasked⟩ := h.fail lastError
    have hcreate : connects (s.net ++ [.create next.family]) = connects s.net := by simp [NetEffect.address]
    show Searching s.addresses (s.attempts ++ [(address, .error lastError)])
        (connects (s.net ++ [.create next.family])) (next :: rest) ∧
      (connects (s.net ++ [.create next.family])).Sublist
        ((s.attempts ++ [(address, Except.error lastError)]).map Prod.fst) ∧ s.socket = none
    rw [hcreate]
    exact ⟨hsearching, hasked, hsocket⟩

/-- Sending the request attempts no address. -/
theorem InOrder.request (h : Found s.addresses s.attempts (connects s.net)) (hsocket : s.socket = some (.ok ())) :
    InOrder (s.request url protocols) := by
  rcases request_cases url protocols s with ⟨err, -, heq⟩ | ⟨mid, -, heq⟩
  · rw [heq]
    show Searched s.addresses s.attempts (connects s.net) s.socket
    rw [hsocket]
    exact .found h
  · rw [heq]
    exact ⟨h, hsocket⟩

/-- A move keeps the order. -/
theorem InOrder.step (h : InOrder s) (hs : Dials printable config url protocols s s') : InOrder s' := by
  have hsearched := h.searched
  cases hs with
  | refused error hpc herror => exact hsearched
  | literal target ip hpc hleads hip =>
    unfold InOrder at h
    rw [hpc] at h
    obtain ⟨hattempts, -, hconnects, hsocket⟩ := h
    exact .connectFirst hattempts hconnects hsocket _ []
  | lookup target hpc hleads hip =>
    unfold InOrder at h
    rw [hpc] at h
    obtain ⟨hattempts, haddresses, hconnects, hsocket⟩ := h
    exact ⟨hattempts, haddresses, by simp [hconnects, NetEffect.address], hsocket⟩
  | unresolved result err hpc hresult =>
    unfold InOrder at h
    rw [hpc] at h
    obtain ⟨hattempts, haddresses, hconnects, -⟩ := h
    show Searched s.addresses s.attempts (connects s.net) (some (.error err))
    rw [hattempts, haddresses, hconnects]
    exact .exhausted err ⟨.start [], .inl rfl⟩
  | resolved target ip ips hpc htarget =>
    unfold InOrder at h
    rw [hpc] at h
    obtain ⟨hattempts, -, hconnects, hsocket⟩ := h
    exact .connectFirst hattempts hconnects hsocket _ _
  | created address rest hpc =>
    unfold InOrder at h
    rw [hpc] at h
    obtain ⟨hsearching, hasked, hsocket⟩ := h
    refine ⟨?_, hsocket⟩
    have hconnect : connects (s.net ++ [.connect address]) = connects s.net ++ [address] := by
      simp [NetEffect.address]
    show Searching s.addresses s.attempts (connects (s.net ++ [.connect address])) (address :: rest)
    rw [hconnect]
    exact hsearching.ask hasked
  | fails address rest lastError hpc =>
    have hsearching : Searching s.addresses s.attempts (connects s.net) (address :: rest) ∧ s.socket = none := by
      unfold InOrder at h
      rcases hpc with hpc | hpc
      · rw [hpc] at h
        exact ⟨h.1, h.2.2⟩
      · rw [hpc] at h
        exact h
    exact .tryNext hsearching.1 hsearching.2 lastError
  | secured address rest target hpc htarget hsecure =>
    unfold InOrder at h
    rw [hpc] at h
    have htls : connects (s.net ++ [.tls target.host target.roots]) = connects s.net := by simp [NetEffect.address]
    show Found s.addresses (s.attempts ++ [(address, .ok ())])
      (connects (s.net ++ [.tls target.host target.roots])) ∧ _
    rw [htls]
    exact ⟨h.1.found, rfl⟩
  | plain address rest target hpc htarget hsecure =>
    unfold InOrder at h
    rw [hpc] at h
    exact .request h.1.found rfl
  | tlsConnected hpc =>
    unfold InOrder at h
    rw [hpc] at h
    exact .request h.1 h.2
  | tlsFails err hpc => exact hsearched
  | established mid turn ws selected hpc hresult => exact hsearched
  | failure mid turn err hpc hresult => exact hsearched
  | writes mid mid' turn hpc hresult hne =>
    unfold InOrder at h
    rw [hpc] at h
    have hwrite : connects (s.net ++ [.write (s.turned turn).io.outbound]) = connects s.net := by
      simp [NetEffect.address]
    show Found s.addresses s.attempts (connects (s.net ++ [.write (s.turned turn).io.outbound])) ∧ _
    rw [hwrite]
    exact h
  | waits mid mid' turn hpc hresult hnil =>
    unfold InOrder at h
    rw [hpc] at h
    have hread : connects (s.net ++ [.read]) = connects s.net := by simp [NetEffect.address]
    show Found s.addresses s.attempts (connects (s.net ++ [.read])) ∧ _
    rw [hread]
    exact h
  | wrote mid outbound accepted hpc =>
    unfold InOrder at h
    rw [hpc] at h
    rcases wrote_cases s mid outbound accepted with ⟨err, heq⟩ | ⟨-, heq⟩
    · rw [heq]
      exact hsearched
    · rw [heq]
      exact h
  | read mid dropped chunk hpc =>
    unfold InOrder at h
    rw [hpc] at h
    rcases reads_cases s mid dropped chunk with ⟨err, heq⟩ | ⟨-, heq⟩
    · rw [heq]
      exact hsearched
    · rw [heq]
      exact h
  | deadline hwaits => exact hsearched

/-- In every reachable state of a call the addresses have been tried in order. -/
theorem inOrder_of_reachable (h : (dialing printable config url protocols).Reachable s) : InOrder s := by
  refine h.induction ?_ ?_
  · intro s hs
    obtain rfl : s = .called := hs
    exact ⟨rfl, rfl, rfl, rfl⟩
  · intro s a s' _ h hs
    exact h.step (dials_of_step hs)

/-! ### Where a call leads -/

/-- The host whose addresses an effect asks for. -/
def NetEffect.host : NetEffect → Option String
  | .lookup host => some host
  | _ => none

/-- The hosts that were looked up. -/
def lookups (net : List NetEffect) : List String := net.filterMap NetEffect.host

/-- One more effect on the network. -/
@[simp] theorem lookups_append (net : List NetEffect) (effect : NetEffect) :
    lookups (net ++ [effect]) = lookups net ++ effect.host.toList := by
  unfold lookups
  rw [List.filterMap_append]
  cases effect <;> rfl

/-- The addresses that an answer of the lookup stands for, in the order of the answer. -/
def answered (resolution : Option (Except String (List IpAddress))) (port : UInt16) :
    List IpSocketAddress :=
  match resolution with
  | some (.ok ips) => ips.map fun ip => ipAddr ip port
  | some (.error _) | none => []

/-- The addresses and the lookups of a call that has passed the validation. -/
structure Aims (s : Dial D) (target : Target) : Prop where
  literal : ∀ ip, D.parseIp (bareHost target.host) = some ip →
    lookups s.net = [] ∧ s.addresses = [ipAddr ip target.port]
  lookup : D.parseIp (bareHost target.host) = none →
    lookups s.net = [target.host] ∧ s.addresses = answered s.resolution target.port

/-- A call that does not know where it leads has not touched the network; one that does has been validated. -/
structure Aimed (printable : Char → Bool) (config : ConnectConfig) (url : String) (protocols : List String)
    (s : Dial D) : Prop where
  called : s.pc = .called → s.target = none
  idle : s.target = none →
    s.net = [] ∧ s.addresses = [] ∧ s.resolution = none ∧ (s.pc = .called ∨ ∃ result, s.pc = .returned result)
  resolving : s.pc = .resolving → s.resolution = none ∧
    ∀ target, s.target = some target → D.parseIp (bareHost target.host) = none
  leads : ∀ target, s.target = some target → Leads printable D config url protocols target ∧ Aims s target

/-- A call that is under way knows where it leads. -/
theorem Aimed.exists_target (h : Aimed printable config url protocols s) (hcalled : s.pc ≠ .called)
    (hreturned : ∀ result, s.pc ≠ .returned result) : ∃ target, s.target = some target := by
  rw [← Option.ne_none_iff_exists']
  intro hnone
  rcases (h.idle hnone).2.2.2 with hpc | ⟨result, hpc⟩
  · exact hcalled hpc
  · exact hreturned result hpc

/-- A move that leaves the target, the lookups with their answer, and the addresses as they are. -/
theorem Aimed.keep (h : Aimed printable config url protocols s) (hcalled : s.pc ≠ .called)
    (hreturned : ∀ result, s.pc ≠ .returned result) (hpc' : s'.pc ≠ .called ∧ s'.pc ≠ .resolving)
    (htarget : s'.target = s.target) (haddresses : s'.addresses = s.addresses)
    (hresolution : s'.resolution = s.resolution) (hlookups : lookups s'.net = lookups s.net) :
    Aimed printable config url protocols s' := by
  obtain ⟨target, hsome⟩ := h.exists_target hcalled hreturned
  rw [hsome] at htarget
  refine ⟨fun hpc => absurd hpc hpc'.1, ?_, fun hpc => absurd hpc hpc'.2, ?_⟩
  · intro hnone
    rw [htarget] at hnone
    cases hnone
  · intro target' htarget'
    obtain rfl : target = target' := Option.some.inj (htarget.symm.trans htarget')
    obtain ⟨hleads, haims⟩ := h.leads target hsome
    refine ⟨hleads, ?_, ?_⟩
    · rw [haddresses, hlookups]
      exact haims.literal
    · rw [haddresses, hlookups, hresolution]
      exact haims.lookup

/-- Without a call of the network in between, the upgrade leaves all this as it is. -/
theorem Aimed.request (h : Aimed printable config url protocols s) (hcalled : s.pc ≠ .called)
    (hreturned : ∀ result, s.pc ≠ .returned result) : Aimed printable config url protocols (s.request url protocols) := by
  rcases request_cases url protocols s with ⟨err, -, heq⟩ | ⟨mid, -, heq⟩
  · rw [heq]
    exact h.keep hcalled hreturned ⟨nofun, nofun⟩ rfl rfl rfl rfl
  · rw [heq]
    exact h.keep hcalled hreturned ⟨nofun, nofun⟩ rfl rfl rfl rfl

/-- Every move keeps the call aimed at its URL. -/
theorem Aimed.step (h : Aimed printable config url protocols s)
    (hs : Dials printable config url protocols s s') : Aimed printable config url protocols s' := by
  cases hs with
  | refused error hpc herror =>
    have htarget := h.called hpc
    refine ⟨nofun, ?_, nofun, ?_⟩
    · intro hnone
      obtain ⟨hnet, haddresses, hresolution, -⟩ := h.idle hnone
      exact ⟨hnet, haddresses, hresolution, .inr ⟨_, rfl⟩⟩
    · intro target hsome
      cases htarget.symm.trans hsome
  | literal target ip hpc hleads hip =>
    obtain ⟨hnet, -, -, -⟩ := h.idle (h.called hpc)
    refine ⟨nofun, nofun, nofun, ?_⟩
    intro target' hsome
    obtain rfl : target = target' := Option.some.inj hsome
    have hlookups : lookups (s.net ++ [.create (ipAddr ip target.port).family]) = [] := by
      rw [hnet]
      rfl
    refine ⟨hleads, ?_, ?_⟩
    · intro ip' hip'
      obtain rfl : ip = ip' := Option.some.inj (hip.symm.trans hip')
      exact ⟨hlookups, rfl⟩
    · intro hnone
      cases hip.symm.trans hnone
  | lookup target hpc hleads hip =>
    obtain ⟨hnet, haddresses, hresolution, -⟩ := h.idle (h.called hpc)
    refine ⟨nofun, nofun, ?_, ?_⟩
    · intro _
      refine ⟨hresolution, ?_⟩
      intro target' hsome
      obtain rfl : target = target' := Option.some.inj hsome
      exact hip
    · intro target' hsome
      obtain rfl : target = target' := Option.some.inj hsome
      refine ⟨hleads, ?_, ?_⟩
      · intro ip hsome
        cases hip.symm.trans hsome
      · intro _
        show lookups (s.net ++ [.lookup target.host]) = [target.host] ∧
          s.addresses = answered s.resolution target.port
        rw [hnet, haddresses, hresolution]
        exact ⟨rfl, rfl⟩
  | unresolved result err hpc hresult =>
    obtain ⟨hresolution, hip⟩ := h.resolving hpc
    obtain ⟨target, htarget⟩ := h.exists_target (by simp [hpc]) (by simp [hpc])
    obtain ⟨hleads, haims⟩ := h.leads target htarget
    refine ⟨nofun, ?_, nofun, ?_⟩
    · intro hnone
      cases htarget.symm.trans hnone
    · intro target' htarget'
      obtain rfl : target = target' := Option.some.inj (htarget.symm.trans htarget')
      refine ⟨hleads, ?_, ?_⟩
      · intro ip hsome
        cases (hip target htarget).symm.trans hsome
      · intro hnone
        obtain ⟨hlookups, haddresses⟩ := haims.lookup hnone
        refine ⟨hlookups, ?_⟩
        show s.addresses = answered (some result) target.port
        rw [haddresses, hresolution]
        match result, hresult with
        | .error _, _ => rfl
        | .ok [], _ => rfl
        | .ok (ip :: ips), hresult => exact absurd rfl (hresult ip ips)
  | resolved target ip ips hpc htarget =>
    obtain ⟨hleads, haims⟩ := h.leads target htarget
    have hip := (h.resolving hpc).2 target htarget
    refine ⟨nofun, ?_, nofun, ?_⟩
    · intro hnone
      cases htarget.symm.trans hnone
    · intro target' htarget'
      obtain rfl : target = target' := Option.some.inj (htarget.symm.trans htarget')
      refine ⟨hleads, ?_, ?_⟩
      · intro ip' hip'
        cases hip.symm.trans hip'
      · intro _
        have hlookups : lookups (s.net ++ [.create (ipAddr ip target.port).family]) = lookups s.net := by
          simp [NetEffect.host]
        exact ⟨hlookups.trans (haims.lookup hip).1, rfl⟩
  | created address rest hpc =>
    exact h.keep (by simp [hpc]) (by simp [hpc]) ⟨nofun, nofun⟩ rfl rfl rfl (by simp [NetEffect.host])
  | fails address rest lastError hpc =>
    have hcalled : s.pc ≠ .called := by rcases hpc with hpc | hpc <;> simp [hpc]
    have hreturned : ∀ result, s.pc ≠ .returned result := by rcases hpc with hpc | hpc <;> simp [hpc]
    cases rest with
    | nil => exact h.keep hcalled hreturned ⟨nofun, nofun⟩ rfl rfl rfl rfl
    | cons next rest =>
      have hlookups : lookups (s.net ++ [.create next.family]) = lookups s.net := by simp [NetEffect.host]
      exact h.keep hcalled hreturned ⟨nofun, nofun⟩ rfl rfl rfl hlookups
  | secured address rest target hpc htarget hsecure =>
    exact h.keep (by simp [hpc]) (by simp [hpc]) ⟨nofun, nofun⟩ rfl rfl rfl (by simp [NetEffect.host])
  | plain address rest target hpc htarget hsecure =>
    have hkept : Aimed printable config url protocols { s.notes address (.ok ()) with socket := some (.ok ()) } :=
      h.keep (by simp [hpc]) (by simp [hpc]) (by simp [Dial.notes, hpc]) rfl rfl rfl rfl
    exact hkept.request (by simp [Dial.notes, hpc]) (by simp [Dial.notes, hpc])
  | tlsConnected hpc =>
    have hkept : Aimed printable config url protocols { s with tls := some (.ok ()) } :=
      h.keep (by simp [hpc]) (by simp [hpc]) (by simp [hpc]) rfl rfl rfl rfl
    exact hkept.request (by simp [hpc]) (by simp [hpc])
  | tlsFails err hpc =>
    exact h.keep (by simp [hpc]) (by simp [hpc]) ⟨nofun, nofun⟩ rfl rfl rfl rfl
  | established mid turn ws selected hpc hresult =>
    exact h.keep (by simp [hpc]) (by simp [hpc]) ⟨nofun, nofun⟩ rfl rfl rfl rfl
  | failure mid turn err hpc hresult =>
    exact h.keep (by simp [hpc]) (by simp [hpc]) ⟨nofun, nofun⟩ rfl rfl rfl rfl
  | writes mid mid' turn hpc hresult hne =>
    exact h.keep (by simp [hpc]) (by simp [hpc]) ⟨nofun, nofun⟩ rfl rfl rfl (by simp [NetEffect.host])
  | waits mid mid' turn hpc hresult hnil =>
    exact h.keep (by simp [hpc]) (by simp [hpc]) ⟨nofun, nofun⟩ rfl rfl rfl (by simp [NetEffect.host])
  | wrote mid outbound accepted hpc =>
    rcases wrote_cases s mid outbound accepted with ⟨err, heq⟩ | ⟨-, heq⟩
    · rw [heq]
      exact h.keep (by simp [hpc]) (by simp [hpc]) ⟨nofun, nofun⟩ rfl rfl rfl rfl
    · rw [heq]
      exact h.keep (by simp [hpc]) (by simp [hpc]) ⟨nofun, nofun⟩ rfl rfl rfl rfl
  | read mid dropped chunk hpc =>
    rcases reads_cases s mid dropped chunk with ⟨err, heq⟩ | ⟨-, heq⟩
    · rw [heq]
      exact h.keep (by simp [hpc]) (by simp [hpc]) ⟨nofun, nofun⟩ rfl rfl rfl rfl
    · rw [heq]
      exact h.keep (by simp [hpc]) (by simp [hpc]) ⟨nofun, nofun⟩ rfl rfl rfl rfl
  | deadline hwaits =>
    unfold Dial.waits at hwaits
    have hcalled : s.pc ≠ .called := by
      intro hpc
      rw [hpc] at hwaits
      cases hwaits
    have hreturned : ∀ result, s.pc ≠ .returned result := by
      intro result hpc
      rw [hpc] at hwaits
      cases hwaits
    exact h.keep hcalled hreturned ⟨nofun, nofun⟩ rfl rfl rfl rfl

/-- In every reachable state a call is aimed at its URL. -/
theorem aimed_of_reachable (h : (dialing printable config url protocols).Reachable s) :
    Aimed printable config url protocols s := by
  refine h.induction ?_ ?_
  · intro s hs
    obtain rfl : s = .called := hs
    exact ⟨fun _ => rfl, fun _ => ⟨rfl, rfl, rfl, .inl rfl⟩, nofun, nofun⟩
  · intro s a s' _ h hs
    exact h.step (dials_of_step hs)

/-- Certificates that have been read from the bundle are all of it. -/
theorem collectCerts_eq_ok {items : List (Except String Bytes)} {roots : List Bytes}
    (h : collectCerts items = .ok roots) : items = roots.map .ok := by
  induction items generalizing roots with
  | nil =>
    cases h
    rfl
  | cons item rest ih =>
    cases item with
    | error err => cases h
    | ok cert =>
      unfold collectCerts at h
      cases hrest : collectCerts rest with
      | error err =>
        rw [hrest] at h
        cases h
      | ok certs =>
        rw [hrest] at h
        obtain rfl := Except.ok.inj h
        rw [ih hrest]
        rfl

/-- The trust anchors for a URL are those of the bundle, and there is one. -/
theorem parsePemCertificates_eq_ok {pem : String} {roots : List Bytes}
    (h : parsePemCertificates D pem = .ok roots) : D.certs pem = roots.map .ok ∧ roots ≠ [] := by
  unfold parsePemCertificates at h
  split at h
  · cases h
  · next hne =>
    refine ⟨collectCerts_eq_ok h, ?_⟩
    rintro rfl
    exact hne h

/-- A URL leads to its host and its port, and a `wss:` URL does so only with the trust anchors of the configured
bundle. -/
theorem target_eq_ok {target : Target} (h : Provider.target D config url = .ok target) :
    ∃ uri, D.parseUri url = .ok uri ∧ target.host = uri.host.getD "" ∧
      target.port = (D.portU16 uri).getD (if uri.scheme = some "wss" then 443 else 80) ∧
      (target.secure = true ↔ uri.scheme = some "wss") ∧
      (target.secure = true → ∃ pem, config.tlsRootsPem = some pem ∧ D.certs pem = target.roots.map .ok ∧
        target.roots ≠ []) := by
  unfold Provider.target at h
  obtain ⟨uri, huri, h⟩ := bind_eq_ok_iff.mp h
  obtain ⟨roots, hroots, h⟩ := bind_eq_ok_iff.mp h
  obtain rfl := Except.ok.inj h
  have hparse : D.parseUri url = .ok uri := by
    cases hresult : D.parseUri url with
    | error err =>
      rw [hresult] at huri
      cases huri
    | ok uri' =>
      rw [hresult] at huri
      exact huri
  refine ⟨uri, hparse, rfl, ?_, decide_eq_true_iff, ?_⟩
  · by_cases hscheme : uri.scheme = some "wss"
    · simp only [hscheme, decide_true, if_true]
    · simp only [hscheme, decide_false, if_false, Bool.false_eq_true]
  intro hsecure
  unfold trustAnchors at hroots
  rw [if_pos hsecure] at hroots
  cases hpem : config.tlsRootsPem with
  | none =>
    rw [hpem] at hroots
    cases hroots
  | some pem =>
    rw [hpem] at hroots
    exact ⟨pem, rfl, parsePemCertificates_eq_ok hroots⟩

/-- In every run of `connect` the addresses are tried in order and one at a time, and the network is asked for
each at most once; all that are tried before the last fail, the socket is the first that connects, and without
one the error is that of the last.  The addresses have the host and the port of the URL: a literal address is
the only one, and is never looked up; any other host is looked up once, and the addresses are those of the
answer, in the order of the answer. -/
theorem connect_tries_in_order (h : (dialing printable config url protocols).Reachable s) :
    s.attempts.map Prod.fst <+: s.addresses ∧
      (∀ attempt ∈ s.attempts.dropLast, ∃ err, attempt.2 = .error err) ∧
      (connects s.net).Sublist s.addresses ∧
      (s.socket = some (.ok ()) ↔ ∃ address, s.attempts.getLast? = some (address, .ok ())) ∧
      (∀ err, s.socket = some (.error err) → s.attempts.map Prod.fst = s.addresses ∧
        (s.addresses = [] ∨ ∃ address, s.attempts.getLast? = some (address, .error err))) ∧
      (s.target = none → s.net = [] ∧ s.addresses = []) ∧
      ∀ target, s.target = some target → Provider.target D config url = .ok target ∧
        ∃ uri, D.parseUri url = .ok uri ∧ target.host = uri.host.getD "" ∧
          target.port = (D.portU16 uri).getD (if uri.scheme = some "wss" then 443 else 80) ∧
          (∀ ip, D.parseIp (bareHost target.host) = some ip →
            lookups s.net = [] ∧ s.addresses = [ipAddr ip target.port]) ∧
          (D.parseIp (bareHost target.host) = none →
            lookups s.net = [target.host] ∧ s.addresses = answered s.resolution target.port) := by
  have hsearched := (inOrder_of_reachable h).searched
  have haimed := aimed_of_reachable h
  refine ⟨hsearched.tried, hsearched.fails, hsearched.asks, hsearched.ok_iff, ?_, ?_, ?_⟩
  · intro err hsocket
    rw [hsocket] at hsearched
    exact hsearched.of_error
  · intro hnone
    exact ⟨(haimed.idle hnone).1, (haimed.idle hnone).2.1⟩
  · intro target htarget
    obtain ⟨hleads, haims⟩ := haimed.leads target htarget
    obtain ⟨uri, huri, hhost, hport, -, -⟩ := target_eq_ok hleads.leads
    exact ⟨hleads.leads, uri, huri, hhost, hport, haims.literal, haims.lookup⟩

/-- The first address of the answer refuses, and the second is the socket. -/
theorem connect_tries_in_order_second :
    ∃ s, Core.dials.run .called Core.dialActions = some s ∧ s.socket = some (.ok ()) ∧
      (∃ address, s.attempts.getLast? = some (address, .ok ())) ∧
      (∀ attempt ∈ s.attempts.dropLast, ∃ err, attempt.2 = .error err) ∧
      lookups s.net = ["a.example"] ∧
      s.addresses = [.ipv4 443 #v[10, 0, 0, 1], .ipv4 443 #v[10, 0, 0, 2]] := by
  have hrun : (Core.dials.run .called Core.dialActions).any (fun s => s.socket = some (.ok ()) ∧
      s.target = some ⟨true, "a.example", 443, [[0x30, 0]]⟩ ∧
      s.resolution = some (.ok [.ipv4 #v[10, 0, 0, 1], .ipv4 #v[10, 0, 0, 2]])) = true := by
    decide +kernel
  obtain ⟨s, hs, hdialed⟩ := (Option.any_eq_true _ _).mp hrun
  obtain ⟨hsocket, htarget, hresolution⟩ := of_decide_eq_true hdialed
  have hreachable : Core.dials.Reachable s := (System.Reachable.of_init rfl).run hs
  obtain ⟨-, hfails, -, hok, -, -, hleads⟩ := connect_tries_in_order hreachable
  obtain ⟨-, -, -, -, -, -, hlookup⟩ := hleads _ htarget
  obtain ⟨hlookups, haddresses⟩ := hlookup rfl
  rw [hresolution] at haddresses
  exact ⟨s, hs, hsocket, hok.mp hsocket, hfails, hlookups, haddresses⟩

/-! ### No trust anchors, no network -/

/-- The effects that read or write the bytes of the upgrade. -/
def NetEffect.Carries : NetEffect → Prop
  | .write _ | .read => True
  | _ => False

/-- How far TLS is, at each place of a call for a `wss:` URL. -/
def Shielded (s : Dial D) (target : Target) : Prop :=
  match s.pc with
  | .called | .resolving | .creating _ | .connecting _ => ∀ effect ∈ s.net, ¬ effect.Carries
  | .tlsConnecting => (∀ effect ∈ s.net, ¬ effect.Carries) ∧ .tls target.host target.roots ∈ s.net
  | .handshaking _ | .writing _ _ | .reading _ =>
    Guarded (· = .tls target.host target.roots) NetEffect.Carries s.net ∧
      .tls target.host target.roots ∈ s.net ∧ s.tls = some (.ok ())
  | .returned _ =>
    Guarded (· = .tls target.host target.roots) NetEffect.Carries s.net ∧
      ((∃ effect ∈ s.net, effect.Carries) → s.tls = some (.ok ()))

/-- An effect that carries nothing, at the end of those that carry nothing. -/
theorem not_carries_append {net : List NetEffect} {effect : NetEffect}
    (h : ∀ effect ∈ net, ¬ effect.Carries) (heffect : ¬ effect.Carries) :
    ∀ effect' ∈ net ++ [effect], ¬ effect'.Carries := by
  intro effect' hmem
  rcases List.mem_append.mp hmem with hmem | hmem
  · exact h effect' hmem
  · obtain rfl := List.mem_singleton.mp hmem
    exact heffect

/-- A record that carries nothing of the upgrade is guarded. -/
theorem guarded_of_not_carries {net : List NetEffect} {target : Target} (h : ∀ effect ∈ net, ¬ effect.Carries) :
    Guarded (· = .tls target.host target.roots) NetEffect.Carries net := by
  intro first effect rest hnet hcarries
  exact absurd hcarries (h effect (by simp [hnet]))

/-- Whatever a call returns with, it is as shielded as it was. -/
theorem Shielded.returns {target : Target} (h : Shielded s target) (result : Except Error (T.Ctx × String)) :
    Shielded (s.returns result) target := by
  have hbefore (h : ∀ effect ∈ s.net, ¬ effect.Carries) : Shielded (s.returns result) target :=
    ⟨guarded_of_not_carries h, fun ⟨effect, hmem, hcarries⟩ => absurd hcarries (h effect hmem)⟩
  unfold Shielded at h
  split at h
  · exact hbefore h
  · exact hbefore h
  · exact hbefore h
  · exact hbefore h
  · exact hbefore h.1
  · exact ⟨h.1, fun _ => h.2.2⟩
  · exact ⟨h.1, fun _ => h.2.2⟩
  · exact ⟨h.1, fun _ => h.2.2⟩
  · exact h

/-- The request goes out after the TLS handshake. -/
theorem Shielded.request {target : Target}
    (hguarded : Guarded (· = .tls target.host target.roots) NetEffect.Carries s.net)
    (hmem : .tls target.host target.roots ∈ s.net) (htls : s.tls = some (.ok ())) :
    Shielded (s.request url protocols) target := by
  rcases request_cases url protocols s with ⟨err, -, heq⟩ | ⟨mid, -, heq⟩
  · rw [heq]
    exact ⟨hguarded, fun _ => htls⟩
  · rw [heq]
    exact ⟨hguarded, hmem, htls⟩

/-- A call for a `wss:` URL stays shielded. -/
theorem shielded_step (haimed : Aimed printable config url protocols s) {target : Target}
    (h : s.target = some target → Shielded s target) (hs : Dials printable config url protocols s s')
    (htarget : s'.target = some target) (hsecure : target.secure = true) : Shielded s' target := by
  cases hs with
  | refused error hpc herror => exact (h htarget).returns _
  | literal target' ip hpc hleads hip =>
    have hnet := (haimed.idle (haimed.called hpc)).1
    show ∀ effect ∈ s.net ++ [.create (ipAddr ip target'.port).family], ¬ effect.Carries
    exact not_carries_append (by simp [hnet]) id
  | lookup target' hpc hleads hip =>
    have hnet := (haimed.idle (haimed.called hpc)).1
    exact not_carries_append (by simp [hnet]) id
  | unresolved result err hpc hresult =>
    have hkept : Shielded { s with resolution := some result, socket := some (.error err) } target := h htarget
    exact hkept.returns (.error (.connectFailed err))
  | resolved target' ip ips hpc htarget' =>
    have hshielded := h htarget
    unfold Shielded at hshielded
    rw [hpc] at hshielded
    exact not_carries_append hshielded id
  | created address rest hpc =>
    have hshielded := h htarget
    unfold Shielded at hshielded
    rw [hpc] at hshielded
    exact not_carries_append hshielded id
  | fails address rest lastError hpc =>
    have hnot : ∀ effect ∈ s.net, ¬ effect.Carries := by
      have hsome : s.target = some target := by cases rest <;> exact htarget
      have hshielded := h hsome
      unfold Shielded at hshielded
      rcases hpc with hpc | hpc <;> rwa [hpc] at hshielded
    cases rest with
    | nil => exact ⟨guarded_of_not_carries hnot, fun ⟨effect, hmem, hcarries⟩ => absurd hcarries (hnot effect hmem)⟩
    | cons next rest => exact not_carries_append hnot id
  | secured address rest target' hpc htarget' hsecure' =>
    obtain rfl : target' = target := Option.some.inj (htarget'.symm.trans htarget)
    have hshielded := h htarget
    unfold Shielded at hshielded
    rw [hpc] at hshielded
    exact ⟨not_carries_append hshielded id, by simp⟩
  | plain address rest target' hpc htarget' hsecure' =>
    have hsome : s.target = some target := by
      rw [request_target] at htarget
      exact htarget
    obtain rfl : target' = target := Option.some.inj (htarget'.symm.trans hsome)
    cases hsecure.symm.trans hsecure'
  | tlsConnected hpc =>
    have hsome : s.target = some target := by
      rw [request_target] at htarget
      exact htarget
    have hshielded := h hsome
    unfold Shielded at hshielded
    rw [hpc] at hshielded
    exact .request (guarded_of_not_carries hshielded.1) hshielded.2 rfl
  | tlsFails err hpc =>
    have hshielded := h htarget
    unfold Shielded at hshielded
    rw [hpc] at hshielded
    refine ⟨guarded_of_not_carries hshielded.1, ?_⟩
    rintro ⟨effect, hmem, hcarries⟩
    exact absurd hcarries (hshielded.1 effect hmem)
  | established mid turn ws selected hpc hresult =>
    have hkept : Shielded ((s.turned turn).notesRound (.ok ws selected (D.left ws (s.turned turn).io)))
        target := h htarget
    exact hkept.returns _
  | failure mid turn err hpc hresult =>
    have hkept : Shielded ((s.turned turn).notesRound (.failure err)) target := h htarget
    exact hkept.returns _
  | writes mid mid' turn hpc hresult hne =>
    have hshielded := h htarget
    unfold Shielded at hshielded
    rw [hpc] at hshielded
    obtain ⟨hguarded, hmem, htls⟩ := hshielded
    exact ⟨hguarded.append_singleton fun _ => ⟨_, hmem, rfl⟩, List.mem_append_left _ hmem, htls⟩
  | waits mid mid' turn hpc hresult hnil =>
    have hshielded := h htarget
    unfold Shielded at hshielded
    rw [hpc] at hshielded
    obtain ⟨hguarded, hmem, htls⟩ := hshielded
    exact ⟨hguarded.append_singleton fun _ => ⟨_, hmem, rfl⟩, List.mem_append_left _ hmem, htls⟩
  | wrote mid outbound accepted hpc =>
    rcases wrote_cases s mid outbound accepted with ⟨err, heq⟩ | ⟨-, heq⟩
    · rw [heq] at htarget ⊢
      have hkept : Shielded ({ s with sent := s.sent ++ outbound.take accepted }.notesRound
        (.interrupted outbound (outbound.drop accepted) false [])) target := h htarget
      exact hkept.returns _
    · rw [heq] at htarget ⊢
      have hshielded := h htarget
      unfold Shielded at hshielded
      rw [hpc] at hshielded
      exact hshielded
  | read mid dropped chunk hpc =>
    rcases reads_cases s mid dropped chunk with ⟨err, heq⟩ | ⟨-, heq⟩
    · rw [heq] at htarget ⊢
      have hkept : Shielded ({ s with io := s.io.feed chunk, received := s.received ++ chunk }.notesRound
        (.interrupted [] [] dropped chunk)) target := h htarget
      exact hkept.returns _
    · rw [heq] at htarget ⊢
      have hshielded := h htarget
      unfold Shielded at hshielded
      rw [hpc] at hshielded
      exact hshielded
  | deadline hwaits =>
    have hkept : Shielded { s with expired := true } target := h htarget
    exact hkept.returns _

/-- In every reachable state a secure call is shielded. -/
theorem shielded_of_reachable (h : (dialing printable config url protocols).Reachable s) :
    ∀ target, s.target = some target → target.secure = true → Shielded s target := by
  refine h.induction (I := fun s => ∀ target, s.target = some target → target.secure = true →
    Shielded s target) ?_ ?_
  · intro s hs target htarget
    obtain rfl : s = .called := hs
    cases htarget
  · intro s a s' hr h hs target htarget hsecure
    exact shielded_step (aimed_of_reachable hr) (fun hsome => h target hsome hsecure) (dials_of_step hs)
      htarget hsecure

/-- In every run, `connect` touches the network only for a URL and an offer that have passed the validation,
and for a `wss:` URL only with the certificates of the configured bundle, of which there is one at least; then
it neither writes nor reads a byte of the upgrade before it has asked for TLS with the host of the URL and
these certificates, and unless the TLS handshake has succeeded. -/
theorem connect_fails_closed (h : (dialing printable config url protocols).Reachable s) :
    (s.net ≠ [] → ∃ target, s.target = some target) ∧
      ∀ target, s.target = some target →
        validateUrl printable D.parseUri url = .ok () ∧ validateProtocols printable protocols = .ok () ∧
        Provider.target D config url = .ok target ∧
        ∃ uri, D.parseUri url = .ok uri ∧ (target.secure = true ↔ uri.scheme = some "wss") ∧
          (uri.scheme = some "wss" →
            (∃ pem, config.tlsRootsPem = some pem ∧ D.certs pem = target.roots.map .ok ∧ target.roots ≠ []) ∧
            ∀ first effect rest, s.net = first ++ effect :: rest → effect.Carries →
              .tls (uri.host.getD "") target.roots ∈ first ∧ s.tls = some (.ok ())) := by
  have haimed := aimed_of_reachable h
  constructor
  · intro hnet
    rw [← Option.ne_none_iff_exists']
    intro hnone
    exact hnet (haimed.idle hnone).1
  · intro target htarget
    obtain ⟨hleads, -⟩ := haimed.leads target htarget
    obtain ⟨uri, huri, hhost, -, hwss, hroots⟩ := target_eq_ok hleads.leads
    refine ⟨hleads.validUrl, hleads.validOffer, hleads.leads, uri, huri, hwss, ?_⟩
    intro hscheme
    have hsecure := hwss.mpr hscheme
    refine ⟨hroots hsecure, ?_⟩
    intro first effect rest hnet hcarries
    have hshielded := (shielded_of_reachable h target htarget hsecure).returns (.error .closed)
    obtain ⟨hguarded, htls⟩ := hshielded
    obtain ⟨guard, hguard, rfl⟩ := hguarded first effect rest hnet hcarries
    have hmem : effect ∈ s.net := by simp [hnet]
    rw [← hhost]
    exact ⟨hguard, htls ⟨effect, hmem, hcarries⟩⟩

/-- The request goes out over TLS, for the host of the URL and with the one certificate of the bundle. -/
theorem connect_fails_closed_secure :
    ∃ s, Core.dials.run .called Core.dialActions = some s ∧ ∃ first rest,
      s.net = first ++ .write Core.upgradeRequestLine :: rest ∧
        .tls "a.example" [[0x30, 0]] ∈ first ∧ s.tls = some (.ok ()) := by
  have hrun : (Core.dials.run .called Core.dialActions).any (fun s =>
      s.target = some ⟨true, "a.example", 443, [[0x30, 0]]⟩ ∧
        s.net = s.net.take 6 ++ .write Core.upgradeRequestLine :: s.net.drop 7) = true := by
    decide +kernel
  obtain ⟨s, hs, hnet⟩ := (Option.any_eq_true _ _).mp hrun
  obtain ⟨htarget, hnet⟩ := of_decide_eq_true hnet
  have hreachable : Core.dials.Reachable s := (System.Reachable.of_init rfl).run hs
  obtain ⟨-, -, -, uri, huri, -, hsecure⟩ := (connect_fails_closed hreachable).2 _ htarget
  obtain rfl := Except.ok.inj huri
  obtain ⟨hmem, htls⟩ := (hsecure rfl).2 _ _ _ hnet trivial
  exact ⟨s, hs, _, _, hnet, hmem, htls⟩

/-! ### The bytes of the upgrade -/

/-- The bytes that an effect hands to the transport. -/
def NetEffect.bytes : NetEffect → Bytes
  | .write bytes => bytes
  | _ => []

/-- The bytes that the transport was asked to take. -/
def asked (net : List NetEffect) : Bytes := net.flatMap NetEffect.bytes

/-- One more effect on the network. -/
@[simp] theorem asked_append (net : List NetEffect) (effect : NetEffect) :
    asked (net ++ [effect]) = asked net ++ effect.bytes := by
  unfold asked
  rw [List.flatMap_append, List.flatMap_singleton]

/-- How far the transport is with the bytes of the upgrade, at each place of a call. -/
def Kept (s : Dial D) : Prop :=
  match s.pc with
  | .called | .resolving | .creating _ | .connecting _ | .tlsConnecting =>
    s.received = [] ∧ s.written = [] ∧ s.sent = []
  | .handshaking _ | .reading _ => s.sent = asked s.net ∧ s.io.outbound = []
  | .writing _ outbound => s.sent ++ outbound = asked s.net ∧ s.io.outbound = []
  | .returned result => s.sent <+: asked s.net ∧ ∀ value, result = .ok value → s.sent = asked s.net

/-- What the handshake has read and what it has yet to read is what the transport has brought, and what the
transport was asked to take and what it has yet to be asked is what the handshake has written. -/
structure Conveyed (s : Dial D) : Prop where
  inbound : s.consumed ++ s.io.inbound = s.received
  outbound : asked s.net ++ s.io.outbound = s.written
  kept : Kept s

/-- The transport has taken what has been sent. -/
theorem Kept.takes (h : Kept s) : s.sent <+: asked s.net := by
  unfold Kept at h
  split at h
  · rw [h.2.2]
    exact List.nil_prefix
  · rw [h.2.2]
    exact List.nil_prefix
  · rw [h.2.2]
    exact List.nil_prefix
  · rw [h.2.2]
    exact List.nil_prefix
  · rw [h.2.2]
    exact List.nil_prefix
  · rw [h.1]
  · rw [h.1]
  · exact ⟨_, h.1⟩
  · exact h.1

/-- A call that fails leaves the bytes where they are. -/
theorem Conveyed.fails (h : Conveyed s) (error : Error) : Conveyed (s.returns (.error error)) :=
  ⟨h.inbound, h.outbound, h.kept.takes, nofun⟩

/-- Before the upgrade there are no bytes. -/
theorem Conveyed.silent (h : Conveyed s) (hnone : s.received = [] ∧ s.written = [] ∧ s.sent = []) :
    s.consumed = [] ∧ asked s.net = [] := by
  obtain ⟨hreceived, hwritten, -⟩ := hnone
  have hinbound := h.inbound
  have houtbound := h.outbound
  rw [hreceived] at hinbound
  rw [hwritten] at houtbound
  exact ⟨(List.append_eq_nil_iff.mp hinbound).1, (List.append_eq_nil_iff.mp houtbound).1⟩

/-- The upgrade begins with an empty virtual transport. -/
theorem Conveyed.request (h : Conveyed s) (hnone : s.received = [] ∧ s.written = [] ∧ s.sent = []) :
    Conveyed (s.request url protocols) := by
  obtain ⟨hconsumed, hasked⟩ := h.silent hnone
  obtain ⟨hreceived, hwritten, hsent⟩ := hnone
  rcases request_cases url protocols s with ⟨err, -, heq⟩ | ⟨mid, -, heq⟩
  · rw [heq]
    exact h.fails _
  · rw [heq]
    refine ⟨?_, ?_, ?_, rfl⟩
    · show s.consumed ++ [] = s.received
      rw [hconsumed, hreceived]
      rfl
    · show asked s.net ++ [] = s.written
      rw [hasked, hwritten]
      rfl
    · exact hsent.trans hasked.symm

/-- A call of `pending.handshake()` reads the front of what has been fed, and appends what it writes. -/
theorem Conveyed.turned (h : Conveyed s) (turn : HandshakeTurn D.Mid T.Ctx H) :
    (s.turned turn).consumed ++ (s.turned turn).io.inbound = s.received ∧
      asked s.net ++ (s.turned turn).io.outbound = (s.turned turn).written := by
  constructor
  · show (s.consumed ++ s.io.inbound.take turn.consumed) ++ s.io.inbound.drop turn.consumed = s.received
    rw [List.append_assoc, List.take_append_drop]
    exact h.inbound
  · show asked s.net ++ (s.io.outbound ++ turn.written) = s.written ++ turn.written
    rw [← List.append_assoc, h.outbound]

/-- Every move keeps the account of the bytes. -/
theorem Conveyed.step (h : Conveyed s) (hs : Dials printable config url protocols s s') : Conveyed s' := by
  have hkept := h.kept
  unfold Kept at hkept
  cases hs with
  | refused error hpc herror => exact h.fails error
  | literal target ip hpc hleads hip =>
    rw [hpc] at hkept
    have hasked : asked (s.net ++ [.create (ipAddr ip target.port).family]) = asked s.net := by
      simp [NetEffect.bytes]
    refine ⟨h.inbound, ?_, hkept⟩
    show asked (s.net ++ [.create (ipAddr ip target.port).family]) ++ s.io.outbound = s.written
    rw [hasked]
    exact h.outbound
  | lookup target hpc hleads hip =>
    rw [hpc] at hkept
    exact ⟨h.inbound, by simpa [NetEffect.bytes] using h.outbound, hkept⟩
  | unresolved result err hpc hresult =>
    have hsame : Conveyed { s with resolution := some result, socket := some (.error err) } :=
      ⟨h.inbound, h.outbound, h.kept⟩
    exact hsame.fails (.connectFailed err)
  | resolved target ip ips hpc htarget =>
    rw [hpc] at hkept
    have hasked : asked (s.net ++ [.create (ipAddr ip target.port).family]) = asked s.net := by
      simp [NetEffect.bytes]
    refine ⟨h.inbound, ?_, hkept⟩
    show asked (s.net ++ [.create (ipAddr ip target.port).family]) ++ s.io.outbound = s.written
    rw [hasked]
    exact h.outbound
  | created address rest hpc =>
    rw [hpc] at hkept
    exact ⟨h.inbound, by simpa [NetEffect.bytes] using h.outbound, hkept⟩
  | fails address rest lastError hpc =>
    have hnone : s.received = [] ∧ s.written = [] ∧ s.sent = [] := by
      rcases hpc with hpc | hpc <;> rwa [hpc] at hkept
    cases rest with
    | nil =>
      have hsame : Conveyed { s.notes address (.error lastError) with socket := some (.error lastError) } :=
        ⟨h.inbound, h.outbound, h.kept⟩
      exact hsame.fails _
    | cons next rest =>
      have hasked : asked (s.net ++ [.create next.family]) = asked s.net := by simp [NetEffect.bytes]
      refine ⟨h.inbound, ?_, hnone⟩
      show asked (s.net ++ [.create next.family]) ++ s.io.outbound = s.written
      rw [hasked]
      exact h.outbound
  | secured address rest target hpc htarget hsecure =>
    rw [hpc] at hkept
    exact ⟨h.inbound, by simpa [Dial.notes, NetEffect.bytes] using h.outbound, hkept⟩
  | plain address rest target hpc htarget hsecure =>
    rw [hpc] at hkept
    have hsame : Conveyed { s.notes address (.ok ()) with socket := some (.ok ()) } :=
      ⟨h.inbound, h.outbound, h.kept⟩
    exact hsame.request hkept
  | tlsConnected hpc =>
    rw [hpc] at hkept
    have hsame : Conveyed { s with tls := some (.ok ()) } := ⟨h.inbound, h.outbound, h.kept⟩
    exact hsame.request hkept
  | tlsFails err hpc =>
    have hsame : Conveyed { s with tls := some (.error err) } := ⟨h.inbound, h.outbound, h.kept⟩
    exact hsame.fails _
  | established mid turn ws selected hpc hresult =>
    rw [hpc] at hkept
    obtain ⟨hinbound, houtbound⟩ := h.turned turn
    refine ⟨hinbound, houtbound, ?_, ?_⟩
    · show s.sent <+: asked s.net
      rw [hkept.1]
    · intro _ _
      exact hkept.1
  | failure mid turn err hpc hresult =>
    rw [hpc] at hkept
    obtain ⟨hinbound, houtbound⟩ := h.turned turn
    exact ⟨hinbound, houtbound, h.kept.takes, nofun⟩
  | writes mid mid' turn hpc hresult hne =>
    rw [hpc] at hkept
    obtain ⟨hinbound, houtbound⟩ := h.turned turn
    have hasked : asked (s.net ++ [.write (s.turned turn).io.outbound]) =
        asked s.net ++ (s.turned turn).io.outbound := by simp [NetEffect.bytes]
    refine ⟨hinbound, ?_, ?_, rfl⟩
    · show asked (s.net ++ [.write (s.turned turn).io.outbound]) ++ [] = (s.turned turn).written
      rw [hasked, List.append_nil]
      exact houtbound
    · show s.sent ++ (s.turned turn).io.outbound = asked (s.net ++ [.write (s.turned turn).io.outbound])
      rw [hasked, hkept.1]
  | waits mid mid' turn hpc hresult hnil =>
    rw [hpc] at hkept
    obtain ⟨hinbound, houtbound⟩ := h.turned turn
    have hasked : asked (s.net ++ [.read]) = asked s.net := by simp [NetEffect.bytes]
    refine ⟨hinbound, ?_, ?_, rfl⟩
    · show asked (s.net ++ [.read]) ++ [] = (s.turned turn).written
      rw [hasked, ← houtbound, hnil]
    · show s.sent = asked (s.net ++ [.read])
      rw [hasked]
      exact hkept.1
  | wrote mid outbound accepted hpc =>
    rw [hpc] at hkept
    have htaken : s.sent ++ outbound.take accepted <+: asked s.net := by
      rw [← hkept.1]
      exact (List.prefix_append_right_inj _).mpr (List.take_prefix _ _)
    rcases wrote_cases s mid outbound accepted with ⟨err, heq⟩ | ⟨hall, heq⟩
    · rw [heq]
      exact ⟨h.inbound, h.outbound, htaken, nofun⟩
    · rw [heq]
      refine ⟨h.inbound, h.outbound, ?_, hkept.2⟩
      show s.sent ++ outbound.take accepted = asked s.net
      have hwhole := List.take_append_drop accepted outbound
      rw [hall, List.append_nil] at hwhole
      rw [hwhole]
      exact hkept.1
  | read mid dropped chunk hpc =>
    rw [hpc] at hkept
    have hinbound : s.consumed ++ (s.io.inbound ++ chunk) = s.received ++ chunk := by
      rw [← List.append_assoc, h.inbound]
    rcases reads_cases s mid dropped chunk with ⟨err, heq⟩ | ⟨-, heq⟩
    · rw [heq]
      exact ⟨hinbound, h.outbound, h.kept.takes, nofun⟩
    · rw [heq]
      exact ⟨hinbound, h.outbound, hkept⟩
  | deadline hwaits =>
    have hsame : Conveyed { s with expired := true } := ⟨h.inbound, h.outbound, h.kept⟩
    exact hsame.fails _

/-- In every reachable state the bytes are accounted for. -/
theorem conveyed_of_reachable (h : (dialing printable config url protocols).Reachable s) : Conveyed s := by
  refine h.induction ?_ ?_
  · intro s hs
    obtain rfl : s = .called := hs
    exact ⟨rfl, rfl, rfl, rfl, rfl⟩
  · intro s a s' _ h hs
    exact h.step (dials_of_step hs)

/-- In every run the bytes of the upgrade arrive as they were sent: what the transport has taken is the first
of what the handshake has written, and all of it whenever the call waits for an answer; what the handshake has
read, with what is still in the virtual transport, is what the transport has brought.  So the pump takes over
with every byte that is neither read nor sent, in order and each once. -/
theorem handshake_conveys (h : (dialing printable config url protocols).Reachable s) :
    s.consumed ++ s.io.inbound = s.received ∧ asked s.net ++ s.io.outbound = s.written ∧
      s.sent <+: asked s.net ∧ (∀ mid, s.pc = .reading mid → s.sent = s.written) ∧
      ∀ ws negotiated, s.pc = .returned (.ok (ws, negotiated)) → s.sent ++ s.io.outbound = s.written := by
  have hconveyed := conveyed_of_reachable h
  have hkept := hconveyed.kept
  refine ⟨hconveyed.inbound, hconveyed.outbound, hkept.takes, ?_, ?_⟩
  · intro mid hpc
    unfold Kept at hkept
    rw [hpc] at hkept
    rw [hkept.1, ← hconveyed.outbound, hkept.2, List.append_nil]
  · intro ws negotiated hpc
    unfold Kept at hkept
    rw [hpc] at hkept
    rw [hkept.2 _ rfl]
    exact hconveyed.outbound

/-- The request has been sent, and the response read. -/
theorem handshake_conveys_response :
    ∃ s, Core.dials.run .called Core.dialActions = some s ∧ s.received = Core.upgradeResponseLine ∧
      s.consumed ++ s.io.inbound = Core.upgradeResponseLine ∧
      s.sent ++ s.io.outbound = s.written := by
  have hrun : (Core.dials.run .called Core.dialActions).any (fun s =>
      s.received = Core.upgradeResponseLine ∧ s.result = some (.ok (Core.fresh, ""))) = true := by
    decide +kernel
  obtain ⟨s, hs, hreturned⟩ := (Option.any_eq_true _ _).mp hrun
  obtain ⟨hreceived, hreturned⟩ := of_decide_eq_true hreturned
  have hreachable : Core.dials.Reachable s := (System.Reachable.of_init rfl).run hs
  obtain ⟨hinbound, -, -, -, hsent⟩ := handshake_conveys hreachable
  exact ⟨s, hs, hreceived, hreceived ▸ hinbound, hsent _ _ (pc_of_result hreturned)⟩

end Polymorph.Provider
