import PolymorphWebsocket.Js.Connect

/-!
# The JavaScript host: no socket is leaked by `connect`

What holds of a call of `connect` at each stage of it: before it runs, during the handshake, between
its settlement and the continuation, and after the return.  Each move leads from one stage to the
next, or changes only what the platform has closed.  With these a call that has returned has
reclaimed the platform's `WebSocket` or returned its owner, and an abort reclaims it at any later
time.
-/

namespace Polymorph.Js

open Transition

/-! ### What the handshake leaves behind -/

/-- The platform has closed the `WebSocket`, or will. -/
def WebSocket.Reclaimed (ws : WebSocket) : Prop := ws.isClosed = true ∨ ws.closeCalled = true

namespace Connect

variable {s s' : Connect}

/-- The handshake has no timer and no listener. -/
structure Cleared (s : Connect) : Prop where
  timer : s.timer = none
  socket : ∀ ws, s.ws = some ws → ws.listeners = []
  signal : ∀ signal, s.signal = some signal → .onAbort ∉ signal.listeners

/-- The `WebSocket`, if there is one, is reclaimed. -/
def Freed (s : Connect) : Prop := ∀ ws, s.ws = some ws → ws.Reclaimed

/-- The call has not run. -/
structure Called (s : Connect) : Prop where
  cleared : s.Cleared
  socket : s.ws = none
  settles : s.settles = []
  results : s.results = []
  resource : s.resource = none
  listens : ∀ signal, s.signal = some signal → signal.listeners = []

/-- The handshake is under way. -/
structure Shaking (s : Connect) : Prop where
  socket : s.ws.isSome = true
  settles : s.settles = []
  results : s.results = []
  resource : s.resource = none
  listens : ∀ signal, s.signal = some signal → signal.listeners = [.onAbort]

/-- The promise of the handshake has settled. -/
structure Settled (s : Connect) (result : Except Error Unit) : Prop where
  cleared : s.Cleared
  socket : s.ws.isSome = true
  settles : s.settles = [result]
  results : s.results = []
  resource : s.resource = none
  listens : ∀ signal, s.signal = some signal → signal.listeners = []
  opened : result = .ok () → ∀ ws, s.ws = some ws → ws.socket = some .open
  freed : ∀ err, result = .error err → s.Freed

/-- The call has returned. -/
structure Returned (s : Connect) (result : Except Error Unit) : Prop where
  cleared : s.Cleared
  settles : s.settles.length ≤ 1
  results : s.results = [result]
  owned : result = .ok () → s.ws.isSome = true ∧ s.resource.isSome = true
  freed : (∃ err, result = .error err) ∨ s.aborted = true → s.Freed
  listens : ∀ signal, s.signal = some signal →
    signal.listeners = [.disposeOnAbort] ∨ signal.listeners = [] ∧ s.Freed

/-- What holds of a call, by where it is. -/
def Sound (s : Connect) : Prop :=
  match s.pc with
  | .called => s.Called
  | .handshake => s.Shaking
  | .settled result => s.Settled result
  | .returned => ∃ result, s.Returned result

/-- A call that has just been made. -/
theorem Called.sound (h : s.Called) (hpc : s.pc = .called) : s.Sound := by
  unfold Sound
  rw [hpc]
  exact h

/-- A call whose handshake is under way. -/
theorem Shaking.sound (h : s.Shaking) (hpc : s.pc = .handshake) : s.Sound := by
  unfold Sound
  rw [hpc]
  exact h

/-- A call whose promise has settled. -/
theorem Settled.sound {result : Except Error Unit} (h : s.Settled result)
    (hpc : s.pc = .settled result) : s.Sound := by
  unfold Sound
  rw [hpc]
  exact h

/-- A call that has returned. -/
theorem Returned.sound {result : Except Error Unit} (h : s.Returned result)
    (hpc : s.pc = .returned) : s.Sound := by
  unfold Sound
  rw [hpc]
  exact ⟨result, h⟩

/-- Which stage a call is in. -/
theorem Sound.stages (h : s.Sound) :
    (s.pc = .called ∧ s.Called) ∨ (s.pc = .handshake ∧ s.Shaking) ∨
    (∃ result, s.pc = .settled result ∧ s.Settled result) ∨
    s.pc = .returned ∧ ∃ result, s.Returned result := by
  unfold Sound at h
  split at h
  · next hpc => exact .inl ⟨hpc, h⟩
  · next hpc => exact .inr (.inl ⟨hpc, h⟩)
  · next result hpc => exact .inr (.inr (.inl ⟨result, hpc, h⟩))
  · next hpc => exact .inr (.inr (.inr ⟨hpc, h⟩))

/-! ### Settlement -/

/-- `settle` removes every listener of the handshake. -/
theorem remove_all (ws : WebSocket) :
    (((ws.remove .onOpen).remove .onClose).remove .onError).listeners = [] := by
  apply List.eq_nil_iff_forall_not_mem.mpr
  intro listener
  cases listener <;> simp [WebSocket.remove]

/-- The first call of `settle` settles the promise of the handshake. -/
theorem settled_of_settle (hpc : s.pc = .handshake) (hsocket : s.ws.isSome = true)
    (hsettles : s.settles = []) (hresults : s.results = []) (hresource : s.resource = none)
    (hlistens : ∀ signal, s.signal = some signal →
      ∀ listener ∈ signal.listeners, listener = .onAbort)
    (result : Except Error Unit)
    (hopened : result = .ok () → ∀ ws, s.ws = some ws → ws.socket = some .open)
    (hfreed : ∀ err, result = .error err → s.Freed) :
    (s.settle result).pc = .settled result ∧ (s.settle result).Settled result := by
  have hnone : ∀ signal, (s.settle result).signal = some signal → signal.listeners = [] := by
    intro signal hsignal
    obtain ⟨old, hold, rfl⟩ := Option.map_eq_some_iff.mp hsignal
    apply List.eq_nil_iff_forall_not_mem.mpr
    intro listener hmem
    obtain ⟨hmem, hne⟩ := List.mem_filter.mp hmem
    exact absurd (hlistens old hold listener hmem) (by simpa using hne)
  refine ⟨?_, ?_⟩
  · unfold settle
    dsimp only
    rw [hpc]
  · refine {
      cleared := ⟨rfl, fun ws hws => ?_, fun signal hsignal => ?_⟩
      socket := Option.isSome_map.trans hsocket
      settles := by rw [settle, hsettles]; rfl
      results := hresults
      resource := hresource
      listens := hnone
      opened := fun hok ws hws => ?_
      freed := fun err herr ws hws => ?_ }
    · obtain ⟨old, -, rfl⟩ := Option.map_eq_some_iff.mp hws
      exact remove_all old
    · rw [hnone signal hsignal]
      exact List.not_mem_nil
    · obtain ⟨old, hold, rfl⟩ := Option.map_eq_some_iff.mp hws
      exact hopened hok old hold
    · obtain ⟨old, hold, rfl⟩ := Option.map_eq_some_iff.mp hws
      exact hfreed err herr old hold

/-- `ws.close()` reclaims the `WebSocket`. -/
theorem freed_closeSocket (s : Connect) : s.closeSocket.Freed := by
  intro ws hws
  obtain ⟨old, -, rfl⟩ := Option.map_eq_some_iff.mp hws
  exact .inr rfl

/-- The call of `ws.close()` after `settle` may as well be made before it. -/
theorem closeSocket_settle (s : Connect) (result : Except Error Unit) :
    (s.settle result).closeSocket = s.closeSocket.settle result := by
  unfold closeSocket settle
  cases s.ws <;> rfl

/-- The handshake fails, and `ws.close()` is called. -/
theorem sound_of_fail (hpc : s.pc = .handshake) (hsocket : s.ws.isSome = true)
    (hsettles : s.settles = []) (hresults : s.results = []) (hresource : s.resource = none)
    (hlistens : ∀ signal, s.signal = some signal →
      ∀ listener ∈ signal.listeners, listener = .onAbort) (err : Error) :
    ((s.settle (.error err)).closeSocket).Sound := by
  have hsettled :=
    settled_of_settle (s := s.closeSocket) hpc (Option.isSome_map.trans hsocket) hsettles
    hresults hresource hlistens (.error err) nofun (fun _ _ => freed_closeSocket s)
  rw [closeSocket_settle]
  exact hsettled.2.sound hsettled.1

/-- An event of the platform during the handshake: its listener settles the promise, or nothing but
the platform has changed. -/
theorem Shaking.event (h : s.Shaking) (hpc : s.pc = .handshake) (change : WebSocket → WebSocket)
    (listener : SocketListener) {callback : Connect → Connect}
    (hcalls : ∀ t : Connect, t.Shaking → t.pc = .handshake →
      (∀ ws, t.ws = some ws → ∃ old, ws = (change old).remove listener) → (callback t).Sound) :
    (s.event change listener callback).Sound := by
  have hchanged : ({ s with
      ws := s.ws.map fun ws => (change ws).remove listener } : Connect).Shaking :=
    ⟨Option.isSome_map.trans h.socket, h.settles, h.results, h.resource, h.listens⟩
  unfold Connect.event
  dsimp only
  split
  · refine hcalls _ hchanged hpc fun ws hws => ?_
    obtain ⟨old, -, rfl⟩ := Option.map_eq_some_iff.mp hws
    exact ⟨old, rfl⟩
  · exact hchanged.sound hpc

/-- A listener settles the promise of the handshake. -/
theorem Shaking.settle (h : s.Shaking) (hpc : s.pc = .handshake) (result : Except Error Unit)
    (hopened : result = .ok () → ∀ ws, s.ws = some ws → ws.socket = some .open)
    (hfreed : ∀ err, result = .error err → s.Freed) : (s.settle result).Sound := by
  have hsettled := settled_of_settle hpc h.socket h.settles h.results h.resource
    (fun signal hsignal listener hmem => by simpa [h.listens signal hsignal] using hmem)
    result hopened hfreed
  exact hsettled.2.sound hsettled.1

/-! ### Every move -/

/-- A call that fails has freed its socket. -/
theorem finish_error (s : Connect) (err : Error) (hcleared : s.Cleared)
    (hsettles : s.settles.length ≤ 1) (hresults : s.results = []) (hfreed : s.Freed)
    (hlistens : ∀ signal, s.signal = some signal → signal.listeners = []) :
    (s.finish (.error err)).Sound := by
  have hreturned : (s.finish (.error err)).Returned (.error err) := {
    cleared := ⟨hcleared.timer, hcleared.socket, hcleared.signal⟩
    settles := hsettles
    results := by rw [finish, hresults]; rfl
    owned := nofun
    freed := fun _ => hfreed
    listens := fun signal hsignal => .inr ⟨hlistens signal hsignal, hfreed⟩ }
  exact hreturned.sound rfl

/-- A call that succeeds hands its socket over, or has freed it on an abort. -/
theorem finish_ok (s : Connect) (hcleared : s.Cleared) (hsettles : s.settles.length ≤ 1)
    (hresults : s.results = []) (hsocket : s.ws.isSome = true) (hfreed : s.aborted = true → s.Freed)
    (hlistens : ∀ signal, s.signal = some signal →
      signal.listeners = [.disposeOnAbort] ∨ signal.listeners = [] ∧ s.Freed) :
    ({ s with resource := s.ws.map fun ws => WebSocket.resource ws s.knobs s.now }.finish
      (.ok ())).Sound := by
  have hreturned : ({ s with
      resource := s.ws.map fun ws => WebSocket.resource ws s.knobs s.now }.finish
        (.ok ())).Returned (.ok ()) := {
    cleared := ⟨hcleared.timer, hcleared.socket, hcleared.signal⟩
    settles := hsettles
    results := by rw [finish, hresults]; rfl
    owned := fun _ => ⟨hsocket, Option.isSome_map.trans hsocket⟩
    freed := fun hr => hfreed (hr.resolve_left (fun ⟨_, herr⟩ => nomatch herr))
    listens := hlistens }
  exact hreturned.sound rfl

/-- The call runs: it fails without a `WebSocket`, or starts the handshake. -/
theorem Called.call (h : s.Called) (parse : String → Except String ParsedUrl)
    (constructed : Except String Unit) : (s.call parse constructed).Sound := by
  have hfail (err : Error) : (s.finish (.error err)).Sound := by
    apply finish_error s err h.cleared _ h.results _ h.listens
    · rw [h.settles]
      exact Nat.zero_le _
    · intro ws hws
      rw [h.socket] at hws
      cases hws
  unfold Connect.call
  split
  · exact hfail _
  · split
    · exact hfail _
    · split
      · exact hfail _
      · split
        · exact hfail _
        · refine Shaking.sound ⟨rfl, h.settles, h.results, h.resource, fun signal hsignal => ?_⟩ rfl
          obtain ⟨old, hold, rfl⟩ := Option.map_eq_some_iff.mp hsignal
          dsimp only
          rw [h.listens old hold]
          rfl

/-- The call goes on: it fails and gives the `WebSocket` back, or returns its owner. -/
theorem Settled.resume {result : Except Error Unit} (h : s.Settled result) :
    (s.resume result).Sound := by
  have hsettles : s.settles.length ≤ 1 := by
    rw [h.settles]
    exact le_rfl
  have hclosed : s.closeSocket.Cleared := by
    refine ⟨h.cleared.timer, fun ws hws => ?_, h.cleared.signal⟩
    obtain ⟨old, hold, rfl⟩ := Option.map_eq_some_iff.mp hws
    exact h.cleared.socket old hold
  unfold Connect.resume
  split
  · next err => exact finish_error s err h.cleared hsettles h.results (h.freed err rfl) h.listens
  · split
    · next err _ =>
      exact finish_error s.closeSocket err hclosed hsettles h.results (freed_closeSocket s)
        h.listens
    · unfold succeed
      dsimp only
      split
      · next hnone =>
        refine finish_ok s h.cleared hsettles h.results h.socket (fun ha => ?_) fun signal hs => ?_
        · rw [aborted, hnone] at ha
          cases ha
        · rw [hnone] at hs
          cases hs
      · next signal hsignal =>
        split
        · exact finish_ok s.closeSocket hclosed hsettles h.results
            (Option.isSome_map.trans h.socket)
            (fun _ => freed_closeSocket s)
            (fun other hother => .inr ⟨h.listens other hother, freed_closeSocket s⟩)
        · next ha =>
          have hlistens := h.listens signal hsignal
          refine finish_ok _ ⟨h.cleared.timer, h.cleared.socket, fun other hother => ?_⟩ hsettles
            h.results h.socket (fun hab => absurd hab ha) fun other hother => ?_
          · cases hother
            simp [hlistens]
          · cases hother
            simp [hlistens]

/-- What the platform and the owner do to a `WebSocket`: no listener comes back, and what has been
reclaimed stays so. -/
structure Follows (ws ws' : WebSocket) : Prop where
  listeners : ∀ listener ∈ ws'.listeners, listener ∈ ws.listeners
  reclaimed : ws.Reclaimed → ws'.Reclaimed

/-- A socket that is told to close goes on. -/
theorem follows_close (ws : WebSocket) : Follows ws ws.close :=
  ⟨fun _ hmem => hmem, fun _ => .inr rfl⟩

/-- So does one that loses a listener. -/
theorem follows_remove {ws ws' : WebSocket} (h : Follows ws ws') (listener : SocketListener) :
    Follows ws (ws'.remove listener) :=
  ⟨fun other hmem => h.listeners other (List.mem_filter.mp hmem).1, h.reclaimed⟩

/-- The platform moves on with a `WebSocket` that it has not closed. -/
theorem follows_of_open {ws ws' : WebSocket} (hopen : ws.isClosed = false)
    (hlisteners : ws'.listeners = ws.listeners) (hcalled : ws'.closeCalled = ws.closeCalled) :
    Follows ws ws' := by
  refine ⟨fun listener hmem => hlisteners ▸ hmem, fun hr => ?_⟩
  rcases hr with hclosed | hclose
  · rw [hopen] at hclosed
    cases hclosed
  · exact .inr (hcalled.trans hclose)

/-- The platform closes a `WebSocket`. -/
theorem follows_of_closed {ws ws' : WebSocket} (hclosed : ws'.isClosed = true)
    (hlisteners : ws'.listeners = ws.listeners) : Follows ws ws' :=
  ⟨fun _ hmem => hlisteners ▸ hmem, fun _ => .inl hclosed⟩

/-- A freed socket stays freed. -/
theorem Freed.map (h : s.Freed) {change : WebSocket → WebSocket}
    (hc : ∀ ws, s.ws = some ws → Follows ws (change ws)) :
    ({ s with ws := s.ws.map change } : Connect).Freed := by
  intro ws hws
  obtain ⟨old, hold, rfl⟩ := Option.map_eq_some_iff.mp hws
  exact (hc old hold).reclaimed (h old hold)

/-- Cleared listeners stay cleared. -/
theorem Cleared.map (h : s.Cleared) {change : WebSocket → WebSocket}
    (hc : ∀ ws, s.ws = some ws → Follows ws (change ws)) :
    ({ s with ws := s.ws.map change } : Connect).Cleared := by
  refine ⟨h.timer, fun ws hws => ?_, h.signal⟩
  obtain ⟨old, hold, rfl⟩ := Option.map_eq_some_iff.mp hws
  apply List.eq_nil_iff_forall_not_mem.mpr
  intro listener hmem
  have hmem := (hc old hold).listeners listener hmem
  rw [h.socket old hold] at hmem
  cases hmem

/-- The platform and the owner go on with a `WebSocket` after the call. -/
theorem Returned.map {result : Except Error Unit} (h : s.Returned result)
    {change : WebSocket → WebSocket} (hc : ∀ ws, s.ws = some ws → Follows ws (change ws)) :
    ({ s with ws := s.ws.map change } : Connect).Returned result where
  cleared := h.cleared.map hc
  settles := h.settles
  results := h.results
  owned := fun hok => ⟨Option.isSome_map.trans (h.owned hok).1, (h.owned hok).2⟩
  freed := fun hr => (h.freed hr).map hc
  listens := fun signal hsignal => (h.listens signal hsignal).imp_right fun hnone =>
    ⟨hnone.1, hnone.2.map hc⟩

/-- An event finds no listener of the handshake any more. -/
theorem event_of_cleared (h : s.Cleared) (change : WebSocket → WebSocket)
    (listener : SocketListener) (callback : Connect → Connect) :
    s.event change listener callback =
      { s with ws := s.ws.map fun ws => (change ws).remove listener } := by
  have hnone : ¬ (s.ws.any fun ws => ws.listeners.contains listener) = true := by
    cases hws : s.ws with
    | none => nofun
    | some ws =>
      intro hany
      have hmem : ws.listeners.contains listener = true := hany
      rw [h.socket ws hws] at hmem
      cases hmem
  unfold event
  rw [if_neg hnone]

/-- An abort disposes of the connection of a call that has returned. -/
theorem Returned.abort {result : Except Error Unit} (h : s.Returned result)
    (hpc : s.pc = .returned) {signal : AbortSignal} (hsignal : s.signal = some signal) :
    (signal.listeners.foldl callListener
      { s with signal := some { aborted := true, listeners := [] } }).Sound := by
  -- after the abort the signal has no listeners, and the `WebSocket` is reclaimed
  have hend (ws : Option WebSocket) (hcleared : ∀ w, ws = some w → w.listeners = [])
      (howned : result = .ok () → ws.isSome = true) (hfreed : ∀ w, ws = some w → w.Reclaimed) :
      ({ s with ws := ws, signal := some { aborted := true, listeners := [] } } : Connect).Sound := by
    have hreturned : ({ s with
        ws := ws, signal := some { aborted := true, listeners := [] } } : Connect).Returned
          result := {
      cleared := ⟨h.cleared.timer, hcleared, fun other hother => by
        cases hother
        exact List.not_mem_nil⟩
      settles := h.settles
      results := h.results
      owned := fun hok => ⟨howned hok, (h.owned hok).2⟩
      freed := fun _ => hfreed
      listens := fun other hother => by
        cases hother
        exact .inr ⟨rfl, hfreed⟩ }
    exact hreturned.sound hpc
  rcases h.listens signal hsignal with hlistens | ⟨hlistens, hfreed⟩ <;> rw [hlistens]
  · have hmapped := h.map fun ws _ => follows_close ws
    exact hend _ hmapped.cleared.socket (fun hok => (hmapped.owned hok).1) (freed_closeSocket s)
  · exact hend _ h.cleared.socket (fun hok => (h.owned hok).1) hfreed

/-- Time and the knobs matter to nothing of it. -/
theorem Sound.of_same (h : s.Sound) (hsame : s' = { s with knobs := s'.knobs, now := s'.now }) :
    s'.Sound := by
  rw [hsame]
  rcases h.stages with ⟨hpc, h⟩ | ⟨hpc, h⟩ | ⟨result, hpc, h⟩ | ⟨hpc, result, h⟩
  · exact Called.sound ⟨⟨h.cleared.timer, h.cleared.socket, h.cleared.signal⟩, h.socket, h.settles,
      h.results, h.resource, h.listens⟩ hpc
  · exact Shaking.sound ⟨h.socket, h.settles, h.results, h.resource, h.listens⟩ hpc
  · exact Settled.sound ⟨⟨h.cleared.timer, h.cleared.socket, h.cleared.signal⟩, h.socket, h.settles,
      h.results, h.resource, h.listens, h.opened, h.freed⟩ hpc
  · exact Returned.sound ⟨⟨h.cleared.timer, h.cleared.socket, h.cleared.signal⟩, h.settles,
      h.results, h.owned, h.freed, h.listens⟩ hpc

/-- An abort ends a handshake, and disposes of the connection of a call that has returned. -/
theorem Sound.abort (h : s.Sound) : s.abort.Sound := by
  cases hsignal : s.signal with
  | none =>
    rw [Connect.abort, hsignal]
    exact h
  | some signal =>
    rw [Connect.abort, hsignal]
    dsimp only
    rcases h.stages with ⟨hpc, h⟩ | ⟨hpc, h⟩ | ⟨result, hpc, h⟩ | ⟨hpc, result, h⟩
    · rw [h.listens signal hsignal]
      refine Called.sound ⟨⟨h.cleared.timer, h.cleared.socket, fun other hother => ?_⟩, h.socket,
        h.settles, h.results, h.resource, fun other hother => ?_⟩ hpc
      · cases hother
        exact List.not_mem_nil
      · cases hother
        rfl
    · rw [h.listens signal hsignal]
      refine sound_of_fail (s := { s with signal := some { aborted := true, listeners := [] } })
        hpc h.socket h.settles h.results h.resource ?_ _
      intro other hother
      cases hother
      nofun
    · rw [h.listens signal hsignal]
      refine Settled.sound ⟨⟨h.cleared.timer, h.cleared.socket, fun other hother => ?_⟩, h.socket,
        h.settles, h.results, h.resource, fun other hother => ?_, h.opened, h.freed⟩ hpc
      · cases hother
        exact List.not_mem_nil
      · cases hother
        rfl
    · exact h.abort hpc hsignal

/-- An event of the platform. -/
theorem Sound.event (h : s.Sound) (hidle : s.idle = true) {change : WebSocket → WebSocket}
    (hc : ∀ ws, s.ws = some ws → Follows ws (change ws)) (listener : SocketListener)
    {callback : Connect → Connect}
    (hcalls : ∀ t : Connect, t.Shaking → t.pc = .handshake →
      (∀ ws, t.ws = some ws → ∃ old, ws = (change old).remove listener) → (callback t).Sound) :
    (s.event change listener callback).Sound := by
  rcases h.stages with ⟨hpc, h⟩ | ⟨hpc, h⟩ | ⟨result, hpc, h⟩ | ⟨hpc, result, h⟩
  · rw [event_of_cleared h.cleared, h.socket]
    exact Called.sound ⟨⟨h.cleared.timer, nofun, h.cleared.signal⟩, rfl, h.settles, h.results,
      h.resource, h.listens⟩ hpc
  · exact h.event hpc change listener hcalls
  · rw [idle, hpc] at hidle
    cases hidle
  · rw [event_of_cleared h.cleared]
    exact (h.map fun ws hws => follows_remove (hc ws hws) listener).sound hpc

/-- The platform moves on without an event. -/
theorem Sound.map (h : s.Sound) (hidle : s.idle = true) {change : WebSocket → WebSocket}
    (hc : ∀ ws, s.ws = some ws → Follows ws (change ws)) :
    ({ s with ws := s.ws.map change } : Connect).Sound := by
  rcases h.stages with ⟨hpc, h⟩ | ⟨hpc, h⟩ | ⟨result, hpc, h⟩ | ⟨hpc, result, h⟩
  · rw [h.socket]
    exact Called.sound ⟨⟨h.cleared.timer, nofun, h.cleared.signal⟩, rfl, h.settles, h.results,
      h.resource, h.listens⟩ hpc
  · exact Shaking.sound
      ⟨Option.isSome_map.trans h.socket, h.settles, h.results, h.resource, h.listens⟩ hpc
  · rw [idle, hpc] at hidle
    cases hidle
  · exact (h.map hc).sound hpc

/-- A move that is enabled. -/
theorem enabled_of_step {enabled : Prop} [Decidable enabled] {t : Connect}
    (h : (if enabled then some t else none) = some s') : enabled ∧ t = s' := by
  split at h
  · next he => exact ⟨he, Option.some.inj h⟩
  · cases h

/-- Where the socket of a call stands. -/
theorem socket_of_position {socket : Option Socket} (h : s.position = some socket) {ws : WebSocket}
    (hws : s.ws = some ws) : ws.socket = socket := by
  rw [position, hws] at h
  exact Option.some.inj h

/-- Every move keeps a call in order. -/
theorem Sound.step {parse : String → Except String ParsedUrl} (h : s.Sound) {a : ConnectAction}
    (hs : connectStep parse s a = some s') : s'.Sound := by
  cases a with
  | call constructed =>
    obtain ⟨hpc, rfl⟩ := enabled_of_step hs
    rcases h.stages with ⟨-, h⟩ | ⟨hpc', -⟩ | ⟨result, hpc', -⟩ | ⟨hpc', -⟩
    · exact h.call parse constructed
    all_goals
      rw [hpc] at hpc'
      cases hpc'
  | resume =>
    simp only [connectStep] at hs
    split at hs
    · next result hpc =>
      cases hs
      have h : s.Settled result := by simpa only [Sound, hpc] using h
      exact h.resume
    · cases hs
  | abort =>
    obtain ⟨-, rfl⟩ := enabled_of_step hs
    exact h.abort
  | configure | tick =>
    cases hs
    exact h.of_same rfl
  | openEvent selected =>
    obtain ⟨⟨hidle, hconnecting⟩, rfl⟩ := enabled_of_step hs
    refine h.event hidle (fun ws hws => ?_) _ fun t ht hpc hchanged => ?_
    · refine follows_of_open ?_ rfl rfl
      rw [WebSocket.isClosed, socket_of_position hconnecting hws]
      rfl
    · refine ht.settle hpc _ (fun _ ws hws => ?_) nofun
      obtain ⟨old, rfl⟩ := hchanged ws hws
      rfl
  | errorEvent =>
    obtain ⟨⟨hidle, -⟩, rfl⟩ := enabled_of_step hs
    refine h.event hidle (fun ws hws => ?_) _ fun t ht hpc _ => ht.sound hpc
    split
    · exact follows_of_closed rfl rfl
    · exact ⟨fun _ hmem => hmem, id⟩
  | peerClosing =>
    obtain ⟨⟨hidle, hopen⟩, rfl⟩ := enabled_of_step hs
    refine h.map hidle fun ws hws => follows_of_open ?_ rfl rfl
    rw [WebSocket.isClosed, socket_of_position hopen hws]
    rfl
  | transportClosed =>
    obtain ⟨⟨hidle, -⟩, rfl⟩ := enabled_of_step hs
    exact h.map hidle fun ws _ => follows_of_closed rfl rfl
  | closeEvent code reason =>
    obtain ⟨⟨hidle, -⟩, rfl⟩ := enabled_of_step hs
    refine h.event hidle (fun ws _ => ?_) _ fun t ht hpc hchanged => ?_
    · exact follows_of_closed rfl rfl
    · refine ht.settle hpc _ nofun fun err _ ws hws => ?_
      obtain ⟨old, rfl⟩ := hchanged ws hws
      exact .inl rfl
  | timer =>
    obtain ⟨⟨hidle, hdue⟩, rfl⟩ := enabled_of_step hs
    have harmed (h : s.Cleared) : False := by
      rw [h.timer] at hdue
      cases hdue
    rcases h.stages with ⟨hpc, h⟩ | ⟨hpc, h⟩ | ⟨result, hpc, h⟩ | ⟨hpc, result, h⟩
    · exact (harmed h.cleared).elim
    · exact sound_of_fail (s := { s with timer := none }) hpc h.socket h.settles h.results h.resource
        (fun signal hsignal listener hmem => by simpa [h.listens signal hsignal] using hmem) _
    · exact (harmed h.cleared).elim
    · exact (harmed h.cleared).elim
  | ownerClose =>
    obtain ⟨howned, rfl⟩ := enabled_of_step hs
    have hunowned (hnone : s.resource = none) : False := by
      rw [hnone] at howned
      cases howned
    rcases h.stages with ⟨hpc, h⟩ | ⟨hpc, h⟩ | ⟨result, hpc, h⟩ | ⟨hpc, result, h⟩
    · exact (hunowned h.resource).elim
    · exact (hunowned h.resource).elim
    · exact (hunowned h.resource).elim
    · exact (h.map fun ws _ => follows_close ws).sound hpc

end Connect

/-- Every call that can be reached is in order. -/
theorem connect_sound {parse : String → Except String ParsedUrl} {s : Connect}
    (h : (connecting parse).Reachable s) : s.Sound := by
  refine System.Reachable.induction (I := Connect.Sound) ?_ ?_ h
  · rintro _ ⟨url, protocols, signal, knobs, now, rfl⟩
    refine Connect.Called.sound ⟨⟨rfl, nofun, fun other hother => ?_⟩, rfl, rfl, rfl, rfl,
      fun other hother => ?_⟩ rfl
    · obtain ⟨aborted, -, rfl⟩ := Option.map_eq_some_iff.mp hother
      exact List.not_mem_nil
    · obtain ⟨aborted, -, rfl⟩ := Option.map_eq_some_iff.mp hother
      rfl
  · intro s a s' _ ih hs
    exact ih.step hs

/-! ### The closing handshake of a reclaimed socket -/

namespace Connect

variable {s s' : Connect}

/-- A `WebSocket` that `close` has been called on is neither CONNECTING nor OPEN. -/
def Shut (s : Connect) : Prop :=
  ∀ ws, s.ws = some ws → ws.closeCalled = true → ∃ socket, ws.socket = some socket ∧ socket ≠ .open

/-- A socket that moves on does not open again after it has been told to close. -/
theorem Shut.map (h : s.Shut) {change : WebSocket → WebSocket} {t : Connect}
    (hws : t.ws = s.ws.map change)
    (hc : ∀ ws, s.ws = some ws →
      (change ws).socket = ws.socket ∧ (change ws).closeCalled = ws.closeCalled ∨
      (∃ socket, (change ws).socket = some socket ∧ socket ≠ .open) ∨
      ws.socket = none ∧ (change ws).closeCalled = ws.closeCalled) : t.Shut := by
  intro ws' hws' hcalled
  rw [hws] at hws'
  obtain ⟨ws, hold, rfl⟩ := Option.map_eq_some_iff.mp hws'
  rcases hc ws hold with ⟨hsocket, hclose⟩ | hshut | ⟨hnone, hclose⟩
  · rw [hsocket]
    exact h ws hold (hclose.symm.trans hcalled)
  · exact hshut
  · obtain ⟨socket, hsome, -⟩ := h ws hold (hclose.symm.trans hcalled)
    rw [hnone] at hsome
    cases hsome

/-- Telling the socket to close shuts it. -/
theorem Shut.closeSocket (h : s.Shut) : s.closeSocket.Shut := by
  refine h.map rfl fun ws _ => .inr (.inl ⟨_, rfl, ?_⟩)
  split
  · decide
  · next socket _ => cases socket <;> simp [Socket.close]

/-- Settling the promise leaves the socket alone. -/
theorem Shut.settle (h : s.Shut) (result : Except Error Unit) : (s.settle result).Shut :=
  h.map rfl fun _ _ => .inl ⟨rfl, rfl⟩

/-- An event of the socket, with its listener. -/
theorem Shut.event (h : s.Shut) {change : WebSocket → WebSocket} (listener : SocketListener)
    {callback : Connect → Connect} (hcallback : ∀ t : Connect, t.Shut → (callback t).Shut)
    (hc : ∀ ws, s.ws = some ws →
      (change ws).socket = ws.socket ∧ (change ws).closeCalled = ws.closeCalled ∨
      (∃ socket, (change ws).socket = some socket ∧ socket ≠ .open) ∨
      ws.socket = none ∧ (change ws).closeCalled = ws.closeCalled) :
    (s.event change listener callback).Shut := by
  have hchanged : ({ s with
      ws := s.ws.map fun ws => (change ws).remove listener } : Connect).Shut := h.map rfl hc
  unfold Connect.event
  dsimp only
  split
  · exact hcallback _ hchanged
  · exact hchanged

/-- An abort, with its listeners. -/
theorem Shut.abort (h : s.Shut) : s.abort.Shut := by
  have hfold (listeners : List AbortListener) : ∀ t : Connect, t.Shut →
      (listeners.foldl callListener t).Shut := by
    induction listeners with
    | nil => exact fun t ht => ht
    | cons listener rest ih =>
      intro t ht
      apply ih
      cases listener with
      | onAbort => exact (ht.settle _).closeSocket
      | disposeOnAbort => exact ht.closeSocket
  unfold Connect.abort
  split
  · exact h
  · exact hfold _ _ h

/-- The call itself. -/
theorem Shut.call (h : s.Shut) (parse : String → Except String ParsedUrl)
    (constructed : Except String Unit) : (s.call parse constructed).Shut := by
  unfold Connect.call
  split
  · exact h
  · split
    · exact h
    · split
      · exact h
      · split
        · exact h
        · intro ws hws hcalled
          cases hws
          cases hcalled

/-- A call that goes on when its promise has settled. -/
theorem Shut.resume (h : s.Shut) (result : Except Error Unit) : (s.resume result).Shut := by
  unfold Connect.resume
  split
  · exact h
  · split
    · exact h.closeSocket
    · unfold succeed
      dsimp only
      split
      · exact h
      · split
        · exact h.closeSocket
        · exact h

/-- Every move of a `connect` call. -/
theorem Shut.step {parse : String → Except String ParsedUrl} (h : s.Shut) {a : ConnectAction}
    (hs : connectStep parse s a = some s') : s'.Shut := by
  cases a with
  | configure | tick =>
    cases hs
    exact h
  | resume =>
    simp only [connectStep] at hs
    split at hs
    · cases hs
      exact h.resume _
    · cases hs
  | _ =>
    obtain ⟨hc, rfl⟩ := enabled_of_step hs
    first
    | exact h.call parse _
    | exact h.abort
    | exact h.closeSocket
    | exact (h.settle _).closeSocket
    | exact h.event .onOpen (fun t ht => ht.settle _)
        fun ws hws => .inr (.inr ⟨socket_of_position hc.2 hws, rfl⟩)
    | exact h.event .onClose (fun t ht => ht.settle _) fun ws _ => .inr (.inl ⟨_, rfl, nofun⟩)
    | refine h.event .onError (fun t ht => ht) fun ws _ => ?_
      split
      · exact .inr (.inl ⟨_, rfl, nofun⟩)
      · exact .inl ⟨rfl, rfl⟩
    | exact h.map rfl fun ws _ => .inr (.inl ⟨_, rfl, nofun⟩)

end Connect

/-- In every reachable state a socket that was told to close does not open. -/
theorem connect_shut {parse : String → Except String ParsedUrl} {s : Connect}
    (h : (connecting parse).Reachable s) : s.Shut := by
  refine System.Reachable.induction (I := Connect.Shut) ?_ (fun _ _ _ _ ih hs => ih.step hs) h
  rintro _ ⟨url, protocols, signal, knobs, now, rfl⟩
  exact nofun

/-! ### No call leaks its socket -/

namespace Connect

variable {s s' : Connect}

/-- The listeners on the signal settle the handshake, and dispose of the connection. -/
theorem foldl_callListener (listeners : List AbortListener) (s : Connect) :
    (listeners.foldl callListener s).results = s.results ∧
      (listeners.foldl callListener s).aborted = s.aborted := by
  induction listeners generalizing s with
  | nil => exact ⟨rfl, rfl⟩
  | cons listener rest ih =>
    obtain ⟨hresults, haborted⟩ := ih (s.callListener listener)
    rw [List.foldl_cons, hresults, haborted]
    cases listener with
    | onAbort =>
      refine ⟨rfl, ?_⟩
      show (s.signal.map _).any _ = s.signal.any _
      cases s.signal <;> rfl
    | disposeOnAbort => exact ⟨rfl, rfl⟩

/-- An abort settles no promise that has settled, and is not taken back. -/
theorem results_of_abort {parse : String → Except String ParsedUrl}
    (hs : connectStep parse s .abort = some s') : s'.results = s.results ∧ s'.aborted = true := by
  obtain ⟨hany, rfl⟩ := enabled_of_step hs
  unfold Connect.abort
  split
  · next hnone =>
    rw [hnone] at hany
    cases hany
  · next signal _ =>
    exact foldl_callListener signal.listeners
      { s with signal := some { aborted := true, listeners := [] } }

/-- A call with a result has returned. -/
theorem Sound.returned (h : s.Sound) (hresults : s.results ≠ []) :
    ∃ result, s.Returned result := by
  rcases h.stages with ⟨-, h⟩ | ⟨-, h⟩ | ⟨result, -, h⟩ | ⟨-, h⟩
  · exact absurd h.results hresults
  · exact absurd h.results hresults
  · exact absurd h.results hresults
  · exact h

/-- A call gives back what it has taken from the platform, or hands it to an owner. -/
structure Reclaims (parse : String → Except String ParsedUrl) (s : Connect) : Prop where
  /-- The promise of the call settles at most once, and that of the handshake. -/
  once : s.results.length ≤ 1 ∧ s.settles.length ≤ 1
  /-- Its listeners and its timer go with the settlement. -/
  removed : s.settles ≠ [] ∨ s.results ≠ [] → s.Cleared
  /-- At the settlement there is no socket, or it is reclaimed, or a resource owns it. -/
  reclaimed : s.results ≠ [] →
    s.ws = none ∨ (∃ ws, s.ws = some ws ∧ ws.Reclaimed) ∨
    s.results = [.ok ()] ∧ s.ws.isSome = true ∧ s.resource.isSome = true
  /-- An abort after the settlement reclaims it. -/
  aborts : s.results ≠ [] → ∀ s', connectStep parse s .abort = some s' →
    s'.results = s.results ∧ ∀ ws, s'.ws = some ws → ws.Reclaimed
  /-- And so has an abort before. -/
  aborted : s.results ≠ [] → s.aborted = true → ∀ ws, s.ws = some ws → ws.Reclaimed
  /-- A reclaimed socket is CLOSING or CLOSED. -/
  closes : ∀ ws, s.ws = some ws → ws.Reclaimed →
    ∃ socket, ws.socket = some socket ∧ socket ≠ .open

end Connect

/-- In every run of a call of `connect` no platform socket is lost. -/
theorem connect_reclaims {parse : String → Except String ParsedUrl} {s : Connect}
    (h : (connecting parse).Reachable s) : s.Reclaims parse := by
  have hsound := connect_sound h
  have haborted {t : Connect} (ht : t.Sound) (hresults : t.results ≠ [])
      (hab : t.aborted = true) : t.Freed := by
    obtain ⟨result, hreturned⟩ := ht.returned hresults
    exact hreturned.freed (.inr hab)
  refine {
    once := ?_
    removed := fun hsettled => ?_
    reclaimed := fun hresults => ?_
    aborts := fun hresults s' hs => ?_
    aborted := haborted hsound
    closes := fun ws hws hr => ?_ }
  · rcases hsound.stages with ⟨-, h⟩ | ⟨-, h⟩ | ⟨result, -, h⟩ | ⟨-, result, h⟩
    · simp [h.results, h.settles]
    · simp [h.results, h.settles]
    · simp [h.results, h.settles]
    · exact ⟨by rw [h.results]; exact le_rfl, h.settles⟩
  · rcases hsound.stages with ⟨-, h⟩ | ⟨-, h⟩ | ⟨result, -, h⟩ | ⟨-, result, h⟩
    · exact h.cleared
    · rcases hsettled with hsettles | hresults
      · exact absurd h.settles hsettles
      · exact absurd h.results hresults
    · exact h.cleared
    · exact h.cleared
  · obtain ⟨result, hreturned⟩ := hsound.returned hresults
    cases hws : s.ws with
    | none => exact .inl rfl
    | some ws =>
      right
      cases result with
      | error err => exact .inl ⟨ws, rfl, hreturned.freed (.inl ⟨err, rfl⟩) ws hws⟩
      | ok => exact .inr ⟨hreturned.results, rfl, (hreturned.owned rfl).2⟩
  · obtain ⟨hsame, hab⟩ := Connect.results_of_abort hs
    exact ⟨hsame, haborted (hsound.step hs) (by rw [hsame]; exact hresults) hab⟩
  · rcases hr with hclosed | hcalled
    · unfold WebSocket.isClosed at hclosed
      obtain ⟨socket, hsocket, hready⟩ := (Option.any_eq_true _ _).mp hclosed
      refine ⟨socket, hsocket, ?_⟩
      rintro rfl
      cases hready
    · exact connect_shut h ws hws hcalled

/-- A parse of the platform, of `ws://a/`. -/
def parseHostA (_ : String) : Except String ParsedUrl :=
  .ok { protocol := "ws:", hostname := "a", username := "", password := "" }

/-- An abort between the open event and the continuation: a resource is returned, and its socket is
being closed. -/
theorem connect_reclaims_gap :
    ∃ s, (connecting parseHostA).run (.start "ws://a/" [] (some false) .default 0)
        [.call (.ok ()), .tick 5, .openEvent "", .abort, .resume] = some s ∧
      s.results = [.ok ()] ∧ s.position = some (some .closing) ∧ s.Reclaims parseHostA := by
  have hrun : (connecting parseHostA).run (.start "ws://a/" [] (some false) .default 0)
      [.call (.ok ()), .tick 5, .openEvent "", .abort, .resume] = some _ := rfl
  have hstart : (connecting parseHostA).Reachable (.start "ws://a/" [] (some false) .default 0) :=
    .of_init ⟨_, _, _, _, _, rfl⟩
  exact ⟨_, hrun, rfl, rfl, connect_reclaims (hstart.run hrun)⟩

end Polymorph.Js
