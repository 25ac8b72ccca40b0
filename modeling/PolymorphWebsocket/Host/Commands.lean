import Mathlib.Data.List.Range
import Mathlib.Data.List.Perm.Basic
import PolymorphWebsocket.Host.Frames

/-!
# The wasmtime host: the command discipline

Every `send` call is in one place at a time: before its use of the channel, in the channel, with
the pump, or answered.  The frames the pump hands to the `WebSocketStream` are the messages of the
commands in the order of the channel, some left out, and then at most one close frame.  Once the
pump has fired the closed signal, the channel is closed and empty, and nothing is left with the
pump.

The invariant takes the pump's suspension point as an argument of its own: the branches of the pump
first change the fields it speaks about, and go to their next suspension point at the end.
-/

namespace Polymorph.Host

open Transition

variable {s s' : State} {pc : Pc}

/-! ### Where a send is -/

/-- The `send` call of a command. -/
def Cmd.send? : Cmd → Option (Nat × Message)
  | .send id message => some (id, message)
  | .close _ _ => none

/-- The `send` call of a frame. -/
def Frame.data? : Frame → Option (Nat × Message)
  | .data id message => some (id, message)
  | .close _ => none

/-- The `send` call a bounded write answers. -/
def Next.pending : Next → List Nat
  | .reply id => [id]
  | .loop | .leave => []

/-- The `send` call the pump is about to answer. -/
def Pc.pending : Pc → List Nat
  | .resolved (.cmd (some (.send id _))) => [id]
  | .writing _ _ next => next.pending
  | _ => []

/-- The frame a write is about to hand over. -/
def Write.unhanded : Write → List Frame
  | .send frame false => [frame]
  | .send _ true | .flush => []

/-- The message the pump has taken from the channel and not handed over. -/
def Pc.unhanded : Pc → List (Nat × Message)
  | .resolved (.cmd (some (.send id message))) => [(id, message)]
  | .writing write _ _ => write.unhanded.filterMap Frame.data?
  | _ => []

/-! ### The invariant -/

/-- What the command discipline is about: the commands, the closing flags of the pump, and the
history of the `send` calls. -/
structure Ledger where
  checked : List (Nat × Message)
  nextId : Nat
  cmds : List Cmd
  cmdsClosed : Bool
  closed : Bool
  wireClosing : Bool
  writeDead : Bool
  enqueued : List (Nat × Message)
  handed : List Frame
  completed : List Nat
  replies : List (Nat × Except Error Unit)

/-- The ledger of a connection. -/
def State.ledger (s : State) : Ledger where
  checked := s.calls.checked
  nextId := s.calls.nextId
  cmds := s.shared.cmds
  cmdsClosed := s.shared.cmdsClosed
  closed := s.shared.closed
  wireClosing := s.pump.wireClosing
  writeDead := s.pump.writeDead
  enqueued := s.hist.enqueued
  handed := s.hist.handed
  completed := s.hist.completed
  replies := s.hist.replies

/-- The channel is closed from the steps of the finalization on that follow its closing. -/
def Pc.channelClosed : Pc → Bool
  | .finalize .drainCmds | .finalize .closing | .finalize .closed | .finalize .fire | .done => true
  | _ => false

/-- The channel has been drained. -/
def Pc.channelDrained : Pc → Bool
  | .finalize .closing | .finalize .closed | .finalize .fire | .done => true
  | _ => false

namespace Ledger

variable {l : Ledger}

/-- The commands in the channel, as `send` calls. -/
def queued (l : Ledger) : List (Nat × Message) := l.cmds.filterMap Cmd.send?

/-- The messages handed over. -/
def sent (l : Ledger) : List (Nat × Message) := l.handed.filterMap Frame.data?

/-- The `send` calls that are not answered while the pump is at `pc`. -/
def outstanding (l : Ledger) (pc : Pc) : List Nat :=
  l.checked.map Prod.fst ++ l.queued.map Prod.fst ++ pc.pending

/-- The invariant, with the pump at `pc`. -/
structure Sound (l : Ledger) (pc : Pc) : Prop where
  /-- Every `send` call is in one place. -/
  once : (l.outstanding pc ++ l.replies.map Prod.fst).Perm (List.range l.nextId)
  /-- The messages pass the pump in the order of the channel. -/
  order : (l.sent ++ (pc.unhanded ++ l.queued)).Sublist l.enqueued
  /-- Every command is the one of its own `send` call. -/
  distinct : ((l.checked ++ l.enqueued).map Prod.fst).Nodup
  made : ∀ id ∈ (l.checked ++ l.enqueued).map Prod.fst, id < l.nextId
  /-- A close frame is the last frame handed over. -/
  close : (∀ f ∈ l.handed, f.data?.isSome = true) ∨
    (l.wireClosing = true ∧ ∃ data frame, l.handed = data ++ [.close frame] ∧
      ∀ f ∈ data, f.data?.isSome = true)
  completed : ∀ id ∈ l.completed, id ∈ l.sent.map Prod.fst
  replies : ∀ id, (id, .ok ()) ∈ l.replies → id ∈ l.completed
  channelClosed : l.cmdsClosed = pc.channelClosed
  channelDrained : pc.channelDrained = true → l.cmds = []
  closed : l.closed = true ↔ pc = .done

/-- A bounded write is on its way: the write half is alive, the frame it hands over fits the
closing handshake, and it answers a `send` call only when it sends that call's message. -/
structure WriteSound (l : Ledger) (write : Write) (next : Next) : Prop where
  alive : l.writeDead = false
  data : ∀ id message, .data id message ∈ write.unhanded → l.wireClosing = false
  close : ∀ frame, .close frame ∈ write.unhanded →
    l.wireClosing = true ∧ ∀ f ∈ l.handed, f.data?.isSome = true
  handed : ∀ frame, write = .send frame true → frame ∈ l.handed
  reply : ∀ id, next = .reply id → ∃ message handed, write = .send (.data id message) handed
  pending : ∀ id message handed, write = .send (.data id message) handed → next = .reply id

/-- The invariant at a suspension point. -/
structure SoundAt (l : Ledger) (pc : Pc) : Prop where
  sound : l.Sound pc
  write : ∀ w bound next, pc = .writing w bound next → l.WriteSound w next

end Ledger

/-! ### Moving the pump -/

/-- The points at which the command channel is open and the pump has no command in its hands. -/
def Pc.free : Pc → Bool
  | .select _ | .resolved (.read _) | .resolved .deadline | .resolved (.cmd none)
  | .resolved (.cmd (some (.close _ _))) | .reserved _ | .counted _
  | .finalize .closeInfo | .finalize .endQueue | .finalize .closeCmds => true
  | _ => false

/-- What a free point says about the ledger. -/
theorem Pc.free_spec (h : pc.free = true) : pc.pending = [] ∧ pc.unhanded = [] ∧
    pc.channelClosed = false ∧ pc.channelDrained = false ∧ pc ≠ .done ∧
    ∀ w bound next, pc ≠ .writing w bound next := by
  unfold Pc.free at h
  split at h <;> first | exact ⟨rfl, rfl, rfl, rfl, nofun, nofun⟩ | cases h

/-- The channel is closed for good at the end. -/
theorem Pc.ne_done_of_open (h : pc.channelClosed = false) : pc ≠ .done := by
  rintro rfl
  cases h

namespace Ledger

variable {l : Ledger}

/-- A stage of the finalization has no write on its way. -/
theorem Sound.at_stage {stage : Finalize} (h : l.Sound (.finalize stage)) :
    l.SoundAt (.finalize stage) :=
  ⟨h, fun w bound next hw => by cases hw⟩

/-- Neither of two points is the end. -/
theorem Sound.not_done (h : l.Sound pc) (hpc : pc ≠ .done) {pc' : Pc} (hpc' : pc' ≠ .done) :
    l.closed = true ↔ pc' = .done :=
  h.closed.trans (iff_of_false hpc hpc')

/-- At a free point the pump has no write on its way. -/
theorem Sound.at_free (h : l.Sound pc) (hpc : pc.free = true) : l.SoundAt pc :=
  ⟨h, fun w bound next hw => ((Pc.free_spec hpc).2.2.2.2.2 w bound next hw).elim⟩

/-- The pump goes to a free point and touches nothing of the ledger. -/
theorem Sound.toFree (h : l.Sound pc) (hopen : pc.channelClosed = false)
    (hpending : pc.pending = []) {pc' : Pc} (hpc' : pc'.free = true) : l.Sound pc' := by
  obtain ⟨hpending', hunhanded', hopen', hdrained', hdone', -⟩ := Pc.free_spec hpc'
  refine ⟨?_, ?_, h.distinct, h.made, h.close, h.completed, h.replies, ?_, ?_, ?_⟩
  · unfold outstanding
    rw [hpending', ← hpending]
    exact h.once
  · rw [hunhanded']
    exact ((List.Sublist.refl _).append (List.sublist_append_right _ _)).trans h.order
  · rw [hopen', ← hopen]
    exact h.channelClosed
  · exact fun hd => absurd (hd.symm.trans hdrained') nofun
  · exact h.not_done (Pc.ne_done_of_open hopen) hdone'

/-- The pump answers the `send` call in its hands and goes to a free point. -/
theorem Sound.answer (h : l.Sound pc) (hopen : pc.channelClosed = false) {pc' : Pc} {id : Nat}
    {result : Except Error Unit} (hpending : pc.pending = [id]) (hpc' : pc'.free = true)
    (hok : result = .ok () → id ∈ l.completed) :
    { l with replies := l.replies ++ [(id, result)] }.Sound pc' := by
  obtain ⟨hpending', hunhanded', hopen', hdrained', hdone', -⟩ := Pc.free_spec hpc'
  refine ⟨?_, ?_, h.distinct, h.made, h.close, h.completed, ?_, ?_, ?_, ?_⟩
  · refine List.Perm.trans ?_ h.once
    unfold outstanding queued
    rw [hpending, hpending']
    simp only [List.map_append, List.map_cons, List.map_nil, List.append_assoc]
    rw [List.nil_append]
    exact List.Perm.append_left _ (List.Perm.append_left _ List.perm_append_comm)
  · rw [hunhanded']
    exact ((List.Sublist.refl _).append (List.sublist_append_right _ _)).trans h.order
  · intro id' hid'
    rcases List.mem_append.mp hid' with hid' | hid'
    · exact h.replies id' hid'
    · obtain ⟨rfl, rfl⟩ : id' = id ∧ result = .ok () := by simpa [eq_comm] using hid'
      exact hok rfl
  · rw [hopen', ← hopen]
    exact h.channelClosed
  · exact fun hd => absurd (hd.symm.trans hdrained') nofun
  · exact h.not_done (Pc.ne_done_of_open hopen) hdone'

/-- The pump starts a bounded write for what it has in its hands. -/
theorem Sound.startWrite (h : l.Sound pc) (hopen : pc.channelClosed = false) {w : Write}
    {bound : WriteBound} {next : Next} (hpending : pc.pending = next.pending)
    (hunhanded : (w.unhanded.filterMap Frame.data?).Sublist pc.unhanded)
    (hw : l.WriteSound w next) : l.SoundAt (.writing w bound next) := by
  refine ⟨⟨?_, ?_, h.distinct, h.made, h.close, h.completed, h.replies, ?_, nofun, ?_⟩, ?_⟩
  · have honce := h.once
    unfold outstanding at honce
    rw [hpending] at honce
    exact honce
  · exact ((List.Sublist.refl _).append (hunhanded.append_right _)).trans h.order
  · exact h.channelClosed.trans hopen
  · exact h.not_done (Pc.ne_done_of_open hopen) nofun
  · rintro w' bound' next' hpc
    cases hpc
    exact hw

end Ledger

/-! ### The pump's branches -/

namespace State

/-- The invariant of the state: the ledger at the pump's own suspension point. -/
def CommandsSound (s : State) : Prop := s.ledger.SoundAt s.pump.pc

theorem commandsSound_setPc (h : s.ledger.Sound pc) (hopen : pc.channelClosed = false)
    (hpending : pc.pending = []) {pc' : Pc} (hpc' : pc'.free = true) :
    (s.setPc pc').CommandsSound :=
  (h.toFree hopen hpending hpc').at_free hpc'

/-- A bounded write returns to what the pump does next. -/
theorem commandsSound_goes (h : s.ledger.Sound pc) (hopen : pc.channelClosed = false)
    {next : Next} (hpending : pc.pending = next.pending) {result : Except Error Unit}
    (hok : ∀ id, next = .reply id → result = .ok () → id ∈ s.hist.completed) :
    (s.goes result next).CommandsSound := by
  cases next with
  | reply id => exact (h.answer hopen hpending rfl (hok id rfl)).at_free rfl
  | loop => exact commandsSound_setPc h hopen hpending rfl
  | leave => exact commandsSound_setPc h hopen hpending rfl

/-- A bounded write is refused by a dead write half, or starts. -/
theorem commandsSound_boundedWrite (h : s.ledger.Sound pc) (hopen : pc.channelClosed = false)
    {w : Write} {next : Next} (hpending : pc.pending = next.pending)
    (hunhanded : (w.unhanded.filterMap Frame.data?).Sublist pc.unhanded)
    (hw : s.pump.writeDead = false → s.ledger.WriteSound w next) :
    (s.boundedWrite w next).CommandsSound := by
  unfold State.boundedWrite
  split
  · exact commandsSound_goes h hopen hpending nofun
  · next hd => exact h.startWrite hopen hpending hunhanded (hw (by simpa using hd))

/-- Beginning a close with no command in the pump's hands. -/
theorem commandsSound_beginClose (h : s.ledger.Sound pc) (hopen : pc.channelClosed = false)
    (hpending : pc.pending = []) (frame : Option CloseFrame) {next : Next}
    (hnext : next.pending = []) : (s.beginClose frame next).CommandsSound := by
  have hreply (id : Nat) : next ≠ .reply id := by
    rintro rfl
    cases hnext
  unfold State.beginClose
  split
  · exact commandsSound_goes h hopen (hpending.trans hnext.symm) fun id hn => (hreply id hn).elim
  · next hwire =>
    have hwire : s.pump.wireClosing = false := by simpa using hwire
    have hdata : ∀ f ∈ s.hist.handed, f.data?.isSome = true :=
      h.close.resolve_right fun hc => absurd (hwire.symm.trans hc.1) nofun
    have hclosing : (s.closing frame).ledger.Sound pc :=
      { h with close := .inl hdata }
    refine commandsSound_boundedWrite hclosing hopen (hpending.trans hnext.symm)
      (List.nil_sublist _) fun halive => ⟨halive, ?_, ?_, nofun, ?_, nofun⟩
    · intro id message hmem
      simp [Write.unhanded] at hmem
    · exact fun _ _ => ⟨rfl, hdata⟩
    · exact fun id hn => (hreply id hn).elim

theorem commandsSound_deliver (h : s.ledger.Sound pc) (hopen : pc.channelClosed = false)
    (hpending : pc.pending = []) (message : Message) : (s.deliver message).CommandsSound := by
  unfold State.deliver
  split
  · exact commandsSound_setPc h hopen hpending rfl
  · split
    · exact commandsSound_setPc h hopen hpending rfl
    · exact commandsSound_beginClose (by exact h) hopen hpending none rfl

/-- A flush of tungstenite's automatic reply. -/
theorem commandsSound_flush (h : s.ledger.Sound pc) (hopen : pc.channelClosed = false)
    (hpending : pc.pending = []) : (s.boundedWrite .flush .loop).CommandsSound :=
  commandsSound_boundedWrite h hopen hpending (List.nil_sublist _) fun halive =>
    ⟨halive, nofun, nofun, nofun, nofun, nofun⟩

theorem commandsSound_onRead (h : s.ledger.Sound pc) (hopen : pc.channelClosed = false)
    (hpending : pc.pending = []) (outcome : Inbound) : (s.onRead outcome).CommandsSound := by
  cases outcome with
  | text text => exact commandsSound_deliver h hopen hpending _
  | binary bytes => exact commandsSound_deliver h hopen hpending _
  | close frame =>
    simp only [State.onRead]
    split
    · exact commandsSound_setPc (by exact h) hopen hpending rfl
    · next hwire =>
      have hdata : ∀ f ∈ s.hist.handed, f.data?.isSome = true :=
        h.close.resolve_right fun hc => hwire hc.1
      refine commandsSound_flush ?_ hopen hpending
      exact { h with close := .inl hdata }
  | ping payload => exact commandsSound_flush h hopen hpending
  | pong | frame => exact commandsSound_setPc h hopen hpending rfl
  | capacity => exact commandsSound_beginClose (by exact h) hopen hpending none rfl
  | connectionClosed | error => exact commandsSound_setPc h hopen hpending rfl

theorem commandsSound_onCmd {cmd : Option Cmd} (h : s.ledger.Sound (.resolved (.cmd cmd))) :
    (s.onCmd cmd).CommandsSound := by
  rcases cmd with - | cmd
  · exact commandsSound_beginClose (by exact h) rfl rfl none rfl
  cases cmd with
  | close code reason => exact commandsSound_beginClose h rfl rfl _ rfl
  | send id message =>
    simp only [State.onCmd]
    split
    · exact commandsSound_goes h rfl rfl fun _ _ hok => by cases hok
    · next hrefused =>
      simp only [Bool.or_eq_true, not_or] at hrefused
      refine commandsSound_boundedWrite h rfl rfl (List.Sublist.refl _) fun halive =>
        ⟨halive, ?_, ?_, ?_, ?_, ?_⟩
      · exact fun _ _ _ => Bool.eq_false_iff.mpr hrefused.1
      · intro frame hmem
        simp [Write.unhanded] at hmem
      · rintro frame ⟨⟩
      · rintro _ ⟨⟩
        exact ⟨message, false, rfl⟩
      · rintro _ _ _ ⟨⟩
        rfl

/-- A poll of the select takes at most one command out of the channel. -/
theorem commandsSound_pollArm {arm : Arm} (h : s.ledger.Sound (.select arm)) :
    (s.pollArm arm).CommandsSound := by
  cases arm with
  | cmd =>
    simp only [State.pollArm]
    split
    · exact commandsSound_setPc h rfl rfl rfl
    · split
      · next cmd rest hcmds =>
        refine ⟨⟨?_, ?_, h.distinct, h.made, h.close, h.completed, h.replies, ?_, ?_, ?_⟩,
          fun w bound next hw => ?_⟩
        · have honce := h.once
          unfold Ledger.outstanding Ledger.queued at honce ⊢
          change (_ ++ List.map Prod.fst (List.filterMap Cmd.send? rest) ++ _ ++ _).Perm _
          rw [show s.ledger.cmds = cmd :: rest from hcmds] at honce
          refine List.Perm.trans ?_ honce
          cases cmd with
          | close code reason => exact List.Perm.refl _
          | send id message =>
            -- The command moves from the front of the channel to the hands of the pump.
            simp only [Pc.pending, List.append_nil, List.filterMap_cons, Cmd.send?, List.map_cons]
            refine List.Perm.append_right _ ?_
            rw [List.append_assoc]
            exact List.Perm.append_left _ List.perm_append_comm
        · have horder := h.order
          unfold Ledger.queued at horder ⊢
          rw [show s.ledger.cmds = cmd :: rest from hcmds] at horder
          cases cmd <;> exact horder
        · exact h.channelClosed
        · rintro ⟨⟩
        · exact h.not_done (by rintro ⟨⟩) (by rintro ⟨⟩)
        · cases hw
      · split
        · exact commandsSound_setPc h rfl rfl rfl
        · exact commandsSound_setPc h rfl rfl rfl
  | read =>
    simp only [State.pollArm]
    split
    · exact commandsSound_setPc (by exact h) rfl rfl rfl
    · exact commandsSound_setPc h rfl rfl rfl
  | deadline =>
    simp only [State.pollArm]
    split
    · exact commandsSound_setPc h rfl rfl rfl
    · exact commandsSound_setPc h rfl rfl rfl

/-- The pump stays where it is. -/
theorem SoundAt.of_pc {l : Ledger} (hpc : s.pump.pc = pc) (h : l.SoundAt pc) :
    l.SoundAt s.pump.pc := by
  rw [hpc]
  exact h

/-- The stores of the finalization. -/
theorem commandsSound_finalizeStep {stage : Finalize} (h : s.ledger.Sound (.finalize stage))
    (hpc : s.pump.pc = .finalize stage) : (s.finalizeStep stage).CommandsSound := by
  have hrest {st : Finalize} : Pc.finalize st ≠ .done := by
    rintro ⟨⟩
  cases stage with
  | closeInfo => exact commandsSound_setPc (by exact h) rfl rfl rfl
  | endQueue => exact commandsSound_setPc (by exact h) rfl rfl rfl
  | closeCmds =>
    refine Ledger.Sound.at_stage { h with
      channelClosed := rfl
      channelDrained := fun hdrained => ?_
      closed := h.not_done hrest hrest }
    cases hdrained
  | drainCmds =>
    simp only [State.finalizeStep]
    split
    · next id message rest hcmds =>
      have honce := h.once
      have horder := h.order
      unfold Ledger.outstanding at honce
      unfold Ledger.queued at honce horder
      rw [show s.ledger.cmds = .send id message :: rest from hcmds] at honce horder
      refine SoundAt.of_pc hpc (Ledger.Sound.at_stage ⟨?_, ?_, h.distinct, h.made, h.close,
        h.completed, ?_, h.channelClosed, fun hdrained => ?_, h.not_done hrest hrest⟩)
      · refine List.Perm.trans ?_ honce
        simp only [Ledger.outstanding, Ledger.queued, State.ledger, State.reply, Pc.pending,
          List.map_append, List.map_cons, List.map_nil, List.filterMap_cons, Cmd.send?,
          List.append_nil, List.append_assoc, List.cons_append]
        rw [← List.append_assoc (List.map Prod.fst (List.filterMap Cmd.send? rest))]
        exact List.Perm.append_left _ (List.perm_append_singleton _ _)
      · exact ((List.Sublist.refl _).append (List.sublist_cons_self _ _)).trans horder
      · intro id' hid'
        refine h.replies id' ?_
        simpa [State.ledger, State.reply] using hid'
      · cases hdrained
    · next code reason rest hcmds =>
      have honce := h.once
      have horder := h.order
      unfold Ledger.outstanding at honce
      unfold Ledger.queued at honce horder
      rw [show s.ledger.cmds = .close code reason :: rest from hcmds] at honce horder
      refine SoundAt.of_pc hpc (Ledger.Sound.at_stage ⟨honce, horder, h.distinct, h.made, h.close,
        h.completed, h.replies, h.channelClosed, fun hdrained => ?_, h.not_done hrest hrest⟩)
      cases hdrained
    · next hcmds =>
      exact Ledger.Sound.at_stage ⟨h.once, h.order, h.distinct, h.made, h.close, h.completed,
        h.replies, h.channelClosed, fun _ => hcmds, h.not_done hrest hrest⟩
  | closing | closed =>
    exact Ledger.Sound.at_stage ⟨h.once, h.order, h.distinct, h.made, h.close, h.completed,
      h.replies, h.channelClosed, fun _ => h.channelDrained rfl, h.not_done hrest hrest⟩
  | fire =>
    refine ⟨⟨h.once, h.order, h.distinct, h.made, h.close, h.completed, h.replies, h.channelClosed,
      fun _ => h.channelDrained rfl, ⟨fun _ => rfl, fun _ => rfl⟩⟩, fun w bound next hw => ?_⟩
    cases hw

theorem commandsSound_poll (h : s.CommandsSound) (hs : s.poll = some s') : s'.CommandsSound := by
  have hsound := h.sound
  unfold State.poll at hs
  split at hs
  · next arm hpc =>
    cases hs
    rw [hpc] at hsound
    exact commandsSound_pollArm hsound
  · next r hpc =>
    cases hs
    rw [hpc] at hsound
    cases r with
    | cmd cmd => exact commandsSound_onCmd hsound
    | read outcome => exact commandsSound_onRead hsound rfl rfl outcome
    | deadline => exact commandsSound_setPc hsound rfl rfl rfl
  · next message hpc =>
    cases hs
    rw [hpc] at hsound
    exact commandsSound_setPc (by exact hsound) rfl rfl rfl
  · next message hpc =>
    cases hs
    rw [hpc] at hsound
    exact commandsSound_setPc (by exact hsound) rfl rfl rfl
  · cases hs
  · next stage hpc =>
    cases hs
    rw [hpc] at hsound
    exact commandsSound_finalizeStep hsound hpc
  · cases hs

/-! ### The resolutions of a bounded write -/

theorem commandsSound_hand (h : s.CommandsSound) (hs : s.hand = some s') : s'.CommandsSound := by
  obtain ⟨h, hwrite⟩ := h
  unfold State.hand at hs
  split at hs
  · next frame bound next hpc =>
    cases hs
    rw [hpc] at h
    have hw := hwrite _ _ _ hpc
    have hsent : (s.ledger.handed ++ [frame]).filterMap Frame.data? =
        s.ledger.sent ++ [frame].filterMap Frame.data? := List.filterMap_append
    refine ⟨{ h with
      order := ?_
      close := ?_
      completed := ?_
      channelDrained := nofun
      closed := ⟨fun hclosed => absurd (h.closed.mp hclosed) nofun, nofun⟩ }, ?_⟩
    · have horder := h.order
      simp only [Pc.unhanded, Write.unhanded] at horder
      rw [← List.append_assoc, ← hsent] at horder
      exact horder
    · cases frame with
      | data id message =>
        have hopen := hw.data id message (by simp [Write.unhanded])
        have hdata : ∀ f ∈ s.hist.handed, f.data?.isSome = true :=
          h.close.resolve_right fun hc => absurd (hopen.symm.trans hc.1) nofun
        refine .inl fun f hf => ?_
        rcases List.mem_append.mp hf with hf | hf
        · exact hdata f hf
        · rw [List.mem_singleton.mp hf]
          rfl
      | close frame =>
        obtain ⟨hwire, hdata⟩ := hw.close frame (by simp [Write.unhanded])
        exact .inr ⟨hwire, s.hist.handed, frame, rfl, hdata⟩
    · intro id hid
      have hmem : id ∈ s.ledger.sent.map Prod.fst := h.completed id hid
      change id ∈ ((s.ledger.handed ++ [frame]).filterMap Frame.data?).map Prod.fst
      rw [hsent, List.map_append]
      exact List.mem_append_left _ hmem
    · rintro w bound' next' hpc'
      cases hpc'
      refine ⟨hw.alive, nofun, nofun, ?_, ?_, ?_⟩
      · rintro frame' hframe
        cases hframe
        exact List.mem_append_right _ (List.mem_singleton_self _)
      · intro id hn
        obtain ⟨message, handed, hsend⟩ := hw.reply id hn
        cases hsend
        exact ⟨message, true, rfl⟩
      · rintro id message handed hsend
        cases hsend
        exact hw.pending id message false rfl
  · cases hs

theorem commandsSound_written (h : s.CommandsSound) (hs : s.written = some s') :
    s'.CommandsSound := by
  obtain ⟨h, hwrite⟩ := h
  unfold State.written at hs
  split at hs
  · cases hs
  · next w bound next hunhanded hpc =>
    cases hs
    rw [hpc] at h
    have hw := hwrite _ _ _ hpc
    have hnoted : (s.noteCompleted w).ledger.Sound (.writing w bound next) := by
      unfold State.noteCompleted
      split
      · next id message handed =>
        refine { h with
          completed := ?_
          replies := ?_
          channelDrained := nofun
          closed := ⟨fun hclosed => absurd (h.closed.mp hclosed) nofun, nofun⟩ }
        · intro id' hid'
          rcases List.mem_append.mp hid' with hid' | hid'
          · exact h.completed id' hid'
          · obtain rfl := List.mem_singleton.mp hid'
            cases handed with
            | false => exact (hunhanded _ rfl).elim
            | true =>
              have hmem : Frame.data id' message ∈ s.hist.handed := hw.handed _ rfl
              exact List.mem_map.mpr ⟨(id', message), List.mem_filterMap.mpr ⟨_, hmem, rfl⟩, rfl⟩
        · exact fun id' hid' => List.mem_append_left _ (h.replies id' hid')
      · exact h
      · exact h
    refine commandsSound_goes hnoted rfl rfl fun id hn _ => ?_
    obtain ⟨message, handed, rfl⟩ := hw.reply id hn
    exact List.mem_append_right _ (List.mem_singleton_self _)
  · cases hs

/-- A bounded write that fails leaves a dead write half. -/
theorem commandsSound_failWrite {w : Write} {bound : WriteBound} {next : Next}
    (h : s.ledger.Sound (.writing w bound next)) (err : Error) :
    (s.failWrite err next).CommandsSound := by
  have hdead : s.setWriteDead.armDeadline.ledger.Sound (.writing w bound next) :=
    { h with
      channelDrained := nofun
      closed := ⟨fun hclosed => absurd (h.closed.mp hclosed) nofun, nofun⟩ }
  exact commandsSound_goes hdead rfl rfl nofun

theorem commandsSound_writeFailed (h : s.CommandsSound) {err : TungsteniteError}
    (hs : s.writeFailed err = some s') : s'.CommandsSound := by
  have hsound := h.sound
  unfold State.writeFailed at hs
  split at hs
  · next hpc =>
    cases hs
    rw [hpc] at hsound
    exact commandsSound_failWrite hsound _
  · cases hs

theorem commandsSound_writeBound (h : s.CommandsSound) (hs : s.writeBound = some s') :
    s'.CommandsSound := by
  obtain ⟨h, hwrite⟩ := h
  unfold State.writeBound at hs
  split at hs
  · next w next hpc =>
    split at hs
    · cases hs
      have hw := hwrite _ _ _ hpc
      rw [hpc] at h
      refine ⟨{ h with
        channelDrained := nofun
        closed := ⟨fun hclosed => absurd (h.closed.mp hclosed) nofun, nofun⟩ }, ?_⟩
      rintro w' bound' next' hpc'
      cases hpc'
      exact hw
    · cases hs
  · next hpc =>
    split at hs
    · cases hs
      rw [hpc] at h
      exact commandsSound_failWrite h _
    · cases hs
  · cases hs

end State

/-! ### The guest's side -/

/-- A drained channel is closed. -/
theorem Pc.channelClosed_of_drained (h : pc.channelDrained = true) : pc.channelClosed = true := by
  unfold Pc.channelDrained at h
  split at h <;> first | rfl | cases h

/-- Moving one element of a list to the end of another. -/
theorem perm_erase_append {α : Type*} [BEq α] [LawfulBEq α] {x : α} {xs : List α} (hx : x ∈ xs)
    (ys : List α) : (xs.erase x ++ (ys ++ [x])).Perm (xs ++ ys) := by
  have hcons : ((x :: xs.erase x) ++ ys).Perm (xs ++ ys) :=
    (List.perm_cons_erase hx).symm.append_right ys
  refine List.Perm.trans ?_ hcons
  rw [← List.append_assoc]
  exact List.perm_append_singleton x _

namespace Ledger

variable {l l' : Ledger}

/-- The guest's side leaves the pump's bounded write alone. -/
theorem SoundAt.guest (h : l.SoundAt pc) (hwire : l'.wireClosing = l.wireClosing)
    (hdead : l'.writeDead = l.writeDead) (hhanded : l'.handed = l.handed) (hs : l'.Sound pc) :
    l'.SoundAt pc := by
  refine ⟨hs, fun w bound next hpc => ?_⟩
  have hw := h.write w bound next hpc
  refine ⟨hdead ▸ hw.alive, ?_, ?_, ?_, hw.reply, hw.pending⟩
  · rw [hwire]; exact hw.data
  · rw [hwire, hhanded]; exact hw.close
  · rw [hhanded]; exact hw.handed

/-- A new `send` call that waits for its use of the channel. -/
theorem Sound.call (h : l.Sound pc) (message : Message) :
    { l with
      checked := l.checked ++ [(l.nextId, message)], nextId := l.nextId + 1 }.Sound pc := by
  refine ⟨?_, h.order, ?_, ?_, h.close, h.completed, h.replies, h.channelClosed,
    h.channelDrained, h.closed⟩
  · rw [List.range_succ]
    refine List.Perm.trans ?_ (h.once.append_right [l.nextId])
    simp only [outstanding, queued, List.map_append, List.map_cons, List.map_nil,
      List.append_assoc]
    refine List.Perm.append_left _ (List.perm_append_comm.trans ?_)
    rw [List.append_assoc, List.append_assoc]
  · have hnew : (l.nextId, message).1 ∉ (l.checked ++ l.enqueued).map Prod.fst :=
      fun hmem => Nat.lt_irrefl _ (h.made _ hmem)
    have hperm : ((l.checked ++ [(l.nextId, message)] ++ l.enqueued).map Prod.fst).Perm
        (((l.nextId, message) :: (l.checked ++ l.enqueued)).map Prod.fst) := by
      refine List.Perm.map _ ?_
      rw [List.append_assoc]
      exact List.perm_middle
    rw [hperm.nodup_iff, List.map_cons, List.nodup_cons]
    exact ⟨hnew, h.distinct⟩
  · intro id hid
    simp only [List.map_append, List.map_cons, List.map_nil, List.mem_append,
      List.mem_singleton] at hid
    rcases hid with (hid | rfl) | hid
    · exact (h.made id (by simp only [List.map_append, List.mem_append]; exact .inl hid)).trans
        (Nat.lt_succ_self _)
    · exact Nat.lt_succ_self _
    · exact (h.made id (by simp only [List.map_append, List.mem_append]; exact .inr hid)).trans
        (Nat.lt_succ_self _)

/-- A new `send` call that fails at once. -/
theorem Sound.refuse (h : l.Sound pc) :
    { l with
      nextId := l.nextId + 1, replies := l.replies ++ [(l.nextId, Except.error Error.closed)] }.Sound pc := by
  refine ⟨?_, h.order, h.distinct, fun id hid => (h.made id hid).trans (Nat.lt_succ_self _),
    h.close, h.completed, ?_, h.channelClosed, h.channelDrained, h.closed⟩
  · rw [List.range_succ]
    refine List.Perm.trans ?_ (h.once.append_right [l.nextId])
    simp only [List.map_append, List.map_cons, List.map_nil, List.append_assoc]
    exact List.Perm.refl _
  · intro id hid
    exact h.replies id (by simpa using hid)

/-- The channel takes the command of a `send` call. -/
theorem Sound.enqueue (h : l.Sound pc) {id : Nat} {message : Message}
    (hmem : (id, message) ∈ l.checked) (hopen : l.cmdsClosed = false) :
    { l with
      checked := l.checked.erase (id, message), cmds := l.cmds ++ [Cmd.send id message]
      enqueued := l.enqueued ++ [(id, message)] }.Sound pc := by
  have hmove := perm_erase_append hmem l.enqueued
  have hqueued : (l.cmds ++ [Cmd.send id message]).filterMap Cmd.send? =
      l.queued ++ [(id, message)] := List.filterMap_append
  refine ⟨?_, ?_, ?_, ?_, h.close, h.completed, h.replies, h.channelClosed, ?_, h.closed⟩
  · refine List.Perm.trans (List.Perm.append_right _ ?_) h.once
    unfold outstanding
    refine List.Perm.append_right _ ?_
    unfold queued
    rw [hqueued, ← List.map_append, ← List.map_append]
    exact (perm_erase_append hmem l.queued).map _
  · change (l.sent ++ (pc.unhanded ++ (l.cmds ++ [Cmd.send id message]).filterMap Cmd.send?)).Sublist _
    rw [hqueued, ← List.append_assoc, ← List.append_assoc]
    exact (by simpa using h.order : (l.sent ++ pc.unhanded ++ l.queued).Sublist _).append
      (List.Sublist.refl _)
  · exact (hmove.map Prod.fst).nodup_iff.mpr h.distinct
  · exact fun id' hid' => h.made id' ((hmove.map Prod.fst).subset hid')
  · intro hdrained
    have hclosed := h.channelClosed.trans (Pc.channelClosed_of_drained hdrained)
    exact absurd (hopen.symm.trans hclosed) nofun

/-- The channel refuses the command of a `send` call. -/
theorem Sound.refuseCommand (h : l.Sound pc) {id : Nat} {message : Message}
    (hmem : (id, message) ∈ l.checked) :
    { l with
      checked := l.checked.erase (id, message)
      replies := l.replies ++ [(id, Except.error Error.closed)] }.Sound pc := by
  have hsub : ((l.checked.erase (id, message) ++ l.enqueued).map Prod.fst).Sublist
      ((l.checked ++ l.enqueued).map Prod.fst) :=
    ((List.erase_sublist).append_right _).map _
  refine ⟨?_, h.order, h.distinct.sublist hsub, fun id' hid' => h.made id' (hsub.subset hid'),
    h.close, h.completed, ?_, h.channelClosed, h.channelDrained, h.closed⟩
  · refine List.Perm.trans ?_ h.once
    have hperm : (id :: (l.checked.erase (id, message)).map Prod.fst).Perm
        (l.checked.map Prod.fst) := (List.perm_cons_erase hmem).symm.map Prod.fst
    simp only [outstanding, queued, List.map_append, List.map_cons, List.map_nil]
    rw [← List.append_assoc]
    refine (List.perm_append_singleton id _).trans ?_
    simp only [← List.cons_append]
    exact List.Perm.append_right _ (List.Perm.append_right _ (List.Perm.append_right _ hperm))
  · intro id' hid'
    exact h.replies id' (by simpa using hid')

/-- The channel takes a close command. -/
theorem Sound.enqueueClose (h : l.Sound pc) (hopen : l.cmdsClosed = false)
    (code : Option UInt16) (reason : String) :
    { l with cmds := l.cmds ++ [Cmd.close code reason] }.Sound pc := by
  have hqueued : (l.cmds ++ [Cmd.close code reason]).filterMap Cmd.send? = l.queued := by
    simp [queued, Cmd.send?]
  refine ⟨?_, ?_, h.distinct, h.made, h.close, h.completed, h.replies, h.channelClosed, ?_,
    h.closed⟩
  · simp only [outstanding, queued]
    rw [hqueued]
    exact h.once
  · simp only [queued]
    rw [hqueued]
    exact h.order
  · intro hdrained
    have hclosed := h.channelClosed.trans (Pc.channelClosed_of_drained hdrained)
    exact absurd (hopen.symm.trans hclosed) nofun

end Ledger

namespace State

theorem commandsSound_callSend (h : s.CommandsSound) (message : Message) :
    (s.callSend message).CommandsSound := by
  simp only [State.callSend]
  split
  · exact h.guest rfl rfl rfl h.sound.refuse
  · exact h.guest rfl rfl rfl (h.sound.call message)

theorem commandsSound_enqueue (h : s.CommandsSound) {id : Nat} {message : Message}
    (hmem : (id, message) ∈ s.calls.checked) : (s.enqueue id message).CommandsSound := by
  simp only [State.enqueue]
  split
  · exact h.guest rfl rfl rfl (h.sound.refuseCommand hmem)
  · next hopen => exact h.guest rfl rfl rfl (h.sound.enqueue hmem (Bool.eq_false_iff.mpr hopen))

theorem commandsSound_callClose (h : s.CommandsSound) (code : Option UInt16) (reason : String) :
    (s.callClose code reason).CommandsSound := by
  rcases callClose_cases s code reason with ⟨-, hc⟩ | ⟨-, -, hc⟩ <;> rw [hc] <;> exact h

theorem commandsSound_enqueueClose (h : s.CommandsSound) (code : Option UInt16) (reason : String) :
    (s.enqueueClose code reason).CommandsSound := by
  simp only [State.enqueueClose]
  split
  · exact h
  · next hopen =>
    exact h.guest rfl rfl rfl (h.sound.enqueueClose (Bool.eq_false_iff.mpr hopen) code reason)

end State

/-- Every step keeps the command discipline. -/
theorem commandsSound_step (h : s.CommandsSound) {a : Action} (hs : step s a = some s') :
    s'.CommandsSound := by
  cases step_kind hs with
  | poll hp => exact State.commandsSound_poll h hp
  | write ha hw =>
    rcases ha with rfl | rfl | ⟨err, rfl⟩ | rfl
    · exact State.commandsSound_hand h hw
    · exact State.commandsSound_written h hw
    · exact State.commandsSound_writeFailed h hw
    · exact State.commandsSound_writeBound h hw
  | outer hm =>
    cases hm with
    | send message => exact State.commandsSound_callSend h message
    | enqueue hmem => exact State.commandsSound_enqueue h hmem
    | close code reason => exact State.commandsSound_callClose h code reason
    | enqueueClose => exact State.commandsSound_enqueueClose h _ _
    | drop => exact State.commandsSound_callClose h none ""
    | dropSenders | reader | arrive | tick => exact h

/-- In every reachable state the pump keeps the command discipline. -/
theorem commands_sound (h : system.Reachable s) : s.CommandsSound := by
  refine System.Reachable.induction (I := State.CommandsSound) ?_ ?_ h
  · rintro _ ⟨closeTimeout, limit, now, largest, hreaches, -, rfl⟩
    exact ⟨⟨List.Perm.refl _, List.Sublist.refl _, List.nodup_nil, nofun, .inl nofun, nofun, nofun,
      rfl, nofun, ⟨nofun, nofun⟩⟩, nofun⟩
  · intro s a s' _ ih hstep
    exact commandsSound_step ih hstep

/-! ### The discipline -/

/-- A message as a frame. -/
def dataFrame (send : Nat × Message) : Frame := .data send.1 send.2

/-- Frames without a close frame are the frames of their messages. -/
theorem eq_map_dataFrame {frames : List Frame} (h : ∀ f ∈ frames, f.data?.isSome = true) :
    frames = (frames.filterMap Frame.data?).map dataFrame := by
  induction frames with
  | nil => rfl
  | cons f frames ih =>
    cases f with
    | data id message =>
      simp only [List.filterMap_cons, Frame.data?, List.map_cons, dataFrame]
      rw [← ih fun f hf => h f (List.mem_cons_of_mem _ hf)]
    | close frame => cases h _ List.mem_cons_self

/-- The frames handed over: messages of the commands in their order, each at most once, then at
most one close frame. -/
def State.HandsInOrder (s : State) : Prop :=
  ∃ (data : List (Nat × Message)) (close : List (Option CloseFrame)),
    s.hist.handed = data.map dataFrame ++ close.map Frame.close ∧ data.Sublist s.hist.enqueued ∧
      (data.map Prod.fst).Nodup ∧ close.length ≤ 1

theorem State.CommandsSound.handsInOrder (h : s.CommandsSound) : s.HandsInOrder := by
  obtain ⟨h, -⟩ := h
  have hsub : s.ledger.sent.Sublist s.hist.enqueued :=
    (List.sublist_append_left _ _).trans h.order
  have hnodup : (s.ledger.sent.map Prod.fst).Nodup := by
    refine h.distinct.sublist ((hsub.trans (List.sublist_append_right _ _)).map _)
  rcases h.close with hdata | ⟨-, data, frame, hhanded, hdata⟩
  · refine ⟨s.ledger.sent, [], ?_, hsub, hnodup, Nat.zero_le _⟩
    rw [List.map_nil, List.append_nil]
    exact eq_map_dataFrame hdata
  · have hsent : s.ledger.sent = data.filterMap Frame.data? := by
      unfold Ledger.sent
      rw [hhanded]
      simp [Frame.data?]
    refine ⟨s.ledger.sent, [frame], ?_, hsub, hnodup, Nat.le_refl _⟩
    rw [hsent, ← eq_map_dataFrame hdata]
    exact hhanded

/-- A dead write half is handed nothing. -/
theorem State.CommandsSound.handed_of_dead (h : s.CommandsSound) (hd : s.pump.writeDead = true)
    {a : Action} (hs : step s a = some s') : s'.hist.handed = s.hist.handed := by
  cases step_kind hs with
  | poll hp => rw [PollFrame.poll hp]
  | write ha _ =>
    obtain ⟨w, bound, next, hpc⟩ := writing_of_step hs ha
    exact absurd ((h.write w bound next hpc).alive.symm.trans hd) nofun
  | outer hm => rw [OuterFrame.of_move hm]

/-- Every command is answered once, or it is in the channel or with the pump, once. -/
theorem State.CommandsSound.answered (h : s.CommandsSound) {id : Nat} {message : Message}
    (hmem : (id, message) ∈ s.hist.enqueued) :
    (s.hist.replies.map Prod.fst).count id +
      (s.ledger.queued.map Prod.fst ++ s.pump.pc.pending).count id = 1 := by
  obtain ⟨h, -⟩ := h
  have hlt : id < s.calls.nextId := h.made id (by
    rw [List.map_append]
    exact List.mem_append_right _ (List.mem_map.mpr ⟨_, hmem, rfl⟩))
  have hchecked : (s.calls.checked.map Prod.fst).count id = 0 := by
    rw [List.count_eq_zero]
    intro hc
    have hdisjoint := h.distinct
    rw [List.map_append, List.nodup_append] at hdisjoint
    exact hdisjoint.2.2 id hc id (List.mem_map.mpr ⟨_, hmem, rfl⟩) rfl
  have honce : (List.range s.calls.nextId).count id = 1 :=
    List.count_eq_one_of_mem List.nodup_range (List.mem_range.mpr hlt)
  have hcount := h.once.count_eq id
  unfold Ledger.outstanding at hcount
  simp only [List.count_append] at hcount ⊢
  change _ = (List.range s.calls.nextId).count id at hcount
  change (s.calls.checked.map Prod.fst).count id + _ + _ + _ = _ at hcount
  rw [hchecked, honce] at hcount
  change _ + _ + (s.hist.replies.map Prod.fst).count id = _ at hcount
  omega

/-- Everyone but the pump answers a `send` call only with `closed`, and a closed channel takes no
command. -/
theorem OuterMove.sends {a : Action} (h : OuterMove s a s') :
    (s.shared.cmdsClosed = true → s'.hist.enqueued = s.hist.enqueued) ∧
    ∀ r ∈ s'.hist.replies, r ∈ s.hist.replies ∨ r.2 = .error .closed := by
  have hreply (id : Nat) : ∀ r ∈ (s.reply id (.error .closed)).hist.replies,
      r ∈ s.hist.replies ∨ r.2 = .error .closed := by
    intro r hr
    rcases List.mem_append.mp hr with hr | hr
    · exact .inl hr
    · rw [List.mem_singleton.mp hr]
      exact .inr rfl
  have hclose (code : Option UInt16) (reason : String) :
      (s.callClose code reason).hist.enqueued = s.hist.enqueued ∧
        (s.callClose code reason).hist.replies = s.hist.replies := by
    rcases callClose_cases s code reason with ⟨-, hc⟩ | ⟨-, -, hc⟩ <;> rw [hc] <;> exact ⟨rfl, rfl⟩
  cases h with
  | send message =>
    simp only [State.callSend]
    split
    · exact ⟨fun _ => rfl, hreply _⟩
    · exact ⟨fun _ => rfl, fun _ => .inl⟩
  | enqueue =>
    simp only [State.enqueue]
    split
    · exact ⟨fun _ => rfl, hreply _⟩
    · next hopen => exact ⟨fun hc => (hopen hc).elim, fun _ => .inl⟩
  | close code reason => exact ⟨fun _ => (hclose _ _).1, fun _ hr => .inl ((hclose _ _).2 ▸ hr)⟩
  | drop => exact ⟨fun _ => (hclose _ _).1, fun _ hr => .inl ((hclose none "").2 ▸ hr)⟩
  | enqueueClose =>
    simp only [State.enqueueClose]
    split <;> exact ⟨fun _ => rfl, fun _ => .inl⟩
  | dropSenders | reader | arrive | tick => exact ⟨fun _ => rfl, fun _ => .inl⟩

/-- Once the closed signal has fired, no command waits for its answer, and whatever happens next,
the signal stays fired, no command enters the channel and every answer is `closed`. -/
theorem State.CommandsSound.of_closed (h : s.CommandsSound) (hclosed : s.shared.closed = true) :
    (∀ send ∈ s.hist.enqueued, (s.hist.replies.map Prod.fst).count send.1 = 1) ∧
    (∀ a s', step s a = some s' → s'.shared.closed = true ∧
      s'.hist.enqueued = s.hist.enqueued ∧
      ∀ r ∈ s'.hist.replies, r ∈ s.hist.replies ∨ r.2 = .error .closed) ∧
    ∀ id message, (id, message) ∈ s.calls.checked →
      ∃ s', step s (.enqueue id message) = some s' ∧ (id, .error .closed) ∈ s'.hist.replies := by
  have hdone : s.pump.pc = .done := h.sound.closed.mp hclosed
  have hrefuses : s.shared.cmdsClosed = true := by
    have hchannel := h.sound.channelClosed
    rw [hdone] at hchannel
    exact hchannel
  have hdrained : s.shared.cmds = [] := h.sound.channelDrained (by rw [hdone]; rfl)
  refine ⟨?_, ?_, ?_⟩
  · rintro ⟨id, message⟩ hmem
    have hanswered := h.answered hmem
    have hqueued : s.ledger.queued = [] := by
      unfold Ledger.queued
      rw [show s.ledger.cmds = [] from hdrained]
      rfl
    simpa [hqueued, hdone, Pc.pending] using hanswered
  · intro a s' hs
    cases step_kind hs with
    | poll hp => simp [State.poll, hdone] at hp
    | write ha _ =>
      obtain ⟨w, bound, next, hpc⟩ := writing_of_step hs ha
      exact absurd (hdone.symm.trans hpc) nofun
    | outer hm =>
      exact ⟨by rw [OuterFrame.of_move hm]; exact hclosed, hm.sends.1 hrefuses, hm.sends.2⟩
  · intro id message hmem
    refine ⟨s.enqueue id message, if_pos hmem, ?_⟩
    simp only [State.enqueue]
    rw [if_pos (by exact hrefuses)]
    exact List.mem_append_right _ (List.mem_singleton_self _)

/-- The command discipline of the pump, in every reachable state.  The frames handed over are the
messages of the commands in their order, each at most once, and then at most one close frame; a
dead write half is handed nothing.  Every command is answered once, or waits in the channel or with
the pump, and an `ok` comes after the command's own write completed.  Once the closed signal has
fired every command is answered, and every later `send` fails `closed`. -/
theorem command_discipline (h : system.Reachable s) :
    s.HandsInOrder ∧
    (∀ a s', step s a = some s' → s.pump.writeDead = true → s'.hist.handed = s.hist.handed) ∧
    (∀ send ∈ s.hist.enqueued, (s.hist.replies.map Prod.fst).count send.1 +
      (s.ledger.queued.map Prod.fst ++ s.pump.pc.pending).count send.1 = 1) ∧
    (∀ id, (id, .ok ()) ∈ s.hist.replies →
      id ∈ s.hist.completed ∧ ∃ message, .data id message ∈ s.hist.handed) ∧
    (s.shared.closed = true →
      (∀ send ∈ s.hist.enqueued, (s.hist.replies.map Prod.fst).count send.1 = 1) ∧
      (∀ a s', step s a = some s' → s'.shared.closed = true ∧
        s'.hist.enqueued = s.hist.enqueued ∧
        ∀ r ∈ s'.hist.replies, r ∈ s.hist.replies ∨ r.2 = .error .closed) ∧
      ∀ id message, (id, message) ∈ s.calls.checked →
        ∃ s', step s (.enqueue id message) = some s' ∧
          (id, .error .closed) ∈ s'.hist.replies) := by
  have hs : s.CommandsSound := commands_sound h
  refine ⟨hs.handsInOrder, fun a s' hstep hd => hs.handed_of_dead hd hstep,
    fun send hmem => hs.answered hmem, fun id hok => ?_, hs.of_closed⟩
  have hcompleted : id ∈ s.hist.completed := hs.sound.replies id hok
  refine ⟨hcompleted, ?_⟩
  obtain ⟨⟨id', message⟩, hsent, rfl⟩ := List.mem_map.mp (hs.sound.completed id hcompleted)
  obtain ⟨frame, hhanded, hframe⟩ := List.mem_filterMap.mp hsent
  cases frame with
  | data id message' =>
    cases hframe
    exact ⟨_, hhanded⟩
  | close frame => cases hframe

/-- A message sent, written and answered. -/
theorem command_discipline_binary :
    ∃ s, system.run (connection 100)
        [.send (.binary [7]), .enqueue 0 (.binary [7]), .poll, .poll, .hand, .written] = some s ∧
      0 ∈ s.hist.completed ∧ ∃ message, .data 0 message ∈ s.hist.handed := by
  have hrun : system.run (connection 100)
      [.send (.binary [7]), .enqueue 0 (.binary [7]), .poll, .poll, .hand, .written] =
        some _ := rfl
  have hreach := reachable_of_run (by decide) hrun
  exact ⟨_, hrun, (command_discipline hreach).2.2.2.1 0 (by decide)⟩

end Polymorph.Host
