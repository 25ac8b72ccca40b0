import Mathlib.Data.List.Dedup
import Mathlib.Data.List.Perm.Basic
import Mathlib.Data.List.Perm.Subperm
import PolymorphWebsocket.Futures.Channel
import PolymorphWebsocket.Transition.System

/-!
# The guest provider: the latched signal

`Flag` of `rust/guest-provider/src/lib.rs`, which carries every signal of the pump, and the wait
futures of its tasks.  The pump's model knows of a `Flag` whether it has fired; here are the wakers it
stores.  A poll that is pending stores its waker unless a stored one wakes the same task, and `fire`
takes them all out.  Nothing else does: a wait future that is dropped leaves its waker behind.

So no wakeup is lost, and the stored wakers are those of waiting tasks as long as no task drops the
last wait future it waits on.  A `select!` whose other arm completes does just that: each `receive`
call that gets a message leaves a waker in two flags.
-/

namespace Polymorph.Provider

open Futures Transition

/-! ### Wakers -/

/-- The wakers of an executor.  `Waker::will_wake` may miss that two wakers wake one task, but claims
it of no others. -/
structure Wakers (W T : Type*) where
  /-- The task that a waker wakes. -/
  task : W → T
  willWake : W → W → Bool
  refl : ∀ w, willWake w w = true
  sound : ∀ w w', willWake w w' = true → task w = task w'

/-- An executor with one waker for each task. -/
def Wakers.ofTasks (T : Type*) [DecidableEq T] : Wakers T T where
  task t := t
  willWake t t' := t == t'
  refl _ := beq_self_eq_true _
  sound _ _ h := beq_iff_eq.mp h

/-! ### The flag -/

/-- `Flag`. -/
structure Flag (W : Type*) where
  fired : Bool
  wakers : List W
  deriving DecidableEq

namespace Flag

variable {W T : Type*}

/-- `Flag::new`. -/
def new : Flag W where
  fired := false
  wakers := []

/-- `fire`, with the wakers it wakes. -/
def fire (f : Flag W) : List W × Flag W :=
  if f.fired then ([], f) else (f.wakers, { fired := true, wakers := [] })

/-- `FlagWait::poll`. -/
def poll (E : Wakers W T) (f : Flag W) (waker : W) : Poll Unit × Flag W :=
  if f.fired then (.ready (), f)
  else if f.wakers.any fun w => E.willWake w waker then (.pending, f)
  else (.pending, { f with wakers := f.wakers ++ [waker] })

/-- A poll of a flag that has fired is ready. -/
theorem poll_fired (E : Wakers W T) {f : Flag W} (hfired : f.fired = true) (waker : W) :
    f.poll E waker = (.ready (), f) :=
  if_pos hfired

/-- What a pending poll does: its task is woken by a stored waker, which is its own if none was. -/
theorem poll_cases (E : Wakers W T) {f : Flag W} (hfired : f.fired = false) (waker : W) :
    (∃ w ∈ f.wakers, E.willWake w waker = true ∧ f.poll E waker = (.pending, f)) ∨
    ((∀ w ∈ f.wakers, E.willWake w waker = false) ∧
      f.poll E waker = (.pending, { f with wakers := f.wakers ++ [waker] })) := by
  unfold poll
  rw [hfired, if_neg Bool.false_ne_true]
  by_cases hany : (f.wakers.any fun w => E.willWake w waker) = true
  · obtain ⟨w, hw, hwakes⟩ := List.any_eq_true.mp hany
    exact .inl ⟨w, hw, hwakes, if_pos hany⟩
  · refine .inr ⟨fun w hw => ?_, if_neg hany⟩
    exact Bool.eq_false_iff.mpr fun hwakes => hany (List.any_eq_true.mpr ⟨w, hw, hwakes⟩)

end Flag

/-! ### The wait futures -/

/-- A poll of a wait future, as its task made it. -/
structure FlagPoll (W : Type*) where
  wait : Nat
  waker : W
  result : Poll Unit
  deriving DecidableEq

/-- A flag with the wait futures on it. -/
structure Waits (W : Type*) where
  flag : Flag W
  /-- The wait futures that have not been dropped. -/
  live : List Nat
  next : Nat
  /-- The polls, the latest first. -/
  polls : List (FlagPoll W)
  /-- What the calls of `fire` have woken. -/
  woken : List W
  fires : Nat
  deriving DecidableEq

/-- `Flag::new`, before any call of `wait`. -/
def Waits.new {W : Type*} : Waits W where
  flag := .new
  live := []
  next := 0
  polls := []
  woken := []
  fires := 0

/-- The moves of the tasks around a flag. -/
inductive WaitsAction (W : Type*)
  | wait
  | poll (id : Nat) (waker : W)
  /-- The wait future is dropped, with the `select!` it is an arm of. -/
  | drop (id : Nat)
  | fire
  deriving DecidableEq

section Waits

variable {W T : Type*} (E : Wakers W T)

/-- The state after a move. -/
def waitsStep (s : Waits W) : WaitsAction W → Option (Waits W)
  | .wait => some { s with live := s.live ++ [s.next], next := s.next + 1 }
  | .poll id waker =>
    if id ∈ s.live then
      some { s with
        flag := (s.flag.poll E waker).2
        polls := { wait := id, waker := waker, result := (s.flag.poll E waker).1 } :: s.polls }
    else none
  | .drop id => if id ∈ s.live then some { s with live := s.live.erase id } else none
  | .fire =>
    some { s with
      flag := s.flag.fire.2
      woken := s.woken ++ s.flag.fire.1
      fires := s.fires + 1 }

/-- A flag under any interleaving of its tasks. -/
def waitsSystem : System (Waits W) (WaitsAction W) where
  init s := s = .new
  step := waitsStep E

variable {E} {s s' : Waits W}

theorem waitsStep_poll {id : Nat} {waker : W} (hs : waitsStep E s (.poll id waker) = some s') :
    id ∈ s.live ∧ s' = { s with
      flag := (s.flag.poll E waker).2
      polls := { wait := id, waker := waker, result := (s.flag.poll E waker).1 } :: s.polls } := by
  simp only [waitsStep] at hs
  split at hs
  · next hlive => exact ⟨hlive, (Option.some.inj hs).symm⟩
  · cases hs

theorem waitsStep_drop {id : Nat} (hs : waitsStep E s (.drop id) = some s') :
    id ∈ s.live ∧ s' = { s with live := s.live.erase id } := by
  simp only [waitsStep] at hs
  split at hs
  · next hlive => exact ⟨hlive, (Option.some.inj hs).symm⟩
  · cases hs

namespace Waits

variable (E) in
/-- What holds of a flag and its wait futures. -/
structure Sound (s : Waits W) : Prop where
  fires : s.flag.fired = true ↔ 0 < s.fires
  /-- Every poll so far is pending, and a stored waker wakes its task. -/
  stored : s.flag.fired = false → ∀ p ∈ s.polls,
    p.result = .pending ∧ ∃ w ∈ s.flag.wakers, E.willWake w p.waker = true
  /-- Every stored waker has polled. -/
  polled : ∀ w ∈ s.flag.wakers, ∃ p ∈ s.polls, p.waker = w
  distinct : s.flag.wakers.Pairwise fun w w' => E.willWake w w' = false
  live : s.live.Nodup
  fresh : ∀ id ∈ s.live, id < s.next
  drained : s.flag.fired = true → s.flag.wakers = []

theorem Sound.step (h : s.Sound E) {a : WaitsAction W} (hs : waitsStep E s a = some s') :
    s'.Sound E := by
  cases a with
  | wait =>
    obtain rfl := Option.some.inj hs
    refine { h with live := ?_, fresh := fun id hid => ?_ }
    · refine List.nodup_append.mpr ⟨h.live, List.nodup_singleton _, ?_⟩
      rintro id hid _ hnext rfl
      have hlt := h.fresh id hid
      rw [List.mem_singleton.mp hnext] at hlt
      exact Nat.lt_irrefl _ hlt
    · rcases List.mem_append.mp hid with hid | hid
      · exact Nat.lt_succ_of_lt (h.fresh id hid)
      · rw [List.mem_singleton.mp hid]
        exact Nat.lt_succ_self _
  | poll id waker =>
    obtain ⟨-, rfl⟩ := waitsStep_poll hs
    cases hfired : s.flag.fired with
    | true =>
      rw [Flag.poll_fired E hfired]
      refine { h with stored := fun hno => ?_, polled := fun w hw => ?_ }
      · cases hfired.symm.trans hno
      · rw [h.drained hfired] at hw
        cases hw
    | false =>
      rcases Flag.poll_cases E hfired waker with ⟨w, hw, hwakes, hpoll⟩ | ⟨hnone, hpoll⟩ <;> rw [hpoll]
      · refine { h with stored := fun hno p hp => ?_, polled := fun w' hw' => ?_ }
        · rcases List.mem_cons.mp hp with rfl | hp
          · exact ⟨rfl, w, hw, hwakes⟩
          · exact h.stored hno p hp
        · obtain ⟨p, hp, heq⟩ := h.polled w' hw'
          exact ⟨p, List.mem_cons_of_mem _ hp, heq⟩
      · refine { h with
          stored := fun hno p hp => ?_
          polled := fun w' hw' => ?_
          distinct := ?_
          drained := fun hno => ?_ }
        · rcases List.mem_cons.mp hp with rfl | hp
          · exact ⟨rfl, waker, List.mem_append_right _ (List.mem_singleton_self _), E.refl waker⟩
          · obtain ⟨hresult, w, hw, hwakes⟩ := h.stored hno p hp
            exact ⟨hresult, w, List.mem_append_left _ hw, hwakes⟩
        · rcases List.mem_append.mp hw' with hw' | hw'
          · obtain ⟨p, hp, heq⟩ := h.polled w' hw'
            exact ⟨p, List.mem_cons_of_mem _ hp, heq⟩
          · exact ⟨_, List.mem_cons_self, (List.mem_singleton.mp hw').symm⟩
        · refine List.pairwise_append.mpr ⟨h.distinct, List.pairwise_singleton _ _, ?_⟩
          intro w hw w' hw'
          rw [List.mem_singleton.mp hw']
          exact hnone w hw
        · cases hfired.symm.trans hno
  | drop id =>
    obtain ⟨-, rfl⟩ := waitsStep_drop hs
    refine { h with live := h.live.erase id, fresh := fun id' hid' => ?_ }
    exact h.fresh id' (List.mem_of_mem_erase hid')
  | fire =>
    obtain rfl := Option.some.inj hs
    have hafter : s.flag.fire.2.fired = true ∧ s.flag.fire.2.wakers = [] := by
      unfold Flag.fire
      cases hfired : s.flag.fired with
      | true => exact ⟨hfired, h.drained hfired⟩
      | false => exact ⟨rfl, rfl⟩
    refine { h with
      fires := iff_of_true hafter.1 (Nat.succ_pos _)
      stored := fun hno => ?_
      polled := fun w hw => ?_
      distinct := ?_
      drained := fun _ => hafter.2 }
    · cases hafter.1.symm.trans hno
    · rw [hafter.2] at hw
      cases hw
    · rw [hafter.2]
      exact List.Pairwise.nil

theorem sound (h : (waitsSystem E).Reachable s) : s.Sound E := by
  refine System.Reachable.induction (I := Sound E) ?_ (fun _ _ _ _ hi hs => hi.step hs) h
  rintro s rfl
  exact ⟨⟨nofun, nofun⟩, fun _ => nofun, nofun, .nil, .nil, nofun, fun _ => rfl⟩

theorem flag_drop {id : Nat} (hs : waitsStep E s (.drop id) = some s') : s'.flag = s.flag := by
  obtain ⟨-, rfl⟩ := waitsStep_drop hs
  rfl

/-- Before the first `fire` the flag has not fired. -/
theorem Sound.unfired (h : s.Sound E) (hfires : s.fires = 0) : s.flag.fired = false := by
  rw [Bool.eq_false_iff]
  intro hfired
  have hpos := h.fires.mp hfired
  omega

/-- The first `fire` empties the list of wakers, and wakes each. -/
theorem woken_of_fire (h : s.Sound E) (hfires : s.fires = 0) (hs : waitsStep E s .fire = some s') :
    s'.woken = s.woken ++ s.flag.wakers := by
  obtain rfl := Option.some.inj hs
  simp [Flag.fire, h.unfired hfires]

/-- Each task has a waker of its own, the same at each poll. -/
def OwnWaker (E : Wakers W T) (own : T → W) : WaitsAction W → Prop
  | .poll _ waker => own (E.task waker) = waker
  | _ => True

instance [DecidableEq W] (own : T → W) (a : WaitsAction W) : Decidable (OwnWaker E own a) := by
  cases a <;> unfold OwnWaker <;> infer_instance

/-- The polls of a run in which each task has a waker of its own are made with these. -/
theorem own_of_polls (own : T → W) {C : Waits W → WaitsAction W → Prop}
    (h : (waitsSystem E).ReachableUnder (fun s a => OwnWaker E own a ∧ C s a) s) :
    ∀ p ∈ s.polls, own (E.task p.waker) = p.waker := by
  refine System.ReachableUnder.induction
    (I := fun s : Waits W => ∀ p ∈ s.polls, own (E.task p.waker) = p.waker) ?_ ?_ h
  · rintro s rfl p hp
    cases hp
  · intro s a s' _ hi hc hs p hp
    cases a with
    | poll id waker =>
      obtain ⟨-, rfl⟩ := waitsStep_poll (E := E) hs
      rcases List.mem_cons.mp hp with rfl | hp
      · exact hc.1
      · exact hi p hp
    | wait =>
      obtain rfl := Option.some.inj hs
      exact hi p hp
    | drop id =>
      obtain ⟨-, rfl⟩ := waitsStep_drop (E := E) hs
      exact hi p hp
    | fire =>
      obtain rfl := Option.some.inj hs
      exact hi p hp

/-! ### The tasks that wait -/

variable [DecidableEq T]

section Pends

variable (E) (s : Waits W)

/-- The most recent poll of a wait future by a task. -/
def lastPoll (id : Nat) (t : T) : Option (FlagPoll W) :=
  s.polls.find? fun p => p.wait = id ∧ E.task p.waker = t

/-- A task waits on a wait future: it is there still, and the most recent poll was pending. -/
def Pends (t : T) (id : Nat) : Prop :=
  id ∈ s.live ∧ ∃ p, s.lastPoll E id t = some p ∧ p.result = .pending

instance (t : T) (id : Nat) : Decidable (s.Pends E t id) :=
  decidable_of_iff (id ∈ s.live ∧ (s.lastPoll E id t).any (·.result = .pending)) <| by
    unfold Pends
    rw [Option.any_eq_true]
    simp

/-- The tasks that wait. -/
def waiters : List T :=
  (s.polls.map fun p => E.task p.waker).dedup.filter fun t => ∃ id ∈ s.live, s.Pends E t id

/-- Every stored waker is that of a task that waits. -/
def NoneStale : Prop := ∀ w ∈ s.flag.wakers, ∃ id, s.Pends E (E.task w) id

end Pends

/-- The latest poll of a wait future that a task waits on is one of the polls. -/
theorem Pends.poll {t : T} {id : Nat} (h : s.Pends E t id) :
    ∃ p ∈ s.polls, p.wait = id ∧ E.task p.waker = t ∧ s.lastPoll E id t = some p := by
  obtain ⟨-, p, hp, -⟩ := h
  obtain ⟨hwait, htask⟩ : p.wait = id ∧ E.task p.waker = t := by simpa using List.find?_some hp
  exact ⟨p, List.mem_of_find?_eq_some hp, hwait, htask, hp⟩

/-- A task that waits is one of the waiters. -/
theorem Pends.mem_waiters {t : T} {id : Nat} (h : s.Pends E t id) : t ∈ s.waiters E := by
  obtain ⟨p, hp, -, htask, -⟩ := h.poll
  refine List.mem_filter.mpr ⟨List.mem_dedup.mpr (List.mem_map.mpr ⟨p, hp, htask⟩), ?_⟩
  exact decide_eq_true ⟨id, h.1, h⟩

/-! ### What a drop leaves behind -/

variable (E) in
/-- A task that drops a wait future it waits on, before the fire, waits on another. -/
def KeepsWaiting (s : Waits W) : WaitsAction W → Prop
  | .drop id => s.flag.fired = false → ∀ p ∈ s.polls, s.Pends E (E.task p.waker) id →
      ∃ id' ∈ s.live, id' ≠ id ∧ s.Pends E (E.task p.waker) id'
  | _ => True

instance (s : Waits W) (a : WaitsAction W) : Decidable (s.KeepsWaiting E a) := by
  cases a <;> unfold KeepsWaiting <;> infer_instance

/-- A drop keeps the polls, so a task waits on the wait futures that are left as before. -/
theorem pends_drop (hi : s.Sound E) {id : Nat} (hs : waitsStep E s (.drop id) = some s') {t : T}
    {id' : Nat} : s'.Pends E t id' ↔ id' ≠ id ∧ s.Pends E t id' := by
  obtain ⟨-, rfl⟩ := waitsStep_drop hs
  show id' ∈ s.live.erase id ∧ _ ↔ id' ≠ id ∧ id' ∈ s.live ∧ _
  rw [hi.live.mem_erase_iff, and_assoc]
  rfl

/-- A poll before the fire is pending, and takes no wait future away from the tasks. -/
theorem Pends.after_poll (hfired : s.flag.fired = false) {id : Nat} {waker : W}
    (hs : waitsStep E s (.poll id waker) = some s') :
    s'.Pends E (E.task waker) id ∧ ∀ {t : T} {id' : Nat}, s.Pends E t id' → s'.Pends E t id' := by
  have hpending : (s.flag.poll E waker).1 = .pending := by
    rcases Flag.poll_cases E hfired waker with ⟨_, _, _, hpoll⟩ | ⟨_, hpoll⟩ <;> rw [hpoll]
  obtain ⟨hlive, rfl⟩ := waitsStep_poll hs
  refine ⟨⟨hlive, _, List.find?_cons_of_pos (by simp), hpending⟩, ?_⟩
  intro t id' h
  obtain ⟨hlive', p, hp, hresult⟩ := h
  by_cases hthis : id = id' ∧ E.task waker = t
  · exact ⟨hlive', _, List.find?_cons_of_pos (by simpa using hthis), hpending⟩
  · refine ⟨hlive', p, ?_, hresult⟩
    exact (List.find?_cons_of_neg (by simpa using hthis)).trans hp

/-- The wakers of tasks that wait. -/
theorem NoneStale.step (hi : s.Sound E) (h : s.NoneStale E) {a : WaitsAction W}
    (hc : s.KeepsWaiting E a) (hs : waitsStep E s a = some s') : s'.NoneStale E := by
  cases hfired : s'.flag.fired with
  | true =>
    intro w hw
    rw [(hi.step hs).drained hfired] at hw
    cases hw
  | false =>
    cases a with
    | wait =>
      obtain rfl := Option.some.inj hs
      intro w hw
      obtain ⟨id, hlive, hpolled⟩ := h w hw
      exact ⟨id, List.mem_append_left _ hlive, hpolled⟩
    | poll id waker =>
      have hbefore : s.flag.fired = false := by
        obtain ⟨-, rfl⟩ := waitsStep_poll hs
        rw [Bool.eq_false_iff]
        intro htrue
        simp [Flag.poll_fired E htrue, htrue] at hfired
      obtain ⟨hthis, hothers⟩ := Pends.after_poll hbefore hs
      intro w hw
      by_cases hwaker : w = waker
      · rw [hwaker]
        exact ⟨id, hthis⟩
      · have hstored : w ∈ s.flag.wakers := by
          obtain ⟨-, rfl⟩ := waitsStep_poll hs
          rcases Flag.poll_cases E hbefore waker with ⟨_, _, _, hpoll⟩ | ⟨_, hpoll⟩
          · simpa [hpoll] using hw
          · simpa [hpoll, hwaker] using hw
        obtain ⟨id', hpends⟩ := h w hstored
        exact ⟨id', hothers hpends⟩
    | drop id =>
      intro w hw
      rw [flag_drop hs] at hfired hw
      obtain ⟨id', hpends⟩ := h w hw
      by_cases hid : id' = id
      · subst hid
        obtain ⟨p, hp, -, htask, -⟩ := hpends.poll
        rw [← htask] at hpends ⊢
        obtain ⟨id₂, -, hne, hpends₂⟩ := hc hfired p hp hpends
        exact ⟨id₂, (pends_drop hi hs).mpr ⟨hne, hpends₂⟩⟩
      · exact ⟨id', (pends_drop hi hs).mpr ⟨hid, hpends⟩⟩
    | fire =>
      obtain rfl := Option.some.inj hs
      simp only [Flag.fire] at hfired
      split at hfired
      · next htrue => cases htrue.symm.trans hfired
      · cases hfired

/-- A task that drops the only wait future it waits on leaves its waker behind. -/
theorem Sound.stale_of_drop (hi : s.Sound E) (hfired : s.flag.fired = false) {a : WaitsAction W}
    (hc : ¬ s.KeepsWaiting E a) (hs : waitsStep E s a = some s') : ¬ s'.NoneStale E := by
  cases a with
  | drop id =>
    simp only [KeepsWaiting, not_forall, not_exists, not_and, exists_prop] at hc
    obtain ⟨-, p, hp, hpends, hnone⟩ := hc
    obtain ⟨-, w, hw, hwakes⟩ := hi.stored hfired p hp
    have htask : E.task w = E.task p.waker := E.sound w p.waker hwakes
    intro hnoneStale
    obtain ⟨id', hpends'⟩ := hnoneStale w (flag_drop hs ▸ hw)
    rw [htask] at hpends'
    obtain ⟨hne, hbefore⟩ := (pends_drop hi hs).mp hpends'
    exact hnone id' hbefore.1 hne hbefore
  | wait => exact absurd trivial hc
  | poll id waker => exact absurd trivial hc
  | fire => exact absurd trivial hc

/-- With a waker for each task, there are no more wakers than tasks that wait. -/
theorem length_wakers_le (hi : s.Sound E) {own : T → W}
    (hown : ∀ p ∈ s.polls, own (E.task p.waker) = p.waker) (h : s.NoneStale E) :
    s.flag.wakers.length ≤ (s.waiters E).length := by
  have hdistinct : (s.flag.wakers.map E.task).Nodup := by
    refine List.pairwise_map.mpr (hi.distinct.imp_of_mem ?_)
    intro w w' hw hw' hnot htask
    obtain ⟨p, hp, rfl⟩ := hi.polled w hw
    obtain ⟨p', hp', rfl⟩ := hi.polled w' hw'
    have heq : p.waker = p'.waker := by rw [← hown p hp, ← hown p' hp', htask]
    rw [heq, E.refl] at hnot
    cases hnot
  have hsub : s.flag.wakers.map E.task ⊆ s.waiters E := by
    intro t ht
    obtain ⟨w, hw, rfl⟩ := List.mem_map.mp ht
    obtain ⟨id, hpends⟩ := h w hw
    exact hpends.mem_waiters
  calc s.flag.wakers.length = (s.flag.wakers.map E.task).length := List.length_map .. |>.symm
    _ ≤ (s.waiters E).length := (List.subperm_of_subset hdistinct hsub).length_le

/-! ### The results -/

/-- Every task whose most recent poll of a wait future it still has was pending before the first
`fire` is woken by that `fire`, through a waker that wakes what its own wakes.  Every poll after a
`fire` is ready. -/
theorem flag_wakes_all (h : (waitsSystem E).Reachable s) :
    (s.fires = 0 → waitsStep E s .fire = some s' → ∃ now, s'.woken = s.woken ++ now ∧
      ∀ t, ∀ id ∈ s.live, ∀ p, s.lastPoll E id t = some p → p.result = .pending →
        ∃ w ∈ now, E.willWake w p.waker = true ∧ E.task w = t) ∧
    (0 < s.fires → ∀ id waker, waitsStep E s (.poll id waker) = some s' →
      s'.polls = { wait := id, waker := waker, result := .ready () } :: s.polls) := by
  have hi := sound h
  refine ⟨fun hfires hs => ⟨s.flag.wakers, woken_of_fire hi hfires hs, ?_⟩, ?_⟩
  · intro t id hlive p hlast hresult
    have hpends : s.Pends E t id := ⟨hlive, p, hlast, hresult⟩
    obtain ⟨p', hp', -, htask, hlast'⟩ := hpends.poll
    obtain rfl := Option.some.inj (hlast.symm.trans hlast')
    obtain ⟨-, w, hw, hwakes⟩ := hi.stored (hi.unfired hfires) p hp'
    exact ⟨w, hw, hwakes, (E.sound w p.waker hwakes).trans htask⟩
  · intro hfires id waker hs
    obtain ⟨-, rfl⟩ := waitsStep_poll hs
    simp only [Flag.poll_fired E (hi.fires.mpr hfires)]

/-- Two tasks wait, one with two wait futures of which it drops one; the `fire` wakes both. -/
theorem flag_wakes_all_two_tasks : ∃ s s' s'' : Waits Nat, ∃ now,
    (waitsSystem (.ofTasks Nat)).run .new
      [.wait, .wait, .wait, .poll 0 7, .poll 1 7, .poll 2 8, .drop 0] = some s ∧
    waitsStep (.ofTasks Nat) s .fire = some s' ∧ s'.woken = s.woken ++ now ∧ 7 ∈ now ∧ 8 ∈ now ∧
    waitsStep (.ofTasks Nat) s' (.poll 1 9) = some s'' ∧
    s''.polls = { wait := 1, waker := 9, result := .ready () } :: s'.polls := by
  have hrun : (waitsSystem (.ofTasks Nat)).run .new
      [.wait, .wait, .wait, .poll 0 7, .poll 1 7, .poll 2 8, .drop 0] = some
      { flag := { fired := false, wakers := [7, 8] }, live := [1, 2], next := 3,
        polls := [⟨2, 8, .pending⟩, ⟨1, 7, .pending⟩, ⟨0, 7, .pending⟩], woken := [],
        fires := 0 } := rfl
  have hr := System.Reachable.run (.of_init rfl) hrun
  obtain ⟨now, hnow, hall⟩ := (flag_wakes_all hr).1 rfl rfl
  obtain ⟨w, hw, -, hw7⟩ := hall 7 1 (by decide) _ rfl rfl
  obtain ⟨w', hw', -, hw8⟩ := hall 8 2 (by decide) _ rfl rfl
  refine ⟨_, _, _, now, hrun, rfl, hnow, hw7 ▸ hw, hw8 ▸ hw', rfl, ?_⟩
  exact (flag_wakes_all (hr.next (a := .fire) rfl)).2 (by decide) 1 9 rfl

/-- Every stored waker is that of a task that waits, and there are no more of them than such tasks,
in every run in which no task drops, before the fire, the only wait future it waits on.  A drop of
that kind leaves a waker whose task does not wait. -/
theorem flag_holds_no_stale_wakers (own : T → W) :
    (∀ s, (waitsSystem E).ReachableUnder (fun s a => OwnWaker E own a ∧ s.KeepsWaiting E a) s →
      s.NoneStale E ∧ s.flag.wakers.length ≤ (s.waiters E).length) ∧
    ∀ s a s', (waitsSystem E).Reachable s → s.flag.fired = false → ¬ s.KeepsWaiting E a →
      waitsStep E s a = some s' → ¬ s'.NoneStale E := by
  constructor
  · intro s h
    have hnone : s.NoneStale E := by
      refine System.ReachableUnder.induction (I := NoneStale E) ?_ ?_ h
      · rintro s rfl w hw
        cases hw
      · intro s a s' hr hi hc hs
        exact hi.step (sound hr.reachable) hc.2 hs
    exact ⟨hnone, length_wakers_le (sound h.reachable) (own_of_polls own h) hnone⟩
  · intro s a s' h hfired hc hs
    exact (sound h).stale_of_drop hfired hc hs

/-- A task that waits on two wait futures drops one of them, and then the other. -/
theorem flag_holds_no_stale_wakers_two_waits : ∃ s s' : Waits Nat,
    (waitsSystem (.ofTasks Nat)).run .new [.wait, .wait, .poll 0 7, .poll 1 7, .drop 0] = some s ∧
    s.NoneStale (.ofTasks Nat) ∧
    waitsStep (.ofTasks Nat) s (.drop 1) = some s' ∧ ¬ s'.NoneStale (.ofTasks Nat) := by
  have hrun : (waitsSystem (.ofTasks Nat)).runUnder
      (fun s a => OwnWaker (.ofTasks Nat) id a ∧ s.KeepsWaiting (.ofTasks Nat) a) .new
      [.wait, .wait, .poll 0 7, .poll 1 7, .drop 0] = some
      { flag := { fired := false, wakers := [7] }, live := [1], next := 2,
        polls := [⟨1, 7, .pending⟩, ⟨0, 7, .pending⟩], woken := [], fires := 0 } := by decide
  have hr := System.ReachableUnder.runUnder (.init rfl) hrun
  obtain ⟨hnone, hstale⟩ := flag_holds_no_stale_wakers (E := .ofTasks Nat) id
  exact ⟨_, _, rfl, (hnone _ hr).1, rfl, hstale _ (.drop 1) _ hr.reachable rfl (by decide) rfl⟩

/-- One call of `receive` that gets a message: the waker stays, and no task waits. -/
theorem receive_leaves_waker : ¬ ∀ s : Waits Nat,
    (waitsSystem (.ofTasks Nat)).ReachableUnder (fun _ a => OwnWaker (.ofTasks Nat) id a) s →
      s.flag.fired = false →
      s.NoneStale (.ofTasks Nat) ∧ s.flag.wakers.length ≤ (s.waiters (.ofTasks Nat)).length := by
  intro hall
  have hrun : (waitsSystem (.ofTasks Nat)).runUnder (fun _ a => OwnWaker (.ofTasks Nat) id a) .new
      [.wait, .poll 0 7, .drop 0] = some
      { flag := { fired := false, wakers := [7] }, live := [], next := 1,
        polls := [⟨0, 7, .pending⟩], woken := [], fires := 0 } := by decide
  have hr := System.ReachableUnder.runUnder (.init rfl) hrun
  exact absurd (hall _ hr rfl).2 (by decide)

end Waits

end Waits

end Polymorph.Provider
