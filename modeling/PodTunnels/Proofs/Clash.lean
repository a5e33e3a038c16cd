import PodTunnels.Proofs.Activation
import Mathlib.Data.List.Induction

/-!
# Active sessions of one key

No two sessions of one key are registered at once, but a session can be active without being
registered: it was activated after it had been stopped, or it has ended and lost its entry before
the interface came to its retirement. Only then can an activation clash, that is, find another
session of its key active. So at most one session of each key is active at all times of a run
exactly if no activation of the run clashes.
-/

namespace PodTunnels

/-- A move that handles sessions or the registry by hand; all others belong to the program. -/
def Move.isManual : Move → Bool
  | .makeSession .. | .add _ | .delete _ | .deleteSession _ | .launch .. => true
  | _ => false

namespace Life

variable {l : Life} {registered : Bool} {stopped cameBack : Prop}

/-- Why a session may have a runner while it is starting, and why it may be active: it is
registered, or it was stopped before, or activated after that, or it has ended. -/
structure Held (l : Life) (registered : Bool) (stopped cameBack : Prop) : Prop where
  starting : l.runner.isSome = true → l.state = .starting → registered = true ∨ stopped
  active : l.active = true → registered = true ∨ cameBack ∨ l.state = .terminating

theorem Held.mono {stopped' cameBack' : Prop} (h : l.Held registered stopped cameBack)
    (hstopped : stopped → stopped') (hback : cameBack → cameBack') :
    l.Held registered stopped' cameBack' :=
  ⟨fun hr hstate => (h.starting hr hstate).imp_right hstopped,
    fun hactive => (h.active hactive).imp_right fun h => h.imp_left hback⟩

/-- A life without a part in the matter. -/
theorem held_of_idle (hrunner : l.runner = none) (hactive : l.active = false) :
    l.Held registered stopped cameBack :=
  ⟨fun h => by simp [hrunner] at h, fun h => by simp [hactive] at h⟩

theorem Held.quit (h : stopped) : l.deactivate.requestClose.Held registered stopped cameBack :=
  ⟨fun _ _ => .inr h, fun hactive => by simp [deactivate, Life.requestClose] at hactive⟩

theorem Held.requestClose (h : l.Held registered stopped cameBack) :
    l.requestClose.Held registered stopped cameBack :=
  ⟨h.starting, h.active⟩

theorem Held.enter (h : l.Held registered stopped cameBack) (phase : Phase) :
    (l.enter phase).Held registered stopped cameBack :=
  ⟨fun hr hstate => h.starting (by simpa [Life.enter] using hr) hstate, h.active⟩

theorem Held.setAlarm (h : l.Held registered stopped cameBack) (alarm : Nat) :
    (l.setAlarm alarm).Held registered stopped cameBack :=
  ⟨fun hr hstate => h.starting (by simpa [Life.setAlarm] using hr) hstate, h.active⟩

/-- Whoever is activated was registered, or has come back. -/
theorem Held.activate (h : registered = true ∨ cameBack) :
    l.activate.Held registered stopped cameBack :=
  ⟨fun _ hstate => by simp [Life.activate] at hstate, fun _ => h.imp_right .inl⟩

theorem held_end (l : Life) : (l.enter .ended).terminate.Held registered stopped cameBack :=
  ⟨fun _ hstate => by simp [terminate] at hstate, fun _ => .inr (.inr rfl)⟩

theorem held_retire (h : l.retired = false) : l.retire.Held registered stopped cameBack := by
  refine ⟨fun _ hstate => ?_, fun hactive => ?_⟩
  · simp [Life.retire, h] at hstate
  · simp [Life.retire, h] at hactive

end Life

namespace Standing

variable {st : Standing} {stopped cameBack : Prop}

/-- The same of a session where it stands. -/
def Held (st : Standing) (stopped cameBack : Prop) : Prop :=
  ∀ s, st.session = some s → s.toLife.Held st.registered stopped cameBack

theorem held_live {f : Life → Life}
    (hf : ∀ s, st.session = some s → (f s.toLife).Held st.registered stopped cameBack) :
    (st.live f).Held stopped cameBack := by
  intro s' hs'
  obtain ⟨s, hs, rfl⟩ := exists_of_live hs'
  exact hf s hs

theorem Held.cleanUp (h : st.Held stopped cameBack) : st.cleanUp.Held stopped cameBack := by
  unfold Standing.cleanUp
  split
  · rename_i hfirst
    refine held_live fun s hs => ?_
    have hs' : st.session = some s := hs
    rw [hs'] at hfirst
    exact Life.held_retire (by simpa using hfirst)
  · exact h

end Standing

namespace Switchboard

open Standing

variable {sb : Switchboard} {id : SessionId} {c : ControllerId} {m : Move} {st : Standing}
  {stopped cameBack : Prop}

/-- Along the moves of the program, who is held was stopped, or activated after a stop. -/
theorem held_turn (hsound : (sb.standing id).Sound id) (hturn : sb.Turn id m st)
    (hmanual : m.isManual = false) (h : (sb.standing id).Held stopped cameBack) :
    st.Held (stopped ∨ sb.Stops id m) (cameBack ∨ stopped ∧ sb.Activates id m) := by
  have hold : (sb.standing id).Held (stopped ∨ sb.Stops id m)
      (cameBack ∨ stopped ∧ sb.Activates id m) := fun s hs => (h s hs).mono .inl .inl
  cases hturn with
  | rest | shut | outlived | missed => exact hold
  | created hnone hbirth =>
    intro s hs
    cases hs
    cases hbirth with
    | idle | rival | refused => exact Life.held_of_idle rfl rfl
    | started => exact ⟨fun _ _ => .inl rfl, fun _ => .inl rfl⟩
  | @displaced _ s hs hdead =>
    refine forall_session hs ?_
    refine ⟨fun _ hstate => ?_, fun hactive => .inr (.inr ?_)⟩
    · simp [Life.isLive, SessionState.isLive, hstate] at hdead
    · have hterminated := (hsound.life s hs).terminated
      cases hstate : s.state <;> simp_all [Life.isLive, SessionState.isLive]
  | added | deleted | deletedSession | launched => simp [Move.isManual] at hmanual
  | closed | closedAll => exact held_live fun s hs => (hold s hs).requestClose
  | stopped hstops =>
    rw [quit_eq]
    exact held_live fun s hs => .quit (.inr hstops)
  | @activated c rest s hwaiting hs hstate =>
    obtain ⟨s', r, hs', hrunner, -, -, -⟩ := exists_runner_of_waiting hsound hwaiting rfl
    cases hs.symm.trans hs'
    have hheld := (h s hs).starting (by simp [hrunner]) hstate
    refine held_live (forall_session hs (.activate ?_))
    exact hheld.imp_right fun hstopped => .inr ⟨hstopped, .applied hwaiting hs hstate⟩
  | retired => exact Held.cleanUp hold
  | ready => exact held_live fun s hs => (hold s hs).enter .forwarding
  | @readyAlone s r hs hrunner hphase hready hdeaf =>
    rw [live_live]
    refine held_live (forall_session hs ?_)
    split
    · rename_i hstate
      have hheld := (h s hs).starting (by simp [hrunner]) hstate
      refine .activate (hheld.imp_right fun hstopped => .inr ⟨hstopped, ?_⟩)
      exact .alone hs hrunner hphase hready hdeaf hstate
    · exact (hold s hs).enter .forwarding
  | aborted =>
    rw [live_live, live_live]
    exact held_live fun s hs => ((hold s hs).requestClose.enter _).setAlarm _
  | ended => exact held_live fun s _ => Life.held_end s.toLife
  | endedAlone => exact (held_live fun s _ => Life.held_end s.toLife).cleanUp

/-! ## Along a run -/

/-- Somewhere along a run a session was stopped. -/
def WasStopped (sb : Switchboard) (id : SessionId) (moves : List Move) : Prop :=
  ∃ before m after, moves = before ++ m :: after ∧ (sb.run before).Stops id m

/-- Somewhere along a run a session was activated after it had been stopped. -/
def CameBack (sb : Switchboard) (id : SessionId) (moves : List Move) : Prop :=
  ∃ before m after, moves = before ++ m :: after ∧ sb.WasStopped id before ∧
    (sb.run before).Activates id m

theorem wasStopped_concat {moves : List Move}
    (h : sb.WasStopped id moves ∨ (sb.run moves).Stops id m) : sb.WasStopped id (moves ++ [m]) := by
  rcases h with ⟨before, m', after, rfl, hstops⟩ | hstops
  · exact ⟨before, m', after ++ [m], by simp, hstops⟩
  · exact ⟨moves, m, [], rfl, hstops⟩

theorem cameBack_concat {moves : List Move}
    (h : sb.CameBack id moves ∨ sb.WasStopped id moves ∧ (sb.run moves).Activates id m) :
    sb.CameBack id (moves ++ [m]) := by
  rcases h with ⟨before, m', after, rfl, hback⟩ | hback
  · exact ⟨before, m', after ++ [m], by simp, hback⟩
  · exact ⟨moves, m, [], rfl, hback⟩

/-- A session of the program that is starting with a runner is registered or was stopped; an active
one is registered, has come back, or has ended. -/
theorem held_run (surroundings : Surroundings) (controllers : List (String × Nat))
    (moves : List Move) (hmanual : ∀ m ∈ moves, m.isManual = false) (id : SessionId) :
    (((initial surroundings controllers).run moves).standing id).Held
      ((initial surroundings controllers).WasStopped id moves)
      ((initial surroundings controllers).CameBack id moves) := by
  induction moves using List.reverseRecOn with
  | nil =>
    intro s hs
    simp [standing, session?, run, initial, Registry.session?] at hs
  | append_singleton moves m ih =>
    have hsound := (sound_initial surroundings controllers).run moves
    have hold := ih fun m' hm' => hmanual m' (List.mem_append_left _ hm')
    rw [run_concat]
    intro s hs
    have hheld := held_turn (hsound.session id) (hsound.turn m id) (hmanual m (by simp)) hold s hs
    exact hheld.mono wasStopped_concat cameBack_concat

/-- At most one session of each key is active. -/
def OneActive (sb : Switchboard) : Prop :=
  ∀ id id' s s', sb.session? id = some s → sb.session? id' = some s' → s.key = s'.key →
    s.active = true → s'.active = true → id = id'

/-- After some moves of a run, the next one activates a session while another one of its key is
active, because the one was stopped, or the other came back after a stop, or the other has ended
and its interface has not come to its retirement. -/
structure Clash (sb : Switchboard) (before : List Move) (m : Move) (s s' : Session)
    (id id' : SessionId) : Prop where
  distinct : id' ≠ id
  session : (sb.run before).session? id = some s
  session' : (sb.run before).session? id' = some s'
  key : s.key = s'.key
  activates : (sb.run before).Activates id m
  active : s'.active = true
  cause : sb.WasStopped id before ∨ sb.CameBack id' before ∨ s'.state = .terminating

/-- Only a session with a runner is activated. -/
theorem Activates.exists_runner (hsound : (sb.standing id).Sound id) (h : sb.Activates id m) :
    ∃ s r, sb.session? id = some s ∧ s.runner = some r := by
  cases h with
  | applied hwaiting =>
    obtain ⟨s, r, hs, hr, -⟩ := exists_runner_of_waiting hsound hwaiting rfl
    exact ⟨s, r, hs, hr⟩
  | alone hs hrunner => exact ⟨_, _, hs, hrunner⟩

/-- Only one session is activated by a move. -/
theorem Activates.unique {id' : SessionId} (h : sb.Activates id m) (h' : sb.Activates id' m) :
    id = id' := by
  cases h with
  | applied hwaiting =>
    cases h' with
    | applied hwaiting' => exact Task.activate.inj (List.cons.inj (hwaiting.symm.trans hwaiting')).1
  | alone =>
    cases h'
    rfl

theorem isActive_of_session? {s : Session} (hs : sb.session? id = some s) :
    sb.isActive id = s.active := by
  simp [isActive, hs]

/-- A session that is active after a move was active before it, or is activated by it. -/
theorem active_or_activates (h : sb.Sound) {s : Session} (hs : (sb.step m).session? id = some s)
    (hactive : s.active = true) :
    sb.Activates id m ∨ ∃ s₀, sb.session? id = some s₀ ∧ s₀.active = true ∧ s₀.key = s.key := by
  refine (active_turn (h.turn m id)).imp (fun hact => hact.1) fun hkeeps => ?_
  have hbefore := hkeeps.1 ((isActive_of_session? hs).trans hactive)
  obtain ⟨s₀, hs₀, hactive₀⟩ := (Option.any_eq_true _ _).1 hbefore
  obtain ⟨s', hs', hwiring, -⟩ := h.follows_step m id s₀ hs₀
  cases hs.symm.trans hs'
  exact ⟨s₀, hs₀, hactive₀, congrArg Wiring.key hwiring.symm⟩

theorem Clash.not_oneActive {before : List Move} {s s' : Session} {id' : SessionId}
    (hsound : (sb.run before).Sound) (h : sb.Clash before m s s' id id') :
    ¬ (sb.run (before ++ [m])).OneActive := by
  intro hone
  rw [run_concat] at hone
  obtain ⟨t, ht, hwiring, -⟩ := hsound.follows_step m id s h.session
  have hactive : t.active = true :=
    (isActive_of_session? ht).symm.trans h.activates.isActive_step
  have hother : ((sb.run before).step m).session? id' = some s' :=
    (congrArg Standing.session (h.activates.standing_of_ne h.distinct)).trans h.session'
  have hkey : t.key = s'.key := (congrArg Wiring.key hwiring).trans h.key
  exact h.distinct (hone id id' t s' ht hother hkey hactive h.active).symm

/-- An activation beside another active session of its key is a clash. -/
theorem exists_clash {surroundings : Surroundings} {controllers : List (String × Nat)}
    {before : List Move} (hmanual : ∀ m ∈ before, m.isManual = false) {s s' : Session}
    {id' : SessionId} (hne : id' ≠ id)
    (hactivates : ((initial surroundings controllers).run before).Activates id m)
    (hs : ((initial surroundings controllers).run before).session? id = some s)
    (hs' : ((initial surroundings controllers).run before).session? id' = some s')
    (hkey : s.key = s'.key) (hactive : s'.active = true) :
    (initial surroundings controllers).Clash before m s s' id id' := by
  refine ⟨hne, hs, hs', hkey, hactivates, hactive, ?_⟩
  have hsound := (sound_initial surroundings controllers).run before
  have hheld := held_run surroundings controllers before hmanual
  have hstarting : s.state = .starting := by
    obtain ⟨s₀, hs₀, hstate⟩ := hactivates.starting
    cases hs.symm.trans hs₀
    exact hstate
  have hrunner : s.runner.isSome = true := by
    obtain ⟨s₀, r, hs₀, hr⟩ := hactivates.exists_runner (hsound.session id)
    cases hs.symm.trans hs₀
    simp [hr]
  rcases (hheld id s hs).starting hrunner hstarting with hreg | hstopped
  · rcases (hheld id' s' hs').active hactive with hreg' | hback | hended
    · exact absurd (Registry.isRegistered_unique hs hs' hkey hreg hreg').symm hne
    · exact .inr (.inl hback)
    · exact .inr (.inr hended)
  · exact .inl hstopped

/-- Where no activation clashes, a move leaves at most one session of each key active. -/
theorem oneActive_step {surroundings : Surroundings} {controllers : List (String × Nat)}
    {before : List Move} (hmanual : ∀ m ∈ before, m.isManual = false)
    (hone : ((initial surroundings controllers).run before).OneActive)
    (hnone : ∀ s s' id id', ¬ (initial surroundings controllers).Clash before m s s' id id') :
    ((initial surroundings controllers).run (before ++ [m])).OneActive := by
  have hsound := (sound_initial surroundings controllers).run before
  rw [run_concat]
  -- Whichever of two sessions is the one that is activated, the other one was active before.
  have hlate {id id' : SessionId} {t s' : Session} (ht : (((initial surroundings controllers).run
      before).step m).session? id = some t) (hkey : s'.key = t.key)
      (hactivates : ((initial surroundings controllers).run before).Activates id m)
      (hs' : ((initial surroundings controllers).run before).session? id' = some s')
      (hactive : s'.active = true) : id' = id := by
    by_contra hne
    obtain ⟨s, hs, -⟩ := hactivates.starting
    obtain ⟨t', ht', hwiring, -⟩ := hsound.follows_step m id s hs
    cases ht.symm.trans ht'
    have hkey' : s.key = s'.key := (congrArg Wiring.key hwiring).symm.trans hkey.symm
    exact hnone s s' id id' (exists_clash hmanual hne hactivates hs hs' hkey' hactive)
  intro id id' t t' ht ht' hkey hactive hactive'
  rcases active_or_activates hsound ht hactive with hact | ⟨s, hs, hs_active, hs_key⟩
  · rcases active_or_activates hsound ht' hactive' with hact' | ⟨s', hs', hs'_active, hs'_key⟩
    · exact hact.unique hact'
    · exact (hlate ht (hs'_key.trans hkey.symm) hact hs' hs'_active).symm
  · rcases active_or_activates hsound ht' hactive' with hact' | ⟨s', hs', hs'_active, hs'_key⟩
    · exact hlate ht' (hs_key.trans hkey) hact' hs hs_active
    · exact hone id id' s s' hs hs' (hs_key.trans (hkey.trans hs'_key.symm)) hs_active hs'_active

/-- At most one session of each key is active at all times of a run exactly if none of its
activations clashes with another active session. -/
theorem oneActive_iff (surroundings : Surroundings) (controllers : List (String × Nat))
    (moves : List Move) (hmanual : ∀ m ∈ moves, m.isManual = false) :
    (∀ before, before <+: moves → ((initial surroundings controllers).run before).OneActive) ↔
      ¬ ∃ before m after s s' id id', moves = before ++ m :: after ∧
        (initial surroundings controllers).Clash before m s s' id id' := by
  constructor
  · rintro hone ⟨before, m, after, s, s', id, id', rfl, hclash⟩
    have hsound := (sound_initial surroundings controllers).run before
    exact hclash.not_oneActive hsound (hone (before ++ [m]) ⟨after, by simp⟩)
  · intro hnone before
    induction before using List.reverseRecOn with
    | nil =>
      intro _ id id' s s' hs
      simp [session?, run, initial, Registry.session?] at hs
    | append_singleton before m ih =>
      rintro ⟨after, rfl⟩
      refine oneActive_step (fun m' hm' => hmanual m' (by simp [hm']))
        (ih ⟨m :: after, by simp⟩) fun s s' id id' hclash => ?_
      exact hnone ⟨before, m, after, s, s', id, id', by simp, hclash⟩

/-- A session is stopped while its activation waits, another one is started under its key, and both
are activated. -/
def restart : List Move :=
  webStart 0 0 ++
    [.stop webKey, .start 0 webPod webSelection, .finishJob 0, .applyTask 0, .applyTask 0,
      .stepRunner 1, .applyTask 0]

/-- In that run two sessions of one key are active. -/
theorem restart_not_oneActive : ¬ ((initial stubborn [("127.0.0.1", 30)]).run restart).OneActive :=
  fun hone => absurd (hone 0 1 _ _ rfl rfl rfl rfl rfl) (by decide)

/-- So an activation clashes there. -/
theorem restart_clash :
    (∀ m ∈ restart, m.isManual = false) ∧
      ∃ before m after s s' id id', restart = before ++ m :: after ∧
        (initial stubborn [("127.0.0.1", 30)]).Clash before m s s' id id' := by
  have hmanual : ∀ m ∈ restart, m.isManual = false := by decide
  refine ⟨hmanual, ?_⟩
  by_contra hnone
  have hone := (oneActive_iff stubborn [("127.0.0.1", 30)] restart hmanual).2 hnone
  exact absurd (hone restart (List.prefix_refl _) 0 1 _ _ rfl rfl rfl rfl rfl) (by decide)

-- Without a stop: a session has ended, but the interface of its controller has not come to its
-- retirement when another controller starts one under the same key.
example :
    let sb := (initial { cluster := .empty } [("127.0.0.1", 30), ("127.0.0.1", 30)]).run
      (webStart 0 0 ++ [.applyTask 0, .signalFinish 0 .success, .stepRunner 0] ++ webStart 1 1 ++
        [.applyTask 1])
    sb.isActive 0 = true ∧ sb.isActive 1 = true := by
  decide

end Switchboard

end PodTunnels
