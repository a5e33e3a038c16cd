import PodTunnels.Proofs.Sound

/-!
# Activation and stops

A session becomes active by an activation and in no other way (`active_turn`). An activation looks
at the state of its session only, and a stop does not change that state. So a session that is
stopped while it is starting comes back exactly if its activation is carried out before its runner
ends; a session that is past its start when it is stopped stays down.
-/

namespace PodTunnels

/-- What an activation tells: that the session forwards, and that dialogs are to close. -/
def Effect.isActivation : Effect → Bool
  | .dismiss | .info (.activated ..) => true
  | _ => false

namespace Standing

def isActive (st : Standing) : Bool :=
  st.session.any fun s => s.active

variable {st : Standing} {s : Session}

theorem isActive_of_session (hs : st.session = some s) : st.isActive = s.active := by
  simp [isActive, hs]

/-- A life that goes on without becoming active. -/
theorem isActive_of_live {f : Life → Life}
    (hf : ∀ s, st.session = some s → (f s.toLife).active = true → s.active = true)
    (h : (st.live f).isActive = true) : st.isActive = true := by
  cases hs : st.session with
  | none => simp [isActive, live, hs] at h
  | some s =>
    rw [isActive_of_session (live_session hs f)] at h
    rw [isActive_of_session hs]
    exact hf s hs h

theorem isActive_of_cleanUp (h : st.cleanUp.isActive = true) : st.isActive = true := by
  unfold cleanUp at h
  split at h
  · refine isActive_of_live (fun s hs => ?_) h
    unfold Life.retire
    split <;> simp_all
  · exact h

theorem told_cleanUp (st : Standing) : st.cleanUp.told = st.told := by
  unfold cleanUp
  split <;> rfl

end Standing

namespace Switchboard

open Standing

variable {sb : Switchboard} {id : SessionId} {c : ControllerId} {m : Move} {s : Session}
  {st : Standing}

def isActive (sb : Switchboard) (id : SessionId) : Bool :=
  (sb.session? id).any fun s => s.active

/-- An activation marks its session active; nothing else marks a session active, or tells what an
activation tells. -/
theorem active_turn (hturn : sb.Turn id m st) :
    (sb.Activates id m ∧ st.isActive = true) ∨
      ((st.isActive = true → (sb.standing id).isActive = true) ∧
        ∃ later, st.told = sb.told id ++ later ∧
          ∀ notice ∈ later, notice.effect.isActivation = false) := by
  have hsilent (hst : st.told = sb.told id) :
      ∃ later, st.told = sb.told id ++ later ∧
        ∀ notice ∈ later, notice.effect.isActivation = false :=
    ⟨[], by simpa using hst, by simp⟩
  cases hturn with
  | rest | displaced | added | deleted | deletedSession | shut | outlived | missed =>
    exact .inr ⟨fun h => h, hsilent rfl⟩
  | created hnone hbirth =>
    refine .inr ⟨fun hactive => ?_, hsilent rfl⟩
    cases hbirth <;> simp [Standing.isActive] at hactive
  | closed | closedAll => exact .inr ⟨isActive_of_live fun _ _ h => h, hsilent rfl⟩
  | stopped =>
    refine .inr ⟨fun hactive => ?_, hsilent rfl⟩
    rw [quit_eq] at hactive
    exact isActive_of_live
      (fun _ _ hcontra => by simp [Life.deactivate, Life.requestClose] at hcontra) hactive
  | launched hs hrunner hphase => exact .inr ⟨isActive_of_live fun _ _ h => h, hsilent rfl⟩
  | @activated c rest s hwaiting hs hstate =>
    refine .inl ⟨.applied hwaiting hs hstate, ?_⟩
    have hsession : ((sb.standing id).pop c).session = some s := hs
    exact isActive_of_session (live_session hsession Life.activate)
  | @retired c rest outcome s hwaiting hs =>
    refine .inr ⟨isActive_of_cleanUp, _, congrArg (· ++ _) (told_cleanUp _), ?_⟩
    intro notice hnotice
    obtain ⟨effect, heffect, rfl⟩ := List.mem_map.1 hnotice
    rcases List.mem_append.1 heffect with hend | hrefresh
    · cases outcome <;> grind [endEffect, Effect.isActivation]
    · rw [List.mem_singleton.1 hrefresh]
      rfl
  | ready hs hrunner hphase => exact .inr ⟨isActive_of_live fun _ _ h => h, hsilent rfl⟩
  | @readyAlone s r hs hrunner hphase hready hdeaf =>
    by_cases hstate : s.state = .starting
    · refine .inl ⟨.alone hs hrunner hphase hready hdeaf hstate, ?_⟩
      have hsession : (sb.standing id).session = some s := hs
      have hentered := live_session hsession fun l => l.enter .forwarding
      rw [isActive_of_session (live_session hentered _)]
      simp [Session.live, Life.enter, Life.activate, hstate]
    · refine .inr ⟨fun hactive => isActive_of_live (fun s' hs' h => ?_) (live_live _ _ _ ▸ hactive),
        hsilent rfl⟩
      cases hs.symm.trans hs'
      simpa [Life.enter, hstate] using h
  | aborted hs hrunner hphase =>
    rw [live_live, live_live]
    exact .inr ⟨isActive_of_live fun _ _ h => h, hsilent rfl⟩
  | ended hs hrunner hends => exact .inr ⟨isActive_of_live fun _ _ h => h, hsilent rfl⟩
  | endedAlone hs hrunner hends =>
    refine .inr ⟨fun hactive => ?_, hsilent (told_cleanUp _)⟩
    exact isActive_of_live (f := fun l => (l.enter .ended).terminate) (fun _ _ h => h)
      (isActive_of_cleanUp hactive)

/-- After its activation a session is active. -/
theorem Activates.isActive_step (h : sb.Activates id m) : (sb.step m).isActive id = true := by
  cases h with
  | @applied c rest s hwaiting hs hstate =>
    have hshown := standing_activate hwaiting hs hstate
    have hsession : ((sb.standing id).pop c).session = some s := hs
    rw [step, applyTask_of_cons hwaiting, perform]
    change (Switchboard.standing _ id).isActive = true
    rw [hshown]
    exact isActive_of_session (live_session hsession Life.activate)
  | @alone s r hs hrunner hphase hready hdeaf hstate =>
    have hsession : (sb.standing id).session = some s := hs
    have hentered := live_session hsession fun l => l.enter .forwarding
    rw [step, stepRunner_of_ready hs hrunner hphase hready]
    change (Switchboard.standing _ id).isActive = true
    rw [standing_runnerReady_alone hdeaf, isActive_of_session (live_session hentered _)]
    simp [Session.live, Life.enter, Life.activate, hstate]

/-- Other sessions see nothing of an activation. -/
theorem Activates.standing_of_ne (h : sb.Activates id m) {id' : SessionId} (hne : id' ≠ id) :
    (sb.step m).standing id' = sb.standing id' := by
  cases h with
  | applied hwaiting hs hstate =>
    rw [step, applyTask_of_cons hwaiting, perform, standing_activate_of_ne hwaiting hne]
  | alone hs hrunner hphase hready hdeaf hstate =>
    rw [step, stepRunner_of_ready hs hrunner hphase hready, standing_runnerReady_of_ne _ hne]

/-- A session is starting when its activation is carried out, and its runner has got past
readiness or does so now. -/
theorem Activates.starting (h : sb.Activates id m) :
    ∃ s, sb.session? id = some s ∧ s.state = .starting := by
  cases h with
  | applied hwaiting hs hstate => exact ⟨_, hs, hstate⟩
  | alone hs hrunner hphase hready hdeaf hstate => exact ⟨_, hs, hstate⟩

/-! ## Along a run -/

/-- A session stays down along a run: it is never marked active, and nothing that an activation
tells is told about it. -/
structure StaysDown (sb : Switchboard) (id : SessionId) (moves : List Move) : Prop where
  inactive : ∀ before, before <+: moves → (sb.run before).isActive id = false
  silent : ∃ later, (sb.run moves).told id = sb.told id ++ later ∧
    ∀ notice ∈ later, notice.effect.isActivation = false

/-- Somewhere along a run an activation of a session is carried out. -/
def Revives (sb : Switchboard) (id : SessionId) (moves : List Move) : Prop :=
  ∃ before m after, moves = before ++ m :: after ∧ (sb.run before).Activates id m

theorem revives_cons {moves : List Move} :
    sb.Revives id (m :: moves) ↔ sb.Activates id m ∨ (sb.step m).Revives id moves := by
  constructor
  · rintro ⟨before, m', after, hmoves, hactivates⟩
    cases before with
    | nil =>
      obtain ⟨rfl, rfl⟩ := List.cons.inj hmoves
      exact .inl hactivates
    | cons m'' before =>
      obtain ⟨rfl, rfl⟩ := List.cons.inj hmoves
      exact .inr ⟨before, m', after, rfl, hactivates⟩
  · rintro (hactivates | ⟨before, m', after, rfl, hactivates⟩)
    · exact ⟨[], m, moves, rfl, hactivates⟩
    · exact ⟨m :: before, m', after, rfl, hactivates⟩

theorem staysDown_of_not_revives (h : sb.Sound) (hdown : sb.isActive id = false)
    {moves : List Move} (hnot : ¬ sb.Revives id moves) : sb.StaysDown id moves := by
  induction moves generalizing sb with
  | nil =>
    refine ⟨fun before hbefore => ?_, [], by simp [run], by simp⟩
    rw [List.prefix_nil.1 hbefore]
    exact hdown
  | cons m moves ih =>
    rw [revives_cons, not_or] at hnot
    obtain ⟨hactive, later, htold, hlater⟩ :=
      (active_turn (h.turn m id)).resolve_left fun hact => hnot.1 hact.1
    have hdown' : (sb.step m).isActive id = false := by
      rw [← Bool.not_eq_true]
      intro hcontra
      exact Bool.noConfusion (hdown.symm.trans (hactive hcontra))
    obtain ⟨hinactive, later', htold', hlater'⟩ := ih (h.step m) hdown' hnot.2
    refine ⟨fun before hbefore => ?_, later ++ later', ?_, ?_⟩
    · cases before with
      | nil => exact hdown
      | cons m' before =>
        obtain ⟨rfl, hprefix⟩ := List.cons_prefix_cons.1 hbefore
        exact hinactive before hprefix
    · rw [run, List.foldl_cons, ← run, htold', ← List.append_assoc]
      exact congrArg (· ++ later') htold
    · intro notice hnotice
      exact (List.mem_append.1 hnotice).elim (hlater notice) (hlater' notice)

theorem not_revives_of_staysDown {moves : List Move} (h : sb.StaysDown id moves) :
    ¬ sb.Revives id moves := by
  rintro ⟨before, m, after, rfl, hactivates⟩
  have hinactive := h.inactive (before ++ [m]) ⟨after, by simp⟩
  rw [run_concat, hactivates.isActive_step] at hinactive
  cases hinactive

/-- A session that is past its start is never activated. -/
theorem not_revives_of_started (h : sb.Sound) (hs : sb.session? id = some s)
    (hstate : s.state ≠ .starting) (moves : List Move) : ¬ sb.Revives id moves := by
  rintro ⟨before, m, after, -, hactivates⟩
  obtain ⟨s', hs', -, hon⟩ := h.follows_run before id s hs
  obtain ⟨s'', hs'', hstarting⟩ := hactivates.starting
  cases hs'.symm.trans hs''
  have hrank := hon.rank
  rw [hstarting] at hrank
  cases hst : s.state <;> simp_all [SessionState.rank]

/-- What a stop does to its session. -/
theorem Stops.standing_step (h : sb.Sound) (hstops : sb.Stops id m) :
    (sb.step m).standing id = (sb.standing id).quit := by
  cases hstops with
  | key hentry => rw [step_stop_of_entry h.wellFormed hentry, standing_stopSession, if_pos rfl]
  | @deletion c dialog ctl d hctl hopen hlisted =>
    have hd : (sb.controllers[c]?.bind fun ctl => ctl.openDeletion? dialog) = some d := by
      rw [hctl]
      exact hopen
    rw [step, standing_confirmDeletion hd, if_pos hlisted]

theorem isActive_quit (st : Standing) : st.quit.isActive = false := by
  rw [quit_eq]
  cases hs : st.session with
  | none => simp [Standing.isActive, Standing.live, Standing.register, hs]
  | some s =>
    have hsession : (st.register false).session = some s := hs
    rw [isActive_of_session (live_session hsession _)]
    rfl

/-- After a stop, by key or by a confirmed question, a session stays down as long as no activation
of it is carried out, and if it was past its start, it stays down for ever. -/
theorem staysDown_iff (surroundings : Surroundings) (controllers : List (String × Nat))
    (moves after : List Move) (m : Move) (id : SessionId)
    (hstops : ((initial surroundings controllers).run moves).Stops id m) :
    (((initial surroundings controllers).run (moves ++ [m])).StaysDown id after ↔
      ¬ ((initial surroundings controllers).run (moves ++ [m])).Revives id after) ∧
    (∀ s, ((initial surroundings controllers).run moves).session? id = some s →
      s.state ≠ .starting →
        ((initial surroundings controllers).run (moves ++ [m])).StaysDown id after) := by
  have hsound := (sound_initial surroundings controllers).run moves
  have hsound' := (sound_initial surroundings controllers).run (moves ++ [m])
  rw [run_concat] at hsound' ⊢
  have hdown : (((initial surroundings controllers).run moves).step m).isActive id = false :=
    (congrArg Standing.isActive (hstops.standing_step hsound)).trans (isActive_quit _)
  refine ⟨⟨not_revives_of_staysDown, staysDown_of_not_revives hsound' hdown⟩, fun s hs hstate => ?_⟩
  refine staysDown_of_not_revives hsound' hdown fun hrevives => ?_
  exact not_revives_of_started hsound hs hstate (m :: after) (revives_cons.2 (.inr hrevives))

/-- Surroundings with a transport that a close does not end. -/
def stubborn : Surroundings :=
  { cluster := .empty, plans := [{ close := .ignored }] }

/-- An activation that waits at the time of the stop is still to come. -/
theorem not_staysDown_of_waiting :
    ((initial stubborn [("127.0.0.1", 30)]).run (webStart 0 0)).Stops 0 (.stop webKey) ∧
      ¬ ((initial stubborn [("127.0.0.1", 30)]).run (webStart 0 0 ++ [.stop webKey])).StaysDown 0
        [.applyTask 0] := by
  have hstops : ((initial stubborn [("127.0.0.1", 30)]).run (webStart 0 0)).Stops 0
      (.stop webKey) := .key (by decide)
  refine ⟨hstops, fun hdown => ?_⟩
  refine (staysDown_iff stubborn [("127.0.0.1", 30)] (webStart 0 0) [.applyTask 0]
    (.stop webKey) 0 hstops).1.1 hdown ⟨[], .applyTask 0, [], rfl, ?_⟩
  exact .applied rfl rfl rfl

/-- A session that was stopped becomes active, and its interface is told so. -/
theorem stopped_session_revives :
    ((initial stubborn [("127.0.0.1", 30)]).run (webStart 0 0)).Stops 0 (.stop webKey) ∧
      ((initial stubborn [("127.0.0.1", 30)]).run
        (webStart 0 0 ++ [.stop webKey])).isActive 0 = false ∧
      ((initial stubborn [("127.0.0.1", 30)]).run
        (webStart 0 0 ++ [.stop webKey, .applyTask 0])).isActive 0 = true ∧
      ((initial stubborn [("127.0.0.1", 30)]).run
        (webStart 0 0 ++ [.stop webKey, .applyTask 0])).told 0 =
          [⟨0, .session 0, .info (.activated webPod 20900)⟩, ⟨0, .session 0, .dismiss⟩] :=
  ⟨.key (by decide), by decide, by decide, by decide⟩

end Switchboard

end PodTunnels
