import PodTunnels.Proofs.Cleanup
import Mathlib.Logic.Relation

/-!
# The course of every session

Whatever happens around it, the state of a session goes forward only, by one step at a time. It is
marked active in no state but the second and the third, and while it is registered it is not
retired, and marked active as its state says. Mark, state, retirement and entry are written by
different hands, so each of these is followed from turn to turn. Only by hand could a session that
was stopped or retired be registered again.
-/

namespace PodTunnels

/-- The state that comes next in a life; a session that never forwards skips the second one. -/
inductive SessionState.Next : SessionState → SessionState → Prop
  | activate : Next .starting .active
  | skip : Next .starting .terminating
  | terminate : Next .active .terminating
  | retire : Next .terminating .terminated

/-- Nothing comes after the last state. -/
theorem SessionState.final {state : SessionState}
    (h : Relation.ReflTransGen Next .terminated state) : state = .terminated := by
  cases h.cases_head with
  | inl heq => exact heq.symm
  | inr hstep =>
    obtain ⟨state', hnext, -⟩ := hstep
    cases hnext

namespace Life

variable {l : Life}

/-- A life whose session has no business in the registry: it was retired, or stopped while it was
active. -/
def isSpent (l : Life) : Bool :=
  l.retired || (l.state = .active && !l.active)

theorem isSpent_activate (l : Life) : l.activate.isSpent = l.retired := by
  simp [isSpent, activate]

theorem Sound.active_cases (h : l.Sound) (hactive : l.active = true) :
    l.state = .active ∨ l.state = .terminating := by
  have hstarting := h.starting
  have hterminated := h.terminated
  cases hstate : l.state <;> simp_all

/-- Before its retirement, a life that has ended is terminating. -/
theorem Sound.terminating (h : l.Sound) (hdead : l.isLive = false) (hretired : l.retired = false) :
    l.state = .terminating := by
  have hlast : l.state ≠ .terminated := fun hstate => by simp [h.retired.2 hstate] at hretired
  cases hstate : l.state <;> simp_all [isLive, SessionState.isLive]

theorem next_terminating (hlive : l.isLive = true) : l.state.Next .terminating := by
  cases hstate : l.state with
  | starting => exact .skip
  | active => exact .terminate
  | terminating | terminated => simp [isLive, SessionState.isLive, hstate] at hlive

end Life

namespace Standing

variable {st : Standing} {s : Session}

/-- Whether the session is registered although its life is spent. -/
def isSpent (st : Standing) : Bool :=
  st.registered && st.session.any fun s => s.isSpent

theorem registered_of_isSpent (h : st.isSpent = true) : st.registered = true :=
  (Bool.and_eq_true_iff.1 h).1

/-- A life that goes on without becoming spent. -/
theorem isSpent_of_live {f : Life → Life}
    (hf : ∀ s, st.session = some s → (f s.toLife).isSpent = true → s.isSpent = true)
    (h : (st.live f).isSpent = true) : st.isSpent = true := by
  obtain ⟨hreg, hspent⟩ := Bool.and_eq_true_iff.1 h
  obtain ⟨s', hs', hs'_spent⟩ := (Option.any_eq_true _ _).1 hspent
  obtain ⟨s, hs, rfl⟩ := exists_of_live hs'
  exact Bool.and_eq_true_iff.2 ⟨hreg, (Option.any_eq_true _ _).2 ⟨s, hs, hf s hs hs'_spent⟩⟩

/-- The cleanup removes the session whenever it retires it. -/
theorem isSpent_of_cleanUp (h : st.cleanUp.isSpent = true) : st.isSpent = true := by
  unfold cleanUp at h
  split at h
  · cases registered_of_isSpent h
  · exact h

end Standing

namespace Switchboard

open Standing

variable {sb : Switchboard} {id : SessionId} {m : Move} {s : Session} {st : Standing}

/-! ## The state from move to move -/

/-- How a move takes the state of a session on: not at all, by one step, or, where a runner that
ends has nobody to tell, by the last two at once. -/
inductive MovesOn (sb : Switchboard) (id : SessionId) (s : Session) : Move → SessionState → Prop
  | stays {m : Move} : MovesOn sb id s m s.state
  | next {m : Move} {state : SessionState} (hnext : s.state.Next state) : MovesOn sb id s m state
  | alone {r : Runner} (hrunner : s.runner = some r) (hdeaf : sb.hears r.controller = false)
      (hnext : s.state.Next .terminating) : MovesOn sb id s (.stepRunner id) .terminated

theorem movesOn_turn (hsound : (sb.standing id).Sound id) (hs : sb.session? id = some s)
    (hturn : sb.Turn id m st) : ∃ s', st.session = some s' ∧ sb.MovesOn id s m s'.state := by
  have hsession : (sb.standing id).session = some s := hs
  have hlife := hsound.life s hs
  cases hturn with
  | rest | displaced | added | deleted | deletedSession | shut | outlived | missed =>
    exact ⟨s, hsession, .stays⟩
  | created hnone => cases hnone.symm.trans hs
  | closed | closedAll | launched | ready => exact ⟨_, live_session hsession _, .stays⟩
  | stopped =>
    rw [quit_eq]
    exact ⟨_, live_session (register_session hsession false) _, .stays⟩
  | @activated c rest s' hwaiting hs' hstate =>
    cases hs.symm.trans hs'
    have hpopped : ((sb.standing id).pop c).session = some s := hsession
    exact ⟨_, live_session hpopped _, .next (hstate ▸ .activate)⟩
  | @retired c rest outcome s' hwaiting hs' =>
    cases hs.symm.trans hs'
    have hpopped : ((sb.standing id).pop c).session = some s := hsession
    obtain ⟨s', r, hs', hrunner, -, -, hactivate | ⟨hended, -⟩⟩ :=
      exists_runner_of_waiting hsound hwaiting rfl
    · cases hactivate
    cases hs.symm.trans hs'
    have hdead := hlife.ended.2 ⟨r, hrunner, hended⟩
    cases hretired : s.retired with
    | true =>
      refine ⟨s, ?_, .stays⟩
      simp [Standing.tell, Standing.cleanUp, hpopped, hretired]
    | false =>
      refine ⟨s.live Life.retire, ?_, ?_⟩
      · simp [Standing.tell, Standing.cleanUp, Standing.live, Standing.register, hpopped, hretired]
      · have hstate : (s.live Life.retire).state = .terminated := by
          simp [Session.live, Life.retire, hretired]
        rw [hstate]
        exact .next (hlife.terminating hdead hretired ▸ .retire)
  | @readyAlone s' r hs' hrunner hphase =>
    cases hs.symm.trans hs'
    rw [live_live]
    refine ⟨_, live_session hsession _, ?_⟩
    by_cases hstate : s.state = .starting
    · have hnext : s.state.Next .active := hstate ▸ .activate
      exact .next (by simpa [Session.live, Life.enter, Life.activate, hstate] using hnext)
    · simpa [Session.live, Life.enter, hstate] using MovesOn.stays
  | aborted =>
    rw [live_live, live_live]
    exact ⟨_, live_session hsession _, .stays⟩
  | @ended s' r outcome hs' hrunner hends =>
    cases hs.symm.trans hs'
    have hlive := hlife.live_of_phase hrunner hends.phase_ne_ended
    exact ⟨_, live_session hsession _, .next (Life.next_terminating hlive)⟩
  | @endedAlone s' r outcome hs' hrunner hends hdeaf =>
    cases hs.symm.trans hs'
    have hlive := hlife.live_of_phase hrunner hends.phase_ne_ended
    have hretired := hlife.not_retired hlive
    refine ⟨(s.live fun l => (l.enter .ended).terminate).live Life.retire, ?_, ?_⟩
    · simp [Standing.cleanUp, Standing.live, Standing.register, hsession, Life.enter,
        Life.terminate, hretired]
    · have hstate : ((s.live fun l => (l.enter .ended).terminate).live Life.retire).state =
          .terminated := by
        simp [Session.live, Life.retire, Life.enter, Life.terminate, hretired]
      rw [hstate]
      exact .alone hrunner hdeaf (Life.next_terminating hlive)

theorem MovesOn.reaches {state : SessionState} (h : sb.MovesOn id s m state) :
    Relation.ReflTransGen SessionState.Next s.state state := by
  cases h with
  | stays => exact .refl
  | next hnext => exact .single hnext
  | alone hrunner hdeaf hnext => exact .tail (.single hnext) .retire

theorem reaches_run (h : sb.Sound) (hs : sb.session? id = some s) (moves : List Move) :
    ∃ s', (sb.run moves).session? id = some s' ∧
      Relation.ReflTransGen SessionState.Next s.state s'.state := by
  induction moves generalizing sb s with
  | nil => exact ⟨s, hs, .refl⟩
  | cons m moves ih =>
    obtain ⟨s', hs', hmoved⟩ := movesOn_turn (h.session id) hs (h.turn m id)
    obtain ⟨s'', hs'', hpath⟩ := ih (h.step m) hs'
    exact ⟨s'', hs'', hmoved.reaches.trans hpath⟩

/-! ## Registration from move to move -/

/-- A session that is spent is registered only by hand. -/
theorem spent_turn (hturn : sb.Turn id m st) (hspent : st.isSpent = true) :
    (sb.standing id).isSpent = true ∨
      m = .add id ∧ ∃ s, sb.session? id = some s ∧ s.isSpent = true := by
  have hended (l : Life) (h : (l.enter .ended).terminate.isSpent = true) : l.isSpent = true := by
    have hretired : l.retired = true := by simpa [Life.isSpent, Life.terminate, Life.enter] using h
    simp [Life.isSpent, hretired]
  cases hturn with
  | rest | shut | outlived | missed => exact .inl hspent
  | created hnone hbirth => cases hbirth <;> simp [Standing.isSpent, Life.isSpent] at hspent
  | displaced | deleted | deletedSession | stopped => cases registered_of_isSpent hspent
  | added hs hfree =>
    exact .inr ⟨rfl, (Option.any_eq_true _ _).1 (Bool.and_eq_true_iff.1 hspent).2⟩
  | closed | closedAll | launched | ready => exact .inl (isSpent_of_live (fun _ _ h => h) hspent)
  | @activated c rest s hwaiting hs hstate =>
    have hpopped : ((sb.standing id).pop c).isSpent = true := by
      refine isSpent_of_live (fun s' _ hs'_spent => ?_) hspent
      rw [Life.isSpent_activate] at hs'_spent
      simp [Life.isSpent, hs'_spent]
    exact .inl hpopped
  | @retired c =>
    have hpopped : ((sb.standing id).pop c).isSpent = true := isSpent_of_cleanUp hspent
    exact .inl hpopped
  | @readyAlone s r hs hrunner hphase =>
    rw [live_live] at hspent
    refine .inl (isSpent_of_live (fun s' _ hs'_spent => ?_) hspent)
    split at hs'_spent
    · rw [Life.isSpent_activate] at hs'_spent
      simp [Life.isSpent, show s'.retired = true from hs'_spent]
    · exact hs'_spent
  | aborted =>
    rw [live_live, live_live] at hspent
    exact .inl (isSpent_of_live (fun _ _ h => h) hspent)
  | ended hs hrunner hends => exact .inl (isSpent_of_live (fun s' _ => hended s'.toLife) hspent)
  | endedAlone hs hrunner hends =>
    exact .inl (isSpent_of_live (fun s' _ => hended s'.toLife) (isSpent_of_cleanUp hspent))

/-- Somewhere along a run a session that is spent is registered by hand. -/
def PutBackByHand (sb : Switchboard) (id : SessionId) (moves : List Move) : Prop :=
  ∃ before after, moves = before ++ .add id :: after ∧
    ∃ s, (sb.run before).session? id = some s ∧ s.isSpent = true

theorem not_spent_run (surroundings : Surroundings) (controllers : List (String × Nat))
    (moves : List Move) (hhand : ¬ (initial surroundings controllers).PutBackByHand id moves) :
    (((initial surroundings controllers).run moves).standing id).isSpent = false := by
  induction moves using List.reverseRecOn with
  | nil => rfl
  | append_singleton moves m ih =>
    rw [← Bool.not_eq_true, run_concat]
    intro hspent
    have hsound := (sound_initial surroundings controllers).run moves
    rcases spent_turn (hsound.turn m id) hspent with hbefore | ⟨rfl, s, hs, hs_spent⟩
    · refine Bool.noConfusion ((ih ?_).symm.trans hbefore)
      rintro ⟨before, after, rfl, hhanded⟩
      exact hhand ⟨before, after ++ [m], by simp, hhanded⟩
    · exact hhand ⟨moves, [], rfl, s, hs, hs_spent⟩

/-- The life cycle of a session, at any time of any run. Its state has gone forward from any earlier
time to any later one, each move takes it one step further at most (but for a runner that ends with
nobody to tell), and the last state is final. It is marked active in no state but the second and the
third. While it is registered it is neither terminated nor retired, and it is marked active in the
second state but not in the first; only by hand could a spent session be registered again. And it is
registered under its own key or not at all. -/
theorem lifecycle (surroundings : Surroundings) (controllers : List (String × Nat))
    (moves later : List Move) (id : SessionId) (s : Session)
    (hs : ((initial surroundings controllers).run moves).session? id = some s) :
    let sb := (initial surroundings controllers).run moves
    (∃ s', (sb.run later).session? id = some s' ∧
      Relation.ReflTransGen SessionState.Next s.state s'.state ∧
      (s.state = .terminated → s'.state = .terminated)) ∧
    (∀ m, ∃ s', (sb.step m).session? id = some s' ∧ sb.MovesOn id s m s'.state) ∧
    (s.active = true → s.state = .active ∨ s.state = .terminating) ∧
    (¬ (initial surroundings controllers).PutBackByHand id moves →
      sb.registry.isRegistered id = true →
        s.state ≠ .terminated ∧ s.retired = false ∧
        (s.state = .starting → s.active = false) ∧ (s.state = .active → s.active = true)) ∧
    ∀ key, sb.registry.entries.get? key = some id → s.key = key := by
  intro sb
  have hsound : sb.Sound := (sound_initial surroundings controllers).run moves
  have hlife := (hsound.session id).life s hs
  refine ⟨?_, fun m => ?_, hlife.active_cases, fun hhand hreg => ?_, fun key hentry => ?_⟩
  · obtain ⟨s', hs', hpath⟩ := reaches_run hsound hs later
    refine ⟨s', hs', hpath, fun hstate => ?_⟩
    exact SessionState.final (hstate ▸ hpath)
  · exact movesOn_turn (hsound.session id) hs (hsound.turn m id)
  · have hspent := not_spent_run surroundings controllers moves hhand
    have hs_spent : s.isSpent = false := by
      simpa [Standing.isSpent, standing, sb, hreg, hs] using hspent
    obtain ⟨hretired, hactive⟩ := Bool.or_eq_false_iff.1 hs_spent
    refine ⟨fun hstate => ?_, hretired, hlife.starting, fun hstate => ?_⟩
    · exact Bool.noConfusion (hretired.symm.trans (hlife.retired.2 hstate))
    · simpa [hstate] using hactive
  · obtain ⟨s', hs', hkey⟩ := hsound.wellFormed hentry
    cases hs.symm.trans hs'
    exact hkey

/-- A session whose activation was applied is registered and marked active, and was not retired. -/
theorem marked_of_webStart :
    let sb := (initial { cluster := .empty } [("127.0.0.1", 30)]).run
      (webStart 0 0 ++ [.applyTask 0])
    sb.registry.isRegistered 0 = true ∧ ∃ s, sb.session? 0 = some s ∧ s.state = .active ∧
      s.active = true ∧ s.retired = false := by
  intro sb
  have hreg : sb.registry.isRegistered 0 = true := by decide
  have hhand : ¬ (initial { cluster := .empty } [("127.0.0.1", 30)]).PutBackByHand 0
      (webStart 0 0 ++ [.applyTask 0]) := by
    rintro ⟨before, after, hmoves, -⟩
    have hmem : Move.add 0 ∈ webStart 0 0 ++ [.applyTask 0] := by
      rw [hmoves]
      simp
    simp [webStart] at hmem
  obtain ⟨-, -, -, hmarked, -⟩ := lifecycle { cluster := .empty } [("127.0.0.1", 30)]
    (webStart 0 0 ++ [.applyTask 0]) [] 0 _ rfl
  obtain ⟨-, hretired, -, hactive⟩ := hmarked hhand hreg
  exact ⟨hreg, _, rfl, rfl, hactive rfl, hretired⟩

end Switchboard

end PodTunnels
