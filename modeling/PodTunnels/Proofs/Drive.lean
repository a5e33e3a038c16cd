import PodTunnels.Proofs.Sound

/-!
# Runners and interfaces in a turn

A turn leaves the runner of a session alone, launches it, or does one step of its work
(`drives_turn`). A runner that is there stays, and an interface that is gone stays away.
-/

namespace PodTunnels

namespace Standing

variable {st : Standing} {s : Session}

def runner? (st : Standing) : Option Runner :=
  st.session.bind fun s => s.runner

theorem runner?_of_session (hs : st.session = some s) : st.runner? = s.runner := by
  simp [runner?, hs]

/-- A life that goes on with the same runner. -/
theorem runner?_live {f : Life → Life} (hf : ∀ l, (f l).runner = l.runner) :
    (st.live f).runner? = st.runner? := by
  cases hs : st.session <;> simp [runner?, live, hs, hf]

theorem runner?_live_of_session {f : Life → Life} (hs : st.session = some s) :
    (st.live f).runner? = (f s.toLife).runner :=
  runner?_of_session (live_session hs f)

theorem runner?_cleanUp (st : Standing) : st.cleanUp.runner? = st.runner? := by
  unfold cleanUp
  split
  · exact runner?_live fun l => by
      unfold Life.retire
      split <;> rfl
  · rfl

end Standing

namespace Switchboard

open Standing

variable {sb : Switchboard} {id : SessionId} {c : ControllerId} {m : Move} {st : Standing}

/-- What a turn does to the runner of a session: nothing, or one step of its work. -/
inductive Drives (sb : Switchboard) (id : SessionId) (st : Standing) : Move → Prop
  | rest {m : Move} (hsame : st.runner? = (sb.standing id).runner?) : Drives sb id st m
  | launched {m : Move} {r : Runner} (hidle : (sb.standing id).runner? = none)
      (hnext : st.runner? = some r) (hphase : r.phase = .waiting)
      (hcause : sb.session? id = none ∨ ∃ c, m = .launch c id) : Drives sb id st m
  | ready {s : Session} {r : Runner} (hs : sb.session? id = some s) (hrunner : s.runner = some r)
      (hphase : r.phase = .waiting) (hnext : st.runner? = some { r with phase := .forwarding })
      (hready : sb.readiness s.transport = some .success) : Drives sb id st (.stepRunner id)
  | failed {s : Session} {r : Runner} {outcome : Outcome} (hs : sb.session? id = some s)
      (hrunner : s.runner = some r) (hphase : r.phase = .waiting) (hfails : sb.Fails s r outcome)
      (hnext : st.runner? =
        some { r with phase := .aborting outcome sb.clock, alarm := sb.alarms }) :
      Drives sb id st (.stepRunner id)
  | ended {s : Session} {r : Runner} {outcome : Outcome} (hs : sb.session? id = some s)
      (hrunner : s.runner = some r) (hends : sb.Ends s r outcome)
      (hnext : st.runner? = some { r with phase := .ended })
      (hdue : sb.hears r.controller = true → .retire id outcome ∈ st.errands r.controller) :
      Drives sb id st (.stepRunner id)

theorem drives_turn (hturn : sb.Turn id m st) : sb.Drives id st m := by
  cases hturn with
  | rest | displaced | added | deleted | deletedSession | shut | outlived | missed => exact .rest rfl
  | @created _ w l registered hnone hbirth =>
    have hbefore : (sb.standing id).runner? = none := by simp [runner?, standing, hnone]
    cases hrunner : l.runner with
    | none => exact .rest (hbefore.symm ▸ hrunner)
    | some r => exact .launched hbefore hrunner (hbirth.phase hrunner) (.inl hnone)
  | closed | closedAll => exact .rest (runner?_live fun _ => rfl)
  | stopped =>
    rw [quit_eq]
    exact .rest (runner?_live fun _ => rfl)
  | @launched s r hs hrunner hphase =>
    have hs' := session_standing hs
    exact .launched ((runner?_of_session hs').trans hrunner) (runner?_live_of_session hs') hphase
      (.inr ⟨_, rfl⟩)
  | @activated c =>
    have hsame : (((sb.standing id).pop c).live Life.activate).runner? =
        ((sb.standing id).pop c).runner? := runner?_live fun _ => rfl
    exact .rest hsame
  | @retired c => exact .rest (runner?_cleanUp ((sb.standing id).pop c))
  | @ready s r hs hrunner hphase hready =>
    refine .ready hs hrunner hphase
      ((runner?_live_of_session (session_standing hs)).trans ?_) hready
    simp [Life.enter, hrunner]
  | @readyAlone s r hs hrunner hphase hready =>
    rw [live_live]
    refine .ready hs hrunner hphase
      ((runner?_live_of_session (session_standing hs)).trans ?_) hready
    split <;> simp [Life.enter, Life.activate, hrunner]
  | @aborted s r outcome hs hrunner hphase hfails =>
    rw [live_live, live_live]
    refine .failed hs hrunner hphase hfails
      ((runner?_live_of_session (session_standing hs)).trans ?_)
    simp [Life.enter, Life.setAlarm, Life.requestClose, hrunner]
  | @ended s r outcome hs hrunner hends =>
    refine .ended hs hrunner hends ((runner?_live_of_session
      (f := fun l => (l.enter .ended).terminate) (session_standing hs)).trans ?_) fun _ => ?_
    · simp [Life.enter, Life.terminate, hrunner]
    · simp [Standing.queue]
  | @endedAlone s r outcome hs hrunner hends hdeaf =>
    refine .ended hs hrunner hends ?_ fun hhears => ?_
    · rw [runner?_cleanUp, runner?_live_of_session (session_standing hs)]
      simp [Life.enter, Life.terminate, hrunner]
    · cases hdeaf.symm.trans hhears

/-- An interface that is gone does not come back. -/
theorem hears_turn (hturn : sb.Turn id m st) (hhears : st.hears c = true) :
    sb.hears c = true := by
  have hcleanUp (st₀ : Standing) : st₀.cleanUp.hears = st₀.hears := by
    unfold Standing.cleanUp
    split <;> rfl
  cases hturn with
  | @shut c' =>
    by_cases hc : c = c'
    · subst hc
      simp [Standing.shut] at hhears
    · exact (Function.update_of_ne hc _ _).symm.trans hhears
  | retired | endedAlone => exact (congrFun (hcleanUp _) c).symm.trans hhears
  | _ => exact hhears

theorem Sound.deaf_step (h : sb.Sound) (hdeaf : sb.hears c = false) (m : Move) :
    (sb.step m).hears c = false := by
  rw [← Bool.not_eq_true]
  intro hhears
  cases hdeaf.symm.trans (hears_turn (h.turn m 0) hhears)

end Switchboard

end PodTunnels
