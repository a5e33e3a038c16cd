import PodTunnels.Proofs.Cleanup

/-!
# Cleanup without an interface

The retirement of a session whose runner has ended is at any time in exactly one place: it was
carried out, it waits for the interface, or it was discarded when the interface shut down
(`settled_run`). A runner that ends after the shutdown carries the retirement out on its own. So
without an interface an ended session is cleaned up exactly if its retirement was not waiting when
the interface shut down; one whose retirement was discarded stays terminating for ever.
-/

namespace PodTunnels

def Task.isRetirement : Task → Bool
  | .retire .. => true
  | _ => false

namespace Standing

variable {st : Standing} {id : SessionId} {c : ControllerId} {s : Session} {r : Runner}

def isEnded (st : Standing) : Bool :=
  st.session.any fun s => s.runner.any fun r => r.phase = .ended

def isRetired (st : Standing) : Bool :=
  st.session.any fun s => s.retired

/-- How many retirements of the session wait for the interface of its controller. -/
def due (st : Standing) : Nat :=
  (st.session.bind fun s => s.runner).elim 0 fun r =>
    (st.errands r.controller).countP Task.isRetirement

/-- How many retirements of the session were carried out or wait. -/
def settled (st : Standing) : Nat :=
  st.isRetired.toNat + st.due

theorem isRetired_of_session (hs : st.session = some s) : st.isRetired = s.retired := by
  simp [isRetired, hs]

theorem settled_of_none (hs : st.session = none) : st.settled = 0 := by
  simp [settled, isRetired, due, hs]

theorem isEnded_of_runner (hs : st.session = some s) (hrunner : s.runner = some r) :
    st.isEnded = decide (r.phase = .ended) := by
  simp [isEnded, hs, hrunner]

/-- The cleanup is not the runner's affair. -/
theorem isEnded_cleanUp (st : Standing) : st.cleanUp.isEnded = st.isEnded := by
  have hrunner (l : Life) : l.retire.runner = l.runner := by
    unfold Life.retire
    split <;> rfl
  unfold cleanUp
  split
  · cases hs : st.session with
    | none => simp [isEnded, live, register, hs]
    | some s => simp [isEnded, live, register, hs, Session.live, hrunner]
  · rfl

theorem errands_cleanUp (st : Standing) : st.cleanUp.errands = st.errands := by
  unfold cleanUp
  split <;> rfl

theorem due_of_runner (hs : st.session = some s) (hrunner : s.runner = some r) :
    st.due = (st.errands r.controller).countP Task.isRetirement := by
  simp [due, hs, hrunner]

theorem due_of_idle (hs : st.session = some s) (hrunner : s.runner = none) : st.due = 0 := by
  simp [due, hs, hrunner]

/-- Where a runner is only about to be launched, no task waits. -/
theorem Sound.errands_of_idle (h : st.Sound id) (hs : st.session = some s)
    (hrunner : s.runner = none) (c : ControllerId) : st.errands c = [] := by
  refine List.eq_nil_iff_forall_not_mem.2 fun task htask => ?_
  obtain ⟨s', r, hs', hr, -⟩ := h.errand c task htask
  cases hs.symm.trans hs'
  cases hrunner.symm.trans hr

theorem Sound.isEnded_eq (h : st.Sound id) (hs : st.session = some s) :
    st.isEnded = !s.isLive := by
  have hended := (h.life s hs).ended
  cases hlive : s.isLive with
  | true =>
    have hnot : ¬ ∃ r, s.runner = some r ∧ r.phase = .ended := fun hsome => by
      have hdead := hended.2 hsome
      exact Bool.noConfusion (hlive.symm.trans hdead)
    cases hr : s.runner with
    | none => simp [isEnded, hs, hr]
    | some r =>
      have hphase : r.phase ≠ .ended := fun hphase => hnot ⟨r, hr, hphase⟩
      simp [isEnded, hs, hr, hphase]
  | false =>
    obtain ⟨r, hr, hphase⟩ := hended.1 hlive
    simp [isEnded, hs, hr, hphase]

theorem settled_live {f : Life → Life} (hs : st.session = some s)
    (hdue : (st.live f).due = st.due) (hretired : (f s.toLife).retired = s.retired) :
    (st.live f).settled = st.settled := by
  rw [settled, settled, hdue, isRetired_of_session hs, isRetired_of_session (live_session hs f)]
  exact congrArg (fun retired => Bool.toNat retired + st.due) hretired

/-- Which tasks count for a session depends on the controller of its runner only. -/
theorem due_live {f : Life → Life} {r' : Runner} (hs : st.session = some s)
    (hrunner : s.runner = some r) (hrunner' : (f s.toLife).runner = some r')
    (hctl : r'.controller = r.controller) : (st.live f).due = st.due := by
  rw [due_of_runner hs hrunner, due_of_runner (live_session hs f) hrunner', hctl]
  rfl

/-- A life that goes on settles nothing. -/
theorem settled_goes {f : Life → Life} (h : st.Sound id)
    (hf : ∀ s, st.session = some s → s.toLife.Goes (f s.toLife))
    (hretired : ∀ l, (f l).retired = l.retired) :
    (st.live f).settled = st.settled ∧ (st.live f).isEnded = st.isEnded := by
  cases hs : st.session with
  | none => simp [settled, isRetired, due, isEnded, live, hs]
  | some s =>
    have hs' := live_session hs f
    obtain ⟨-, hon, hlive⟩ := hf s hs
    have hdue : (st.live f).due = st.due := by
      cases hr : s.runner with
      | none =>
        have hnil := h.errands_of_idle hs hr
        rw [due_of_idle hs hr]
        cases hr' : (f s.toLife).runner with
        | none => exact due_of_idle hs' hr'
        | some r' =>
          have hnil' : (st.live f).errands r'.controller = [] := hnil r'.controller
          rw [due_of_runner hs' hr', hnil', List.countP_nil]
      | some r =>
        obtain ⟨r', hr', hctl, -⟩ := hon.runner r hr
        exact due_live hs hr hr' hctl
    refine ⟨settled_live hs hdue (hretired s.toLife), ?_⟩
    rw [(h.goes hf).isEnded_eq hs', h.isEnded_eq hs]
    exact congrArg _ hlive

/-- The end of the runner alone settles nothing. -/
theorem settled_end (hs : st.session = some s) (hrunner : s.runner = some r) :
    (st.live fun l => (l.enter .ended).terminate).settled = st.settled ∧
      (st.live fun l => (l.enter .ended).terminate).isEnded = true := by
  have hlive := live_session hs fun l => (l.enter .ended).terminate
  have hrunner' : (s.toLife.enter .ended).terminate.runner = some { r with phase := .ended } := by
    simp [Life.enter, Life.terminate, hrunner]
  have hdue : (st.live fun l => (l.enter .ended).terminate).due = st.due :=
    due_live hs hrunner hrunner' rfl
  exact ⟨settled_live hs hdue rfl, isEnded_of_runner hlive hrunner'⟩

/-- A task that is handed to the interface of the session's controller is settled there if it is a
retirement. -/
theorem settled_queue (hs : st.session = some s) (hrunner : s.runner = some r) (task : Task) :
    (st.queue r.controller task).settled = st.settled + task.isRetirement.toNat := by
  have hs' : (st.queue r.controller task).session = some s := hs
  have hretired : (st.queue r.controller task).isRetired = st.isRetired := rfl
  rw [settled, settled, hretired, due_of_runner hs hrunner, due_of_runner hs' hrunner]
  cases htask : task.isRetirement <;> simp [queue, htask, Nat.add_assoc]

/-- A retirement that is taken off the queue is not settled any more. -/
theorem settled_pop {task : Task} {rest : List Task} (h : st.Sound id)
    (herrands : st.errands c = task :: rest) :
    (st.pop c).settled + task.isRetirement.toNat = st.settled := by
  obtain ⟨s, r, hs, hr, rfl, -⟩ := h.errand c task (by simp [herrands])
  have hs' : (st.pop r.controller).session = some s := hs
  have hretired : (st.pop r.controller).isRetired = st.isRetired := rfl
  rw [settled, settled, hretired, due_of_runner hs hr, due_of_runner hs' hr]
  cases htask : task.isRetirement <;> simp [pop, herrands, htask, Nat.add_assoc]

/-- The shutdown of an interface discards what waits there. -/
theorem settled_shut (h : st.Sound id) (c : ControllerId) :
    (st.shut c).settled + (st.errands c).countP Task.isRetirement = st.settled := by
  have hretired : (st.shut c).isRetired = st.isRetired := rfl
  cases hwaiting : st.errands c with
  | nil =>
    have hsame : st.shut c = { st with hears := Function.update st.hears c false } := by
      simp only [shut, ← hwaiting, Function.update_eq_self]
    rw [hsame]
    rfl
  | cons task rest =>
    obtain ⟨s, r, hs, hr, rfl, -⟩ := h.errand c task (by simp [hwaiting])
    have hs' : (st.shut r.controller).session = some s := hs
    rw [settled, settled, hretired, due_of_runner hs hr, due_of_runner hs' hr, hwaiting]
    simp [shut]

/-- The first cleanup settles a retirement. -/
theorem settled_cleanUp (hs : st.session = some s) (hrunner : s.runner = some r)
    (hretired : s.retired = false) : st.cleanUp.settled = st.settled + 1 := by
  have hfirst : (st.session.any fun s => !s.retired) = true := by simp [hs, hretired]
  have hlife : s.toLife.retire =
      { s.toLife with retired := true, active := false, state := .terminated } := by
    simp [Life.retire, hretired]
  have hs' : st.cleanUp.session = some (s.live Life.retire) := by
    rw [cleanUp, if_pos hfirst]
    exact live_session (register_session hs false) Life.retire
  have hrunner' : (s.live Life.retire).runner = some r := by simp [hlife, hrunner]
  have hretired' : (s.live Life.retire).retired = true := by simp [hlife]
  rw [settled, settled, isRetired_of_session hs, isRetired_of_session hs', hretired, hretired',
    due_of_runner hs' hrunner', due_of_runner hs hrunner, errands_cleanUp]
  exact (Nat.add_comm _ _).trans (congrArg (· + 1) (Nat.zero_add _).symm)

end Standing

namespace Switchboard

open Standing

variable {sb : Switchboard} {id : SessionId} {c : ControllerId} {m : Move} {st : Standing}

/-- A move settles a retirement exactly when the runner of the session ends, unless the move shuts an
interface down. -/
theorem settled_turn (h : (sb.standing id).Sound id) (hturn : sb.Turn id m st)
    (hopen : ∀ c, m ≠ .closeInterface c) (honce : (sb.standing id).settled ≤ 1) :
    st.settled + (sb.standing id).isEnded.toNat =
      (sb.standing id).settled + st.isEnded.toNat := by
  have hgoes {st₀ : Standing} {f : Life → Life} (h₀ : st₀.Sound id)
      (hf : ∀ s, st₀.session = some s → s.toLife.Goes (f s.toLife))
      (hretired : ∀ l, (f l).retired = l.retired) :
      (st₀.live f).settled + st₀.isEnded.toNat = st₀.settled + (st₀.live f).isEnded.toNat := by
    obtain ⟨hsettled, hended⟩ := settled_goes h₀ hf hretired
    rw [hsettled, hended]
  -- A task other than a retirement is taken.
  have hpop {c : ControllerId} {task : Task} {rest : List Task}
      (hwaiting : sb.waiting c = task :: rest) (hid : task.session? = some id)
      (htask : task.isRetirement = false) :
      ((sb.standing id).pop c).settled = (sb.standing id).settled := by
    have htaken := settled_pop h (errands_of_waiting hwaiting hid)
    rwa [htask] at htaken
  cases hturn with
  | rest | displaced | added | deleted | deletedSession => rfl
  | @created _ w l _ hnone hbirth =>
    have hnil := (h.unborn hnone).2
    have hbefore : (sb.standing id).session = none := hnone
    rw [settled_of_none hbefore]
    cases hbirth with
    | idle | rival | refused => simp [settled, Standing.isRetired, due, isEnded, hbefore]
    | started hfree hcontroller hphase =>
      simp [settled, Standing.isRetired, due, isEnded, hbefore, hnil, hphase]
  | @shut c => exact absurd rfl (hopen c)
  | closed | closedAll =>
    exact hgoes h (fun s hs => Life.goes_requestClose (h.life s hs)) fun _ => rfl
  | stopped =>
    rw [quit_eq]
    exact hgoes (h.register (by simp)) (fun s hs => Life.goes_quit (h.life s hs)) fun _ => rfl
  | launched hs hrunner hphase =>
    exact hgoes h (forall_session hs (Life.goes_launch (h.life _ hs) hrunner hphase)) fun _ => rfl
  | @activated c rest s hwaiting hs hstate =>
    have hlive := hgoes (h.pop c) (forall_session hs (Life.goes_activate (h.life s hs) hstate))
      fun _ => rfl
    rw [hpop hwaiting rfl rfl] at hlive
    exact hlive
  | outlived hwaiting =>
    rw [hpop hwaiting rfl rfl]
    rfl
  | @retired c rest outcome s hwaiting hs =>
    obtain ⟨s', r, hs', hr, rfl, -, hactivate | ⟨hphase, -⟩⟩ :=
      exists_runner_of_waiting h hwaiting rfl
    · cases hactivate
    cases hs.symm.trans hs'
    have htaken := settled_pop h (errands_of_waiting hwaiting rfl)
    have hs₀ : ((sb.standing id).pop r.controller).session = some s := hs
    have hret : s.retired = false := by
      cases hret : s.retired with
      | false => rfl
      | true =>
        rw [← htaken, settled, isRetired_of_session hs₀, hret] at honce
        simp [Task.isRetirement] at honce
    have hcleaned := settled_cleanUp hs₀ hr hret
    have hended := isEnded_cleanUp ((sb.standing id).pop r.controller)
    exact congrArg₂ (· + ·) (hcleaned.trans htaken) (congrArg Bool.toNat hended.symm)
  | missed hwaiting hnone =>
    have hnil := (h.unborn hnone).2
    cases (hnil _).symm.trans (errands_of_waiting hwaiting rfl)
  | @ready s r hs hrunner hphase hready hhears =>
    have hentered := hgoes (f := fun l => l.enter .forwarding) h (forall_session hs
      (Life.goes_enter (h.life s hs) hrunner hphase (by simp) (by simp))) fun _ => rfl
    have hlive := live_session (session_standing hs) fun l => l.enter .forwarding
    have hqueued := settled_queue (r := { r with phase := .forwarding }) hlive
      (by simp [Session.live, Life.enter, hrunner]) (.activate id)
    exact (congrArg (· + _) hqueued).trans hentered
  | readyAlone hs hrunner hphase hready hdeaf =>
    rw [live_live]
    refine hgoes h (forall_session hs (Life.goes_readyAlone (h.life _ hs) hrunner hphase))
      fun l => ?_
    split <;> rfl
  | aborted hs hrunner hphase hfails =>
    rw [live_live, live_live]
    exact hgoes h (forall_session hs (Life.goes_abort (h.life _ hs) hrunner hphase _ _ _))
      fun _ => rfl
  | @ended s r outcome hs hrunner hends hhears =>
    obtain ⟨hsame, hended⟩ := settled_end (session_standing hs) hrunner
    have hbefore := isEnded_of_runner (session_standing hs) hrunner
    have hlive := live_session (session_standing hs) fun l => (l.enter .ended).terminate
    have hqueued := settled_queue (r := { r with phase := .ended }) hlive
      (by simp [Session.live, Life.enter, Life.terminate, hrunner]) (.retire id outcome)
    rw [hbefore, decide_eq_false hends.phase_ne_ended]
    exact hqueued.trans (congrArg₂ (· + ·) hsame (congrArg Bool.toNat hended.symm))
  | @endedAlone s r outcome hs hrunner hends hdeaf =>
    obtain ⟨hsame, hended⟩ := settled_end (session_standing hs) hrunner
    have hbefore := isEnded_of_runner (session_standing hs) hrunner
    have hlive := live_session (session_standing hs) fun l => (l.enter .ended).terminate
    have hret := (h.life s hs).not_retired ((h.life s hs).live_of_phase hrunner hends.phase_ne_ended)
    have hcleaned := settled_cleanUp (r := { r with phase := .ended }) hlive
      (by simp [Session.live, Life.enter, Life.terminate, hrunner]) hret
    rw [hbefore, decide_eq_false hends.phase_ne_ended, isEnded_cleanUp, hended, hcleaned, hsame]
    rfl

/-- How many retirements of a session a move discards. -/
def discardedBy (sb : Switchboard) (id : SessionId) : Move → Nat
  | .closeInterface c => (sb.errands id c).countP Task.isRetirement
  | _ => 0

/-- How many retirements of a session are discarded along a run. -/
def discards (sb : Switchboard) (id : SessionId) : List Move → Nat
  | [] => 0
  | m :: moves => sb.discardedBy id m + (sb.step m).discards id moves

theorem discards_append (sb : Switchboard) (id : SessionId) (moves later : List Move) :
    sb.discards id (moves ++ later) = sb.discards id moves + (sb.run moves).discards id later := by
  induction moves generalizing sb with
  | nil => exact (Nat.zero_add _).symm
  | cons m moves ih =>
    rw [List.cons_append, discards, ih, discards]
    exact (Nat.add_assoc ..).symm

theorem settled_step (h : sb.Sound) (m : Move) (honce : (sb.standing id).settled ≤ 1) :
    ((sb.step m).standing id).settled + sb.discardedBy id m + (sb.standing id).isEnded.toNat =
      (sb.standing id).settled + ((sb.step m).standing id).isEnded.toNat := by
  have hturn := h.turn m id
  cases m with
  | closeInterface c =>
    have hshut := settled_shut (h.session id) c
    rw [standing_closeInterface, ← hshut]
    rfl
  | _ => exact settled_turn (h.session id) hturn (fun c => by simp) honce

/-- The retirement of a session whose runner has ended was carried out, or waits, or was
discarded, and there is none before the runner ends. -/
theorem settled_run (surroundings : Surroundings) (controllers : List (String × Nat))
    (moves : List Move) (id : SessionId) :
    (((initial surroundings controllers).run moves).standing id).settled +
        (initial surroundings controllers).discards id moves =
      (((initial surroundings controllers).run moves).standing id).isEnded.toNat := by
  induction moves using List.reverseRecOn with
  | nil => rfl
  | append_singleton moves m ih =>
    have honce : (((initial surroundings controllers).run moves).standing id).settled ≤ 1 :=
      Nat.le_trans (Nat.le_of_add_right_le (Nat.le_of_eq ih)) (Bool.toNat_le _)
    have hstep := settled_step ((sound_initial surroundings controllers).run moves) m honce
    rw [run_concat, discards_append, discards, discards]
    omega

/-- Where the interface of its controller is gone, no retirement of a session waits. -/
theorem Sound.due_of_deaf (h : sb.Sound) {s : Session} {r : Runner}
    (hs : sb.session? id = some s) (hrunner : s.runner = some r)
    (hclosed : sb.hears r.controller = false) : (sb.standing id).due = 0 := by
  have hnil := (h.session id).silent r.controller hclosed
  rw [due_of_runner (session_standing hs) hrunner, hnil]
  rfl

/-- A session whose retirement was discarded is terminating. -/
theorem terminating_of_discards {surroundings : Surroundings}
    {controllers : List (String × Nat)} {moves : List Move} {s : Session}
    (hs : ((initial surroundings controllers).run moves).session? id = some s)
    (hlost : 0 < (initial surroundings controllers).discards id moves) :
    s.state = .terminating := by
  have hsound := (sound_initial surroundings controllers).run moves
  have hlaw := settled_run surroundings controllers moves id
  have hlife := (hsound.session id).life s hs
  rw [settled, isRetired_of_session hs, (hsound.session id).isEnded_eq hs] at hlaw
  have hdead : s.isLive = false := by
    cases hlive : s.isLive with
    | false => rfl
    | true =>
      simp [hlive] at hlaw
      omega
  have hretired : s.retired = false := by
    cases hret : s.retired with
    | false => rfl
    | true =>
      simp [hdead, hret] at hlaw
      omega
  cases hstate : s.state with
  | starting | active => simp [Life.isLive, SessionState.isLive, hstate] at hdead
  | terminating => rfl
  | terminated => simp [hlife.retired.2 hstate] at hretired

/-- Cleanup without an interface. Once the runner of a session has ended and the interface of its
controller is gone, the session is terminated, inactive and not registered, unless its retirement
was waiting when the interface shut down. In that case the retirement is lost: the session is
terminating, and stays so for ever. Only by hand could a retired session be registered again. -/
theorem cleanup_without_interface (surroundings : Surroundings)
    (controllers : List (String × Nat)) (moves : List Move) (id : SessionId) (s : Session)
    (r : Runner) (hs : ((initial surroundings controllers).run moves).session? id = some s)
    (hrunner : s.runner = some r) (hended : r.phase = .ended)
    (hclosed : ((initial surroundings controllers).run moves).hears r.controller = false) :
    ((initial surroundings controllers).discards id moves = 0 →
      s.state = .terminated ∧ s.active = false ∧
        (¬ (initial surroundings controllers).ReaddedByHand id moves →
          ((initial surroundings controllers).run moves).registry.entries.get? s.key ≠ some id)) ∧
    (0 < (initial surroundings controllers).discards id moves →
      ∀ later, ∃ s',
        ((initial surroundings controllers).run (moves ++ later)).session? id = some s' ∧
          s'.state = .terminating) := by
  have hsound := (sound_initial surroundings controllers).run moves
  constructor
  · intro hkept
    have hlaw := settled_run surroundings controllers moves id
    rw [hkept, settled, hsound.due_of_deaf hs hrunner hclosed, isRetired_of_session hs,
      isEnded_of_runner hs hrunner, decide_eq_true hended] at hlaw
    have hretired : s.retired = true := by simpa using hlaw
    obtain ⟨hstate, hactive⟩ := hsound.over_of_retired hs hretired
    exact ⟨hstate, hactive, unregistered_of_retired hs hretired⟩
  · intro hlost later
    obtain ⟨s', hs', -⟩ := hsound.follows_run later id s hs
    rw [← run_append] at hs'
    refine ⟨s', hs', terminating_of_discards hs' ?_⟩
    rw [discards_append]
    exact Nat.lt_of_lt_of_le hlost (Nat.le_add_right ..)

/-- The interface shuts down while the activation of a session waits; the session ends after
that. -/
def earlyShutdown : List Move :=
  webStart 0 0 ++ [.closeInterface 0, .signalFinish 0 .success, .stepRunner 0]

theorem cleanup_of_earlyShutdown :
    ((initial { cluster := .empty } [("127.0.0.1", 30)]).run earlyShutdown).hears 0 = false ∧
      ∃ s, ((initial { cluster := .empty } [("127.0.0.1", 30)]).run earlyShutdown).session? 0 =
        some s ∧ s.state = .terminated ∧ s.active = false := by
  have hclean := (cleanup_without_interface { cluster := .empty } [("127.0.0.1", 30)]
    earlyShutdown 0 _ _ rfl rfl rfl (by decide)).1 (by decide)
  exact ⟨by decide, _, rfl, hclean.1, hclean.2.1⟩

/-- The interface shuts down when a session has ended and its retirement waits. -/
def lateShutdown : List Move :=
  webStart 0 0 ++ [.applyTask 0, .signalFinish 0 .success, .stepRunner 0, .closeInterface 0]

/-- That session is not terminated, and it stays active and registered. -/
theorem lateShutdown_not_cleaned :
    ∃ s r, ((initial { cluster := .empty } [("127.0.0.1", 30)]).run lateShutdown).session? 0 =
        some s ∧ s.runner = some r ∧ r.phase = .ended ∧
      ((initial { cluster := .empty } [("127.0.0.1", 30)]).run lateShutdown).hears r.controller =
        false ∧
      s.state = .terminating ∧ s.active = true ∧
      ((initial { cluster := .empty } [("127.0.0.1", 30)]).run
        lateShutdown).registry.entries.get? s.key = some 0 :=
  ⟨_, _, rfl, rfl, rfl, by decide, rfl, rfl, by decide⟩

end Switchboard

end PodTunnels
