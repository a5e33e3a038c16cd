import PodTunnels.Proofs.Life
import PodTunnels.Proofs.Step

/-!
# Sound switchboards

At any time the life of a session is sound, the tasks about it that wait come from its runner, and
the retirement of an ended session is done or waits for the interface of its controller, if that is
still there. Each turn keeps this, so it holds along every run (`Sound.run`).
-/

namespace PodTunnels

namespace Standing

variable {st : Standing} {id : SessionId} {c : ControllerId} {s : Session} {r : Runner}

theorem live_session (hs : st.session = some s) (f : Life → Life) :
    (st.live f).session = some (s.live f) := by
  simp [live, hs]

theorem register_session (hs : st.session = some s) (registered : Bool) :
    (st.register registered).session = some s := hs

theorem exists_of_live {f : Life → Life} {s' : Session} (hs' : (st.live f).session = some s') :
    ∃ s, st.session = some s ∧ s' = s.live f := by
  obtain ⟨s, hs, rfl⟩ := Option.map_eq_some_iff.1 hs'
  exact ⟨s, hs, rfl⟩

theorem forall_session {P : Session → Prop} (hs : st.session = some s) (h : P s) :
    ∀ s', st.session = some s' → P s' := by
  intro s' hs'
  cases hs.symm.trans hs'
  exact h

theorem quit_eq (st : Standing) :
    st.quit = (st.register false).live fun l => l.deactivate.requestClose :=
  live_live _ _ _

/-- What holds of the standing of a session at any time. -/
structure Sound (st : Standing) (id : SessionId) : Prop where
  life : ∀ s, st.session = some s → s.toLife.Sound
  unborn : st.session = none → st.registered = false ∧ ∀ c, st.errands c = []
  silent : ∀ c, st.hears c = false → st.errands c = []
  /-- Tasks about a session come from its runner, which is past the point that they tell of. -/
  errand : ∀ c, ∀ task ∈ st.errands c, ∃ s r, st.session = some s ∧ s.runner = some r ∧
    r.controller = c ∧ r.phase ≠ .waiting ∧
      (task = .activate id ∨ r.phase = .ended ∧ ∃ outcome, task = .retire id outcome)

/-- A life that goes on. -/
theorem Sound.live (h : st.Sound id) {f : Life → Life}
    (hf : ∀ s, st.session = some s → (f s.toLife).Sound ∧ s.toLife.Onward (f s.toLife)) :
    (st.live f).Sound id where
  life s' hs' := by
    obtain ⟨s, hs, rfl⟩ := exists_of_live hs'
    exact (hf s hs).1
  unborn hnone := h.unborn (by simpa [Standing.live] using hnone)
  silent := h.silent
  errand c task htask := by
    obtain ⟨s, r, hs, hr, hctl, hphase, htask⟩ := h.errand c task htask
    obtain ⟨r', hr', hctl', hended, hwaiting⟩ := (hf s hs).2.runner r hr
    exact ⟨s.live f, r', live_session hs f, hr', hctl'.trans hctl, hwaiting hphase,
      htask.imp_right fun h => ⟨hended h.1, h.2⟩⟩

theorem Sound.goes (h : st.Sound id) {f : Life → Life}
    (hf : ∀ s, st.session = some s → s.toLife.Goes (f s.toLife)) : (st.live f).Sound id :=
  h.live fun s hs => ⟨(hf s hs).sound, (hf s hs).onward⟩

theorem Sound.register (h : st.Sound id) {registered : Bool}
    (hborn : registered = true → st.session ≠ none) : (st.register registered).Sound id where
  life := h.life
  unborn hnone := by
    refine ⟨?_, (h.unborn hnone).2⟩
    cases registered with
    | false => rfl
    | true => exact absurd hnone (hborn rfl)
  silent := h.silent
  errand := h.errand

theorem Sound.tell (h : st.Sound id) (notices : List Notice) : (st.tell notices).Sound id :=
  ⟨h.life, h.unborn, h.silent, h.errand⟩

/-- Of fewer tasks the same is true. -/
theorem Sound.errands_subset (h : st.Sound id) {hears : ControllerId → Bool}
    {errands : ControllerId → List Task} (hsub : ∀ c, ∀ task ∈ errands c, task ∈ st.errands c)
    (hsilent : ∀ c, hears c = false → errands c = []) :
    { st with hears, errands }.Sound id where
  life := h.life
  unborn hnone := by
    refine ⟨(h.unborn hnone).1, fun c => List.eq_nil_iff_forall_not_mem.2 fun task htask => ?_⟩
    have hnil := (h.unborn hnone).2 c
    simpa [hnil] using hsub c task htask
  silent := hsilent
  errand c task htask := h.errand c task (hsub c task htask)

theorem Sound.shut (h : st.Sound id) (c : ControllerId) : (st.shut c).Sound id := by
  refine h.errands_subset (fun c' task htask => ?_) fun c' hdeaf => ?_
  · by_cases hc : c' = c
    · subst hc
      simp at htask
    · simpa [hc] using htask
  · by_cases hc : c' = c
    · subst hc
      simp
    · simp only [Function.update_of_ne hc] at hdeaf ⊢
      exact h.silent c' hdeaf

theorem Sound.pop (h : st.Sound id) (c : ControllerId) : (st.pop c).Sound id := by
  refine h.errands_subset (fun c' task htask => ?_) fun c' hdeaf => ?_
  · by_cases hc : c' = c
    · subst hc
      exact List.mem_of_mem_tail (by simpa using htask)
    · simpa [hc] using htask
  · by_cases hc : c' = c
    · subst hc
      simp [h.silent c' hdeaf]
    · simp [hc, h.silent c' hdeaf]

/-- A runner hands a task to the interface of its controller. -/
theorem Sound.queue (h : st.Sound id) (hs : st.session = some s) (hrunner : s.runner = some r)
    (hhears : st.hears r.controller = true) (hphase : r.phase ≠ .waiting) {task : Task}
    (htask : task = .activate id ∨ r.phase = .ended ∧ ∃ outcome, task = .retire id outcome) :
    (st.queue r.controller task).Sound id where
  life := h.life
  unborn hnone := by simp [Standing.queue, hs] at hnone
  silent c hdeaf := by
    have hc : c ≠ r.controller := by
      rintro rfl
      exact absurd hhears (by simpa [Standing.queue] using hdeaf)
    simpa [Standing.queue, hc] using h.silent c hdeaf
  errand c task' htask' := by
    by_cases hc : c = r.controller
    · subst hc
      simp only [Standing.queue, Function.update_self, List.mem_append,
        List.mem_singleton] at htask'
      rcases htask' with hold | rfl
      · exact h.errand _ task' hold
      · exact ⟨s, r, hs, hrunner, rfl, hphase, htask⟩
    · exact h.errand c task' (by simpa [Standing.queue, hc] using htask')

/-- A session is cleaned up once its runner has ended. -/
theorem Sound.cleanUp (h : st.Sound id)
    (hended : ∀ s, st.session = some s → ∃ r, s.runner = some r ∧ r.phase = .ended) :
    st.cleanUp.Sound id := by
  unfold Standing.cleanUp
  split
  · refine Sound.live (h.register (by simp)) fun s hs => ?_
    obtain ⟨r, hr, hphase⟩ := hended s hs
    exact ⟨(h.life s hs).retire hr hphase, s.toLife.onward_retire⟩
  · exact h

/-! ## Retirements that are owed -/

/-- An interface that takes tasks has the retirement of an ended session done or to do. -/
def Settles (st : Standing) (id : SessionId) : Prop :=
  ∀ s r, st.session = some s → s.runner = some r → r.phase = .ended →
    st.hears r.controller = true →
      s.retired = true ∨ ∃ outcome, .retire id outcome ∈ st.errands r.controller

theorem Settles.goes (h : st.Settles id) (hsound : st.Sound id) {f : Life → Life}
    (hf : ∀ s, st.session = some s → s.toLife.Goes (f s.toLife)) : (st.live f).Settles id := by
  intro s' r' hs' hr' hended hhears
  obtain ⟨s, hs, rfl⟩ := exists_of_live hs'
  obtain ⟨hfsound, hon, hlive⟩ := hf s hs
  -- The runner had ended before, since otherwise the session would have died just now.
  have hdead : s.toLife.isLive = false := hlive.symm.trans (hfsound.ended.2 ⟨r', hr', hended⟩)
  obtain ⟨r, hr, hphase⟩ := (hsound.life s hs).ended.1 hdead
  obtain ⟨r'', hr'', hctl, -⟩ := hon.runner r hr
  cases hr'.symm.trans hr''
  rw [hctl] at hhears
  rcases h s r hs hr hphase hhears with hret | htask
  · exact .inl (hon.retired hret)
  · exact .inr (hctl ▸ htask)

theorem Settles.shut (h : st.Settles id) (c : ControllerId) : (st.shut c).Settles id := by
  intro s r hs hr hended hhears
  have hc : r.controller ≠ c := by
    rintro rfl
    simp [Standing.shut] at hhears
  simp only [Standing.shut, Function.update_of_ne hc] at hhears ⊢
  exact h s r hs hr hended hhears

theorem Settles.queue (h : st.Settles id) (c : ControllerId) (task : Task) :
    (st.queue c task).Settles id := by
  intro s r hs hr hended hhears
  refine (h s r hs hr hended hhears).imp_right fun ⟨outcome, hmem⟩ => ⟨outcome, ?_⟩
  by_cases hc : r.controller = c
  · subst hc
    simp [Standing.queue, hmem]
  · simpa [Standing.queue, hc] using hmem

/-- An interface may take any other task about the session. -/
theorem Settles.pop (h : st.Settles id)
    (hhead : ∀ outcome, (st.errands c).head? ≠ some (.retire id outcome)) :
    (st.pop c).Settles id := by
  intro s r hs hr hended hhears
  refine (h s r hs hr hended hhears).imp_right fun ⟨outcome, hmem⟩ => ⟨outcome, ?_⟩
  by_cases hc : r.controller = c
  · subst hc
    cases herrands : st.errands r.controller with
    | nil => simp [herrands] at hmem
    | cons task rest =>
      have hne : Task.retire id outcome ≠ task := by
        rintro rfl
        simp [herrands] at hhead
      rw [herrands, List.mem_cons] at hmem
      simpa [Standing.pop, herrands] using hmem.resolve_left hne
  · simpa [Standing.pop, hc] using hmem

/-- A retired session owes nothing. -/
theorem Settles.of_retired (h : ∀ s, st.session = some s → s.retired = true) : st.Settles id :=
  fun s _ hs _ _ _ => .inl (h s hs)

/-- The cleanup registers nobody. -/
theorem registered_of_cleanUp (h : st.cleanUp.registered = true) : st.registered = true := by
  unfold Standing.cleanUp at h
  split at h
  · cases h
  · exact h

theorem retired_cleanUp {s : Session} (hs : st.cleanUp.session = some s) : s.retired = true := by
  unfold Standing.cleanUp at hs
  split at hs
  · obtain ⟨s₀, -, rfl⟩ := exists_of_live hs
    simp only [Session.live, Life.retire]
    split
    · assumption
    · rfl
  · rename_i hretired
    simpa [hs] using hretired

/-! ## What is never undone -/

/-- A session that is there stays, with the same wiring, and its life goes on. -/
def Follows (st st' : Standing) : Prop :=
  ∀ s, st.session = some s →
    ∃ s', st'.session = some s' ∧ s'.toWiring = s.toWiring ∧ s.toLife.Onward s'.toLife

theorem follows_of_session {st st' : Standing} (h : st'.session = st.session) : st.Follows st' :=
  fun s hs => ⟨s, h.trans hs, rfl, .refl _⟩

theorem follows_live {f : Life → Life}
    (hf : ∀ s, st.session = some s → s.toLife.Onward (f s.toLife)) : st.Follows (st.live f) :=
  fun s hs => ⟨s.live f, live_session hs f, rfl, hf s hs⟩

theorem follows_cleanUp (st : Standing) : st.Follows st.cleanUp := by
  unfold Standing.cleanUp
  split
  · exact follows_live fun s _ => s.toLife.onward_retire
  · exact follows_of_session rfl

theorem Follows.trans {st st' st'' : Standing} (h : st.Follows st') (h' : st'.Follows st'') :
    st.Follows st'' := by
  intro s hs
  obtain ⟨s', hs', hwiring, hon⟩ := h s hs
  obtain ⟨s'', hs'', hwiring', hon'⟩ := h' s' hs'
  exact ⟨s'', hs'', hwiring'.trans hwiring, hon.trans hon'⟩

end Standing

namespace Switchboard

open Standing

variable {sb : Switchboard} {id : SessionId} {c : ControllerId} {m : Move} {s : Session}
  {st : Standing}

theorem session_standing (hs : sb.session? id = some s) : (sb.standing id).session = some s := hs

theorem errands_of_waiting {task : Task} {rest : List Task} (h : sb.waiting c = task :: rest)
    (hid : task.session? = some id) :
    sb.errands id c = task :: rest.filter fun task => task.session? = some id := by
  simp [errands, h, hid]

/-- Where a task about a session waits first, its runner is past the point that the task tells
of. -/
theorem exists_runner_of_waiting (h : (sb.standing id).Sound id) {task : Task} {rest : List Task}
    (hwaiting : sb.waiting c = task :: rest) (hid : task.session? = some id) :
    ∃ s r, sb.session? id = some s ∧ s.runner = some r ∧ r.controller = c ∧ r.phase ≠ .waiting ∧
      (task = .activate id ∨ r.phase = .ended ∧ ∃ outcome, task = .retire id outcome) := by
  refine h.errand c task ?_
  simp [standing, errands_of_waiting hwaiting hid]

theorem Birth.sound {key : SessionKey} {l : Life} {registered : Bool}
    (h : sb.Birth key m l registered) : l.Sound := by
  cases h with
  | idle | rival | refused =>
    exact ⟨by simp [Life.isLive, SessionState.isLive], by simp, by simp, by simp⟩
  | started hfree hcontroller hphase =>
    exact ⟨by simp [Life.isLive, SessionState.isLive, hphase], by simp, by simp, by simp⟩

theorem Ends.phase_ne_ended {r : Runner} {outcome : Outcome} (h : sb.Ends s r outcome) :
    r.phase ≠ .ended := by
  cases h with
  | relaying hphase | aborting hphase => simp [hphase]

/-- What is sound about a session stays so in every turn. -/
theorem sound_turn (h : (sb.standing id).Sound id) (hturn : sb.Turn id m st) : st.Sound id := by
  cases hturn with
  | rest => exact h
  | created hnone hbirth =>
    have hnil := (h.unborn hnone).2
    refine ⟨?_, by simp, h.silent, fun c task htask => ?_⟩
    · rintro s hs
      cases hs
      exact hbirth.sound
    · exact absurd htask (hnil c ▸ List.not_mem_nil)
  | displaced | deleted | deletedSession => exact h.register (by simp)
  | added hs hfree => exact h.register fun _ hnone => by simp [standing, hs] at hnone
  | shut => exact h.shut _
  | closed | closedAll => exact h.goes fun s hs => Life.goes_requestClose (h.life s hs)
  | stopped =>
    rw [quit_eq]
    exact (h.register (by simp)).goes fun s hs => Life.goes_quit (h.life s hs)
  | launched hs hrunner hphase =>
    exact h.goes (forall_session hs (Life.goes_launch (h.life _ hs) hrunner hphase))
  | activated hwaiting hs hstate =>
    exact ((h.pop _).goes (forall_session hs (Life.goes_activate (h.life _ hs) hstate))).tell _
  | outlived | missed => exact h.pop _
  | retired hwaiting hs =>
    refine ((h.pop _).cleanUp fun s' hs' => ?_).tell _
    obtain ⟨s, r, hs'', hrunner, -, -, hactivate | ⟨hphase, -⟩⟩ :=
      exists_runner_of_waiting h hwaiting rfl
    · cases hactivate
    · cases hs'.symm.trans hs''
      exact ⟨r, hrunner, hphase⟩
  | @ready s r hs hrunner hphase hready hhears =>
    have hentered := h.goes (f := fun l => l.enter .forwarding) (forall_session hs
      (Life.goes_enter (h.life s hs) hrunner hphase (by simp) (by simp)))
    exact hentered.queue (r := { r with phase := .forwarding }) (live_session hs _)
      (by simp [Session.live, Life.enter, hrunner]) hhears (by simp) (.inl rfl)
  | readyAlone hs hrunner hphase hready hdeaf =>
    rw [live_live]
    exact h.goes (forall_session hs (Life.goes_readyAlone (h.life _ hs) hrunner hphase))
  | aborted hs hrunner hphase hfails =>
    rw [live_live, live_live]
    exact h.goes (forall_session hs (Life.goes_abort (h.life _ hs) hrunner hphase _ _ _))
  | @ended s r outcome hs hrunner hends hhears =>
    have hphase := hends.phase_ne_ended
    have hdone := h.live (f := fun l => (l.enter .ended).terminate) (forall_session hs
      ⟨(h.life s hs).end hrunner hphase, Life.onward_end (h.life s hs) hrunner hphase⟩)
    exact hdone.queue (r := { r with phase := .ended }) (live_session hs _)
      (by simp [Session.live, Life.enter, Life.terminate, hrunner]) hhears (by simp)
      (.inr ⟨rfl, outcome, rfl⟩)
  | @endedAlone s r outcome hs hrunner hends hdeaf =>
    have hphase := hends.phase_ne_ended
    have hdone := h.live (f := fun l => (l.enter .ended).terminate) (forall_session hs
      ⟨(h.life s hs).end hrunner hphase, Life.onward_end (h.life s hs) hrunner hphase⟩)
    refine hdone.cleanUp (forall_session (live_session hs _) ⟨{ r with phase := .ended }, ?_, rfl⟩)
    simp [Session.live, Life.enter, Life.terminate, hrunner]

theorem Birth.phase {key : SessionKey} {l : Life} {registered : Bool} {r : Runner}
    (h : sb.Birth key m l registered) (hrunner : l.runner = some r) : r.phase = .waiting := by
  cases h with
  | idle | rival | refused => simp at hrunner
  | started hfree hcontroller hphase =>
    cases hrunner
    exact hphase

/-- What an interface has to settle stays settled, or its to settle, in every turn. -/
theorem settles_turn (h : (sb.standing id).Sound id) (hset : (sb.standing id).Settles id)
    (hturn : sb.Turn id m st) : st.Settles id := by
  cases hturn with
  | rest => exact hset
  | created hnone hbirth =>
    intro s r hs hr hended
    cases hs
    simp [hbirth.phase hr] at hended
  | displaced | deleted | deletedSession | added => exact hset
  | shut => exact hset.shut _
  | closed | closedAll => exact hset.goes h fun s hs => Life.goes_requestClose (h.life s hs)
  | stopped =>
    rw [quit_eq]
    have hset' : ((sb.standing id).register false).Settles id := hset
    exact hset'.goes (h.register (by simp)) fun s hs => Life.goes_quit (h.life s hs)
  | launched hs hrunner hphase =>
    exact hset.goes h (forall_session hs (Life.goes_launch (h.life _ hs) hrunner hphase))
  | @activated c rest s hwaiting hs hstate =>
    have hhead : ∀ outcome, ((sb.standing id).errands c).head? ≠ some (.retire id outcome) := by
      simp [standing, errands_of_waiting hwaiting rfl]
    exact (hset.pop hhead).goes (h.pop c)
      (forall_session hs (Life.goes_activate (h.life _ hs) hstate))
  | @outlived c rest hwaiting hlate =>
    exact hset.pop (by simp [standing, errands_of_waiting hwaiting rfl])
  | missed hwaiting hnone =>
    intro s r hs
    simp [standing, Standing.pop, hnone] at hs
  | retired hwaiting hs => exact .of_retired fun s hs => retired_cleanUp hs
  | @ready s r hs hrunner hphase hready hhears =>
    exact (hset.goes h (forall_session hs
      (Life.goes_enter (h.life s hs) hrunner hphase (by simp) (by simp)))).queue _ _
  | readyAlone hs hrunner hphase hready hdeaf =>
    rw [live_live]
    exact hset.goes h (forall_session hs (Life.goes_readyAlone (h.life _ hs) hrunner hphase))
  | aborted hs hrunner hphase hfails =>
    rw [live_live, live_live]
    exact hset.goes h (forall_session hs (Life.goes_abort (h.life _ hs) hrunner hphase _ _ _))
  | @ended s r outcome hs hrunner hends hhears =>
    intro s' r' hs' hr' hended hhears'
    obtain ⟨s₀, hs₀, rfl⟩ := exists_of_live hs'
    cases hs.symm.trans hs₀
    refine .inr ⟨outcome, ?_⟩
    have hctl : r'.controller = r.controller := by
      simp only [Session.live, Life.enter, Life.terminate, hrunner, Option.map_some,
        Option.some.injEq] at hr'
      rw [← hr']
    simp [Standing.queue, hctl]
  | endedAlone hs hrunner hends hdeaf => exact .of_retired fun s hs => retired_cleanUp hs

/-- Every turn goes on from where a session stands. -/
theorem follows_turn (h : (sb.standing id).Sound id) (hturn : sb.Turn id m st) :
    (sb.standing id).Follows st := by
  cases hturn with
  | rest | displaced | added | deleted | deletedSession | shut | outlived | missed =>
    exact follows_of_session rfl
  | created hnone hbirth =>
    intro s hs
    cases hnone.symm.trans hs
  | closed | closedAll => exact follows_live fun s _ => s.toLife.onward_requestClose
  | stopped =>
    rw [quit_eq]
    exact follows_live fun s hs => (Life.goes_quit (h.life s hs)).onward
  | launched hs hrunner hphase =>
    exact follows_live (forall_session hs (Life.onward_launch hrunner _))
  | @activated c rest s hwaiting hs hstate =>
    exact follows_live (forall_session hs (Life.onward_activate hstate))
  | @retired c => exact follows_cleanUp ((sb.standing id).pop c)
  | @ready s r hs hrunner hphase =>
    exact follows_live (forall_session hs (Life.onward_enter hrunner (by simp [hphase]) (by simp)))
  | readyAlone hs hrunner hphase =>
    rw [live_live]
    exact follows_live (forall_session hs
      (Life.goes_readyAlone (h.life _ hs) hrunner hphase).onward)
  | aborted hs hrunner hphase =>
    rw [live_live, live_live]
    exact follows_live (forall_session hs
      (Life.goes_abort (h.life _ hs) hrunner hphase _ _ _).onward)
  | ended hs hrunner hends =>
    exact follows_live (forall_session hs
      (Life.onward_end (h.life _ hs) hrunner hends.phase_ne_ended))
  | endedAlone hs hrunner hends =>
    exact (follows_live (forall_session hs
      (Life.onward_end (h.life _ hs) hrunner hends.phase_ne_ended))).trans (follows_cleanUp _)

/-! ## Runs -/

/-- What holds of a switchboard at any time. -/
structure Sound (sb : Switchboard) : Prop where
  wellFormed : sb.registry.WellFormed
  session : ∀ id, (sb.standing id).Sound id
  settles : ∀ id, (sb.standing id).Settles id

theorem sound_initial (surroundings : Surroundings) (controllers : List (String × Nat)) :
    (initial surroundings controllers).Sound := by
  have hnone (id : SessionId) : (initial surroundings controllers).session? id = none := rfl
  have hnil (id : SessionId) (c : ControllerId) :
      (initial surroundings controllers).errands id c = [] := by
    simp only [errands, waiting, queue?, initial, List.getElem?_map]
    cases controllers[c]? <;> rfl
  refine ⟨.empty, fun id => ⟨?_, fun _ => ⟨rfl, hnil id⟩, fun c _ => hnil id c, ?_⟩, ?_⟩
  · intro s hs
    simp [standing, hnone] at hs
  · intro c task htask
    simp [standing, hnil] at htask
  · intro id s r hs
    simp [standing, hnone] at hs

theorem Sound.step (h : sb.Sound) (m : Move) : (sb.step m).Sound where
  wellFormed := wellFormed_step h.wellFormed m
  session id := sound_turn (h.session id) (turn_step h.wellFormed m id)
  settles id := settles_turn (h.session id) (h.settles id) (turn_step h.wellFormed m id)

theorem Sound.turn (h : sb.Sound) (m : Move) (id : SessionId) :
    sb.Turn id m ((sb.step m).standing id) :=
  turn_step h.wellFormed m id

theorem Sound.run (h : sb.Sound) (moves : List Move) : (sb.run moves).Sound := by
  induction moves generalizing sb with
  | nil => exact h
  | cons m moves ih => exact ih (h.step m)

/-- What every move keeps holds along a run, once it holds. -/
theorem Sound.run_induction {P : Switchboard → Prop} (h : sb.Sound) (hstart : P sb)
    (hstep : ∀ sb : Switchboard, sb.Sound → P sb → ∀ m, P (sb.step m)) (moves : List Move) :
    P (sb.run moves) := by
  induction moves generalizing sb with
  | nil => exact hstart
  | cons m moves ih => exact ih (h.step m) (hstep sb h hstart m)

/-- Sessions stay, and their lives go on. -/
theorem Sound.follows_step (h : sb.Sound) (m : Move) (id : SessionId) :
    (sb.standing id).Follows ((sb.step m).standing id) :=
  follows_turn (h.session id) (h.turn m id)

theorem Sound.follows_run (h : sb.Sound) (moves : List Move) (id : SessionId) :
    (sb.standing id).Follows ((sb.run moves).standing id) := by
  induction moves generalizing sb with
  | nil => exact follows_of_session rfl
  | cons m moves ih => exact (h.follows_step m id).trans (ih (h.step m))

theorem run_append (sb : Switchboard) (moves moves' : List Move) :
    sb.run (moves ++ moves') = (sb.run moves).run moves' :=
  List.foldl_append

theorem run_concat (sb : Switchboard) (moves : List Move) (m : Move) :
    sb.run (moves ++ [m]) = (sb.run moves).step m :=
  run_append sb moves [m]

/-! ## A start to look at -/

/-- Some pod. -/
def webPod : ResourcePath := ⟨"ns", "web-0"⟩

/-- A tunnel to it. -/
def webSelection : Selection :=
  ⟨"app", [{ address := "127.0.0.1", localPort := 20900, containerPort := 8080 }]⟩

/-- The key of that tunnel. -/
def webKey : SessionKey := ⟨webPod, "app"⟩

/-- A start for a controller, up to where its runner has found readiness. -/
def webStart (c : ControllerId) (id : SessionId) : List Move :=
  [.start c webPod webSelection, .finishJob 0, .applyTask c, .stepRunner id]

end Switchboard

end PodTunnels
