import PodTunnels.Session

/-!
# The course of a life

A session is live until its runner has ended, and its retirement comes after that and for good: that
is what is sound about a life at any time (`Life.Sound`). Besides, some things are never undone
(`Life.Onward`). Each change of a life is shown here to keep the first and to respect the second,
under the condition on which it is made.
-/

namespace PodTunnels

/-- No state comes after the last one. -/
theorem SessionState.rank_le (state : SessionState) :
    state.rank ≤ SessionState.terminated.rank := by
  cases state <;> decide

namespace Life

variable {l l' l'' : Life} {r : Runner}

/-! ## Soundness -/

/-- What holds of the life of a session at any time. -/
structure Sound (l : Life) : Prop where
  ended : l.isLive = false ↔ ∃ r, l.runner = some r ∧ r.phase = .ended
  retired : l.retired = true ↔ l.state = .terminated
  terminated : l.state = .terminated → l.active = false
  starting : l.state = .starting → l.active = false

theorem Sound.deactivate (h : l.Sound) : l.deactivate.Sound :=
  ⟨h.ended, h.retired, fun _ => rfl, fun _ => rfl⟩

theorem Sound.requestClose (h : l.Sound) : l.requestClose.Sound :=
  ⟨h.ended, h.retired, h.terminated, h.starting⟩

theorem Sound.not_retired (h : l.Sound) (hlive : l.isLive = true) : l.retired = false := by
  cases hret : l.retired with
  | false => rfl
  | true =>
    have hstate := h.retired.1 hret
    simp [isLive, SessionState.isLive, hstate] at hlive

theorem Sound.live_of_phase (h : l.Sound) (hrunner : l.runner = some r)
    (hphase : r.phase ≠ .ended) : l.isLive = true := by
  cases hlive : l.isLive with
  | true => rfl
  | false =>
    obtain ⟨r', hr', hended⟩ := h.ended.1 hlive
    cases hrunner.symm.trans hr'
    exact absurd hended hphase

theorem Sound.live_of_idle (h : l.Sound) (hidle : l.runner = none) : l.isLive = true := by
  cases hlive : l.isLive with
  | true => rfl
  | false =>
    obtain ⟨r', hr', -⟩ := h.ended.1 hlive
    simp [hidle] at hr'

theorem Sound.launch (h : l.Sound) (hidle : l.runner = none) (hphase : r.phase = .waiting) :
    (l.launch r).Sound := by
  have hlive := h.live_of_idle hidle
  refine ⟨?_, h.retired, h.terminated, h.starting⟩
  simp only [Life.launch, isLive] at hlive ⊢
  simp [hlive, hphase]

theorem Sound.activate (h : l.Sound) (hstate : l.state = .starting) : l.activate.Sound := by
  have hlive : l.isLive = true := by simp [isLive, hstate, SessionState.isLive]
  have hret := h.not_retired hlive
  have hended := h.ended
  refine ⟨?_, ?_, ?_, ?_⟩
  · rw [hlive] at hended
    simpa [Life.activate, isLive, SessionState.isLive] using hended
  · simp [Life.activate, hret]
  · simp [Life.activate]
  · simp [Life.activate]

theorem Sound.enter (h : l.Sound) (hrunner : l.runner = some r) (hphase : r.phase ≠ .ended)
    {phase : Phase} (hnext : phase ≠ .ended) : (l.enter phase).Sound := by
  have hlive := h.live_of_phase hrunner hphase
  refine ⟨?_, h.retired, h.terminated, h.starting⟩
  simp only [Life.enter, isLive] at hlive ⊢
  simp [hlive, hrunner, hnext]

theorem Sound.setAlarm (h : l.Sound) (alarm : Nat) : (l.setAlarm alarm).Sound := by
  refine ⟨?_, h.retired, h.terminated, h.starting⟩
  have hended := h.ended
  cases hrunner : l.runner <;> simpa [Life.setAlarm, isLive, hrunner] using hended

theorem Sound.end (h : l.Sound) (hrunner : l.runner = some r) (hphase : r.phase ≠ .ended) :
    (l.enter .ended).terminate.Sound := by
  have hret := h.not_retired (h.live_of_phase hrunner hphase)
  refine ⟨?_, ?_, ?_, ?_⟩
  · simp [Life.enter, terminate, isLive, SessionState.isLive, hrunner]
  · simp [Life.enter, terminate, hret]
  · simp [Life.enter, terminate]
  · simp [Life.enter, terminate]

theorem Sound.retire (h : l.Sound) (hrunner : l.runner = some r) (hphase : r.phase = .ended) :
    l.retire.Sound := by
  unfold Life.retire
  split
  · exact h
  · refine ⟨?_, by simp, fun _ => rfl, fun hstate => by simp at hstate⟩
    simp [isLive, SessionState.isLive, hrunner, hphase]

/-! ## What is never undone -/

/-- What of a life is never undone: how far its state has come, the runner and its controller, the
end of its waiting, its end, the request to close, and the retirement. -/
structure Onward (l l' : Life) : Prop where
  rank : l.state.rank ≤ l'.state.rank
  runner : ∀ r, l.runner = some r → ∃ r', l'.runner = some r' ∧ r'.controller = r.controller ∧
    (r.phase = .ended → r'.phase = .ended) ∧ (r.phase ≠ .waiting → r'.phase ≠ .waiting)
  closeRequested : l.closeRequested = true → l'.closeRequested = true
  retired : l.retired = true → l'.retired = true

theorem Onward.of_eq (hrank : l.state.rank ≤ l'.state.rank) (hrunner : l'.runner = l.runner)
    (hclose : l.closeRequested = true → l'.closeRequested = true)
    (hretired : l'.retired = l.retired) : l.Onward l' :=
  ⟨hrank, fun r hr => ⟨r, hrunner.trans hr, rfl, id, id⟩, hclose, fun h => hretired.trans h⟩

theorem Onward.refl (l : Life) : l.Onward l :=
  .of_eq (Nat.le_refl _) rfl id rfl

theorem Onward.trans (h : l.Onward l') (h' : l'.Onward l'') : l.Onward l'' := by
  refine ⟨Nat.le_trans h.rank h'.rank, fun r hr => ?_,
    fun hc => h'.closeRequested (h.closeRequested hc), fun hr => h'.retired (h.retired hr)⟩
  obtain ⟨r', hr', hctl, hended, hwaiting⟩ := h.runner r hr
  obtain ⟨r'', hr'', hctl', hended', hwaiting'⟩ := h'.runner r' hr'
  exact ⟨r'', hr'', hctl'.trans hctl, fun he => hended' (hended he),
    fun hw => hwaiting' (hwaiting hw)⟩

theorem onward_deactivate (l : Life) : l.Onward l.deactivate :=
  .of_eq (Nat.le_refl _) rfl id rfl

theorem onward_requestClose (l : Life) : l.Onward l.requestClose :=
  .of_eq (Nat.le_refl _) rfl (fun _ => rfl) rfl

theorem onward_activate (hstate : l.state = .starting) : l.Onward l.activate :=
  .of_eq (by simp [hstate, SessionState.rank]) rfl id rfl

theorem onward_retire (l : Life) : l.Onward l.retire := by
  unfold Life.retire
  split
  · exact .refl l
  · exact ⟨l.state.rank_le, fun r hr => ⟨r, hr, rfl, id, id⟩, id, fun _ => rfl⟩

theorem onward_launch (hidle : l.runner = none) (r : Runner) : l.Onward (l.launch r) :=
  ⟨Nat.le_refl _, fun r' hr' => by simp [hidle] at hr', id, id⟩

theorem onward_enter (hrunner : l.runner = some r) (hphase : r.phase ≠ .ended) {phase : Phase}
    (hnext : phase ≠ .waiting) : l.Onward (l.enter phase) := by
  refine ⟨Nat.le_refl _, fun r' hr' => ?_, id, id⟩
  cases hrunner.symm.trans hr'
  exact ⟨{ r with phase }, by simp [Life.enter, hrunner], rfl, fun h => absurd h hphase,
    fun _ => hnext⟩

theorem onward_end (h : l.Sound) (hrunner : l.runner = some r) (hphase : r.phase ≠ .ended) :
    l.Onward (l.enter .ended).terminate := by
  have hrank : l.state.rank ≤ SessionState.terminating.rank := by
    have hlive := h.live_of_phase hrunner hphase
    cases hstate : l.state <;> simp_all [isLive, SessionState.isLive, SessionState.rank]
  exact (onward_enter hrunner hphase (by simp)).trans (.of_eq hrank rfl id rfl)

theorem onward_setAlarm (l : Life) (alarm : Nat) : l.Onward (l.setAlarm alarm) :=
  ⟨Nat.le_refl _, fun r hr => ⟨{ r with alarm }, by simp [Life.setAlarm, hr], rfl, id, id⟩, id, id⟩

/-! ## Changes that do not end a life -/

/-- A life goes on without coming to its end. -/
structure Goes (l l' : Life) : Prop where
  sound : l'.Sound
  onward : l.Onward l'
  isLive : l'.isLive = l.isLive

theorem Goes.trans (h : l.Goes l') (h' : l'.Goes l'') : l.Goes l'' :=
  ⟨h'.sound, h.onward.trans h'.onward, h'.isLive.trans h.isLive⟩

theorem goes_requestClose (h : l.Sound) : l.Goes l.requestClose :=
  ⟨h.requestClose, onward_requestClose l, rfl⟩

/-- A stop does not end a life; the runner will. -/
theorem goes_quit (h : l.Sound) : l.Goes l.deactivate.requestClose :=
  ⟨h.deactivate.requestClose, (onward_deactivate l).trans (onward_requestClose _), rfl⟩

theorem goes_launch (h : l.Sound) (hidle : l.runner = none) (hphase : r.phase = .waiting) :
    l.Goes (l.launch r) :=
  ⟨h.launch hidle hphase, onward_launch hidle r, rfl⟩

theorem goes_activate (h : l.Sound) (hstate : l.state = .starting) : l.Goes l.activate :=
  ⟨h.activate hstate, onward_activate hstate, by
    simp [isLive, activate, hstate, SessionState.isLive]⟩

theorem goes_enter (h : l.Sound) (hrunner : l.runner = some r) (hphase : r.phase = .waiting)
    {phase : Phase} (hnext : phase ≠ .waiting) (hnot : phase ≠ .ended) : l.Goes (l.enter phase) :=
  have hopen : r.phase ≠ .ended := by simp [hphase]
  ⟨h.enter hrunner hopen hnot, onward_enter hrunner hopen hnext, rfl⟩

theorem goes_readyAlone (h : l.Sound) (hrunner : l.runner = some r) (hphase : r.phase = .waiting) :
    l.Goes (if (l.enter .forwarding).state = .starting then (l.enter .forwarding).activate
      else l.enter .forwarding) := by
  have hentered : l.Goes (l.enter .forwarding) :=
    goes_enter h hrunner hphase (by simp) (by simp)
  split
  · rename_i hstate
    exact hentered.trans (goes_activate hentered.sound hstate)
  · exact hentered

theorem goes_abort (h : l.Sound) (hrunner : l.runner = some r) (hphase : r.phase = .waiting)
    (outcome : Outcome) (since alarm : Nat) :
    l.Goes ((l.requestClose.enter (.aborting outcome since)).setAlarm alarm) := by
  have hentered : l.requestClose.Goes (l.requestClose.enter (.aborting outcome since)) :=
    goes_enter h.requestClose hrunner hphase (by simp) (by simp)
  exact (goes_requestClose h).trans
    (hentered.trans ⟨hentered.sound.setAlarm alarm, onward_setAlarm _ alarm, rfl⟩)

end Life

end PodTunnels
