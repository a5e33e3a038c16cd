import PodTunnels.Proofs.Ledger

/-!
# Completeness of cleanup

Whatever ends the runner of a session, its interface is handed the retirement, and once that was
applied the session is terminated, inactive and not registered, for good: a retirement is not
undone, nor does it run twice, and the transport is closed once at most. Only by hand could a
retired session be registered again.
-/

namespace PodTunnels

namespace Standing

variable {st : Standing}

def isStale (st : Standing) : Bool :=
  st.registered && st.session.any fun s => s.retired

theorem registered_of_isStale (h : st.isStale = true) : st.registered = true :=
  (Bool.and_eq_true_iff.1 h).1

theorem isStale_of_live {f : Life → Life} (h : (st.live f).isStale = true)
    (hf : ∀ l, (f l).retired = l.retired) : st.isStale = true := by
  cases hs : st.session with
  | none => simp [isStale, Standing.live, hs] at h
  | some s => simpa [isStale, Standing.live, hs, hf] using h

/-- The cleanup removes the session whenever it retires it. -/
theorem isStale_of_cleanUp (h : st.cleanUp.isStale = true) : st.isStale = true := by
  unfold Standing.cleanUp at h
  split at h
  · cases registered_of_isStale h
  · exact h

end Standing

namespace Switchboard

open Standing

variable {sb : Switchboard} {id : SessionId} {c : ControllerId} {m : Move} {st : Standing}

def isRetired (sb : Switchboard) (id : SessionId) : Bool :=
  (sb.session? id).any fun s => s.retired

/-- Only by hand is a retired session registered. -/
theorem stale_turn (hturn : sb.Turn id m st) (hstale : st.isStale = true) :
    (sb.standing id).isStale = true ∨ m = .add id ∧ sb.isRetired id = true := by
  cases hturn with
  | rest | shut | outlived | missed => exact .inl hstale
  | created hnone hbirth => cases hbirth <;> simp [isStale] at hstale
  | displaced | deleted | deletedSession | stopped => cases registered_of_isStale hstale
  | added hs hfree => exact .inr ⟨rfl, (Bool.and_eq_true_iff.1 hstale).2⟩
  | closed | closedAll | launched | activated | ready | ended =>
    exact .inl (isStale_of_live hstale fun _ => rfl)
  | @retired c =>
    have hpopped : ((sb.standing id).pop c).isStale = true := isStale_of_cleanUp hstale
    exact .inl hpopped
  | readyAlone =>
    rw [live_live] at hstale
    refine .inl (isStale_of_live hstale fun l => ?_)
    split <;> rfl
  | aborted =>
    rw [live_live, live_live] at hstale
    exact .inl (isStale_of_live hstale fun _ => rfl)
  | endedAlone => exact .inl (isStale_of_live (isStale_of_cleanUp hstale) fun _ => rfl)

/-! ## Along a run -/

/-- Somewhere along a run a session is registered by hand after its retirement. -/
def ReaddedByHand (sb : Switchboard) (id : SessionId) (moves : List Move) : Prop :=
  ∃ before after, moves = before ++ .add id :: after ∧ (sb.run before).isRetired id = true

/-- How often the cleanup of a session runs along a run. -/
def retirements (sb : Switchboard) (id : SessionId) : List Move → Nat
  | [] => 0
  | m :: moves =>
    (if sb.isRetired id = false ∧ (sb.step m).isRetired id = true then 1 else 0) +
      (sb.step m).retirements id moves

theorem isRetired_step (h : sb.Sound) (m : Move) (hretired : sb.isRetired id = true) :
    (sb.step m).isRetired id = true := by
  obtain ⟨s, hs, hs_retired⟩ := (Option.any_eq_true _ _).1 hretired
  obtain ⟨s', hs', -, hon⟩ := h.follows_step m id s hs
  exact (Option.any_eq_true _ _).2 ⟨s', hs', hon.retired hs_retired⟩

/-- The cleanup runs once at most, and it has run exactly if the session is retired. -/
theorem retirements_eq (h : sb.Sound) (id : SessionId) (moves : List Move) :
    sb.retirements id moves + (if sb.isRetired id = true then 1 else 0) =
      if (sb.run moves).isRetired id = true then 1 else 0 := by
  induction moves generalizing sb with
  | nil => exact Nat.zero_add _
  | cons m moves ih =>
    have hrest := ih (h.step m)
    rw [run, List.foldl_cons, ← run, ← hrest, retirements]
    cases hbefore : sb.isRetired id with
    | true => simp [isRetired_step h m hbefore]
    | false => cases (sb.step m).isRetired id <;> simp [Nat.add_comm]

theorem not_stale_run (surroundings : Surroundings) (controllers : List (String × Nat))
    (moves : List Move) (hhand : ¬ (initial surroundings controllers).ReaddedByHand id moves) :
    (((initial surroundings controllers).run moves).standing id).isStale = false := by
  induction moves using List.reverseRecOn with
  | nil => rfl
  | append_singleton moves m ih =>
    rw [← Bool.not_eq_true, run_concat]
    intro hstale
    have hsound := (sound_initial surroundings controllers).run moves
    rcases stale_turn (hsound.turn m id) hstale with hbefore | ⟨rfl, hretired⟩
    · refine Bool.noConfusion ((ih ?_).symm.trans hbefore)
      rintro ⟨before, after, rfl, hretired⟩
      exact hhand ⟨before, after ++ [m], by simp, hretired⟩
    · exact hhand ⟨moves, [], rfl, hretired⟩

/-- A retired session is over. -/
theorem Sound.over_of_retired (h : sb.Sound) {s : Session} (hs : sb.session? id = some s)
    (hretired : s.retired = true) : s.state = .terminated ∧ s.active = false := by
  have hlife := (h.session id).life s hs
  have hstate := hlife.retired.1 hretired
  exact ⟨hstate, hlife.terminated hstate⟩

/-- A retired session has no entry, unless it got one by hand. -/
theorem unregistered_of_retired {surroundings : Surroundings} {controllers : List (String × Nat)}
    {moves : List Move} {s : Session}
    (hs : ((initial surroundings controllers).run moves).session? id = some s)
    (hretired : s.retired = true)
    (hhand : ¬ (initial surroundings controllers).ReaddedByHand id moves) :
    ((initial surroundings controllers).run moves).registry.entries.get? s.key ≠ some id := by
  intro hentry
  have hreg := (Registry.isRegistered_of_session? hs).2 hentry
  have hstale := not_stale_run surroundings controllers moves hhand
  simp [isStale, standing, hreg, hs, hretired] at hstale

/-- Once the runner of a session has ended and nothing waits for its interface, the session is
retired. -/
theorem Sound.retired_of_drained (h : sb.Sound) {s : Session} {r : Runner}
    (hs : sb.session? id = some s) (hrunner : s.runner = some r) (hended : r.phase = .ended)
    (hopen : sb.hears r.controller = true) (hdrained : sb.waiting r.controller = []) :
    s.retired = true := by
  refine (h.settles id s r hs hrunner hended hopen).resolve_right ?_
  rintro ⟨outcome, hmem⟩
  simp [standing, errands, hdrained] at hmem

theorem retirements_eq_one {surroundings : Surroundings} {controllers : List (String × Nat)}
    {moves : List Move}
    (hretired : ((initial surroundings controllers).run moves).isRetired id = true) :
    (initial surroundings controllers).retirements id moves = 1 := by
  have hcount := retirements_eq (sound_initial surroundings controllers) id moves
  rw [if_pos hretired] at hcount
  exact hcount

/-- Completeness of cleanup. Once the runner of a session has ended and the queue of its living
interface is drained, the session is terminated and inactive, its cleanup has run exactly once, and
it is not registered. All of that is so for ever after, and its transport was closed once at most.
The one thing that could register it again is an addition by hand. -/
theorem cleanup_complete (surroundings : Surroundings) (controllers : List (String × Nat))
    (moves later : List Move) (id : SessionId) (s : Session) (r : Runner)
    (hs : ((initial surroundings controllers).run moves).session? id = some s)
    (hrunner : s.runner = some r) (hended : r.phase = .ended)
    (hopen : ((initial surroundings controllers).run moves).hears r.controller = true)
    (hdrained : ((initial surroundings controllers).run moves).waiting r.controller = []) :
    (s.state = .terminated ∧ s.active = false ∧
      (initial surroundings controllers).retirements id moves = 1) ∧
    (∃ s', ((initial surroundings controllers).run (moves ++ later)).session? id = some s' ∧
      s'.toWiring = s.toWiring ∧ s'.state = .terminated ∧ s'.active = false) ∧
    (initial surroundings controllers).retirements id (moves ++ later) = 1 ∧
    ((initial surroundings controllers).run (moves ++ later)).closings.count s.transport ≤ 1 ∧
    (¬ (initial surroundings controllers).ReaddedByHand id (moves ++ later) →
      ((initial surroundings controllers).run moves).registry.entries.get? s.key ≠ some id ∧
      ((initial surroundings controllers).run (moves ++ later)).registry.entries.get? s.key ≠
        some id) := by
  have hsound := (sound_initial surroundings controllers).run moves
  have hsound' := (sound_initial surroundings controllers).run (moves ++ later)
  have hretired := hsound.retired_of_drained hs hrunner hended hopen hdrained
  obtain ⟨s', hs', hwiring, hon⟩ := hsound.follows_run later id s hs
  have hretired' := hon.retired hretired
  rw [← run_append] at hs'
  obtain ⟨hstate, hactive⟩ := hsound.over_of_retired hs hretired
  obtain ⟨hstate', hactive'⟩ := hsound'.over_of_retired hs' hretired'
  refine ⟨⟨hstate, hactive, ?_⟩, ⟨s', hs', hwiring, hstate', hactive'⟩, ?_, ?_, ?_⟩
  · exact retirements_eq_one ((Option.any_eq_true _ _).2 ⟨s, hs, hretired⟩)
  · exact retirements_eq_one ((Option.any_eq_true _ _).2 ⟨s', hs', hretired'⟩)
  · rw [(accounted_run surroundings controllers (moves ++ later)).nodup.count]
    split <;> simp
  · intro hhand
    refine ⟨unregistered_of_retired hs hretired fun hsome => hhand ?_, ?_⟩
    · obtain ⟨before, after, rfl, hbefore⟩ := hsome
      exact ⟨before, after ++ later, by simp, hbefore⟩
    · have hkey : s'.key = s.key := congrArg Wiring.key hwiring
      rw [← hkey]
      exact unregistered_of_retired hs' hretired' hhand

/-- A session is stopped while its activation waits, and its runner ends; the interface then finds
the activation and the retirement in its queue. -/
def lateStop : List Move :=
  webStart 0 0 ++ [.stop webKey, .stepRunner 0, .applyTask 0, .applyTask 0]

theorem cleanup_of_lateStop :
    ((initial { cluster := .empty } [("127.0.0.1", 30)]).run lateStop).hears 0 = true ∧
      ((initial { cluster := .empty } [("127.0.0.1", 30)]).run lateStop).waiting 0 = [] ∧
      (initial { cluster := .empty } [("127.0.0.1", 30)]).retirements 0
        (lateStop ++ [.stepRunner 0, .stop webKey, .stopAll]) = 1 :=
  ⟨by decide, rfl,
    (cleanup_complete { cluster := .empty } [("127.0.0.1", 30)] lateStop
      [.stepRunner 0, .stop webKey, .stopAll] 0 _ _ rfl rfl rfl (by decide) rfl).2.2.1⟩

end Switchboard

end PodTunnels
