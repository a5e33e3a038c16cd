import PodTunnels.Proofs.Affair
import PodTunnels.Proofs.Drive
import PodTunnels.Switchboard.Foreground

/-!
# A switchboard with one start

A forward in the foreground has a switchboard of its own, with one interface and one start on it. As
long as nobody but the start has a session made, that start is either under way, as a check of ports
or as what came of it (`UnderWay`), or settled. When the interface applies what came of the check,
either there is a session under the key or there is none on the roster at all
(`UnderWay.verdict`): no session is made that the interface would not find.

From then on the session is the interface's (`Holds`): its key and the controller of its runner stay,
and it is terminated by nothing but a task of that interface (`Holds.background`).
-/

namespace PodTunnels

namespace Switchboard

open Standing

variable {sb : Switchboard} {id : SessionId} {c : ControllerId} {m : Move} {key : SessionKey}
  {selection : Selection} {w : Wiring} {st : Standing}

/-! ## The session under a key -/

/-- The live session under a key shows in its standing. -/
theorem lookup_eq_some_iff_standing (wf : sb.registry.WellFormed) :
    sb.registry.lookup key = some id ↔
      ∃ s, (sb.standing id).session = some s ∧ s.key = key ∧ s.isLive = true ∧
        (sb.standing id).registered = true := by
  rw [Registry.lookup_eq_some_iff]
  constructor
  · rintro ⟨hentry, hlive⟩
    obtain ⟨s, hs, rfl⟩ := wf hentry
    rw [Registry.isLive_of_session? hs] at hlive
    exact ⟨s, hs, rfl, hlive, (Registry.isRegistered_of_session? hs).2 hentry⟩
  · rintro ⟨s, hs, rfl, hlive, hreg⟩
    exact ⟨(Registry.isRegistered_of_session? hs).1 hreg, (Registry.isLive_of_session? hs).trans hlive⟩

/-- Whether a session is registered for a start or comes too late, there is one under its key. -/
theorem exists_lookup_register (wf : sb.registry.WellFormed) {ctl : Controller}
    (hctl : sb.controllers[c]? = some ctl) :
    ∃ id, (sb.register c w).2.registry.lookup w.key = some id := by
  have wf' := wellFormed_register wf c w
  cases hlookup : sb.registry.lookup w.key with
  | some id =>
    obtain ⟨s, hs, hkey, hlive, hreg⟩ := (lookup_eq_some_iff_standing wf).1 hlookup
    have hid : id ≠ sb.registry.roster.length := by
      rintro rfl
      cases Registry.session?_length.symm.trans hs
    have hsame := standing_register_of_lookup_some wf c hlookup id
    rw [if_neg hid] at hsame
    exact ⟨id, (lookup_eq_some_iff_standing wf').2
      ⟨s, hsame ▸ hs, hkey, hlive, hsame ▸ hreg⟩⟩
  | none =>
    rw [register_of_lookup_none wf c hlookup] at wf' ⊢
    have hctl' : (sb.install w).controllers[c]? = some ctl := hctl
    have hnew := standing_launchRunner hctl' sb.registry.roster.length sb.registry.roster.length
    rw [if_pos rfl, standing_install wf, if_pos rfl] at hnew
    refine ⟨sb.registry.roster.length, (lookup_eq_some_iff_standing wf').2 ?_⟩
    rw [hnew]
    exact ⟨_, rfl, rfl, rfl, rfl⟩

/-- A start that opens its session on an empty roster leaves it empty and fails, or there is a
session under its key. -/
theorem openSession_settles (wf : sb.registry.WellFormed) (hempty : sb.registry.roster = [])
    {ctl : Controller} (hctl : sb.controllers[c]? = some ctl) (start : StartId) (key : SessionKey)
    (tunnels : List Tunnel) :
    (sb.openSession c start key tunnels).2.registry.roster = [] ∨
      ∃ id, (sb.openSession c start key tunnels).2.registry.lookup key = some id := by
  cases hfree : sb.registry.lookup key with
  | some id =>
    simp only [openSession, hfree]
    exact .inl hempty
  | none =>
    have hopening : (sb.atOpening key).registry.roster = [] ∨
        ∃ id, (sb.atOpening key).registry.lookup key = some id := by
      unfold atOpening
      split
      · exact .inr ⟨_, lookup_registerRival wf hfree⟩
      · exact .inl hempty
    simp only [openSession, hfree]
    rcases openTransport_cases sb key tunnels with ⟨e, he⟩ | hok
    · rw [he]
      exact .inl hempty
    · rw [hok]
      dsimp only
      split
      · exact hopening
      · rename_i hsome
        have hctl' := (Within.atOpening (k := start) sb key).controllers ▸ hctl
        exact .inr (exists_lookup_register (w := ⟨key, tunnels, hsome, _, some start⟩)
          (wellFormed_atOpening wf hfree) hctl')

/-! ## Before there is a session -/

open Foreground (isTerminated)

variable {k : StartId} {ctl : Controller}

/-- The one start of a switchboard is under way, and nobody had a session made: its ports are being
checked, or what came of that waits for the interface. -/
structure UnderWay (sb : Switchboard) (c : ControllerId) (k : StartId) (key : SessionKey)
    (selection : Selection) (ctl : Controller) : Prop where
  roster : sb.registry.roster = []
  controller : sb.controllers[c]? = some ctl
  stage : ctl.stage = .idle
  starts : ctl.starts = ({} : OrderedMap SessionKey StartId).insert key k
  isOpen : ctl.queue.isOpen = true
  work : (sb.jobs = [.checkPorts c k key selection] ∧ ctl.queue.waiting = []) ∨
    sb.jobs = [] ∧ ∃ result, ctl.queue.waiting = [.checked k key selection result]

namespace UnderWay

theorem finishJob (h : sb.UnderWay c k key selection ctl) (place : Nat) :
    ∃ ctl', (sb.finishJob place).UnderWay c k key selection ctl' := by
  cases hplace : sb.jobs[place]? with
  | none =>
    simp only [Switchboard.finishJob, hplace]
    exact ⟨ctl, h⟩
  | some job =>
    rcases h.work with ⟨hjobs, hwaiting⟩ | ⟨hjobs, -⟩
    · cases place with
      | succ place => simp [hjobs] at hplace
      | zero =>
        obtain ⟨result, hresult⟩ :
            ∃ result, checkTunnels sb.surroundings.held selection.tunnels = result := ⟨_, rfl⟩
        have hsent : (ctl.queue.send (.checked k key selection result)).2 =
            { ctl.queue with waiting := [.checked k key selection result] } := by
          simp [UiQueue.send, h.isOpen, hwaiting]
        simp only [Switchboard.finishJob, hjobs, runJob]
        refine ⟨ctl.post (.checked k key selection result), ?_⟩
        constructor
        · exact h.roster
        · simp [post, control, h.controller, hresult]
        · exact h.stage
        · exact h.starts
        · simp [Controller.post, hsent, h.isOpen]
        · exact .inr ⟨rfl, result, by simp [Controller.post, hsent]⟩
    · simp [hjobs] at hplace

/-- Whatever goes on in the background, the start stays under way. -/
theorem background (h : sb.UnderWay c k key selection ctl) (hm : m.isBackground = true) :
    ∃ ctl', (sb.step m).UnderWay c k key selection ctl' := by
  cases m with
  | finishJob place => exact h.finishJob place
  | stepRunner id =>
    have hnone : sb.session? id = none :=
      Registry.session?_eq_none_iff.2 (h.roster ▸ Nat.zero_le id)
    refine ⟨ctl, ?_⟩
    rwa [step, stepRunner, stepRunner?, hnone]
  | signalReady | signalFinish | elapse | hold | unhold | setCluster =>
    exact ⟨ctl, h.roster, h.controller, h.stage, h.starts, h.isOpen, h.work⟩
  | _ => cases hm

theorem pendingStarts (h : sb.UnderWay c k key selection ctl) : ctl.pendingStarts = 1 := by
  rw [Controller.pendingStarts, h.starts]
  rfl

/-- What came of the check is applied: either there is a session under the key, or there is none on
the roster, and no start is pending any more. -/
theorem verdict (h : sb.UnderWay c k key selection ctl) (wf : sb.registry.WellFormed)
    (htask : sb.hasTask c = true) :
    (∃ id, (sb.step (.applyTask c)).registry.lookup key = some id) ∨
      (sb.step (.applyTask c)).registry.roster = [] ∧
        ∃ ctl', (sb.step (.applyTask c)).controllers[c]? = some ctl' ∧
          ctl'.stage = .idle ∧ ctl'.pendingStarts = 0 := by
  rcases h.work with ⟨-, hnone⟩ | ⟨-, result, hverdict⟩
  · simp [hasTask, h.controller, hnone] at htask
  have hwaiting : sb.waiting c = [.checked k key selection result] := by
    simp [waiting, queue?, h.controller, hverdict]
  have hctl : (sb.popTask c).controllers[c]? =
      some { ctl with queue := { ctl.queue with waiting := [] } } := by
    simp [popTask, control, h.controller, hverdict]
  obtain ⟨sb', hstep, hwithin, hregistry⟩ : ∃ sb', sb.step (.applyTask c) =
      (sb'.control c fun ctl => ctl.release key).reportStart c k
        (sb.outcome c k key selection result) ∧ Within k (sb.popTask c) sb' ∧
      (sb'.registry.roster = [] ∨ ∃ id, sb'.registry.lookup key = some id) := by
    cases result with
    | error e => exact ⟨_, step_of_checked_error hwaiting, .refl _, .inl h.roster⟩
    | ok _ =>
      have hsettles := @openSession_settles (sb.popTask c) c wf h.roster _ hctl k key
        selection.tunnels
      exact ⟨_, step_of_checked_ok hwaiting, .openSession .., hsettles⟩
  have hkept : (sb.step (.applyTask c)).registry = sb'.registry ∧
      (sb.step (.applyTask c)).controllers =
        (sb'.control c fun ctl => ctl.release key).controllers := by
    rw [hstep]
    cases sb.outcome c k key selection result <;> exact ⟨rfl, rfl⟩
  rw [hkept.1, hkept.2]
  refine hregistry.symm.imp_right fun hroster => ⟨hroster, ?_⟩
  refine ⟨{ ctl with queue := { ctl.queue with waiting := [] } }.release key, ?_, h.stage, ?_⟩
  · simp [control, hwithin.controllers, hctl]
  · have hreleased : ((({} : OrderedMap SessionKey StartId).insert key k).erase key).size = 0 := by
      have hentries : (({} : OrderedMap SessionKey StartId).insert key k).entries = [(key, k)] := rfl
      simp [OrderedMap.size, OrderedMap.erase, hentries]
    rw [Controller.pendingStarts, Controller.release, h.starts, hreleased]

end UnderWay

/-! ## The session of the start -/

/-- A session belongs to a key, and its runner, if it has one, to the one interface. -/
def Holds (sb : Switchboard) (c : ControllerId) (key : SessionKey) (id : SessionId) : Prop :=
  ∃ s, sb.session? id = some s ∧ s.key = key ∧ ∀ r, s.runner = some r → r.controller = c

theorem isTerminated_eq {s : Session} (hs : sb.session? id = some s) :
    isTerminated sb id = decide (s.state = .terminated) := by
  simp [isTerminated, hs]

/-- A session that is there once the first task was applied came of that task. -/
theorem holds_of_lookup (hsound : sb.Sound) (hempty : sb.registry.roster = [])
    (hlookup : (sb.step (.applyTask c)).registry.lookup key = some id) :
    (sb.step (.applyTask c)).Holds c key id ∧
      isTerminated (sb.step (.applyTask c)) id = false := by
  have hnone : sb.session? id = none :=
    Registry.session?_eq_none_iff.2 (hempty ▸ Nat.zero_le id)
  obtain ⟨s, hs, hkey, hlive, -⟩ :=
    (lookup_eq_some_iff_standing (hsound.step _).wellFormed).1 hlookup
  have hcontroller : ∀ r, s.runner = some r → r.controller = c := by
    intro r hr
    have hturn := hsound.turn (.applyTask c) id
    generalize (sb.step (.applyTask c)).standing id = st at hs hturn
    cases hturn with
    | rest | outlived | missed => cases hnone.symm.trans hs
    | displaced hs' | activated _ hs' | retired _ hs' => cases hnone.symm.trans hs'
    | stopped hstops => cases hstops
    | created _ hbirth =>
      cases hs
      cases hbirth with
      | idle | rival | refused => cases hr
      | started _ hcontroller =>
        cases hr
        exact hcontroller
  refine ⟨⟨s, hs, hkey, hcontroller⟩, ?_⟩
  rw [isTerminated_eq hs, decide_eq_false_iff_not]
  intro hstate
  simp [Life.isLive, hstate, SessionState.isLive] at hlive

theorem Holds.step (h : sb.Holds c key id) (hsound : sb.Sound) (hm : ∀ c id, m ≠ .launch c id) :
    (sb.step m).Holds c key id := by
  obtain ⟨s, hs, hkey, hcontroller⟩ := h
  obtain ⟨s', hs', hwiring, -⟩ := hsound.follows_step m id s hs
  refine ⟨s', hs', (congrArg Wiring.key hwiring).trans hkey, ?_⟩
  intro r' hr'
  have hbefore := runner?_of_session (session_standing hs)
  have hafter := (runner?_of_session (session_standing hs')).trans hr'
  cases drives_turn (hsound.turn m id) with
  | rest hsame => exact hcontroller r' (hbefore.symm.trans (hsame.symm.trans hafter))
  | launched hidle hnext hphase hcause =>
    rcases hcause with hnone | ⟨c, rfl⟩
    · cases hnone.symm.trans hs
    · exact absurd rfl (hm c id)
  | @ready _ r hs₀ hrunner hphase hnext | @failed _ r _ hs₀ hrunner hphase hfails hnext
    | @ended _ r _ hs₀ hrunner hends hnext hdue =>
    cases hs.symm.trans hs₀
    cases hafter.symm.trans hnext
    exact hcontroller r hrunner

/-- No interface goes away but by its shutdown. -/
theorem hears_eq_of_turn (hturn : sb.Turn id m st) (hm : ∀ c, m ≠ .closeInterface c) :
    st.hears = sb.hears := by
  have hcleanUp (st₀ : Standing) : st₀.cleanUp.hears = st₀.hears := by
    unfold Standing.cleanUp
    split <;> rfl
  cases hturn with
  | @shut c => exact absurd rfl (hm c)
  | retired | endedAlone => exact hcleanUp _
  | _ => rfl

/-- Nothing that goes on in the background terminates the session of an interface. -/
theorem Holds.background (h : sb.Holds c key id) (hsound : sb.Sound) (hhears : sb.hears c = true)
    (hm : m.isBackground = true) (hlasts : isTerminated sb id = false) :
    isTerminated (sb.step m) id = false := by
  obtain ⟨s, hs, -, hcontroller⟩ := h
  rw [isTerminated_eq hs, decide_eq_false_iff_not] at hlasts
  have hsession := session_standing hs
  obtain ⟨s', hs', hstate⟩ : ∃ s', ((sb.step m).standing id).session = some s' ∧
      s'.state ≠ .terminated := by
    have hturn := hsound.turn m id
    generalize (sb.step m).standing id = st at hturn
    cases hturn with
    | rest | displaced => exact ⟨s, hsession, hlasts⟩
    | created hnone => cases hnone.symm.trans hs
    | stopped hstops => cases hstops <;> cases hm
    | ready => exact ⟨_, live_session hsession _, hlasts⟩
    | @readyAlone s₀ r hs₀ hrunner _ _ hdeaf =>
      cases hs.symm.trans hs₀
      cases hhears.symm.trans (hcontroller r hrunner ▸ hdeaf)
    | aborted =>
      rw [live_live, live_live]
      exact ⟨_, live_session hsession _, hlasts⟩
    | ended => exact ⟨_, live_session hsession _, nofun⟩
    | @endedAlone s₀ r outcome hs₀ hrunner _ hdeaf =>
      cases hs.symm.trans hs₀
      cases hhears.symm.trans (hcontroller r hrunner ▸ hdeaf)
    | _ => cases hm
  rw [isTerminated_eq hs', decide_eq_false_iff_not]
  exact hstate

end Switchboard

end PodTunnels
