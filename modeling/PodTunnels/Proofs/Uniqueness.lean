import PodTunnels.Proofs.Sound

/-!
# Uniqueness of registration

A session is registered only under a key that no live session holds, so no move displaces a live
registered session. A start looks at its key three times: when it claims the key, when its ports
were checked, and when it registers the session for which it has opened a transport. Whenever it
finds the key taken it is rejected: it fails with the key, leaves all sessions and entries as it
found them, launches no runner, and closes the transport that it had opened.
-/

namespace PodTunnels

namespace Registry

variable {r : Registry} {id : SessionId} {s : Session} {key : SessionKey}

/-- A key is free when no session that is registered under it is live. -/
theorem WellFormed.lookup_eq_none_iff (h : r.WellFormed) :
    r.lookup key = none ↔
      ∀ id s, r.session? id = some s → s.key = key → r.isRegistered id = true →
        s.isLive = false := by
  rw [Registry.lookup_eq_none_iff]
  constructor
  · rintro hfree id s hs rfl hreg
    rw [← isLive_of_session? hs]
    exact hfree id ((isRegistered_of_session? hs).1 hreg)
  · intro hfree id hentry
    obtain ⟨s, hs, rfl⟩ := h hentry
    rw [isLive_of_session? hs]
    exact hfree id s hs rfl ((isRegistered_of_session? hs).2 hentry)

/-- Registering succeeds exactly if no live session is registered under the key. -/
theorem WellFormed.exists_add_iff (h : r.WellFormed) (hs : r.session? id = some s) :
    (∃ r', r.add id = .ok r') ↔
      ∀ id' s', r.session? id' = some s' → s'.key = s.key → r.isRegistered id' = true →
        s'.isLive = false := by
  rw [← h.lookup_eq_none_iff]
  constructor
  · rintro ⟨r', hadd⟩
    exact ((add_eq_ok_iff hs).1 hadd).1
  · intro hfree
    exact ⟨_, add_of_lookup_none hs hfree⟩

end Registry

namespace Switchboard

open Standing

variable {sb : Switchboard} {id : SessionId} {c : ControllerId} {m : Move} {s : Session}
  {st : Standing} {key : SessionKey}

/-- Whoever is registered after a turn was registered before it, or found its key free. -/
theorem registered_turn (hturn : sb.Turn id m st) (hreg : st.registered = true) :
    sb.registry.isRegistered id = true ∨
      ∃ s, st.session = some s ∧ sb.registry.lookup s.key = none := by
  cases hturn with
  | rest | shut | closed | closedAll | launched | activated | outlived | missed | ready
  | readyAlone | aborted | ended => exact .inl hreg
  | created hnone hbirth =>
    cases hbirth with
    | idle | refused => cases hreg
    | rival hfree | started hfree => exact .inr ⟨_, rfl, hfree⟩
  | displaced | deleted | deletedSession | stopped => cases hreg
  | added hs hfree => exact .inr ⟨_, hs, hfree⟩
  | retired | endedAlone => exact .inl (registered_of_cleanUp hreg)

/-- No move gives the key of a live registered session to another one. -/
theorem holder_step (h : sb.Sound) {id' : SessionId} (hheld : sb.registry.lookup key = some id)
    (hentry : (sb.step m).registry.entries.get? key = some id') : id' = id := by
  obtain ⟨s', hs', rfl⟩ := (h.step m).wellFormed hentry
  have hreg : ((sb.step m).standing id').registered = true :=
    (Registry.isRegistered_of_session? hs').2 hentry
  rcases registered_turn (h.turn m id') hreg with hbefore | ⟨s, hs, hfree⟩
  · cases hs : sb.session? id' with
    | none => simp [Registry.isRegistered_eq_false_of_none hs] at hbefore
    | some s =>
      obtain ⟨t, ht, hwiring, -⟩ := h.follows_step m id' s hs
      cases hs'.symm.trans ht
      have hkey : s'.key = s.key := congrArg Wiring.key hwiring
      have hbefore' := (Registry.isRegistered_of_session? hs).1 hbefore
      rw [← hkey, (Registry.lookup_eq_some_iff.1 hheld).1] at hbefore'
      exact (Option.some.inj hbefore').symm
  · cases hs'.symm.trans hs
    rw [hheld] at hfree
    cases hfree

/-! ## Starts that lose -/

/-- A start of a controller finds its key taken. It does so in a certain switchboard, and has
opened certain transports by then. -/
inductive Loses (sb : Switchboard) :
    Move → ControllerId → StartId → SessionKey → Switchboard → List TransportId → Prop
  /-- A start without a dialog cannot claim its key. -/
  | claim {c : ControllerId} {ctl : Controller} {pod : ResourcePath} {selection : Selection}
      (hctl : sb.controllers[c]? = some ctl)
      (htaken : sb.isTaken ctl ⟨pod, selection.container⟩ = true) :
      Loses sb (.start c pod selection) c sb.startCount ⟨pod, selection.container⟩ sb []
  /-- A start from a dialog cannot claim its key. -/
  | confirm {c : ControllerId} {ctl : Controller} {dialog : Nat} {d : SelectionDialog}
      {selection : Selection} (hctl : sb.controllers[c]? = some ctl)
      (hopen : ctl.openSelection? dialog = some d) (hcurrent : ctl.generation = d.generation)
      (htaken : sb.isTaken ctl ⟨d.pod, selection.container⟩ = true) :
      Loses sb (.confirmSelection c dialog selection) c sb.startCount ⟨d.pod, selection.container⟩
        sb []
  /-- A start whose ports were free finds a live session under its key. -/
  | recheck {c : ControllerId} {start : StartId} {key : SessionKey} {selection : Selection}
      {rest : List Task} {holder : SessionId}
      (hwaiting : sb.waiting c = .checked start key selection (.ok ()) :: rest)
      (hheld : sb.registry.lookup key = some holder) :
      Loses sb (.applyTask c) c start key sb []
  /-- A start that has opened its transport finds a live session under its key. -/
  | add {c : ControllerId} {start : StartId} {key : SessionKey} {selection : Selection}
      {rest : List Task} {t : TransportId} {found : Switchboard} {holder : SessionId}
      (hwaiting : sb.waiting c = .checked start key selection (.ok ()) :: rest)
      (hfree : sb.registry.lookup key = none)
      (hopened : (sb.popTask c).openTransport key selection.tunnels = (.ok t, found))
      (htunnels : selection.tunnels ≠ []) (hheld : found.registry.lookup key = some holder) :
      Loses sb (.applyTask c) c start key found [t]

/-- A start is rejected: beside one notice and the close of what it had opened, it leaves things as
it found them. -/
structure Rejected (found after : Switchboard) (c : ControllerId) (start : StartId)
    (key : SessionKey) (opened : List TransportId) : Prop where
  told : after.notices = found.notices ++ [⟨c, .start start, .error (.duplicateSession key)⟩]
  entries : after.registry.entries = found.registry.entries
  session : ∀ id s, found.session? id = some s → after.session? id = some s
  /-- Its own session, if it has come to that, gets no runner. -/
  idle : ∀ id s, found.session? id = none → after.session? id = some s → s.runner = none
  closings : after.closings = found.closings ++ opened
  transports : after.transports.length = found.transports.length

/-- Nothing but a notice is left of a start that finds its key taken before it opens a
transport. -/
theorem rejected_of_notify {found after : Switchboard} {start : StartId}
    (hregistry : after.registry = found.registry) (hclosings : after.closings = found.closings)
    (htransports : after.transports = found.transports)
    (hnotices : after.notices =
      found.notices ++ [⟨c, .start start, .error (.duplicateSession key)⟩]) :
    Rejected found after c start key [] where
  told := hnotices
  entries := congrArg Registry.entries hregistry
  session id s hs := (congrArg (·.session? id) hregistry).trans hs
  idle id s hnone hs := by
    rw [session?, hregistry] at hs
    cases hnone.symm.trans hs
  closings := by simp [hclosings]
  transports := congrArg List.length htransports

theorem start_of_taken {ctl : Controller} {pod : ResourcePath} {selection : Selection}
    (hctl : sb.controllers[c]? = some ctl)
    (htaken : sb.isTaken ctl ⟨pod, selection.container⟩ = true) :
    sb.start c pod selection =
      { sb with startCount := sb.startCount + 1 }.notify c (.start sb.startCount)
        (.error (.duplicateSession ⟨pod, selection.container⟩)) := by
  simp only [start, hctl, htaken, if_true]
  rfl

/-- A start that comes to open its session fails as that does. -/
theorem applyTask_of_checked {start : StartId} {selection : Selection} {rest : List Task}
    {e : Failure} {after : Switchboard}
    (hwaiting : sb.waiting c = .checked start key selection (.ok ()) :: rest)
    (hfailed : (sb.popTask c).openSession c start key selection.tunnels = (.error e, after)) :
    sb.applyTask c =
      (after.control c fun ctl => ctl.release key).notify c (.start start) (.error e) := by
  rw [applyTask_of_cons hwaiting]
  simp only [perform, checked, hfailed]
  rfl

/-- The transport of a session that came too late is closed, and the session is left alone. -/
theorem rejected_register (wf : sb.registry.WellFormed) {w : Wiring} {holder : SessionId}
    (hheld : sb.registry.lookup w.key = some holder) (start : StartId) :
    Rejected sb
      (((sb.register c w).2.control c fun ctl => ctl.release w.key).notify c (.start start)
        (.error (.duplicateSession w.key))) c start w.key [w.transport] := by
  have hfresh : (sb.enroll w).2.session? sb.registry.roster.length = some (.ofWiring w) := by
    simp [enroll, session?, Registry.session?_enroll]
  have hclosed := closeSession_of_not_requested hfresh rfl
  rw [register_of_lookup_some wf c hheld, hclosed]
  have hsession (id : SessionId) :
      (((sb.registry.enroll w).2.live sb.registry.roster.length Life.requestClose).session? id) =
        if id = sb.registry.roster.length then some ((Session.ofWiring w).live Life.requestClose)
        else sb.session? id := by
    rw [Registry.session?_live, Registry.session?_enroll]
    split <;> rfl
  refine ⟨rfl, rfl, fun id s hs => ?_, fun id s hnone hs => ?_, rfl, ?_⟩
  · refine (hsession id).trans ?_
    rw [if_neg, hs]
    rintro rfl
    cases Registry.session?_length.symm.trans hs
  · have hs' := (hsession id).symm.trans hs
    split at hs'
    · cases hs'
      rfl
    · cases hnone.symm.trans hs'
  · simp [notify, control, wire, enroll, live]

/-- Every start that finds its key taken is rejected. -/
theorem Loses.rejected (h : sb.Sound) {start : StartId} {found : Switchboard}
    {opened : List TransportId} (hloses : sb.Loses m c start key found opened) :
    Rejected found (sb.step m) c start key opened := by
  cases hloses with
  | claim hctl htaken =>
    rw [step, start_of_taken hctl htaken]
    exact rejected_of_notify rfl rfl rfl rfl
  | @confirm c ctl dialog d selection hctl hopen hcurrent htaken =>
    have hd : (sb.controllers[c]?.bind fun ctl => ctl.openSelection? dialog) = some d := by
      rw [hctl]
      exact hopen
    have hnow : (sb.control c fun ctl => ctl.answerSelection dialog).isCurrent c d.generation =
        true := by
      simp [isCurrent, control, hctl, Controller.answerSelection, hcurrent]
    let answered := { (ctl.answerSelection dialog) with stage := .idle }
    have hctl' : ((sb.control c fun ctl => ctl.answerSelection dialog).advance c d.generation
        .idle).controllers[c]? = some answered := by
      simp [advance, control, hctl, Controller.answerSelection, Controller.advance, hcurrent,
        answered]
    have htaken' : ((sb.control c fun ctl => ctl.answerSelection dialog).advance c d.generation
        .idle).isTaken answered ⟨d.pod, selection.container⟩ = true := htaken
    simp only [step, confirmSelection, hd, hnow, if_true]
    rw [start_of_taken hctl' htaken']
    exact rejected_of_notify rfl rfl rfl rfl
  | @recheck c start key selection rest holder hwaiting hheld =>
    have hfailed : (sb.popTask c).openSession c start key selection.tunnels =
        (.error (.duplicateSession key), sb.popTask c) := by
      simp only [openSession, show (sb.popTask c).registry = sb.registry from rfl, hheld]
    rw [step, applyTask_of_checked hwaiting hfailed]
    exact rejected_of_notify rfl rfl rfl rfl
  | @add c start key selection rest t found holder hwaiting hfree hopened htunnels hheld =>
    have wf : found.registry.WellFormed := by
      rcases openTransport_cases (sb.popTask c) key selection.tunnels with ⟨e, he⟩ | hok
      · cases hopened.symm.trans he
      · cases hopened.symm.trans hok
        exact wellFormed_atOpening h.wellFormed hfree
    let w : Wiring := ⟨key, selection.tunnels, htunnels, t, some start⟩
    have hfailed : (sb.popTask c).openSession c start key selection.tunnels =
        (.error (.duplicateSession key), (found.register c w).2) := by
      have hregister := register_of_lookup_some wf c (w := w) hheld
      simp only [openSession, show (sb.popTask c).registry = sb.registry from rfl, hfree, hopened,
        dif_neg htunnels]
      rw [hregister]
    rw [step, applyTask_of_checked hwaiting hfailed]
    exact rejected_register wf (w := w) hheld start

/-- Uniqueness of registration, at any time of any run: registering succeeds exactly under a key
that no live registered session has; no move gives the key of a live registered session to another
one; and every start that finds its key taken is rejected. -/
theorem registration_unique (surroundings : Surroundings) (controllers : List (String × Nat))
    (moves : List Move) :
    let sb := (initial surroundings controllers).run moves
    (∀ id s, sb.session? id = some s →
      ((∃ r, sb.registry.add id = .ok r) ↔
        ∀ id' s', sb.session? id' = some s' → s'.key = s.key →
          sb.registry.isRegistered id' = true → s'.isLive = false)) ∧
    (∀ m key id id', sb.registry.lookup key = some id →
      (sb.step m).registry.entries.get? key = some id' → id' = id) ∧
    ∀ m c start key found opened, sb.Loses m c start key found opened →
      Rejected found (sb.step m) c start key opened := by
  intro sb
  have hsound : sb.Sound := (sound_initial surroundings controllers).run moves
  refine ⟨fun id s hs => hsound.wellFormed.exists_add_iff hs, ?_, ?_⟩
  · intro m key id id' hheld hentry
    exact holder_step hsound hheld hentry
  · intro m c start key found opened hloses
    exact hloses.rejected hsound

/-- Surroundings in which somebody else takes the key while the first transport is being opened. -/
def contested : Surroundings :=
  { cluster := .empty, plans := [{ rival := true }] }

/-- The start that loses its key to a rival closes the transport it has opened, the second one. -/
theorem rejected_of_rival :
    let sb := (initial contested [("127.0.0.1", 30)]).run
      [.start 0 webPod webSelection, .finishJob 0]
    let found := ((sb.popTask 0).openTransport webKey webSelection.tunnels).2
    found.registry.lookup webKey = some 0 ∧
      Rejected found (sb.step (.applyTask 0)) 0 0 webKey [1] := by
  intro sb found
  have hheld : found.registry.lookup webKey = some 0 := by decide
  have hloses : sb.Loses (.applyTask 0) 0 0 webKey found [1] :=
    .add rfl rfl rfl (by decide) hheld
  exact ⟨hheld, (registration_unique contested [("127.0.0.1", 30)]
    [.start 0 webPod webSelection, .finishJob 0]).2.2 _ _ _ _ _ _ hloses⟩

end Switchboard

end PodTunnels
