import PodTunnels.Proofs.Sound

/-!
# What controllers and starts do not see

Lives of sessions go on, sessions are closed, stopped and cleaned up, and transports change, without
a controller or a start having a part in it. Such a change is apart: the controllers, the jobs and
the notices about starts are what they were, no session is made and no transport opened. Changes
apart compose, so each operation on sessions is shown to be one from its elementary changes.
-/

namespace PodTunnels

namespace Switchboard

/-- What the sessions connect, in the order of their making. -/
def wirings (sb : Switchboard) : List Wiring :=
  sb.registry.roster.map Session.toWiring

/-- Who asked for the transports, in the order of their opening. -/
def occasions (sb : Switchboard) : List Occasion :=
  sb.transports.map Transport.occasion

/-- The notices about a start, in order. -/
def toldStart (sb : Switchboard) (start : StartId) : List Notice :=
  sb.notices.filter fun notice => notice.about = .start start

/-- A change that controllers and starts do not see. -/
structure Apart (sb sb' : Switchboard) : Prop where
  controllers : sb'.controllers = sb.controllers
  jobs : sb'.jobs = sb.jobs
  startCount : sb'.startCount = sb.startCount
  refusesEmpty : sb'.surroundings.refusesEmpty = sb.surroundings.refusesEmpty
  plans : sb'.surroundings.plans = sb.surroundings.plans
  wirings : sb'.wirings = sb.wirings
  occasions : sb'.occasions = sb.occasions
  told : sb'.toldStart = sb.toldStart
  /-- A close that was asked for is not forgotten. -/
  closings : sb.closings <+: sb'.closings

namespace Apart

variable {sb sb₁ sb₂ sb₃ : Switchboard} {c : ControllerId} {id : SessionId} {key : SessionKey}

theorem refl (sb : Switchboard) : sb.Apart sb :=
  ⟨rfl, rfl, rfl, rfl, rfl, rfl, rfl, rfl, List.prefix_refl _⟩

theorem trans (h : sb₁.Apart sb₂) (h' : sb₂.Apart sb₃) : sb₁.Apart sb₃ :=
  ⟨h'.controllers.trans h.controllers, h'.jobs.trans h.jobs, h'.startCount.trans h.startCount,
    h'.refusesEmpty.trans h.refusesEmpty, h'.plans.trans h.plans, h'.wirings.trans h.wirings,
    h'.occasions.trans h.occasions, h'.told.trans h.told, h.closings.trans h'.closings⟩

theorem foldl {α : Type} {f : Switchboard → α → Switchboard} (hf : ∀ sb a, Apart sb (f sb a))
    (sb : Switchboard) (as : List α) : sb.Apart (as.foldl f sb) := by
  induction as generalizing sb with
  | nil => exact .refl sb
  | cons a as ih => exact (hf sb a).trans (ih (f sb a))

/-! ## Elementary changes -/

/-- Another registry with the same sessions. -/
theorem registry (sb : Switchboard) {registry : Registry}
    (hwirings : registry.roster.map Session.toWiring = sb.wirings) :
    sb.Apart { sb with registry } :=
  ⟨rfl, rfl, rfl, rfl, rfl, hwirings, rfl, rfl, List.prefix_refl _⟩

theorem live (sb : Switchboard) (id : SessionId) (f : Life → Life) : sb.Apart (sb.live id f) := by
  refine registry sb (List.ext_getElem? fun i => ?_)
  simp only [Registry.live, Switchboard.wirings, List.getElem?_map, List.getElem?_modify]
  split <;> cases sb.registry.roster[i]? <;> rfl

theorem deleteSession (sb : Switchboard) (id : SessionId) :
    sb.Apart { sb with registry := sb.registry.deleteSession id } :=
  registry sb (congrArg (List.map Session.toWiring) (Registry.roster_deleteSession _ id))

theorem wire (sb : Switchboard) (t : TransportId) {f : Transport → Transport}
    (hf : ∀ tr, (f tr).occasion = tr.occasion) : sb.Apart (sb.wire t f) := by
  refine ⟨rfl, rfl, rfl, rfl, rfl, rfl, List.ext_getElem? fun i => ?_, rfl, List.prefix_refl _⟩
  simp only [Switchboard.occasions, Switchboard.wire, List.getElem?_map, List.getElem?_modify]
  split <;> cases sb.transports[i]? <;> simp [hf]

theorem notify (sb : Switchboard) (c : ControllerId) {about : Subject}
    (habout : ∀ start, about ≠ .start start) (effect : Effect) :
    sb.Apart (sb.notify c about effect) := by
  refine ⟨rfl, rfl, rfl, rfl, rfl, rfl, rfl, funext fun start => ?_, List.prefix_refl _⟩
  simp [toldStart, Switchboard.notify, habout start]

theorem notify_session (sb : Switchboard) (c : ControllerId) (id : SessionId) (effect : Effect) :
    sb.Apart (sb.notify c (.session id) effect) :=
  notify sb c (by simp) effect

theorem close (sb : Switchboard) (t : TransportId) :
    sb.Apart { sb with closings := sb.closings ++ [t] } :=
  ⟨rfl, rfl, rfl, rfl, rfl, rfl, rfl, rfl, List.prefix_append ..⟩

theorem alarms (sb : Switchboard) (alarms : Nat) : sb.Apart { sb with alarms } :=
  ⟨rfl, rfl, rfl, rfl, rfl, rfl, rfl, rfl, List.prefix_refl _⟩

theorem attempt (sb : Switchboard) : sb.Apart sb.attempt :=
  ⟨rfl, rfl, rfl, rfl, rfl, rfl, rfl, rfl, List.prefix_refl _⟩

theorem clock (sb : Switchboard) (clock : Nat) : sb.Apart { sb with clock } :=
  ⟨rfl, rfl, rfl, rfl, rfl, rfl, rfl, rfl, List.prefix_refl _⟩

theorem requests (sb : Switchboard) (requests : List Request) : sb.Apart { sb with requests } :=
  ⟨rfl, rfl, rfl, rfl, rfl, rfl, rfl, rfl, List.prefix_refl _⟩

/-- Other surroundings with the same ways of transports. -/
theorem surroundings (sb : Switchboard) {surroundings : Surroundings}
    (hrefuses : surroundings.refusesEmpty = sb.surroundings.refusesEmpty)
    (hplans : surroundings.plans = sb.surroundings.plans) : sb.Apart { sb with surroundings } :=
  ⟨rfl, rfl, rfl, hrefuses, hplans, rfl, rfl, rfl, List.prefix_refl _⟩

/-! ## Operations on sessions -/

theorem closeSession (sb : Switchboard) (id : SessionId) : sb.Apart (sb.closeSession id) := by
  unfold Switchboard.closeSession
  split
  · split
    · exact .refl sb
    · exact (live sb id _).trans (close _ _)
  · exact .refl sb

theorem stopSession (sb : Switchboard) (id : SessionId) : sb.Apart (sb.stopSession id) :=
  (deleteSession sb id).trans ((live _ id _).trans (closeSession _ id))

theorem cleanUp (sb : Switchboard) (id : SessionId) : sb.Apart (sb.cleanUp id) := by
  unfold Switchboard.cleanUp
  split
  · split
    · exact .refl sb
    · exact (deleteSession sb id).trans (live _ id _)
  · exact .refl sb

theorem activate (sb : Switchboard) (c : ControllerId) (id : SessionId) :
    sb.Apart (sb.activate c id) := by
  unfold Switchboard.activate
  split
  · split
    · exact (live sb id _).trans ((notify_session _ c id _).trans (notify_session _ c id _))
    · exact .refl sb
  · exact .refl sb

theorem retire (sb : Switchboard) (c : ControllerId) (id : SessionId) (outcome : Outcome) :
    sb.Apart (sb.retire c id outcome) := by
  unfold Switchboard.retire
  split
  · dsimp only
    split
    · exact (cleanUp sb id).trans ((notify_session _ c id _).trans (notify_session _ c id _))
    · exact (cleanUp sb id).trans (notify_session _ c id _)
  · exact .refl sb

theorem setAlarm (sb : Switchboard) (id : SessionId) : sb.Apart (sb.setAlarm id) :=
  (live sb id _).trans (alarms _ _)

theorem launchRunner (sb : Switchboard) (c : ControllerId) (id : SessionId) :
    sb.Apart (sb.launchRunner c id) := by
  unfold Switchboard.launchRunner
  split
  · exact (live sb id _).trans (alarms _ _)
  · exact .refl sb

theorem runnerAbort (sb : Switchboard) (id : SessionId) (outcome : Outcome) :
    sb.Apart (sb.runnerAbort id outcome) :=
  (closeSession sb id).trans ((live _ id _).trans (setAlarm _ id))

theorem wire_drop (sb : Switchboard) (t : TransportId) : sb.Apart (sb.wire t Transport.drop) :=
  wire sb t fun _ => rfl

theorem wire_stopAwaiting (sb : Switchboard) (t : TransportId) :
    sb.Apart (sb.wire t Transport.stopAwaiting) :=
  wire sb t fun tr => by
    unfold Transport.stopAwaiting
    split <;> rfl

/-! ## Moves -/

theorem stop (wf : sb.registry.WellFormed) (key : SessionKey) :
    sb.Apart (sb.step (.stop key)) := by
  cases hentry : sb.registry.entries.get? key with
  | none =>
    simp only [step, stop_of_none hentry]
    exact .refl sb
  | some id =>
    rw [step_stop_of_entry wf hentry]
    exact stopSession sb id

theorem stopAll (sb : Switchboard) : sb.Apart sb.stopAll :=
  foldl closeSession sb _

theorem signalReady (sb : Switchboard) (t : TransportId) (outcome : Outcome) :
    sb.Apart (sb.signalReady t outcome) :=
  wire sb t fun tr => by split <;> rfl

theorem signalFinish (sb : Switchboard) (t : TransportId) (outcome : Outcome) :
    sb.Apart (sb.signalFinish t outcome) :=
  wire sb t fun tr => by split <;> rfl

theorem add (sb : Switchboard) (id : SessionId) : sb.Apart (sb.step (.add id)) := by
  refine registry sb ?_
  cases hadd : sb.registry.add id with
  | error e => rfl
  | ok registry => exact congrArg (List.map Session.toWiring) (Registry.roster_add hadd)

theorem delete (wf : sb.registry.WellFormed) (key : SessionKey) :
    sb.Apart (sb.step (.delete key)) := by
  cases hentry : sb.registry.entries.get? key with
  | none =>
    simp only [step, Registry.delete_of_none hentry]
    exact .refl sb
  | some id =>
    simp only [step, wf.delete_eq hentry]
    exact deleteSession sb id

theorem launch (sb : Switchboard) (c : ControllerId) (id : SessionId) :
    sb.Apart (sb.step (.launch c id)) := by
  simp only [step]
  split
  · exact launchRunner sb c id
  · exact .refl sb

end Apart

end Switchboard

end PodTunnels
