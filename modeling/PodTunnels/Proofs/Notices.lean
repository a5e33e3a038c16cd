import PodTunnels.Proofs.StaleDialog

/-!
# Notices are not taken back

Whatever a move says to the interfaces comes behind all that was said before (`told_step`). So an
interface that does what is new after each move has done everything once, in the order in which it
was said.
-/

namespace PodTunnels

namespace Switchboard

/-- What was said is said still, before anything new. -/
def Told (sb sb' : Switchboard) : Prop :=
  sb.notices <+: sb'.notices

namespace Told

variable {sb sb' sb₁ sb₂ sb₃ : Switchboard}

theorem refl (sb : Switchboard) : sb.Told sb :=
  List.prefix_refl _

theorem trans (h : sb₁.Told sb₂) (h' : sb₂.Told sb₃) : sb₁.Told sb₃ :=
  List.IsPrefix.trans h h'

theorem of_eq (h : sb'.notices = sb.notices) : sb.Told sb' :=
  ⟨[], (List.append_nil _).trans h.symm⟩

/-! ## Elementary changes -/

variable (sb : Switchboard) (c : ControllerId)

theorem notify (about : Subject) (effect : Effect) : sb.Told (sb.notify c about effect) :=
  List.prefix_append ..

theorem control (f : Controller → Controller) : sb.Told (sb.control c f) :=
  refl sb

/-! ## Sessions and starts -/

theorem closeSession (id : SessionId) : sb.Told (sb.closeSession id) := by
  unfold Switchboard.closeSession
  split
  · split <;> exact of_eq rfl
  · exact refl sb

theorem foldl {f : Switchboard → SessionId → Switchboard} (hf : ∀ sb id, Told sb (f sb id))
    (ids : List SessionId) : sb.Told (ids.foldl f sb) :=
  List.foldlRecOn (motive := fun sb' : Switchboard => sb.Told sb') ids f (refl sb)
    fun sb' h id _ => h.trans (hf sb' id)

theorem cleanUp (id : SessionId) : sb.Told (sb.cleanUp id) := by
  unfold Switchboard.cleanUp
  split
  · split <;> exact of_eq rfl
  · exact refl sb

theorem launchRunner (id : SessionId) : sb.Told (sb.launchRunner c id) := by
  unfold Switchboard.launchRunner
  split <;> exact of_eq rfl

theorem activate (id : SessionId) : sb.Told (sb.activate c id) := by
  unfold Switchboard.activate
  split
  · split
    · exact (notify (sb.live id Life.activate) c _ _).trans (notify ..)
    · exact refl sb
  · exact refl sb

theorem retire (id : SessionId) (outcome : Outcome) : sb.Told (sb.retire c id outcome) := by
  unfold Switchboard.retire
  split
  · dsimp only
    split
    · exact (cleanUp sb id).trans ((notify ..).trans (notify ..))
    · exact (cleanUp sb id).trans (notify ..)
  · exact refl sb

theorem stepRunner (id : SessionId) : sb.Told (sb.stepRunner id) := by
  rcases stepRunner_cases sb id with hidle | ⟨s, r, -, -, hready | hfails | hends⟩
  · exact of_eq (congrArg Switchboard.notices hidle)
  · rw [hready.2.2, runnerReady]
    split <;> exact refl sb
  · obtain ⟨outcome, sb', -, -, hsb', heq⟩ := hfails
    have hsame : sb.Told sb' := by
      rcases hsb' with rfl | rfl <;> exact of_eq rfl
    rw [heq]
    exact hsame.trans (closeSession sb' id)
  · obtain ⟨outcome, -, heq⟩ := hends
    rw [heq, runnerEnd]
    split
    · exact refl sb
    · exact cleanUp ((sb.live id _).wire s.transport Transport.drop) id

theorem registerRival (key : SessionKey) : sb.Told (sb.registerRival key) := by
  simp only [Switchboard.registerRival]
  split <;> exact of_eq rfl

theorem register (w : Wiring) : sb.Told (sb.register c w).2 := by
  simp only [Switchboard.register]
  split
  · refine .trans ?_ (launchRunner _ c _)
    exact of_eq rfl
  · exact closeSession (sb.enroll w).2 _

theorem openSession (start : StartId) (key : SessionKey) (tunnels : List Tunnel) :
    sb.Told (sb.openSession c start key tunnels).2 := by
  have hopening : sb.Told (sb.atOpening key) := by
    unfold atOpening
    split
    · exact registerRival sb.attempt key
    · exact of_eq rfl
  simp only [Switchboard.openSession]
  split
  · exact refl sb
  · rcases openTransport_cases sb key tunnels with ⟨e, he⟩ | hok
    · rw [he]
      exact of_eq rfl
    · rw [hok]
      dsimp only
      split
      · exact hopening
      · exact hopening.trans (register ((sb.atOpening key).connect _).2 c _)

theorem reportStart (start : StartId) (result : Except Failure Unit) :
    sb.Told (sb.reportStart c start result) := by
  cases result with
  | error e => exact notify ..
  | ok _ => exact refl sb

theorem start (pod : ResourcePath) (selection : Selection) :
    sb.Told (sb.start c pod selection) := by
  unfold Switchboard.start
  split
  · exact refl sb
  · dsimp only
    split
    · exact reportStart { sb with startCount := sb.startCount + 1 } c _ _
    · exact of_eq rfl

theorem checked (start : StartId) (key : SessionKey) (selection : Selection)
    (result : Except Failure Unit) : sb.Told (sb.checked c start key selection result) := by
  unfold Switchboard.checked
  cases result with
  | error e => exact (control sb c _).trans (reportStart ..)
  | ok _ => exact (openSession sb c start key _).trans ((control ..).trans (reportStart ..))

/-! ## Flows -/

theorem abandon (generation : Nat) (e : Failure) : sb.Told (sb.abandon c generation e) := by
  unfold Switchboard.abandon
  split
  · exact (control sb c _).trans (notify ..)
  · exact refl sb

theorem podFound (generation : Nat) (pod : ResourcePath) :
    sb.Told (sb.podFound c generation pod) := by
  unfold Switchboard.podFound askDeletion
  split
  · split <;> exact of_eq rfl
  · split
    · exact refl sb
    · split
      · exact ((control sb c _).trans (control ..)).trans (notify ..)
      · exact refl sb

theorem resolved (generation : Nat) (result : Except Failure ResourcePath) :
    sb.Told (sb.resolved c generation result) := by
  cases result with
  | error e => exact abandon ..
  | ok pod => exact podFound ..

theorem portsRead (generation : Nat) (pod : ResourcePath) (result : Except Failure PodPorts) :
    sb.Told (sb.portsRead c generation pod result) := by
  unfold Switchboard.portsRead offer
  split
  · exact abandon ..
  · split
    · exact abandon ..
    · split
      · exact refl sb
      · split
        · exact ((control sb c _).trans (control ..)).trans (notify ..)
        · exact refl sb

theorem trigger (target : Target) : sb.Told (sb.trigger c target) := by
  unfold Switchboard.trigger
  split
  · exact refl sb
  · dsimp only
    split
    · exact (control sb c _).trans (abandon ..)
    · exact (control sb c _).trans (podFound ..)
    · exact of_eq rfl

theorem confirmSelection (n : Nat) (selection : Selection) :
    sb.Told (sb.confirmSelection c n selection) := by
  unfold Switchboard.confirmSelection
  split
  · exact refl sb
  · dsimp only
    split
    · exact ((control sb c _).trans (control ..)).trans (start ..)
    · exact refl sb

theorem cancelSelection (n : Nat) : sb.Told (sb.cancelSelection c n) := by
  unfold Switchboard.cancelSelection
  split <;> exact of_eq rfl

theorem confirmDeletion (n : Nat) : sb.Told (sb.confirmDeletion c n) := by
  unfold Switchboard.confirmDeletion
  split
  · exact refl sb
  · rename_i d _
    have hstopped := foldl (sb.control c fun ctl => ctl.answerDeletion n)
      (fun sb id => of_eq (notices_stopSession sb id)) d.sessions
    dsimp only
    split
    · exact hstopped.trans (((control _ c _).trans (notify ..)).trans (notify ..))
    · exact hstopped.trans (notify ..)

theorem cancelDeletion (n : Nat) : sb.Told (sb.cancelDeletion c n) := by
  unfold Switchboard.cancelDeletion
  split <;> exact of_eq rfl

theorem applyTask : sb.Told (sb.applyTask c) := by
  cases hwaiting : sb.waiting c with
  | nil => exact of_eq (by rw [applyTask_of_nil hwaiting])
  | cons task rest =>
    have hpopped : sb.Told (sb.popTask c) := control ..
    rw [applyTask_of_cons hwaiting]
    refine hpopped.trans ?_
    cases task with
    | resolved generation result => exact resolved ..
    | portsRead generation pod result => exact portsRead ..
    | checked start key selection result => exact checked ..
    | activate id => exact activate ..
    | retire id outcome => exact retire ..

theorem finishJob (place : Nat) : sb.Told (sb.finishJob place) := by
  unfold Switchboard.finishJob
  split
  · rename_i job _
    cases job <;> exact of_eq rfl
  · exact refl sb

end Told

/-- No move takes back what was said. -/
theorem told_step {sb : Switchboard} (wf : sb.registry.WellFormed) (m : Move) :
    sb.Told (sb.step m) := by
  cases m with
  | trigger c target => exact .trigger ..
  | start c pod selection => exact .start ..
  | confirmSelection c n selection => exact .confirmSelection ..
  | cancelSelection c n => exact .cancelSelection ..
  | confirmDeletion c n => exact .confirmDeletion ..
  | cancelDeletion c n => exact .cancelDeletion ..
  | stop key =>
    cases hentry : sb.registry.entries.get? key with
    | none => exact .of_eq (by simp only [step, stop_of_none hentry]; rfl)
    | some id =>
      rw [step_stop_of_entry wf hentry]
      exact .of_eq (notices_stopSession sb id)
  | stopAll => exact .foldl sb Told.closeSession _
  | applyTask c => exact .applyTask ..
  | finishJob place => exact .finishJob ..
  | stepRunner id => exact .stepRunner ..
  | makeSession key tunnels plan =>
    refine .of_eq ?_
    simp only [step, makeSession]
    split <;> rfl
  | close id => exact .closeSession ..
  | launch c id =>
    simp only [step]
    split
    · exact .launchRunner ..
    · exact .refl sb
  | _ => exact .of_eq rfl

end Switchboard

end PodTunnels
