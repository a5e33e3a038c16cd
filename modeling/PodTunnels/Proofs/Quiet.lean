import PodTunnels.Proofs.Standing

/-!
# What no session sees

Most of what happens in a dialog flow, and the first steps of a start, concern no session. Such a
change is quiet: it takes no time, touches neither the registry nor the transports, and leaves the
standing of every session as it is. Quiet changes compose, so each operation of a flow is shown to
be quiet from the elementary changes that it is made of.
-/

namespace PodTunnels

namespace Switchboard

/-- A change that no session sees: the time, the registry, the transports and their closes are what
they were, and so is the standing of every session. -/
structure Quiet (sb sb' : Switchboard) : Prop where
  clock : sb'.clock = sb.clock
  registry : sb'.registry = sb.registry
  transports : sb'.transports = sb.transports
  closings : sb'.closings = sb.closings
  standing : ∀ id, sb'.standing id = sb.standing id

namespace Quiet

variable {sb₁ sb₂ sb₃ : Switchboard}

theorem refl (sb : Switchboard) : Quiet sb sb :=
  ⟨rfl, rfl, rfl, rfl, fun _ => rfl⟩

theorem trans (h : Quiet sb₁ sb₂) (h' : Quiet sb₂ sb₃) : Quiet sb₁ sb₃ :=
  ⟨h'.clock.trans h.clock, h'.registry.trans h.registry, h'.transports.trans h.transports,
    h'.closings.trans h.closings, fun id => (h'.standing id).trans (h.standing id)⟩

end Quiet

section Flows

variable (sb : Switchboard) (c : ControllerId) (generation : Nat)

/-- A change of a controller that leaves its queue alone is seen by no session. -/
theorem quiet_control {f : Controller → Controller} (hf : ∀ ctl, (f ctl).queue = ctl.queue) :
    sb.Quiet (sb.control c f) :=
  ⟨rfl, rfl, rfl, rfl, fun id => standing_control sb id c hf⟩

theorem quiet_advance (stage : Stage) : sb.Quiet (sb.advance c generation stage) :=
  ⟨rfl, rfl, rfl, rfl, fun id => standing_advance sb id c generation stage⟩

theorem quiet_notify_flow (effect : Effect) :
    sb.Quiet (sb.notify c (.flow generation) effect) :=
  ⟨rfl, rfl, rfl, rfl, fun id => standing_notify_flow sb id c generation effect⟩

theorem quiet_spawn (job : Job) : sb.Quiet (sb.spawn job) :=
  ⟨rfl, rfl, rfl, rfl, fun id => standing_spawn sb id job⟩

theorem quiet_abandon (e : Failure) : sb.Quiet (sb.abandon c generation e) := by
  unfold abandon
  split
  · exact (quiet_advance sb c generation .idle).trans (quiet_notify_flow ..)
  · exact .refl sb

theorem quiet_askDeletion (pod : ResourcePath) (sessions : List SessionId) :
    sb.Quiet (sb.askDeletion c generation pod sessions) := by
  unfold askDeletion
  split
  · exact .refl sb
  · split
    · refine (quiet_advance sb c generation .awaitingDeletion).trans (.trans ?_
        (quiet_notify_flow ..))
      exact quiet_control _ _ fun _ => rfl
    · exact .refl sb

theorem quiet_podFound (pod : ResourcePath) : sb.Quiet (sb.podFound c generation pod) := by
  unfold podFound
  split
  · split
    · exact (quiet_advance sb c generation .awaitingSelection).trans (quiet_spawn ..)
    · exact .refl sb
  · exact quiet_askDeletion ..

theorem quiet_resolved (result : Except Failure ResourcePath) :
    sb.Quiet (sb.resolved c generation result) := by
  cases result with
  | error e => exact quiet_abandon ..
  | ok pod => exact quiet_podFound ..

theorem quiet_trigger (target : Target) : sb.Quiet (sb.trigger c target) := by
  have hbegin : sb.Quiet (sb.control c fun ctl => ctl.begin .resolving) :=
    quiet_control _ _ fun _ => rfl
  unfold trigger
  split
  · exact .refl sb
  · split
    · exact hbegin.trans (quiet_abandon ..)
    · exact hbegin.trans (quiet_podFound ..)
    · exact hbegin.trans (quiet_spawn ..)

theorem quiet_offer (pod : ResourcePath) (candidates : List Candidate) :
    sb.Quiet (sb.offer c generation pod candidates) := by
  unfold offer
  split
  · exact .refl sb
  · split
    · refine (quiet_advance sb c generation .awaitingSelection).trans (.trans ?_
        (quiet_notify_flow ..))
      exact quiet_control _ _ fun _ => rfl
    · exact .refl sb

theorem quiet_portsRead (pod : ResourcePath) (result : Except Failure PodPorts) :
    sb.Quiet (sb.portsRead c generation pod result) := by
  unfold portsRead
  split
  · exact quiet_abandon ..
  · split
    · exact quiet_abandon ..
    · exact quiet_offer ..

theorem quiet_reportStart (start : StartId) (result : Except Failure Unit) :
    sb.Quiet (sb.reportStart c start result) := by
  cases result with
  | error e =>
    exact ⟨rfl, rfl, rfl, rfl, fun id => standing_notify_start sb id c start (.error e)⟩
  | ok _ => exact .refl sb

theorem quiet_start (pod : ResourcePath) (selection : Selection) :
    sb.Quiet (sb.start c pod selection) := by
  have hcounted : sb.Quiet { sb with startCount := sb.startCount + 1 } :=
    ⟨rfl, rfl, rfl, rfl, fun _ => rfl⟩
  cases hc : sb.controllers[c]? with
  | none =>
    simp only [start, hc]
    exact .refl sb
  | some ctl =>
    simp only [start, hc]
    split
    · exact hcounted.trans (quiet_reportStart ..)
    · refine hcounted.trans (.trans ?_ (quiet_spawn ..))
      exact quiet_control _ _ fun _ => rfl

theorem quiet_confirmSelection (dialog : Nat) (selection : Selection) :
    sb.Quiet (sb.confirmSelection c dialog selection) := by
  have hanswer : sb.Quiet (sb.control c fun ctl => ctl.answerSelection dialog) :=
    quiet_control _ _ fun _ => rfl
  unfold confirmSelection
  split
  · exact .refl sb
  · dsimp only
    split
    · exact hanswer.trans ((quiet_advance ..).trans (quiet_start ..))
    · exact hanswer

theorem quiet_cancelSelection (dialog : Nat) : sb.Quiet (sb.cancelSelection c dialog) := by
  have hanswer : sb.Quiet (sb.control c fun ctl => ctl.answerSelection dialog) :=
    quiet_control _ _ fun _ => rfl
  unfold cancelSelection
  split
  · exact .refl sb
  · exact hanswer.trans (quiet_advance ..)

theorem quiet_cancelDeletion (dialog : Nat) : sb.Quiet (sb.cancelDeletion c dialog) := by
  have hanswer : sb.Quiet (sb.control c fun ctl => ctl.answerDeletion dialog) :=
    quiet_control _ _ fun _ => rfl
  unfold cancelDeletion
  split
  · exact .refl sb
  · exact hanswer.trans (quiet_advance ..)

theorem quiet_finishJob (place : Nat) : sb.Quiet (sb.finishJob place) := by
  unfold finishJob
  split
  · rename_i job _
    cases job <;>
      exact ⟨rfl, rfl, rfl, rfl, fun id => standing_post_of_ne (by simp [Task.session?])⟩
  · exact .refl sb

end Flows

end Switchboard

end PodTunnels
