import PodTunnels.Proofs.StaleDialog

/-!
# The dialogue of a controller

The dialogue of a controller is all that a switchboard holds about its dialog flows: the stage and
the generation of the current one, the dialogs that were shown, the jobs of flows under way and the
tasks of flows that wait, what was said to the interface about flows or dialogs, and the cluster
that flows ask.

Operations of the switchboard are followed through this view. Whatever happens to sessions and
starts does not show in it, but that an activation takes dialogs down; and what one controller does
does not show in the dialogue of another.
-/

namespace PodTunnels

/-- The flow that a job works for: its controller and generation. A check of ports works for
none. -/
def Job.flow? : Job → Option (ControllerId × Nat)
  | .resolve c generation _ _ | .readPorts c generation _ => some (c, generation)
  | .checkPorts .. => none

/-- The inquiry of a job of a flow, with what is made of its outcome. -/
def Job.report? (cluster : Cluster) : Job → Option Task
  | .resolve _ generation route path =>
    some (.resolved generation (cluster.ask (route.resolve path)).1)
  | .readPorts _ generation pod =>
    some (.portsRead generation pod (cluster.ask (fetchPodPorts pod)).1)
  | .checkPorts .. => none

/-- The generation of the flow that a task belongs to, if it belongs to one. -/
def Task.generation? : Task → Option Nat
  | .resolved generation _ | .portsRead generation _ _ => some generation
  | .checked .. | .activate _ | .retire .. => none

/-- Whether an effect puts a dialog on the screen, or takes one down. -/
def Effect.isModal : Effect → Bool
  | .showSelection _ | .showDeletion _ | .dismiss => true
  | .info _ | .error _ | .refresh => false

/-- Whether a notice is about a flow, or about dialogs. -/
def Notice.isFlow (n : Notice) : Bool :=
  match n.about with
  | .flow _ => true
  | .start _ | .session _ => n.effect.isModal

/-- What a switchboard holds about the dialog flows of one controller. -/
structure Dialogue where
  address : String
  stage : Stage
  generation : Nat
  selections : List SelectionDialog
  deletions : List DeletionDialog
  /-- Whether the interface takes tasks. -/
  isOpen : Bool
  /-- The tasks of flows that wait, in order. -/
  errands : List Task
  /-- The jobs of flows that are under way. -/
  jobs : List Job
  /-- The notices about flows or dialogs, in order. -/
  told : List Notice
  cluster : Cluster

namespace Dialogue

def begin (d : Dialogue) : Dialogue :=
  { d with generation := d.generation + 1, stage := .resolving }

/-- The flow of a generation comes to a stage, if it is the current one. -/
def advance (d : Dialogue) (generation : Nat) (stage : Stage) : Dialogue :=
  if d.generation = generation then { d with stage } else d

def tell (d : Dialogue) (notices : List Notice) : Dialogue :=
  { d with told := d.told ++ notices }

def spawn (d : Dialogue) (job : Job) : Dialogue :=
  { d with jobs := d.jobs ++ [job] }

def post (d : Dialogue) (task : Task) : Dialogue :=
  if d.isOpen then { d with errands := d.errands ++ [task] } else d

def shut (d : Dialogue) : Dialogue :=
  { d with isOpen := false, errands := [] }

def fail (d : Dialogue) (c : ControllerId) (e : Failure) : Dialogue :=
  tell { d with stage := .idle } [⟨c, .flow d.generation, .error e⟩]

/-- The current flow goes on to the ports of its pod. -/
def read (d : Dialogue) (c : ControllerId) (pod : ResourcePath) : Dialogue :=
  spawn { d with stage := .awaitingSelection } (.readPorts c d.generation pod)

/-- The current flow asks whether to delete sessions of its pod. -/
def ask (d : Dialogue) (c : ControllerId) (pod : ResourcePath) (sessions : List SessionId)
    (lines : List String) : Dialogue :=
  let dialog : DeletionDialog := { generation := d.generation, pod, sessions, lines }
  tell { d with stage := .awaitingDeletion, deletions := d.deletions ++ [dialog] }
    [⟨c, .flow d.generation, .showDeletion d.deletions.length⟩]

/-- The current flow offers candidates in a start dialog. -/
def offer (d : Dialogue) (c : ControllerId) (pod : ResourcePath) (candidates : List Candidate) :
    Dialogue :=
  let dialog : SelectionDialog :=
    { generation := d.generation, pod, candidates, address := d.address }
  tell { d with stage := .awaitingSelection, selections := d.selections ++ [dialog] }
    [⟨c, .flow d.generation, .showSelection d.selections.length⟩]

def answerSelection (d : Dialogue) (n : Nat) : Dialogue :=
  { d with selections := d.selections.modify n fun dialog => { dialog with answered := true } }

def answerDeletion (d : Dialogue) (n : Nat) : Dialogue :=
  { d with deletions := d.deletions.modify n fun dialog => { dialog with answered := true } }

end Dialogue

namespace Switchboard

variable {sb sb' : Switchboard} {c c' : ControllerId} {d : Dialogue}

/-! ## The view -/

/-- The jobs of flows of a controller that are under way. -/
def flowJobs (sb : Switchboard) (c : ControllerId) : List Job :=
  sb.jobs.filter fun job => job.flow?.any fun flow => flow.1 = c

/-- The notices to a controller about its flows or about dialogs. -/
def flowTold (sb : Switchboard) (c : ControllerId) : List Notice :=
  sb.notices.filter fun n => n.controller = c && n.isFlow

def dialogueOf (sb : Switchboard) (c : ControllerId) (ctl : Controller) : Dialogue where
  address := ctl.address
  stage := ctl.stage
  generation := ctl.generation
  selections := ctl.selections
  deletions := ctl.deletions
  isOpen := ctl.queue.isOpen
  errands := ctl.queue.waiting.filter fun task => task.generation?.isSome
  jobs := sb.flowJobs c
  told := sb.flowTold c
  cluster := sb.surroundings.cluster

def dialogue (sb : Switchboard) (c : ControllerId) : Option Dialogue :=
  sb.controllers[c]?.map (sb.dialogueOf c)

theorem exists_controller_of_dialogue (hd : sb.dialogue c = some d) :
    ∃ ctl, sb.controllers[c]? = some ctl ∧ sb.dialogueOf c ctl = d :=
  Option.map_eq_some_iff.1 hd

/-- At first no flow has begun, and nothing is under way or said. -/
theorem eq_of_dialogue_initial {surroundings : Surroundings} {controllers : List (String × Nat)}
    (hd : (initial surroundings controllers).dialogue c = some d) :
    ∃ settings, controllers[c]? = some settings ∧ d =
      { address := settings.1, stage := .idle, generation := 0, selections := [], deletions := [],
        isOpen := true, errands := [], jobs := [], told := [],
        cluster := surroundings.cluster } := by
  obtain ⟨ctl, hctl, rfl⟩ := exists_controller_of_dialogue hd
  simp only [initial, List.getElem?_map, Option.map_eq_some_iff] at hctl
  obtain ⟨settings, hsettings, rfl⟩ := hctl
  exact ⟨settings, hsettings, rfl⟩

/-- A dialogue is determined by the controller, the jobs, the notices and the cluster. -/
theorem dialogue_congr (hcontrollers : sb'.controllers = sb.controllers)
    (hjobs : sb'.flowJobs c = sb.flowJobs c) (htold : sb'.flowTold c = sb.flowTold c)
    (hcluster : sb'.surroundings.cluster = sb.surroundings.cluster) :
    sb'.dialogue c = sb.dialogue c := by
  have hview : sb'.dialogueOf c = sb.dialogueOf c := by
    funext ctl
    simp only [dialogueOf, hjobs, htold, hcluster]
  simp only [dialogue, hcontrollers, hview]

/-! ## Elementary changes -/

theorem dialogue_control {f : Controller → Controller} {g : Dialogue → Dialogue}
    (h : ∀ ctl, sb.dialogueOf c (f ctl) = g (sb.dialogueOf c ctl)) :
    (sb.control c f).dialogue c = (sb.dialogue c).map g := by
  have hview : (sb.control c f).dialogueOf c = sb.dialogueOf c := rfl
  have hget : (sb.control c f).controllers[c]? = sb.controllers[c]?.map f := by simp [control]
  rw [dialogue, hview, hget]
  cases hctl : sb.controllers[c]? <;> simp [dialogue, hctl, h]

@[simp] theorem dialogue_control_of_ne (h : c' ≠ c) (f : Controller → Controller) :
    (sb.control c' f).dialogue c = sb.dialogue c := by
  have hview : (sb.control c' f).dialogueOf c = sb.dialogueOf c := rfl
  have hget : (sb.control c' f).controllers[c]? = sb.controllers[c]? := by simp [control, h]
  rw [dialogue, hview, hget]
  rfl

@[simp] theorem dialogue_advance_of_ne (h : c' ≠ c) (generation : Nat) (stage : Stage) :
    (sb.advance c' generation stage).dialogue c = sb.dialogue c :=
  dialogue_control_of_ne h _

theorem dialogue_advance (sb : Switchboard) (c : ControllerId) (generation : Nat) (stage : Stage) :
    (sb.advance c generation stage).dialogue c =
      (sb.dialogue c).map fun d => d.advance generation stage :=
  dialogue_control fun ctl => by
    by_cases h : ctl.generation = generation <;>
      simp [Controller.advance, Dialogue.advance, dialogueOf, h]

/-- A notice about a flow or about dialogs. -/
theorem dialogue_notify {about : Subject} {effect : Effect}
    (h : (Notice.mk c about effect).isFlow = true) :
    (sb.notify c about effect).dialogue c =
      (sb.dialogue c).map fun d => d.tell [⟨c, about, effect⟩] := by
  cases hctl : sb.controllers[c]? <;>
    simp [dialogue, notify, hctl, dialogueOf, flowTold, flowJobs, Dialogue.tell, h]

/-- Any other notice, or one to another interface, does not show. -/
theorem dialogue_notify_of_other {about : Subject} {effect : Effect}
    (h : c' = c → (Notice.mk c' about effect).isFlow = false) :
    (sb.notify c' about effect).dialogue c = sb.dialogue c := by
  refine dialogue_congr rfl rfl ?_ rfl
  simpa [flowTold, notify] using h

@[simp] theorem dialogue_notify_of_ne (h : c' ≠ c) (about : Subject) (effect : Effect) :
    (sb.notify c' about effect).dialogue c = sb.dialogue c :=
  dialogue_notify_of_other fun hc => absurd hc h

theorem dialogue_spawn {job : Job} {g : Nat} (h : job.flow? = some (c, g)) :
    (sb.spawn job).dialogue c = (sb.dialogue c).map fun d => d.spawn job := by
  cases hctl : sb.controllers[c]? <;>
    simp [dialogue, spawn, hctl, dialogueOf, flowTold, flowJobs, Dialogue.spawn, h]

/-- A job for nobody's flow, or for a flow of another controller, does not show. -/
theorem dialogue_spawn_of_other {job : Job} (h : ∀ generation, job.flow? ≠ some (c, generation)) :
    (sb.spawn job).dialogue c = sb.dialogue c := by
  refine dialogue_congr rfl ?_ rfl rfl
  cases hflow : job.flow? with
  | none => simp [flowJobs, spawn, hflow]
  | some flow =>
    have hne : flow.1 ≠ c := by
      rintro rfl
      exact h flow.2 hflow
    simp [flowJobs, spawn, hflow, hne]

@[simp] theorem dialogue_post_of_ne (h : c' ≠ c) (task : Task) :
    (sb.post c' task).dialogue c = sb.dialogue c :=
  dialogue_control_of_ne h _

theorem dialogue_post {task : Task} (h : task.generation?.isSome = true) :
    (sb.post c task).dialogue c = (sb.dialogue c).map fun d => d.post task :=
  dialogue_control fun ctl => by
    cases hopen : ctl.queue.isOpen <;>
      simp [Controller.post, UiQueue.send, Dialogue.post, dialogueOf, hopen, h]

/-- A task of no flow does not show. -/
theorem dialogue_post_of_none (c' : ControllerId) {task : Task} (h : task.generation? = none) :
    (sb.post c' task).dialogue c = sb.dialogue c := by
  by_cases hc : c' = c
  · subst hc
    refine (dialogue_control (g := id) fun ctl => ?_).trans (Option.map_id_apply ..)
    cases hopen : ctl.queue.isOpen <;>
      simp [Controller.post, UiQueue.send, dialogueOf, hopen, h]
  · exact dialogue_post_of_ne hc task

@[simp] theorem dialogue_popTask_of_ne (h : c' ≠ c) :
    (sb.popTask c').dialogue c = sb.dialogue c :=
  dialogue_control_of_ne h _

/-- The first task that waits is of a flow, and is taken. -/
theorem dialogue_popTask {task : Task} {rest : List Task} (hd : sb.dialogue c = some d)
    (hwaiting : sb.waiting c = task :: rest) (h : task.generation?.isSome = true) :
    ∃ errands, d.errands = task :: errands ∧
      (sb.popTask c).dialogue c = some { d with errands } := by
  obtain ⟨ctl, hctl, rfl⟩ := exists_controller_of_dialogue hd
  have hqueue : ctl.queue.waiting = task :: rest := by
    simpa [waiting, queue?, hctl] using hwaiting
  refine ⟨rest.filter fun task => task.generation?.isSome, ?_, ?_⟩
  · simp [dialogueOf, hqueue, h]
  · simp [dialogue, popTask, control, hctl, dialogueOf, flowTold, flowJobs, hqueue]

/-- It is not, and is taken. -/
theorem dialogue_popTask_of_none {task : Task} {rest : List Task}
    (hwaiting : sb.waiting c = task :: rest) (h : task.generation? = none) :
    (sb.popTask c).dialogue c = sb.dialogue c := by
  obtain ⟨ctl, hctl, hqueue⟩ := exists_controller_of_waiting hwaiting
  simp [dialogue, popTask, control, hctl, dialogueOf, flowTold, flowJobs, hqueue, h]

theorem dialogue_answerSelection (sb : Switchboard) (c : ControllerId) (n : Nat) :
    (sb.control c fun ctl => ctl.answerSelection n).dialogue c =
      (sb.dialogue c).map fun d => d.answerSelection n :=
  dialogue_control fun _ => rfl

theorem dialogue_answerDeletion (sb : Switchboard) (c : ControllerId) (n : Nat) :
    (sb.control c fun ctl => ctl.answerDeletion n).dialogue c =
      (sb.dialogue c).map fun d => d.answerDeletion n :=
  dialogue_control fun _ => rfl

theorem dialogue_showSelection (sb : Switchboard) (c : ControllerId) (dialog : SelectionDialog) :
    (sb.control c fun ctl => { ctl with selections := ctl.selections ++ [dialog] }).dialogue c =
      (sb.dialogue c).map fun d => { d with selections := d.selections ++ [dialog] } :=
  dialogue_control fun _ => rfl

theorem dialogue_showDeletion (sb : Switchboard) (c : ControllerId) (dialog : DeletionDialog) :
    (sb.control c fun ctl => { ctl with deletions := ctl.deletions ++ [dialog] }).dialogue c =
      (sb.dialogue c).map fun d => { d with deletions := d.deletions ++ [dialog] } :=
  dialogue_control fun _ => rfl

theorem cluster_of_dialogue (hd : sb.dialogue c = some d) :
    sb.surroundings.cluster = d.cluster := by
  obtain ⟨ctl, -, rfl⟩ := exists_controller_of_dialogue hd
  rfl

theorem isCurrent_of_dialogue (hd : sb.dialogue c = some d) (generation : Nat) :
    sb.isCurrent c generation = decide (d.generation = generation) := by
  obtain ⟨ctl, hctl, rfl⟩ := exists_controller_of_dialogue hd
  simp [isCurrent, hctl, dialogueOf]
  rfl

/-! ## Sessions and starts -/

section Hidden

variable (sb : Switchboard) (c c' : ControllerId) (id : SessionId)

@[simp] theorem dialogue_live (f : Life → Life) : (sb.live id f).dialogue c = sb.dialogue c := rfl

@[simp] theorem dialogue_closeSession : (sb.closeSession id).dialogue c = sb.dialogue c := by
  unfold closeSession
  split
  · split <;> rfl
  · rfl

theorem dialogue_stopSession : (sb.stopSession id).dialogue c = sb.dialogue c :=
  dialogue_closeSession _ c id

@[simp] theorem dialogue_cleanUp : (sb.cleanUp id).dialogue c = sb.dialogue c := by
  unfold cleanUp
  split
  · split <;> rfl
  · rfl

@[simp] theorem dialogue_launchRunner :
    (sb.launchRunner c' id).dialogue c = sb.dialogue c := by
  unfold launchRunner
  split <;> rfl

/-- The end of a session does nothing to dialogs. -/
theorem isModal_endEffect {s : Session} {outcome : Outcome} {effect : Effect}
    (h : endEffect s outcome = some effect) : effect.isModal = false := by
  unfold endEffect at h
  split at h
  · cases h
    rfl
  · split at h
    · cases h
    · cases h
      rfl

theorem dialogue_retire (outcome : Outcome) :
    (sb.retire c' id outcome).dialogue c = sb.dialogue c := by
  unfold retire
  split
  · rw [dialogue_notify_of_other fun _ => rfl]
    split
    · rename_i effect heffect
      have hquiet : (Notice.mk c' (.session id) effect).isFlow = false := isModal_endEffect heffect
      exact (dialogue_notify_of_other fun _ => hquiet).trans (dialogue_cleanUp ..)
    · exact dialogue_cleanUp ..
  · rfl

/-- Of a runner's work nothing shows. -/
theorem dialogue_stepRunner : (sb.stepRunner id).dialogue c = sb.dialogue c := by
  rcases stepRunner_cases sb id with hidle | ⟨s, r, -, -, hready | hfails | hends⟩
  · rw [hidle]
  · rw [hready.2.2, runnerReady]
    split
    · exact dialogue_post_of_none _ rfl
    · rfl
  · obtain ⟨outcome, sb', -, -, hsb', heq⟩ := hfails
    have hsame : sb'.dialogue c = sb.dialogue c := by
      rcases hsb' with rfl | rfl <;> rfl
    rw [heq]
    exact (dialogue_closeSession sb' c id).trans hsame
  · obtain ⟨outcome, -, heq⟩ := hends
    rw [heq, runnerEnd]
    split
    · exact dialogue_post_of_none _ rfl
    · exact dialogue_cleanUp _ c id

theorem dialogue_openSession (start : StartId) (key : SessionKey) (tunnels : List Tunnel) :
    (sb.openSession c' start key tunnels).2.dialogue c = sb.dialogue c := by
  have hregister (sb' : Switchboard) (w : Wiring) :
      (sb'.register c' w).2.dialogue c = sb'.dialogue c := by
    simp only [register]
    split
    · exact dialogue_launchRunner _ c c' _
    · exact dialogue_closeSession _ c _
  have hopening : (sb.atOpening key).dialogue c = sb.dialogue c := by
    unfold atOpening
    split
    · simp only [registerRival]
      split <;> rfl
    · rfl
  simp only [openSession]
  split
  · rfl
  · rcases openTransport_cases sb key tunnels with ⟨e, he⟩ | hok
    · rw [he]
      rfl
    · rw [hok]
      dsimp only
      split
      · exact hopening
      · exact (hregister _ _).trans hopening

theorem dialogue_reportStart (start : StartId) (result : Except Failure Unit) :
    (sb.reportStart c' start result).dialogue c = sb.dialogue c := by
  cases result with
  | error e => exact dialogue_notify_of_other fun _ => rfl
  | ok _ => rfl

theorem dialogue_control_of_starts {f : Controller → Controller}
    (hf : ∀ ctl, f ctl = { ctl with starts := (f ctl).starts }) :
    (sb.control c' f).dialogue c = sb.dialogue c := by
  by_cases hc : c' = c
  · subst hc
    refine (dialogue_control (g := id) fun ctl => ?_).trans (Option.map_id_apply ..)
    rw [hf]
    rfl
  · exact dialogue_control_of_ne hc f

theorem dialogue_start (pod : ResourcePath) (selection : Selection) :
    (sb.start c' pod selection).dialogue c = sb.dialogue c := by
  unfold start
  split
  · rfl
  · dsimp only
    split
    · exact dialogue_reportStart ..
    · rw [dialogue_spawn_of_other (by simp [Job.flow?]), dialogue_control_of_starts]
      · rfl
      · exact fun _ => rfl

theorem dialogue_checked (start : StartId) (key : SessionKey) (selection : Selection)
    (result : Except Failure Unit) :
    (sb.checked c' start key selection result).dialogue c = sb.dialogue c := by
  unfold checked
  cases result with
  | error e =>
    dsimp only
    rw [dialogue_reportStart, dialogue_control_of_starts]
    exact fun _ => rfl
  | ok _ =>
    dsimp only
    rw [dialogue_reportStart, dialogue_control_of_starts, dialogue_openSession]
    exact fun _ => rfl

theorem dialogue_foldl {f : Switchboard → SessionId → Switchboard}
    (hf : ∀ sb id, (f sb id).dialogue c = sb.dialogue c) (ids : List SessionId) :
    (ids.foldl f sb).dialogue c = sb.dialogue c :=
  List.foldlRecOn (motive := fun sb' : Switchboard => sb'.dialogue c = sb.dialogue c) ids f rfl
    fun sb' h id _ => (hf sb' id).trans h

end Hidden

/-! ## Flows of other controllers -/

section Others

variable (h : c' ≠ c) (generation : Nat)
include h

theorem dialogue_abandon_of_ne (e : Failure) :
    (sb.abandon c' generation e).dialogue c = sb.dialogue c := by
  unfold abandon
  split <;> simp [h]

theorem dialogue_podFound_of_ne (pod : ResourcePath) :
    (sb.podFound c' generation pod).dialogue c = sb.dialogue c := by
  unfold podFound
  split
  · split
    · rw [dialogue_spawn_of_other (by simp [Job.flow?, h]), dialogue_advance_of_ne h]
    · rfl
  · unfold askDeletion
    split
    · rfl
    · split <;> simp [h]

theorem dialogue_resolved_of_ne (result : Except Failure ResourcePath) :
    (sb.resolved c' generation result).dialogue c = sb.dialogue c := by
  cases result with
  | error e => exact dialogue_abandon_of_ne h generation e
  | ok pod => exact dialogue_podFound_of_ne h generation pod

theorem dialogue_portsRead_of_ne (pod : ResourcePath) (result : Except Failure PodPorts) :
    (sb.portsRead c' generation pod result).dialogue c = sb.dialogue c := by
  unfold portsRead
  split
  · exact dialogue_abandon_of_ne h generation _
  · split
    · exact dialogue_abandon_of_ne h generation _
    · unfold offer
      split
      · rfl
      · split <;> simp [h]

omit generation in
theorem dialogue_trigger_of_ne (target : Target) :
    (sb.trigger c' target).dialogue c = sb.dialogue c := by
  unfold trigger
  split
  · rfl
  · dsimp only
    split
    · rw [dialogue_abandon_of_ne h, dialogue_control_of_ne h]
    · rw [dialogue_podFound_of_ne h, dialogue_control_of_ne h]
    · rw [dialogue_spawn_of_other (by simp [Job.flow?, h]), dialogue_control_of_ne h]

end Others

end Switchboard

end PodTunnels
