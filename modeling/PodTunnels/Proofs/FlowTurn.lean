import PodTunnels.Proofs.Dialogue

/-!
# Turns of a dialogue

A turn of a dialogue is what one move does to the dialog flows of one controller. As for sessions
there are few kinds of them: most moves do not concern the dialogue at all, and each of the others
is one of the events of a flow. Each kind names the move that brings it about and what must have
been the case, so that a property of flows is shown to hold along every run by looking at the kinds
of turns (`flowTurn_step`) and at nothing else.
-/

namespace PodTunnels

/-- What a target leads to, where that needs no question to the cluster. -/
def Target.known? (t : Target) : Option (Except Failure ResourcePath) :=
  match Route.ofKind t.kind with
  | .error e => some (.error e)
  | .ok .pod => some (.ok t.path)
  | .ok _ => none

/-- Whether a move begins no flow of a controller, ends no job and applies no task of it. -/
def Move.isBeside (c : ControllerId) : Move → Bool
  | .trigger c' _ | .applyTask c' => c' ≠ c
  | .finishJob _ => false
  | _ => true

/-- The lines about sessions in a question before their deletion. -/
def Registry.linesOf (registry : Registry) (sessions : List SessionId) : List String :=
  sessions.filterMap fun id => (registry.session? id).map fun s => s.line

namespace Dialogue

variable {d d' : Dialogue}

/-- How the current flow goes on from what its target led to: it fails, it asks whether to delete
the live sessions of the pod, or it goes on to the ports of the pod if there are none. -/
inductive Leads (registry : Registry) (c : ControllerId) (d : Dialogue) :
    Except Failure ResourcePath → Dialogue → Prop
  | failed {e : Failure} : Leads registry c d (.error e) (d.fail c e)
  | asked {pod : ResourcePath} (hlive : registry.allForPod pod ≠ []) :
      Leads registry c d (.ok pod)
        (d.ask c pod (registry.allForPod pod) (registry.linesOf (registry.allForPod pod)))
  | reading {pod : ResourcePath} (hfree : registry.allForPod pod = []) :
      Leads registry c d (.ok pod) (d.read c pod)

/-- How it goes on from the ports of its pod: it fails, also for want of candidates, or it offers
the candidates. -/
inductive Yields (c : ControllerId) (d : Dialogue) (pod : ResourcePath) :
    Except Failure PodPorts → Dialogue → Prop
  | failed {e : Failure} : Yields c d pod (.error e) (d.fail c e)
  | undeclared {ports : PodPorts} (hnone : tcpCandidates ports = []) :
      Yields c d pod (.ok ports) (d.fail c (.invalidPorts (.noneDeclared pod)))
  | offered {ports : PodPorts} (hsome : tcpCandidates ports ≠ []) :
      Yields c d pod (.ok ports) (d.offer c pod (tcpCandidates ports))

end Dialogue

namespace Switchboard

open Dialogue

/-- What a move does to the dialogue of a controller. -/
inductive FlowTurn (sb : Switchboard) (c : ControllerId) (d : Dialogue) : Move → Dialogue → Prop
  /-- The move is about something else. It neither begins a flow, nor ends a job of one, nor
  activates a session on the interface. -/
  | rest {m : Move} (hbegin : ∀ target, m ≠ .trigger c target)
      (hjob : ∀ place job generation, m = .finishJob place → sb.jobs[place]? = some job →
        job.flow? ≠ some (c, generation))
      (hactivation : m = .applyTask c → ∀ id, ¬ sb.Activates id m) : FlowTurn sb c d m d
  | recast {cluster : Cluster} : FlowTurn sb c d (.setCluster cluster) { d with cluster }
  | shut : FlowTurn sb c d (.closeInterface c) d.shut
  /-- A flow begins for a target that needs no question to the cluster. -/
  | known {target : Target} {result : Except Failure ResourcePath} {d' : Dialogue}
      (hknown : target.known? = some result) (hleads : Leads sb.registry c d.begin result d') :
      FlowTurn sb c d (.trigger c target) d'
  /-- A flow begins for any other target. -/
  | sought {target : Target} {route : Route} (hroute : Route.ofKind target.kind = .ok route)
      (hunknown : target.known? = none) :
      FlowTurn sb c d (.trigger c target)
        (d.begin.spawn (.resolve c (d.generation + 1) route target.path))
  /-- A job of a flow comes to its end. -/
  | finished {place generation : Nat} {job : Job} {before after : List Job} {task : Task}
      (hplace : sb.jobs[place]? = some job) (hflow : job.flow? = some (c, generation))
      (hjobs : d.jobs = before ++ job :: after) (htask : job.report? d.cluster = some task) :
      FlowTurn sb c d (.finishJob place) ({ d with jobs := before ++ after }.post task)
  /-- The interface comes to a task of a flow that is not the current one any more. -/
  | stale {task : Task} {rest errands : List Task} {generation : Nat}
      (hwaiting : sb.waiting c = task :: rest) (herrands : d.errands = task :: errands)
      (htask : task.generation? = some generation) (hstale : d.generation ≠ generation) :
      FlowTurn sb c d (.applyTask c) { d with errands }
  | resolved {result : Except Failure ResourcePath} {rest errands : List Task} {d' : Dialogue}
      (hwaiting : sb.waiting c = .resolved d.generation result :: rest)
      (herrands : d.errands = .resolved d.generation result :: errands)
      (hleads : Leads sb.registry c { d with errands } result d') :
      FlowTurn sb c d (.applyTask c) d'
  | portsRead {pod : ResourcePath} {result : Except Failure PodPorts} {rest errands : List Task}
      {d' : Dialogue} (hwaiting : sb.waiting c = .portsRead d.generation pod result :: rest)
      (herrands : d.errands = .portsRead d.generation pod result :: errands)
      (hyields : Yields c { d with errands } pod result d') :
      FlowTurn sb c d (.applyTask c) d'
  /-- The interface activates a session, and takes down whatever dialog is open. -/
  | dismissed {id : SessionId} (hactivates : sb.Activates id (.applyTask c)) :
      FlowTurn sb c d (.applyTask c) (d.tell [⟨c, .session id, .dismiss⟩])
  /-- A start dialog is answered. -/
  | confirmedSelection {n : Nat} {dialog : SelectionDialog} {selection : Selection}
      (hdialog : d.selections[n]? = some dialog) (hopen : dialog.answered = false) :
      FlowTurn sb c d (.confirmSelection c n selection)
        ((d.answerSelection n).advance dialog.generation .idle)
  | cancelledSelection {n : Nat} {dialog : SelectionDialog}
      (hdialog : d.selections[n]? = some dialog) (hopen : dialog.answered = false) :
      FlowTurn sb c d (.cancelSelection c n) ((d.answerSelection n).advance dialog.generation .idle)
  /-- A question is answered; a yes is told about. -/
  | confirmedDeletion {n : Nat} {dialog : DeletionDialog}
      (hdialog : d.deletions[n]? = some dialog) (hopen : dialog.answered = false) :
      FlowTurn sb c d (.confirmDeletion c n)
        (((d.answerDeletion n).advance dialog.generation .idle).tell
          ((if d.generation = dialog.generation then
              [⟨c, .flow dialog.generation, .info (.deleted dialog.pod)⟩] else []) ++
            [⟨c, .flow dialog.generation, .refresh⟩]))
  | cancelledDeletion {n : Nat} {dialog : DeletionDialog}
      (hdialog : d.deletions[n]? = some dialog) (hopen : dialog.answered = false) :
      FlowTurn sb c d (.cancelDeletion c n) ((d.answerDeletion n).advance dialog.generation .idle)

variable {sb : Switchboard} {c c' : ControllerId} {d : Dialogue}

/-! ## The flow of the controller itself -/

section Current

variable {generation : Nat}

/-- What belongs to an older flow has no say. -/
theorem abandon_of_stale (h : sb.isCurrent c generation = false) (e : Failure) :
    sb.abandon c generation e = sb := by
  simp [abandon, h]

theorem resolved_of_stale (h : sb.isCurrent c generation = false)
    (result : Except Failure ResourcePath) : sb.resolved c generation result = sb := by
  cases result with
  | error e => exact abandon_of_stale h e
  | ok pod =>
    simp only [Switchboard.resolved, podFound, h, Bool.false_eq_true, if_false, askDeletion]
    cases hctl : sb.controllers[c]? with
    | none => split <;> rfl
    | some ctl =>
      have hne : ctl.generation ≠ generation := by simpa [isCurrent, hctl] using h
      simp only [if_neg hne]
      split <;> rfl

theorem portsRead_of_stale (h : sb.isCurrent c generation = false) (pod : ResourcePath)
    (result : Except Failure PodPorts) : sb.portsRead c generation pod result = sb := by
  unfold Switchboard.portsRead
  split
  · exact abandon_of_stale h _
  · split
    · exact abandon_of_stale h _
    · cases hctl : sb.controllers[c]? with
      | none => simp [offer, hctl]
      | some ctl =>
        have hne : ctl.generation ≠ generation := by simpa [isCurrent, hctl] using h
        simp [offer, hctl, hne]

theorem dialogue_abandon (hd : sb.dialogue c = some d) (e : Failure) :
    (sb.abandon c d.generation e).dialogue c = some (d.fail c e) := by
  have hcurrent : sb.isCurrent c d.generation = true := by simp [isCurrent_of_dialogue hd]
  rw [abandon, if_pos hcurrent, dialogue_notify rfl, dialogue_advance, hd]
  simp [Dialogue.advance, Dialogue.tell, Dialogue.fail]

theorem leads_podFound (hd : sb.dialogue c = some d) (pod : ResourcePath) :
    ∃ d', (sb.podFound c d.generation pod).dialogue c = some d' ∧
      Leads sb.registry c d (.ok pod) d' := by
  have hcurrent : sb.isCurrent c d.generation = true := by simp [isCurrent_of_dialogue hd]
  unfold podFound
  split
  · rename_i hfree
    refine ⟨_, ?_, .reading hfree⟩
    rw [if_pos hcurrent, dialogue_spawn (g := d.generation) rfl, dialogue_advance, hd]
    simp [Dialogue.advance, Dialogue.spawn, Dialogue.read]
  · rename_i hlive
    refine ⟨_, ?_, .asked fun hnone => hlive hnone⟩
    obtain ⟨ctl, hctl, hview⟩ := exists_controller_of_dialogue hd
    have hgen : ctl.generation = d.generation := hview ▸ rfl
    have hcount : ctl.deletions.length = d.deletions.length := hview ▸ rfl
    simp only [askDeletion, hctl, if_pos hgen]
    rw [dialogue_notify rfl, dialogue_showDeletion, dialogue_advance, hd]
    simp [Dialogue.advance, Dialogue.tell, Dialogue.ask, Registry.linesOf, hcount, session?]

theorem leads_resolved (hd : sb.dialogue c = some d) (result : Except Failure ResourcePath) :
    ∃ d', (sb.resolved c d.generation result).dialogue c = some d' ∧
      Leads sb.registry c d result d' := by
  cases result with
  | error e => exact ⟨_, dialogue_abandon hd e, .failed⟩
  | ok pod => exact leads_podFound hd pod

theorem yields_portsRead (hd : sb.dialogue c = some d) (pod : ResourcePath)
    (result : Except Failure PodPorts) :
    ∃ d', (sb.portsRead c d.generation pod result).dialogue c = some d' ∧
      Yields c d pod result d' := by
  unfold Switchboard.portsRead
  split
  · exact ⟨_, dialogue_abandon hd _, .failed⟩
  · split
    · rename_i hnone
      exact ⟨_, dialogue_abandon hd _, .undeclared hnone⟩
    · rename_i hsome
      refine ⟨_, ?_, .offered fun hnone => hsome hnone⟩
      obtain ⟨ctl, hctl, hview⟩ := exists_controller_of_dialogue hd
      have hgen : ctl.generation = d.generation := hview ▸ rfl
      have hcount : ctl.selections.length = d.selections.length := hview ▸ rfl
      have haddress : ctl.address = d.address := hview ▸ rfl
      simp only [offer, hctl, if_pos hgen]
      rw [dialogue_notify rfl, dialogue_showSelection, dialogue_advance, hd]
      simp [Dialogue.advance, Dialogue.tell, Dialogue.offer, hcount, haddress]

theorem flowTurn_trigger (hd : sb.dialogue c = some d) (target : Target) :
    ∃ d', (sb.trigger c target).dialogue c = some d' ∧ sb.FlowTurn c d (.trigger c target) d' := by
  obtain ⟨ctl, hctl, hview⟩ := exists_controller_of_dialogue hd
  have hgen : ctl.generation = d.generation := hview ▸ rfl
  have hbegun : (sb.control c fun ctl => ctl.begin .resolving).dialogue c = some d.begin := by
    rw [dialogue_control (g := Dialogue.begin) fun _ => rfl, hd]
    rfl
  simp only [trigger, hctl, hgen]
  split
  · rename_i e hroute
    have hknown : target.known? = some (.error e) := by simp [Target.known?, hroute]
    exact ⟨_, dialogue_abandon hbegun e, .known hknown .failed⟩
  · rename_i hroute
    have hknown : target.known? = some (.ok target.path) := by simp [Target.known?, hroute]
    obtain ⟨d', hd', hleads⟩ := leads_podFound hbegun target.path
    exact ⟨d', hd', .known hknown hleads⟩
  · rename_i route hnotPod hroute
    have hunknown : target.known? = none := by
      cases route with
      | pod => exact absurd rfl hnotPod
      | workload | service => simp [Target.known?, hroute]
    refine ⟨_, ?_, .sought hroute hunknown⟩
    rw [dialogue_spawn (g := d.generation + 1) rfl, hbegun]
    rfl

end Current

/-! ## Moves -/

section Moves

theorem openSelection?_of_dialogue (hd : sb.dialogue c = some d) (n : Nat) :
    (sb.controllers[c]?.bind fun ctl => ctl.openSelection? n) =
      d.selections[n]?.filter fun dialog => !dialog.answered := by
  obtain ⟨ctl, hctl, rfl⟩ := exists_controller_of_dialogue hd
  simp [hctl, Controller.openSelection?, dialogueOf]

theorem openDeletion?_of_dialogue (hd : sb.dialogue c = some d) (n : Nat) :
    (sb.controllers[c]?.bind fun ctl => ctl.openDeletion? n) =
      d.deletions[n]?.filter fun dialog => !dialog.answered := by
  obtain ⟨ctl, hctl, rfl⟩ := exists_controller_of_dialogue hd
  simp [hctl, Controller.openDeletion?, dialogueOf]

theorem dialogue_confirmSelection (hd : sb.dialogue c = some d) {n : Nat}
    {dialog : SelectionDialog} (hdialog : d.selections[n]? = some dialog)
    (hopen : dialog.answered = false) (selection : Selection) :
    (sb.confirmSelection c n selection).dialogue c =
      some ((d.answerSelection n).advance dialog.generation .idle) := by
  have hfound := openSelection?_of_dialogue hd n
  rw [hdialog, Option.filter_some_pos (by simp [hopen])] at hfound
  have hclose : ((sb.control c fun ctl => ctl.answerSelection n).advance c dialog.generation
      .idle).dialogue c = some ((d.answerSelection n).advance dialog.generation .idle) := by
    rw [dialogue_advance, dialogue_answerSelection, hd]
    rfl
  simp only [confirmSelection, hfound]
  split
  · exact (dialogue_start ..).trans hclose
  · rename_i hstale
    rwa [advance_of_not_isCurrent (by simpa using hstale)] at hclose

theorem dialogue_cancelSelection (hd : sb.dialogue c = some d) {n : Nat}
    {dialog : SelectionDialog} (hdialog : d.selections[n]? = some dialog)
    (hopen : dialog.answered = false) :
    (sb.cancelSelection c n).dialogue c =
      some ((d.answerSelection n).advance dialog.generation .idle) := by
  have hfound := openSelection?_of_dialogue hd n
  rw [hdialog, Option.filter_some_pos (by simp [hopen])] at hfound
  simp only [cancelSelection, hfound]
  rw [dialogue_advance, dialogue_answerSelection, hd]
  rfl

theorem dialogue_cancelDeletion (hd : sb.dialogue c = some d) {n : Nat} {dialog : DeletionDialog}
    (hdialog : d.deletions[n]? = some dialog) (hopen : dialog.answered = false) :
    (sb.cancelDeletion c n).dialogue c =
      some ((d.answerDeletion n).advance dialog.generation .idle) := by
  have hfound := openDeletion?_of_dialogue hd n
  rw [hdialog, Option.filter_some_pos (by simp [hopen])] at hfound
  simp only [cancelDeletion, hfound]
  rw [dialogue_advance, dialogue_answerDeletion, hd]
  rfl

theorem dialogue_confirmDeletion (hd : sb.dialogue c = some d) {n : Nat} {dialog : DeletionDialog}
    (hdialog : d.deletions[n]? = some dialog) (hopen : dialog.answered = false) :
    (sb.confirmDeletion c n).dialogue c =
      some (((d.answerDeletion n).advance dialog.generation .idle).tell
        ((if d.generation = dialog.generation then
            [⟨c, .flow dialog.generation, .info (.deleted dialog.pod)⟩] else []) ++
          [⟨c, .flow dialog.generation, .refresh⟩])) := by
  have hfound := openDeletion?_of_dialogue hd n
  rw [hdialog, Option.filter_some_pos (by simp [hopen])] at hfound
  have hstopped : (dialog.sessions.foldl stopSession
      (sb.control c fun ctl => ctl.answerDeletion n)).dialogue c = some (d.answerDeletion n) := by
    rw [dialogue_foldl _ _ fun sb id => dialogue_stopSession sb c id, dialogue_answerDeletion, hd]
    rfl
  simp only [confirmDeletion, hfound]
  rw [isCurrent_of_dialogue hstopped, dialogue_notify rfl]
  by_cases hgen : d.generation = dialog.generation
  · have hgen' : (d.answerDeletion n).generation = dialog.generation := hgen
    rw [if_pos (by simpa using hgen'), dialogue_notify rfl, dialogue_advance, hstopped]
    simp [Dialogue.advance, Dialogue.tell, hgen, hgen']
  · have hgen' : (d.answerDeletion n).generation ≠ dialog.generation := hgen
    rw [if_neg (by simpa using hgen'), hstopped]
    simp [Dialogue.advance, Dialogue.tell, hgen, hgen']

/-- A start dialog is there to be answered, or a move that answers it does nothing. -/
theorem selection_cases (hd : sb.dialogue c = some d) (n : Nat) :
    (∃ dialog, d.selections[n]? = some dialog ∧ dialog.answered = false) ∨
      (∀ selection, sb.confirmSelection c n selection = sb) ∧ sb.cancelSelection c n = sb := by
  have hfound := openSelection?_of_dialogue hd n
  cases hopen : d.selections[n]?.filter fun dialog => !dialog.answered with
  | none =>
    rw [hopen] at hfound
    exact .inr ⟨fun selection => by simp only [confirmSelection, hfound],
      by simp only [cancelSelection, hfound]⟩
  | some dialog =>
    obtain ⟨hdialog, hanswered⟩ := Option.filter_eq_some_iff.1 hopen
    exact .inl ⟨dialog, hdialog, by simpa using hanswered⟩

theorem deletion_cases (hd : sb.dialogue c = some d) (n : Nat) :
    (∃ dialog, d.deletions[n]? = some dialog ∧ dialog.answered = false) ∨
      sb.confirmDeletion c n = sb ∧ sb.cancelDeletion c n = sb := by
  have hfound := openDeletion?_of_dialogue hd n
  cases hopen : d.deletions[n]?.filter fun dialog => !dialog.answered with
  | none =>
    rw [hopen] at hfound
    exact .inr ⟨by simp only [confirmDeletion, hfound], by simp only [cancelDeletion, hfound]⟩
  | some dialog =>
    obtain ⟨hdialog, hanswered⟩ := Option.filter_eq_some_iff.1 hopen
    exact .inl ⟨dialog, hdialog, by simpa using hanswered⟩

theorem flowTurn_applyTask (hd : sb.dialogue c = some d) :
    ∃ d', (sb.applyTask c).dialogue c = some d' ∧ sb.FlowTurn c d (.applyTask c) d' := by
  have hidle (hsame : (sb.applyTask c).dialogue c = sb.dialogue c)
      (hactivation : ∀ id, ¬ sb.Activates id (.applyTask c)) :
      ∃ d', (sb.applyTask c).dialogue c = some d' ∧ sb.FlowTurn c d (.applyTask c) d' :=
    ⟨d, hsame.trans hd, .rest nofun nofun fun _ => hactivation⟩
  cases hwaiting : sb.waiting c with
  | nil =>
    rw [applyTask_of_nil hwaiting]
    refine ⟨d, hd, .rest nofun nofun fun _ id h => ?_⟩
    cases h with
    | applied hwaiting' => cases hwaiting.symm.trans hwaiting'
  | cons task rest =>
    have happly := applyTask_of_cons hwaiting
    cases task with
    | resolved generation result =>
      obtain ⟨errands, herrands, hpopped⟩ := dialogue_popTask hd hwaiting rfl
      by_cases hgen : d.generation = generation
      · subst hgen
        obtain ⟨d', hd', hleads⟩ := leads_resolved hpopped result
        exact ⟨d', happly ▸ hd', .resolved hwaiting herrands hleads⟩
      · have hstale : (sb.popTask c).isCurrent c generation = false := by
          simpa [isCurrent_of_dialogue hpopped] using hgen
        refine ⟨_, ?_, .stale hwaiting herrands rfl hgen⟩
        rw [happly, perform, resolved_of_stale hstale, hpopped]
    | portsRead generation pod result =>
      obtain ⟨errands, herrands, hpopped⟩ := dialogue_popTask hd hwaiting rfl
      by_cases hgen : d.generation = generation
      · subst hgen
        obtain ⟨d', hd', hyields⟩ := yields_portsRead hpopped pod result
        exact ⟨d', happly ▸ hd', .portsRead hwaiting herrands hyields⟩
      · have hstale : (sb.popTask c).isCurrent c generation = false := by
          simpa [isCurrent_of_dialogue hpopped] using hgen
        refine ⟨_, ?_, .stale hwaiting herrands rfl hgen⟩
        rw [happly, perform, portsRead_of_stale hstale, hpopped]
    | checked start key selection result =>
      refine hidle ?_ fun id h => ?_
      · rw [happly, perform, dialogue_checked, dialogue_popTask_of_none hwaiting rfl]
      · cases h with
        | applied hwaiting' => cases hwaiting.symm.trans hwaiting'
    | activate id =>
      have hpopped := dialogue_popTask_of_none hwaiting rfl
      by_cases hstarting : ∃ s, sb.session? id = some s ∧ s.state = .starting
      · obtain ⟨s, hs, hstate⟩ := hstarting
        refine ⟨_, ?_, .dismissed (.applied hwaiting hs hstate)⟩
        have hs' : (sb.popTask c).session? id = some s := hs
        simp only [happly, perform, activate, hs', if_pos hstate]
        rw [dialogue_notify rfl, dialogue_notify_of_other fun _ => rfl, dialogue_live, hpopped, hd]
        rfl
      · refine hidle ?_ fun id' h => ?_
        · rw [happly, perform, ← hpopped]
          unfold activate
          split
          · rename_i s hs
            split
            · rename_i hstate
              exact absurd ⟨s, hs, hstate⟩ hstarting
            · rfl
          · rfl
        · cases h with
          | applied hwaiting' hs hstate =>
            cases hwaiting.symm.trans hwaiting'
            exact hstarting ⟨_, hs, hstate⟩
    | retire id outcome =>
      refine hidle ?_ fun id h => ?_
      · rw [happly, perform, dialogue_retire, dialogue_popTask_of_none hwaiting rfl]
      · cases h with
        | applied hwaiting' => cases hwaiting.symm.trans hwaiting'

/-- A job of a flow of the controller ends, and hands what came of it to the interface. -/
theorem dialogue_runJob {job : Job} {generation : Nat} (hd : sb.dialogue c = some d)
    (hflow : job.flow? = some (c, generation)) :
    ∃ task, job.report? d.cluster = some task ∧
      (sb.runJob job).dialogue c = some (d.post task) := by
  obtain ⟨ctl, hctl, hview⟩ := exists_controller_of_dialogue hd
  have hcluster : sb.surroundings.cluster = d.cluster := hview ▸ rfl
  have hasked (requests : List Request) : { sb with requests }.dialogue c = some d :=
    (dialogue_congr rfl rfl rfl rfl).trans hd
  cases job with
  | resolve c' generation' route path =>
    cases hflow
    refine ⟨_, rfl, ?_⟩
    rw [runJob, dialogue_post rfl, hasked, hcluster]
    rfl
  | readPorts c' generation' pod =>
    cases hflow
    refine ⟨_, rfl, ?_⟩
    rw [runJob, dialogue_post rfl, hasked, hcluster]
    rfl
  | checkPorts => cases hflow

theorem dialogue_runJob_of_other {job : Job}
    (hflow : ∀ generation, job.flow? ≠ some (c, generation)) :
    (sb.runJob job).dialogue c = sb.dialogue c := by
  cases job with
  | resolve c' generation route path =>
    have hc : c' ≠ c := fun hc => hflow generation (by simp [Job.flow?, hc])
    exact dialogue_post_of_ne hc _
  | readPorts c' generation pod =>
    have hc : c' ≠ c := fun hc => hflow generation (by simp [Job.flow?, hc])
    exact dialogue_post_of_ne hc _
  | checkPorts => exact dialogue_post_of_none _ rfl

theorem flowTurn_finishJob (hd : sb.dialogue c = some d) (place : Nat) :
    ∃ d', (sb.finishJob place).dialogue c = some d' ∧ sb.FlowTurn c d (.finishJob place) d' := by
  cases hplace : sb.jobs[place]? with
  | none =>
    refine ⟨d, by simpa only [finishJob, hplace] using hd, .rest nofun (fun _ _ _ hm hjob => ?_)
      nofun⟩
    cases hm
    cases hplace.symm.trans hjob
  | some job =>
    obtain ⟨before, after, hjobs, herased⟩ := exists_eraseIdx hplace
    simp only [finishJob, hplace, herased]
    let rest : Switchboard := { sb with jobs := before ++ after }
    by_cases hflow : ∃ generation, job.flow? = some (c, generation)
    · obtain ⟨generation, hflow⟩ := hflow
      obtain ⟨ctl, hctl, hview⟩ := exists_controller_of_dialogue hd
      have hrest : rest.dialogue c =
          some { d with jobs := ({ sb with jobs := before }.flowJobs c) ++
            ({ sb with jobs := after }.flowJobs c) } := by
        rw [← hview]
        simp [rest, dialogue, hctl, dialogueOf, flowJobs, flowTold]
      obtain ⟨task, htask, hran⟩ := dialogue_runJob hrest hflow
      refine ⟨_, hran, .finished hplace hflow ?_ htask⟩
      rw [← hview]
      simp [dialogueOf, flowJobs, hjobs, hflow]
    · have hother : ∀ generation, job.flow? ≠ some (c, generation) := not_exists.1 hflow
      have hrest : rest.dialogue c = sb.dialogue c := by
        refine dialogue_congr rfl ?_ rfl rfl
        have hdrop : (job.flow?.any fun flow => flow.1 = c) = false := by
          rw [← Bool.not_eq_true, Option.any_eq_true]
          rintro ⟨⟨c', generation⟩, hflow, hc⟩
          exact hother generation (by simpa [← of_decide_eq_true hc] using hflow)
        simp [rest, flowJobs, hjobs, hdrop]
      refine ⟨d, (dialogue_runJob_of_other hother).trans (hrest.trans hd), .rest nofun ?_ nofun⟩
      rintro place' job' generation ⟨⟩ hjob'
      cases hplace.symm.trans hjob'
      exact hother generation

/-- Such a move leaves the dialogue as it is. -/
theorem flowTurn_of_isBeside {m : Move} (hm : m.isBeside c = true) : sb.FlowTurn c d m d := by
  refine .rest ?_ ?_ ?_
  · rintro target rfl
    simp [Move.isBeside] at hm
  · rintro place job generation rfl
    cases hm
  · rintro rfl
    simp [Move.isBeside] at hm

/-- A move takes a dialogue through a turn. -/
theorem flowTurn_step (wf : sb.registry.WellFormed) (hd : sb.dialogue c = some d) (m : Move) :
    ∃ d', (sb.step m).dialogue c = some d' ∧ sb.FlowTurn c d m d' := by
  have hrest (hsame : (sb.step m).dialogue c = sb.dialogue c) (hm : m.isBeside c = true) :
      ∃ d', (sb.step m).dialogue c = some d' ∧ sb.FlowTurn c d m d' :=
    ⟨d, hsame.trans hd, flowTurn_of_isBeside hm⟩
  cases m with
  | trigger c' target =>
    by_cases hc : c' = c
    · subst hc
      exact flowTurn_trigger hd target
    · exact hrest (dialogue_trigger_of_ne hc target) (by simp [Move.isBeside, hc])
  | start c' pod selection => exact hrest (dialogue_start ..) rfl
  | confirmSelection c' n selection =>
    by_cases hc : c' = c
    · subst hc
      rcases selection_cases hd n with ⟨dialog, hdialog, hopen⟩ | hidle
      · exact ⟨_, dialogue_confirmSelection hd hdialog hopen selection,
          .confirmedSelection hdialog hopen⟩
      · exact hrest (congrArg (dialogue · _) (hidle.1 selection)) rfl
    · refine hrest ?_ rfl
      simp only [step, confirmSelection]
      split
      · rfl
      · split
        · rw [dialogue_start, dialogue_advance_of_ne hc, dialogue_control_of_ne hc]
        · exact dialogue_control_of_ne hc _
  | cancelSelection c' n =>
    by_cases hc : c' = c
    · subst hc
      rcases selection_cases hd n with ⟨dialog, hdialog, hopen⟩ | hidle
      · exact ⟨_, dialogue_cancelSelection hd hdialog hopen, .cancelledSelection hdialog hopen⟩
      · exact hrest (congrArg (dialogue · _) hidle.2) rfl
    · refine hrest ?_ rfl
      simp only [step, cancelSelection]
      split
      · rfl
      · rw [dialogue_advance_of_ne hc, dialogue_control_of_ne hc]
  | confirmDeletion c' n =>
    by_cases hc : c' = c
    · subst hc
      rcases deletion_cases hd n with ⟨dialog, hdialog, hopen⟩ | hidle
      · exact ⟨_, dialogue_confirmDeletion hd hdialog hopen, .confirmedDeletion hdialog hopen⟩
      · exact hrest (congrArg (dialogue · _) hidle.1) rfl
    · refine hrest ?_ rfl
      have hstopped (ids : List SessionId) : (ids.foldl stopSession
          (sb.control c' fun ctl => ctl.answerDeletion n)).dialogue c = sb.dialogue c := by
        rw [dialogue_foldl _ _ fun sb id => dialogue_stopSession sb c id, dialogue_control_of_ne hc]
      simp only [step, confirmDeletion]
      split
      · rfl
      · rw [dialogue_notify_of_ne hc]
        split
        · rw [dialogue_notify_of_ne hc, dialogue_advance_of_ne hc, hstopped]
        · exact hstopped _
  | cancelDeletion c' n =>
    by_cases hc : c' = c
    · subst hc
      rcases deletion_cases hd n with ⟨dialog, hdialog, hopen⟩ | hidle
      · exact ⟨_, dialogue_cancelDeletion hd hdialog hopen, .cancelledDeletion hdialog hopen⟩
      · exact hrest (congrArg (dialogue · _) hidle.2) rfl
    · refine hrest ?_ rfl
      simp only [step, cancelDeletion]
      split
      · rfl
      · rw [dialogue_advance_of_ne hc, dialogue_control_of_ne hc]
  | stop key =>
    refine hrest ?_ rfl
    cases hentry : sb.registry.entries.get? key with
    | none =>
      simp only [step, stop_of_none hentry]
      rfl
    | some id =>
      rw [step_stop_of_entry wf hentry]
      exact dialogue_stopSession sb c id
  | stopAll =>
    exact hrest (dialogue_foldl sb c (fun sb id => dialogue_closeSession sb c id) _) rfl
  | applyTask c' =>
    by_cases hc : c' = c
    · subst hc
      exact flowTurn_applyTask hd
    · refine hrest ?_ (by simp [Move.isBeside, hc])
      cases hwaiting : sb.waiting c' with
      | nil => rw [step, applyTask_of_nil hwaiting]
      | cons task rest =>
        have hpopped : (sb.popTask c').dialogue c = sb.dialogue c := dialogue_popTask_of_ne hc
        rw [step, applyTask_of_cons hwaiting, ← hpopped]
        cases task with
        | resolved generation result => exact dialogue_resolved_of_ne hc generation result
        | portsRead generation pod result => exact dialogue_portsRead_of_ne hc generation pod result
        | checked start key selection result => exact dialogue_checked ..
        | activate id =>
          simp only [perform, activate]
          split
          · split
            · rw [dialogue_notify_of_ne hc, dialogue_notify_of_ne hc, dialogue_live]
            · rfl
          · rfl
        | retire id outcome => exact dialogue_retire ..
  | closeInterface c' =>
    by_cases hc : c' = c
    · subst hc
      refine ⟨_, ?_, .shut⟩
      rw [step, dialogue_control (g := Dialogue.shut) fun ctl => ?_, hd]
      · rfl
      · simp [dialogueOf, UiQueue.close, Dialogue.shut, flowJobs, flowTold]
    · exact hrest (dialogue_control_of_ne hc _) rfl
  | finishJob place => exact flowTurn_finishJob hd place
  | stepRunner id => exact hrest (dialogue_stepRunner sb c id) rfl
  | signalReady t outcome => exact hrest rfl rfl
  | signalFinish t outcome => exact hrest rfl rfl
  | elapse duration => exact hrest rfl rfl
  | hold place => exact hrest rfl rfl
  | unhold place => exact hrest rfl rfl
  | setCluster cluster =>
    refine ⟨{ d with cluster }, ?_, .recast⟩
    obtain ⟨ctl, hctl, rfl⟩ := exists_controller_of_dialogue hd
    simp [dialogue, step, hctl, dialogueOf, flowJobs, flowTold]
  | makeSession key tunnels plan =>
    refine hrest ?_ rfl
    simp only [step, makeSession]
    split <;> rfl
  | add id => exact hrest rfl rfl
  | delete key => exact hrest rfl rfl
  | deleteSession id => exact hrest rfl rfl
  | close id => exact hrest (dialogue_closeSession sb c id) rfl
  | launch c' id =>
    refine hrest ?_ rfl
    simp only [step]
    split
    · exact dialogue_launchRunner sb c c' id
    · rfl

end Moves

end Switchboard

end PodTunnels
