import PodTunnels.Proofs.Apart

/-!
# What no start sees

Starts have little to do with anything else. Dialog flows, sessions and their runners go their way
without touching the claims of a controller, the checks of ports, what came of these, or the
sessions and notices of a start. Such a change is aside. A move is aside unless it belongs to a
start, shuts an interface down, or finishes a check (`aside_step`).

Along with that it is shown how a dialog flow goes on: its generation does not fall, and the dialogs
that were shown are kept.
-/

namespace PodTunnels

def Job.isCheck : Job → Bool
  | .checkPorts .. => true
  | _ => false

def Task.isVerdict : Task → Bool
  | .checked .. => true
  | _ => false

/-- A list around an element, and without it. -/
theorem exists_eraseIdx {α : Type} {as : List α} {i : Nat} {a : α} (h : as[i]? = some a) :
    ∃ bs cs, as = bs ++ a :: cs ∧ as.eraseIdx i = bs ++ cs := by
  obtain ⟨hbound, rfl⟩ := List.getElem?_eq_some_iff.1 h
  refine ⟨as.take i, as.drop (i + 1), ?_, List.eraseIdx_eq_take_drop_succ ..⟩
  rw [← List.drop_eq_getElem_cons hbound, List.take_append_drop]

namespace Controller

/-! ## The course of dialog flows -/

/-- No dialog is ahead of its flow. -/
structure Sound (ctl : Controller) : Prop where
  selection : ∀ d ∈ ctl.selections, d.generation ≤ ctl.generation
  deletion : ∀ d ∈ ctl.deletions, d.generation ≤ ctl.generation

/-- A dialog flow goes on: its generation does not fall, and the dialogs that were shown are kept
with their generations and sessions. -/
structure Onward (ctl ctl' : Controller) : Prop where
  generation : ctl.generation ≤ ctl'.generation
  selection : ∀ (i : Nat) (d : SelectionDialog), ctl.selections[i]? = some d →
    ∃ d', ctl'.selections[i]? = some d' ∧ d'.generation = d.generation
  deletion : ∀ (i : Nat) (d : DeletionDialog), ctl.deletions[i]? = some d →
    ∃ d', ctl'.deletions[i]? = some d' ∧ d'.generation = d.generation ∧ d'.sessions = d.sessions
  sound : ctl.Sound → ctl'.Sound

variable {ctl ctl' ctl'' : Controller}

theorem Onward.trans (h : ctl.Onward ctl') (h' : ctl'.Onward ctl'') : ctl.Onward ctl'' where
  generation := Nat.le_trans h.generation h'.generation
  selection i d hd := by
    obtain ⟨d', hd', hgen⟩ := h.selection i d hd
    obtain ⟨d'', hd'', hgen'⟩ := h'.selection i d' hd'
    exact ⟨d'', hd'', hgen'.trans hgen⟩
  deletion i d hd := by
    obtain ⟨d', hd', hgen, hsessions⟩ := h.deletion i d hd
    obtain ⟨d'', hd'', hgen', hsessions'⟩ := h'.deletion i d' hd'
    exact ⟨d'', hd'', hgen'.trans hgen, hsessions'.trans hsessions⟩
  sound hs := h'.sound (h.sound hs)

/-- A change that shows no dialog. -/
theorem Onward.of_dialogs (hgen : ctl.generation ≤ ctl'.generation)
    (hselections : ctl'.selections = ctl.selections) (hdeletions : ctl'.deletions = ctl.deletions) :
    ctl.Onward ctl' where
  generation := hgen
  selection _ d hd := ⟨d, hselections ▸ hd, rfl⟩
  deletion _ d hd := ⟨d, hdeletions ▸ hd, rfl, rfl⟩
  sound hs :=
    ⟨fun d hd => Nat.le_trans (hs.selection d (hselections ▸ hd)) hgen,
      fun d hd => Nat.le_trans (hs.deletion d (hdeletions ▸ hd)) hgen⟩

theorem Onward.refl (ctl : Controller) : ctl.Onward ctl :=
  .of_dialogs (Nat.le_refl _) rfl rfl

theorem onward_begin (ctl : Controller) (stage : Stage) : ctl.Onward (ctl.begin stage) :=
  .of_dialogs (Nat.le_succ _) rfl rfl

@[simp] theorem generation_advance (ctl : Controller) (generation : Nat) (stage : Stage) :
    (ctl.advance generation stage).generation = ctl.generation := by
  unfold advance
  split <;> rfl

theorem onward_advance (ctl : Controller) (generation : Nat) (stage : Stage) :
    ctl.Onward (ctl.advance generation stage) := by
  unfold advance
  split
  · exact .of_dialogs (Nat.le_refl _) rfl rfl
  · exact .refl ctl

/-- A dialog of the current generation is shown. -/
theorem onward_showSelection {d : SelectionDialog} (hd : d.generation = ctl.generation) :
    ctl.Onward { ctl with selections := ctl.selections ++ [d] } where
  generation := Nat.le_refl _
  selection i d' hd' :=
    ⟨d', (List.getElem?_append_left (List.getElem?_eq_some_iff.1 hd').1).trans hd', rfl⟩
  deletion i d' hd' := ⟨d', hd', rfl, rfl⟩
  sound hs := by
    refine ⟨fun d' hd' => ?_, hs.deletion⟩
    rcases List.mem_append.1 hd' with hold | hnew
    · exact hs.selection d' hold
    · exact Nat.le_of_eq (List.mem_singleton.1 hnew ▸ hd)

theorem onward_showDeletion {d : DeletionDialog} (hd : d.generation = ctl.generation) :
    ctl.Onward { ctl with deletions := ctl.deletions ++ [d] } where
  generation := Nat.le_refl _
  selection i d' hd' := ⟨d', hd', rfl⟩
  deletion i d' hd' :=
    ⟨d', (List.getElem?_append_left (List.getElem?_eq_some_iff.1 hd').1).trans hd', rfl, rfl⟩
  sound hs := by
    refine ⟨hs.selection, fun d' hd' => ?_⟩
    rcases List.mem_append.1 hd' with hold | hnew
    · exact hs.deletion d' hold
    · exact Nat.le_of_eq (List.mem_singleton.1 hnew ▸ hd)

theorem onward_answerSelection (ctl : Controller) (dialog : Nat) :
    ctl.Onward (ctl.answerSelection dialog) where
  generation := Nat.le_refl _
  selection i d hd := by
    simp only [answerSelection, List.getElem?_modify, hd]
    split <;> exact ⟨_, rfl, rfl⟩
  deletion i d hd := ⟨d, hd, rfl, rfl⟩
  sound hs := by
    refine ⟨fun d hd => ?_, hs.deletion⟩
    obtain ⟨i, hi⟩ := List.mem_iff_getElem?.1 hd
    simp only [answerSelection, List.getElem?_modify] at hi
    obtain ⟨d₀, hd₀, rfl⟩ := Option.map_eq_some_iff.1 hi
    have hle := hs.selection d₀ (List.mem_of_getElem? hd₀)
    split <;> exact hle

theorem onward_answerDeletion (ctl : Controller) (dialog : Nat) :
    ctl.Onward (ctl.answerDeletion dialog) where
  generation := Nat.le_refl _
  selection i d hd := ⟨d, hd, rfl⟩
  deletion i d hd := by
    simp only [answerDeletion, List.getElem?_modify, hd]
    split <;> exact ⟨_, rfl, rfl, rfl⟩
  sound hs := by
    refine ⟨hs.selection, fun d hd => ?_⟩
    obtain ⟨i, hi⟩ := List.mem_iff_getElem?.1 hd
    simp only [answerDeletion, List.getElem?_modify] at hi
    obtain ⟨d₀, hd₀, rfl⟩ := Option.map_eq_some_iff.1 hi
    have hle := hs.deletion d₀ (List.mem_of_getElem? hd₀)
    split <;> exact hle

/-! ## What starts do not see of a controller -/

/-- What came of checks, in the order in which the interface will apply it. -/
def verdicts (ctl : Controller) : List Task :=
  ctl.queue.waiting.filter Task.isVerdict

/-- A change of a controller that starts do not see. -/
structure Aside (ctl ctl' : Controller) : Prop where
  onward : ctl.Onward ctl'
  starts : ctl'.starts = ctl.starts
  isOpen : ctl'.queue.isOpen = ctl.queue.isOpen
  verdicts : ctl'.verdicts = ctl.verdicts

theorem Aside.refl (ctl : Controller) : ctl.Aside ctl :=
  ⟨.refl ctl, rfl, rfl, rfl⟩

theorem Aside.trans (h : ctl.Aside ctl') (h' : ctl'.Aside ctl'') : ctl.Aside ctl'' :=
  ⟨h.onward.trans h'.onward, h'.starts.trans h.starts, h'.isOpen.trans h.isOpen,
    h'.verdicts.trans h.verdicts⟩

/-- The queue and the claims are what they were. -/
theorem Onward.aside (h : ctl.Onward ctl') (hstarts : ctl'.starts = ctl.starts)
    (hqueue : ctl'.queue = ctl.queue) : ctl.Aside ctl' :=
  ⟨h, hstarts, congrArg UiQueue.isOpen hqueue, by rw [Controller.verdicts, hqueue, verdicts]⟩

theorem aside_advance (ctl : Controller) (generation : Nat) (stage : Stage) :
    ctl.Aside (ctl.advance generation stage) := by
  refine (ctl.onward_advance generation stage).aside ?_ ?_ <;>
  · unfold advance
    split <;> rfl

theorem aside_post (ctl : Controller) {task : Task} (htask : task.isVerdict = false) :
    ctl.Aside (ctl.post task) := by
  refine ⟨.of_dialogs (Nat.le_refl _) rfl rfl, rfl, ?_, ?_⟩
  · simp only [post, UiQueue.send]
    split <;> rfl
  · simp only [verdicts, post, UiQueue.send]
    split
    · simp [htask]
    · rfl

end Controller

namespace Switchboard

/-! ## The view of starts -/

def checks (sb : Switchboard) : List Job :=
  sb.jobs.filter Job.isCheck

/-- The sessions that were made for a start, with their numbers. -/
def made (sb : Switchboard) (start : StartId) : List (Wiring × SessionId) :=
  sb.wirings.zipIdx.filter fun made => made.1.start = some start

/-- The transports that were opened for starts. -/
def opened (sb : Switchboard) : List TransportId :=
  (sb.occasions.zipIdx.filter fun opened => opened.1 = .start).map Prod.snd

/-- A change that starts do not see. -/
structure Aside (sb sb' : Switchboard) : Prop where
  length : sb'.controllers.length = sb.controllers.length
  controller : ∀ (c : ControllerId) (ctl : Controller), sb.controllers[c]? = some ctl →
    ∃ ctl', sb'.controllers[c]? = some ctl' ∧ ctl.Aside ctl'
  checks : sb'.checks = sb.checks
  startCount : sb'.startCount = sb.startCount
  refusesEmpty : sb'.surroundings.refusesEmpty = sb.surroundings.refusesEmpty
  plans : sb'.surroundings.plans = sb.surroundings.plans
  made : sb'.made = sb.made
  opened : sb'.opened = sb.opened
  told : sb'.toldStart = sb.toldStart
  closings : sb.closings <+: sb'.closings

namespace Aside

variable {sb sb' sb₁ sb₂ sb₃ : Switchboard} {c : ControllerId} {id : SessionId} {key : SessionKey}

theorem trans (h : sb₁.Aside sb₂) (h' : sb₂.Aside sb₃) : sb₁.Aside sb₃ where
  length := h'.length.trans h.length
  controller c ctl hctl := by
    obtain ⟨ctl', hctl', haside⟩ := h.controller c ctl hctl
    obtain ⟨ctl'', hctl'', haside'⟩ := h'.controller c ctl' hctl'
    exact ⟨ctl'', hctl'', haside.trans haside'⟩
  checks := h'.checks.trans h.checks
  startCount := h'.startCount.trans h.startCount
  refusesEmpty := h'.refusesEmpty.trans h.refusesEmpty
  plans := h'.plans.trans h.plans
  made := h'.made.trans h.made
  opened := h'.opened.trans h.opened
  told := h'.told.trans h.told
  closings := h.closings.trans h'.closings

theorem of_apart (h : sb.Apart sb') : sb.Aside sb' where
  length := congrArg List.length h.controllers
  controller _ ctl hctl := ⟨ctl, h.controllers ▸ hctl, .refl ctl⟩
  checks := congrArg (List.filter Job.isCheck) h.jobs
  startCount := h.startCount
  refusesEmpty := h.refusesEmpty
  plans := h.plans
  made := by
    funext start
    rw [Switchboard.made, Switchboard.made, h.wirings]
  opened := by rw [Switchboard.opened, Switchboard.opened, h.occasions]
  told := h.told
  closings := h.closings

theorem refl (sb : Switchboard) : sb.Aside sb :=
  of_apart (.refl sb)

/-- A controller is there before and after, or not at all. -/
theorem controller_cases (h : sb.Aside sb') (c : ControllerId) :
    (∃ ctl ctl', sb.controllers[c]? = some ctl ∧ sb'.controllers[c]? = some ctl' ∧
      ctl.Aside ctl') ∨ sb.controllers[c]? = none ∧ sb'.controllers[c]? = none := by
  cases hctl : sb.controllers[c]? with
  | none =>
    refine .inr ⟨rfl, ?_⟩
    rw [List.getElem?_eq_none_iff] at hctl ⊢
    rwa [h.length]
  | some ctl =>
    obtain ⟨ctl', hctl', haside⟩ := h.controller c ctl hctl
    exact .inl ⟨ctl, ctl', rfl, hctl', haside⟩

/-! ## Elementary changes -/

theorem control {f : Controller → Controller}
    (hf : ∀ ctl, sb.controllers[c]? = some ctl → ctl.Aside (f ctl)) :
    sb.Aside (sb.control c f) where
  length := List.length_modify ..
  controller c' ctl hctl := by
    simp only [Switchboard.control, List.getElem?_modify, hctl]
    split
    · rename_i hc
      exact ⟨f ctl, rfl, hf ctl (hc ▸ hctl)⟩
    · exact ⟨ctl, rfl, .refl ctl⟩
  checks := rfl
  startCount := rfl
  refusesEmpty := rfl
  plans := rfl
  made := rfl
  opened := rfl
  told := rfl
  closings := List.prefix_refl _

theorem jobs (sb : Switchboard) {jobs : List Job} (hjobs : jobs.filter Job.isCheck = sb.checks) :
    sb.Aside { sb with jobs } :=
  { of_apart (.refl sb) with checks := hjobs }

theorem spawn (sb : Switchboard) {job : Job} (hjob : job.isCheck = false) :
    sb.Aside (sb.spawn job) :=
  jobs sb (by simp [Switchboard.checks, hjob])

theorem advance (sb : Switchboard) (c : ControllerId) (generation : Nat) (stage : Stage) :
    sb.Aside (sb.advance c generation stage) :=
  control fun ctl _ => ctl.aside_advance generation stage

theorem post (sb : Switchboard) (c : ControllerId) {task : Task} (htask : task.isVerdict = false) :
    sb.Aside (sb.post c task) :=
  control fun ctl _ => ctl.aside_post htask

theorem popTask {task : Task} {rest : List Task} (hwaiting : sb.waiting c = task :: rest)
    (htask : task.isVerdict = false) : sb.Aside (sb.popTask c) := by
  refine control fun ctl hctl => ⟨.of_dialogs (Nat.le_refl _) rfl rfl, rfl, rfl, ?_⟩
  have hqueue : ctl.queue.waiting = task :: rest := by
    simpa [Switchboard.waiting, queue?, hctl] using hwaiting
  simp [Controller.verdicts, hqueue, htask]

theorem notify_flow (sb : Switchboard) (c : ControllerId) (generation : Nat) (effect : Effect) :
    sb.Aside (sb.notify c (.flow generation) effect) :=
  of_apart (.notify sb c (by simp) effect)

/-- A session is made for nobody's start. -/
theorem enroll (sb : Switchboard) {w : Wiring} (hw : w.start = none)
    {entries : OrderedMap SessionKey SessionId} :
    sb.Aside { sb with registry := { (sb.registry.enroll w).2 with entries } } := by
  refine { of_apart (.refl sb) with made := ?_ }
  funext start
  simp [Switchboard.made, wirings, Registry.enroll, Session.ofWiring, List.zipIdx_append, hw]

/-- A transport is opened for nobody's start. -/
theorem connect (sb : Switchboard) {t : Transport} (ht : t.occasion ≠ .start) :
    sb.Aside (sb.connect t).2 := by
  refine { of_apart (.refl sb) with opened := ?_ }
  simp [Switchboard.opened, occasions, Switchboard.connect, List.zipIdx_append, ht]

/-! ## Dialog flows -/

theorem abandon (sb : Switchboard) (c : ControllerId) (generation : Nat) (e : Failure) :
    sb.Aside (sb.abandon c generation e) := by
  unfold Switchboard.abandon
  split
  · exact (advance sb c generation .idle).trans (notify_flow ..)
  · exact .refl sb

/-- A dialog is shown for the generation that is current. -/
theorem showDialog {generation : Nat} {stage : Stage} {ctl : Controller}
    (hctl : sb.controllers[c]? = some ctl) (hgen : ctl.generation = generation)
    {f : Controller → Controller}
    (hf : ∀ ctl : Controller, ctl.generation = generation → ctl.Aside (f ctl)) (effect : Effect) :
    sb.Aside (((sb.advance c generation stage).control c f).notify c (.flow generation) effect) := by
  refine (advance sb c generation stage).trans (.trans (control fun ctl' hctl' => hf ctl' ?_)
    (notify_flow ..))
  simp only [Switchboard.advance, Switchboard.control, List.getElem?_modify, if_true, hctl] at hctl'
  cases hctl'
  exact (ctl.generation_advance generation stage).trans hgen

theorem askDeletion (sb : Switchboard) (c : ControllerId) (generation : Nat) (pod : ResourcePath)
    (sessions : List SessionId) : sb.Aside (sb.askDeletion c generation pod sessions) := by
  unfold Switchboard.askDeletion
  split
  · exact .refl sb
  · rename_i ctl hctl
    split
    · rename_i hgen
      refine showDialog hctl hgen (fun ctl' hgen' => ?_) _
      exact (Controller.onward_showDeletion hgen'.symm).aside rfl rfl
    · exact .refl sb

theorem podFound (sb : Switchboard) (c : ControllerId) (generation : Nat) (pod : ResourcePath) :
    sb.Aside (sb.podFound c generation pod) := by
  unfold Switchboard.podFound
  split
  · split
    · exact (advance sb c generation _).trans (spawn _ rfl)
    · exact .refl sb
  · exact askDeletion sb c generation pod _

theorem offer (sb : Switchboard) (c : ControllerId) (generation : Nat) (pod : ResourcePath)
    (candidates : List Candidate) : sb.Aside (sb.offer c generation pod candidates) := by
  unfold Switchboard.offer
  split
  · exact .refl sb
  · rename_i ctl hctl
    split
    · rename_i hgen
      refine showDialog hctl hgen (fun ctl' hgen' => ?_) _
      exact (Controller.onward_showSelection hgen'.symm).aside rfl rfl
    · exact .refl sb

theorem portsRead (sb : Switchboard) (c : ControllerId) (generation : Nat) (pod : ResourcePath)
    (result : Except Failure PodPorts) : sb.Aside (sb.portsRead c generation pod result) := by
  unfold Switchboard.portsRead
  split
  · exact abandon sb c generation _
  · split
    · exact abandon sb c generation _
    · exact offer sb c generation pod _

theorem resolved (sb : Switchboard) (c : ControllerId) (generation : Nat)
    (result : Except Failure ResourcePath) : sb.Aside (sb.resolved c generation result) := by
  cases result with
  | error e => exact abandon sb c generation e
  | ok pod => exact podFound sb c generation pod

theorem begin (sb : Switchboard) (c : ControllerId) (stage : Stage) :
    sb.Aside (sb.control c fun ctl => ctl.begin stage) :=
  control fun ctl _ => (ctl.onward_begin stage).aside rfl rfl

/-- A trigger goes on from a new generation. -/
theorem trigger_begun {ctl : Controller} (hctl : sb.controllers[c]? = some ctl) (target : Target) :
    (sb.control c fun ctl => ctl.begin .resolving).Aside (sb.trigger c target) := by
  simp only [Switchboard.trigger, hctl]
  split
  · exact abandon ..
  · exact podFound ..
  · exact spawn _ rfl

theorem trigger (sb : Switchboard) (c : ControllerId) (target : Target) :
    sb.Aside (sb.trigger c target) := by
  cases hctl : sb.controllers[c]? with
  | none =>
    simp only [Switchboard.trigger, hctl]
    exact .refl sb
  | some ctl => exact (begin sb c .resolving).trans (trigger_begun hctl target)

theorem answerSelection (sb : Switchboard) (c : ControllerId) (dialog : Nat) :
    sb.Aside (sb.control c fun ctl => ctl.answerSelection dialog) :=
  control fun ctl _ => (ctl.onward_answerSelection dialog).aside rfl rfl

theorem answerDeletion (sb : Switchboard) (c : ControllerId) (dialog : Nat) :
    sb.Aside (sb.control c fun ctl => ctl.answerDeletion dialog) :=
  control fun ctl _ => (ctl.onward_answerDeletion dialog).aside rfl rfl

theorem cancelSelection (sb : Switchboard) (c : ControllerId) (dialog : Nat) :
    sb.Aside (sb.cancelSelection c dialog) := by
  unfold Switchboard.cancelSelection
  split
  · exact .refl sb
  · exact (answerSelection sb c dialog).trans (advance ..)

theorem confirmDeletion (sb : Switchboard) (c : ControllerId) (dialog : Nat) :
    sb.Aside (sb.confirmDeletion c dialog) := by
  unfold Switchboard.confirmDeletion
  split
  · exact .refl sb
  · rename_i d _
    have hstopped := (answerDeletion sb c dialog).trans
      (of_apart (Apart.foldl Apart.stopSession _ d.sessions))
    dsimp only
    split
    · exact hstopped.trans ((advance ..).trans ((notify_flow ..).trans (notify_flow ..)))
    · exact hstopped.trans (notify_flow ..)

theorem cancelDeletion (sb : Switchboard) (c : ControllerId) (dialog : Nat) :
    sb.Aside (sb.cancelDeletion c dialog) := by
  unfold Switchboard.cancelDeletion
  split
  · exact .refl sb
  · exact (answerDeletion sb c dialog).trans (advance ..)

/-! ## Sessions -/

theorem stepRunner (sb : Switchboard) (id : SessionId) : sb.Aside (sb.stepRunner id) := by
  rcases stepRunner_cases sb id with hidle | ⟨s, r, -, -, hready | hfails | hends⟩
  · rw [hidle]
    exact .refl sb
  · have hentered := of_apart (Apart.live sb id fun l => l.enter .forwarding)
    rw [hready.2.2, runnerReady]
    split
    · exact hentered.trans (post _ _ rfl)
    · exact hentered.trans (of_apart (Apart.live ..))
  · obtain ⟨outcome, sb', -, -, hsb', heq⟩ := hfails
    rw [heq]
    refine .trans ?_ (of_apart (Apart.runnerAbort ..))
    rcases hsb' with rfl | rfl
    · exact .refl _
    · exact of_apart (Apart.wire_stopAwaiting ..)
  · obtain ⟨outcome, -, heq⟩ := hends
    have hended := of_apart ((Apart.live sb id fun l => (l.enter .ended).terminate).trans
      (Apart.wire_drop _ s.transport))
    rw [heq, runnerEnd]
    split
    · exact hended.trans (post _ _ rfl)
    · exact hended.trans (of_apart (Apart.cleanUp ..))

/-- A rival's session belongs to no start. -/
theorem registerRival (sb : Switchboard) (key : SessionKey) : sb.Aside (sb.registerRival key) := by
  simp only [Switchboard.registerRival]
  split
  · rename_i registry hadd
    have hroster := congrArg (List.map Session.toWiring) (Registry.roster_add hadd)
    exact (connect sb (by simp)).trans
      ((enroll _ rfl).trans (of_apart (Apart.registry (Switchboard.enroll _ _).2 hroster)))
  · exact (connect sb (by simp)).trans (enroll _ rfl)

theorem makeSession (sb : Switchboard) (key : SessionKey) (tunnels : List Tunnel) (plan : Plan) :
    sb.Aside (sb.makeSession key tunnels plan) := by
  simp only [Switchboard.makeSession]
  split
  · exact (connect sb (by simp)).trans (of_apart (Apart.wire_drop ..))
  · exact (connect sb (by simp)).trans (enroll _ rfl)

/-! ## Tasks and jobs -/

theorem applyTask (h : ∀ task rest, sb.waiting c = task :: rest → task.isVerdict = false) :
    sb.Aside (sb.applyTask c) := by
  cases hwaiting : sb.waiting c with
  | nil =>
    rw [applyTask_of_nil hwaiting]
    exact .refl sb
  | cons task rest =>
    have htask := h task rest hwaiting
    rw [applyTask_of_cons hwaiting]
    refine (popTask hwaiting htask).trans ?_
    cases task with
    | resolved generation result => exact resolved ..
    | portsRead generation pod result => exact portsRead ..
    | checked start key selection result => cases htask
    | activate id => exact of_apart (Apart.activate ..)
    | retire id outcome => exact of_apart (Apart.retire ..)

theorem finishJob {place : Nat} (h : ∀ job, sb.jobs[place]? = some job → job.isCheck = false) :
    sb.Aside (sb.finishJob place) := by
  unfold Switchboard.finishJob
  split
  · rename_i job hplace
    have hjob := h job hplace
    have herased : (sb.jobs.eraseIdx place).filter Job.isCheck = sb.checks := by
      obtain ⟨as, bs, hjobs, herased⟩ := exists_eraseIdx hplace
      rw [herased, Switchboard.checks, hjobs]
      simp [hjob]
    cases job with
    | checkPorts => cases hjob
    | resolve | readPorts =>
      exact (jobs sb herased).trans ((of_apart (Apart.requests _ _)).trans (post _ _ rfl))
  · exact .refl sb

end Aside

/-! ## Moves -/

/-- A move belongs to a start, or shuts an interface down. -/
inductive Concerns (sb : Switchboard) : Move → Prop
  /-- A start is asked for, maybe by an answer to its dialog. -/
  | start {m : Move} {sb₁ : Switchboard} {c : ControllerId} {pod : ResourcePath}
      {selection : Selection} (haside : sb.Aside sb₁)
      (hstep : sb.step m = sb₁.start c pod selection) : Concerns sb m
  | check {place : Nat} {c : ControllerId} {start : StartId} {key : SessionKey}
      {selection : Selection}
      (hplace : sb.jobs[place]? = some (.checkPorts c start key selection)) :
      Concerns sb (.finishJob place)
  | verdict {c : ControllerId} {start : StartId} {key : SessionKey} {selection : Selection}
      {result : Except Failure Unit} {rest : List Task}
      (hwaiting : sb.waiting c = .checked start key selection result :: rest) :
      Concerns sb (.applyTask c)
  | shut {c : ControllerId} : Concerns sb (.closeInterface c)

/-- Starts see nothing of any other move. -/
theorem aside_step {sb : Switchboard} (wf : sb.registry.WellFormed) (m : Move) :
    sb.Aside (sb.step m) ∨ sb.Concerns m := by
  cases m with
  | trigger c target => exact .inl (.trigger sb c target)
  | start c pod selection => exact .inr (.start (.refl sb) rfl)
  | confirmSelection c dialog selection =>
    have hanswer := Aside.answerSelection sb c dialog
    cases hopen : sb.controllers[c]?.bind fun ctl => ctl.openSelection? dialog with
    | none =>
      simp only [step, confirmSelection, hopen]
      exact .inl (.refl sb)
    | some d =>
      cases hcurrent : (sb.control c fun ctl => ctl.answerSelection dialog).isCurrent c
        d.generation with
      | true =>
        have hstep : sb.step (.confirmSelection c dialog selection) =
            ((sb.control c fun ctl => ctl.answerSelection dialog).advance c d.generation
              .idle).start c d.pod selection := by
          simp only [step, confirmSelection, hopen, hcurrent, if_true]
        exact .inr (.start (hanswer.trans (.advance ..)) hstep)
      | false =>
        simp only [step, confirmSelection, hopen, hcurrent, Bool.false_eq_true, if_false]
        exact .inl hanswer
  | cancelSelection c dialog => exact .inl (.cancelSelection sb c dialog)
  | confirmDeletion c dialog => exact .inl (.confirmDeletion sb c dialog)
  | cancelDeletion c dialog => exact .inl (.cancelDeletion sb c dialog)
  | stop key => exact .inl (.of_apart (.stop wf key))
  | stopAll => exact .inl (.of_apart (.stopAll sb))
  | applyTask c =>
    cases hwaiting : sb.waiting c with
    | nil => exact .inl (.applyTask (by simp [hwaiting]))
    | cons task rest =>
      cases task with
      | checked => exact .inr (.verdict hwaiting)
      | resolved | portsRead | activate | retire =>
        refine .inl (.applyTask fun task' rest' h => ?_)
        cases hwaiting.symm.trans h
        rfl
  | closeInterface => exact .inr .shut
  | finishJob place =>
    cases hplace : sb.jobs[place]? with
    | none => exact .inl (.finishJob (by simp [hplace]))
    | some job =>
      cases job with
      | checkPorts => exact .inr (.check hplace)
      | resolve | readPorts =>
        refine .inl (.finishJob fun job' h => ?_)
        cases hplace.symm.trans h
        rfl
  | stepRunner id => exact .inl (.stepRunner sb id)
  | signalReady t outcome => exact .inl (.of_apart (.signalReady sb t outcome))
  | signalFinish t outcome => exact .inl (.of_apart (.signalFinish sb t outcome))
  | elapse duration => exact .inl (.of_apart (.clock sb _))
  | hold | unhold | setCluster => exact .inl (.of_apart (.surroundings sb rfl rfl))
  | makeSession key tunnels plan => exact .inl (.makeSession sb key tunnels plan)
  | add id => exact .inl (.of_apart (.add sb id))
  | delete key => exact .inl (.of_apart (.delete wf key))
  | deleteSession id => exact .inl (.of_apart (.deleteSession sb id))
  | close id => exact .inl (.of_apart (.closeSession sb id))
  | launch c id => exact .inl (.of_apart (.launch sb c id))

end Switchboard

end PodTunnels
