import PodTunnels.Proofs.FlowTurn
import Mathlib.Data.List.Induction

/-!
# Flows along runs

The generation of a dialogue never falls, and nothing is ever under way or said for a flow that has
not begun yet (`bounded_run`). So a flow begins with a clean slate, and once a newer one has begun
no more is shown of it (`shown_run_of_superseded`).
-/

namespace PodTunnels

/-- Whether an effect shows what a flow came to: a dialog or a failure. -/
def Effect.isOutcome : Effect → Bool
  | .showSelection _ | .showDeletion _ | .error _ => true
  | .dismiss | .info _ | .refresh => false

theorem getElem?_of_prefix {α : Type} {as bs : List α} {i : Nat} {a : α} (h : as <+: bs)
    (ha : as[i]? = some a) : bs[i]? = some a := by
  obtain ⟨cs, rfl⟩ := h
  exact (List.getElem?_append_left (List.getElem?_eq_some_iff.1 ha).1).trans ha

theorem exists_of_mem_modify {α : Type} {as : List α} {i : Nat} {f : α → α} {b : α}
    (h : b ∈ as.modify i f) : ∃ a ∈ as, b = a ∨ b = f a := by
  obtain ⟨j, hj⟩ := List.mem_iff_getElem?.1 h
  rw [List.getElem?_modify] at hj
  obtain ⟨a, ha, rfl⟩ := Option.map_eq_some_iff.1 hj
  refine ⟨a, List.mem_of_getElem? ha, ?_⟩
  split
  · exact .inr rfl
  · exact .inl rfl

/-- What a job hands to the interface belongs to the flow of the job. -/
theorem Job.generation?_of_report? {job : Job} {cluster : Cluster} {task : Task} {c : ControllerId}
    {generation : Nat} (hflow : job.flow? = some (c, generation))
    (htask : job.report? cluster = some task) : task.generation? = some generation := by
  cases job with
  | checkPorts => cases hflow
  | resolve | readPorts =>
    cases hflow
    cases htask
    rfl

/-- What flows are set in: the address that is offered, the cluster, and whether the interface is
there. -/
structure Setting where
  address : String
  cluster : Cluster
  isOpen : Bool

namespace Dialogue

variable {d d' : Dialogue} {c : ControllerId}

/-- What the flows of a dialogue take as it is. -/
def setting (d : Dialogue) : Setting :=
  ⟨d.address, d.cluster, d.isOpen⟩

def jobsOf (d : Dialogue) (c : ControllerId) (generation : Nat) : List Job :=
  d.jobs.filter fun job => job.flow? = some (c, generation)

def errandsOf (d : Dialogue) (generation : Nat) : List Task :=
  d.errands.filter fun task => task.generation? = some generation

def shown (d : Dialogue) (generation : Nat) : List Effect :=
  ((d.told.filter fun n => n.about = .flow generation).map Notice.effect).filter Effect.isOutcome

theorem jobsOf_spawn {job : Job} {g : Nat} (h : job.flow? = some (c, g)) (d : Dialogue) :
    (d.spawn job).jobsOf c g = d.jobsOf c g ++ [job] := by
  simp [jobsOf, spawn, h]

@[simp] theorem jobsOf_post (d : Dialogue) (task : Task) (g : Nat) :
    (d.post task).jobsOf c g = d.jobsOf c g := by
  unfold post
  split <;> rfl

theorem errandsOf_post {task : Task} {g : Nat} (hopen : d.isOpen = true)
    (h : task.generation? = some g) : (d.post task).errandsOf g = d.errandsOf g ++ [task] := by
  simp [errandsOf, post, hopen, h]

theorem errandsOf_post_of_ne {task : Task} {g : Nat} (h : task.generation? ≠ some g) :
    (d.post task).errandsOf g = d.errandsOf g := by
  unfold post
  split
  · simp [errandsOf, h]
  · rfl

/-- The dialogs that were shown stay what they are, but for the flag whether they were answered. -/
structure Keeps (d d' : Dialogue) : Prop where
  selection : ∀ (n : Nat) (dialog : SelectionDialog), d.selections[n]? = some dialog →
    ∃ answered, d'.selections[n]? = some { dialog with answered }
  deletion : ∀ (n : Nat) (dialog : DeletionDialog), d.deletions[n]? = some dialog →
    ∃ answered, d'.deletions[n]? = some { dialog with answered }

namespace Keeps

theorem of_prefix (hselections : d.selections <+: d'.selections)
    (hdeletions : d.deletions <+: d'.deletions) : d.Keeps d' where
  selection _ dialog hdialog := ⟨dialog.answered, getElem?_of_prefix hselections hdialog⟩
  deletion _ dialog hdialog := ⟨dialog.answered, getElem?_of_prefix hdeletions hdialog⟩

theorem of_eq (hselections : d'.selections = d.selections)
    (hdeletions : d'.deletions = d.deletions) : d.Keeps d' :=
  of_prefix (hselections ▸ List.prefix_refl _) (hdeletions ▸ List.prefix_refl _)

theorem answerSelection (d : Dialogue) (n : Nat) : d.Keeps (d.answerSelection n) where
  selection i dialog hdialog := by
    simp only [Dialogue.answerSelection, List.getElem?_modify, hdialog]
    split
    · exact ⟨true, rfl⟩
    · exact ⟨dialog.answered, rfl⟩
  deletion _ dialog hdialog := ⟨dialog.answered, hdialog⟩

theorem answerDeletion (d : Dialogue) (n : Nat) : d.Keeps (d.answerDeletion n) where
  selection _ dialog hdialog := ⟨dialog.answered, hdialog⟩
  deletion i dialog hdialog := by
    simp only [Dialogue.answerDeletion, List.getElem?_modify, hdialog]
    split
    · exact ⟨true, rfl⟩
    · exact ⟨dialog.answered, rfl⟩

theorem trans {d'' : Dialogue} (h : d.Keeps d') (h' : d'.Keeps d'') : d.Keeps d'' where
  selection n dialog hdialog := by
    obtain ⟨answered, hdialog'⟩ := h.selection n dialog hdialog
    exact h'.selection n { dialog with answered } hdialog'
  deletion n dialog hdialog := by
    obtain ⟨answered, hdialog'⟩ := h.deletion n dialog hdialog
    exact h'.deletion n { dialog with answered } hdialog'

theorem advance (d : Dialogue) (g : Nat) (stage : Stage) : d.Keeps (d.advance g stage) := by
  unfold Dialogue.advance
  split <;> exact of_eq rfl rfl

theorem leads {registry : Registry} {result : Except Failure ResourcePath}
    (h : Leads registry c d result d') : d.Keeps d' := by
  cases h with
  | failed | reading => exact of_eq rfl rfl
  | asked => exact of_prefix (List.prefix_refl _) (List.prefix_append ..)

theorem yields {pod : ResourcePath} {result : Except Failure PodPorts}
    (h : Yields c d pod result d') : d.Keeps d' := by
  cases h with
  | failed | undeclared => exact of_eq rfl rfl
  | offered => exact of_prefix (List.prefix_append ..) (List.prefix_refl _)

end Keeps

/-- Nothing is under way or was said for a flow that has not begun yet. -/
structure Bounded (d : Dialogue) : Prop where
  job : ∀ job ∈ d.jobs, ∀ c g, job.flow? = some (c, g) → g ≤ d.generation
  errand : ∀ task ∈ d.errands, ∀ g, task.generation? = some g → g ≤ d.generation
  notice : ∀ n ∈ d.told, ∀ g, n.about = .flow g → g ≤ d.generation
  selection : ∀ dialog ∈ d.selections, dialog.generation ≤ d.generation
  deletion : ∀ dialog ∈ d.deletions, dialog.generation ≤ d.generation

namespace Bounded

theorem staged (h : d.Bounded) (stage : Stage) : Bounded { d with stage } :=
  { h with }

theorem tell (h : d.Bounded) {notices : List Notice}
    (hnew : ∀ n ∈ notices, ∀ g, n.about = .flow g → g ≤ d.generation) : (d.tell notices).Bounded :=
  { h with notice := fun n hn => (List.mem_append.1 hn).elim (h.notice n) (hnew n) }

theorem spawn (h : d.Bounded) {job : Job}
    (hnew : ∀ c g, job.flow? = some (c, g) → g ≤ d.generation) : (d.spawn job).Bounded :=
  { h with
    job := fun job' hjob => (List.mem_append.1 hjob).elim (h.job job')
      fun hlast => List.mem_singleton.1 hlast ▸ hnew }

theorem post (h : d.Bounded) {task : Task}
    (hnew : ∀ g, task.generation? = some g → g ≤ d.generation) : (d.post task).Bounded := by
  unfold Dialogue.post
  split
  · exact { h with
      errand := fun task' htask => (List.mem_append.1 htask).elim (h.errand task')
        fun hlast => List.mem_singleton.1 hlast ▸ hnew }
  · exact h

theorem advance (h : d.Bounded) (g : Nat) (stage : Stage) : (d.advance g stage).Bounded := by
  unfold Dialogue.advance
  split
  · exact h.staged stage
  · exact h

theorem begin (h : d.Bounded) : d.begin.Bounded where
  job job hjob c g hflow := Nat.le_succ_of_le (h.job job hjob c g hflow)
  errand task htask g hflow := Nat.le_succ_of_le (h.errand task htask g hflow)
  notice n hn g hflow := Nat.le_succ_of_le (h.notice n hn g hflow)
  selection dialog hdialog := Nat.le_succ_of_le (h.selection dialog hdialog)
  deletion dialog hdialog := Nat.le_succ_of_le (h.deletion dialog hdialog)

/-- The first task is taken. -/
theorem taken (h : d.Bounded) {task : Task} {errands : List Task}
    (herrands : d.errands = task :: errands) : Bounded { d with errands } :=
  { h with errand := fun task' htask => h.errand task' (herrands ▸ List.mem_cons_of_mem _ htask) }

/-- A dialog counts as answered. -/
theorem answerSelection (h : d.Bounded) (n : Nat) : (d.answerSelection n).Bounded := by
  refine { h with selection := fun dialog hdialog => ?_ }
  obtain ⟨dialog', hdialog', rfl | rfl⟩ := exists_of_mem_modify hdialog
  · exact h.selection _ hdialog'
  · exact h.selection dialog' hdialog'

theorem answerDeletion (h : d.Bounded) (n : Nat) : (d.answerDeletion n).Bounded := by
  refine { h with deletion := fun dialog hdialog => ?_ }
  obtain ⟨dialog', hdialog', rfl | rfl⟩ := exists_of_mem_modify hdialog
  · exact h.deletion _ hdialog'
  · exact h.deletion dialog' hdialog'

theorem fail (h : d.Bounded) (c : ControllerId) (e : Failure) : (d.fail c e).Bounded :=
  (h.staged .idle).tell (by simp)

theorem leads {registry : Registry} {result : Except Failure ResourcePath} (h : d.Bounded)
    (hleads : Leads registry c d result d') : d'.Bounded := by
  cases hleads with
  | failed => exact h.fail c _
  | asked =>
    refine tell ?_ ?_
    · refine { h with deletion := fun dialog hdialog => ?_ }
      rcases List.mem_append.1 hdialog with hold | hnew
      · exact h.deletion dialog hold
      · cases List.mem_singleton.1 hnew
        exact Nat.le_refl _
    · simp
  | reading => exact (h.staged .awaitingSelection).spawn (by simp [Job.flow?])

theorem yields {pod : ResourcePath} {result : Except Failure PodPorts} (h : d.Bounded)
    (hyields : Yields c d pod result d') : d'.Bounded := by
  cases hyields with
  | failed | undeclared => exact h.fail c _
  | offered =>
    refine tell ?_ ?_
    · refine { h with selection := fun dialog hdialog => ?_ }
      rcases List.mem_append.1 hdialog with hold | hnew
      · exact h.selection dialog hold
      · cases List.mem_singleton.1 hnew
        exact Nat.le_refl _
    · simp

end Bounded

/-! A flow that begins has nothing under way, and nothing was shown of it. -/

section Begin

variable (h : d.Bounded)
include h

theorem jobsOf_begin : d.begin.jobsOf c (d.generation + 1) = [] :=
  List.filter_eq_nil_iff.2 fun job hjob hflow =>
    Nat.not_succ_le_self _ (h.job job hjob c _ (of_decide_eq_true hflow))

theorem errandsOf_begin : d.begin.errandsOf (d.generation + 1) = [] :=
  List.filter_eq_nil_iff.2 fun task htask hflow =>
    Nat.not_succ_le_self _ (h.errand task htask _ (of_decide_eq_true hflow))

theorem shown_begin : d.begin.shown (d.generation + 1) = [] := by
  have hnone : (d.begin.told.filter fun n => n.about = .flow (d.generation + 1)) = [] :=
    List.filter_eq_nil_iff.2 fun n hn habout =>
      Nat.not_succ_le_self _ (h.notice n hn _ (of_decide_eq_true habout))
  rw [shown, hnone]
  rfl

end Begin

theorem Leads.generation_eq {registry : Registry} {result : Except Failure ResourcePath}
    (h : Leads registry c d result d') : d'.generation = d.generation := by
  cases h <;> rfl

theorem Yields.generation_eq {pod : ResourcePath} {result : Except Failure PodPorts}
    (h : Yields c d pod result d') : d'.generation = d.generation := by
  cases h <;> rfl

theorem shown_tell (d : Dialogue) (notices : List Notice) (g : Nat) :
    (d.tell notices).shown g =
      d.shown g ++ ((notices.filter fun n => n.about = .flow g).map Notice.effect).filter
        Effect.isOutcome := by
  simp [shown, tell]

/-- Notices that show no outcome. -/
theorem shown_tell_of_quiet {notices : List Notice}
    (h : ∀ n ∈ notices, n.effect.isOutcome = false) (d : Dialogue) (g : Nat) :
    (d.tell notices).shown g = d.shown g := by
  have hnone : ((notices.filter fun n => n.about = .flow g).map Notice.effect).filter
      Effect.isOutcome = [] := by
    simp only [List.filter_eq_nil_iff, List.mem_map, List.mem_filter, Bool.not_eq_true]
    rintro effect ⟨n, ⟨hn, -⟩, rfl⟩
    exact h n hn
  rw [shown_tell, hnone, List.append_nil]

/-- What is said of another flow is not shown of this one. -/
theorem shown_tell_of_ne {g g' : Nat} (h : g' ≠ g) (d : Dialogue) (effect : Effect) :
    (d.tell [⟨c, .flow g', effect⟩]).shown g = d.shown g := by
  simp [shown_tell, h]

@[simp] theorem shown_post (d : Dialogue) (task : Task) (g : Nat) :
    (d.post task).shown g = d.shown g := by
  unfold post
  split <;> rfl

@[simp] theorem shown_advance (d : Dialogue) (g' : Nat) (stage : Stage) (g : Nat) :
    (d.advance g' stage).shown g = d.shown g := by
  unfold advance
  split <;> rfl

theorem Leads.shown_of_ne {registry : Registry} {result : Except Failure ResourcePath}
    (h : Leads registry c d result d') {g : Nat} (hne : d.generation ≠ g) :
    d'.shown g = d.shown g := by
  cases h with
  | failed | asked => exact shown_tell_of_ne hne ..
  | reading => rfl

theorem Yields.shown_of_ne {pod : ResourcePath} {result : Except Failure PodPorts}
    (h : Yields c d pod result d') {g : Nat} (hne : d.generation ≠ g) :
    d'.shown g = d.shown g := by
  cases h with
  | failed | undeclared | offered => exact shown_tell_of_ne hne ..

@[simp] theorem generation_post (d : Dialogue) (task : Task) :
    (d.post task).generation = d.generation := by
  unfold post
  split <;> rfl

theorem Leads.setting_eq {registry : Registry} {result : Except Failure ResourcePath}
    (h : Leads registry c d result d') : d'.setting = d.setting := by
  cases h <;> rfl

theorem Yields.setting_eq {pod : ResourcePath} {result : Except Failure PodPorts}
    (h : Yields c d pod result d') : d'.setting = d.setting := by
  cases h <;> rfl

theorem setting_post (d : Dialogue) (task : Task) : (d.post task).setting = d.setting := by
  unfold post
  split <;> rfl

theorem setting_advance (d : Dialogue) (g : Nat) (stage : Stage) :
    (d.advance g stage).setting = d.setting := by
  unfold advance
  split <;> rfl

theorem deletions_post (d : Dialogue) (task : Task) : (d.post task).deletions = d.deletions := by
  unfold post
  split <;> rfl

theorem deletions_advance (d : Dialogue) (g : Nat) (stage : Stage) :
    (d.advance g stage).deletions = d.deletions := by
  unfold advance
  split <;> rfl

@[simp] theorem generation_advance (d : Dialogue) (g : Nat) (stage : Stage) :
    (d.advance g stage).generation = d.generation := by
  unfold advance
  split <;> rfl

end Dialogue

namespace Switchboard

open Dialogue

variable {sb : Switchboard} {c : ControllerId} {m : Move} {d d' : Dialogue}

theorem bounded_turn (h : d.Bounded) (hturn : sb.FlowTurn c d m d') : d'.Bounded := by
  cases hturn with
  | rest => exact h
  | recast => exact { h with }
  | shut => exact { h with errand := by simp [shut] }
  | known hknown hleads => exact h.begin.leads hleads
  | sought => exact h.begin.spawn (by simp [Job.flow?, begin])
  | @finished place g job before after task hplace hflow hjobs htask =>
    have hkept : Bounded { d with jobs := before ++ after } := by
      refine { h with job := fun job' hjob => h.job job' ?_ }
      rw [hjobs]
      exact List.mem_append.2 ((List.mem_append.1 hjob).imp id (List.mem_cons_of_mem _))
    refine hkept.post fun g' htask' => ?_
    cases (Job.generation?_of_report? hflow htask).symm.trans htask'
    exact h.job job (by simp [hjobs]) c g hflow
  | stale hwaiting herrands => exact h.taken herrands
  | resolved hwaiting herrands hleads => exact (h.taken herrands).leads hleads
  | portsRead hwaiting herrands hyields => exact (h.taken herrands).yields hyields
  | dismissed => exact h.tell (by simp)
  | confirmedSelection | cancelledSelection => exact (h.answerSelection _).advance _ _
  | cancelledDeletion => exact (h.answerDeletion _).advance _ _
  | @confirmedDeletion n dialog hdialog =>
    refine ((h.answerDeletion _).advance _ _).tell fun notice hnotice g hg => ?_
    have hle := h.deletion _ (List.mem_of_getElem? hdialog)
    have habout : notice.about = .flow dialog.generation := by
      split at hnotice <;> simp at hnotice
      · exact hnotice.elim (fun h => h ▸ rfl) fun h => h ▸ rfl
      · exact hnotice ▸ rfl
    cases hg.symm.trans habout
    rw [generation_advance]
    exact hle

theorem keeps_turn (hturn : sb.FlowTurn c d m d') : d.Keeps d' := by
  cases hturn with
  | known hknown hleads => exact (Keeps.of_eq rfl rfl : d.Keeps d.begin).trans (.leads hleads)
  | @resolved _ _ errands _ _ _ hleads =>
    exact (Keeps.of_eq rfl rfl : d.Keeps { d with errands }).trans (.leads hleads)
  | @portsRead _ _ _ errands _ _ _ hyields =>
    exact (Keeps.of_eq rfl rfl : d.Keeps { d with errands }).trans (.yields hyields)
  | finished =>
    unfold Dialogue.post
    split <;> exact .of_eq rfl rfl
  | confirmedSelection | cancelledSelection => exact (Keeps.answerSelection d _).trans (.advance ..)
  | cancelledDeletion => exact (Keeps.answerDeletion d _).trans (.advance ..)
  | confirmedDeletion =>
    exact (Keeps.answerDeletion d _).trans ((Keeps.advance ..).trans (.of_eq rfl rfl))
  | _ => exact .of_eq rfl rfl

theorem generation_trigger {target : Target} (hturn : sb.FlowTurn c d (.trigger c target) d') :
    d'.generation = d.generation + 1 := by
  cases hturn with
  | rest hbegin => exact absurd rfl (hbegin _)
  | known hknown hleads => exact hleads.generation_eq
  | sought => rfl

/-- Only a trigger begins a flow. -/
theorem generation_turn_of_ne (hturn : sb.FlowTurn c d m d')
    (hm : ∀ target, m ≠ .trigger c target) : d'.generation = d.generation := by
  cases hturn with
  | known | sought => exact absurd rfl (hm _)
  | finished => exact generation_post ..
  | resolved hwaiting herrands hleads => exact hleads.generation_eq
  | portsRead hwaiting herrands hyields => exact hyields.generation_eq
  | confirmedSelection | cancelledSelection | cancelledDeletion | confirmedDeletion =>
    exact generation_advance ..
  | _ => rfl

/-- The generation of a dialogue never falls. -/
theorem generation_turn (hturn : sb.FlowTurn c d m d') : d.generation ≤ d'.generation := by
  by_cases hm : ∃ target, m = .trigger c target
  · obtain ⟨target, rfl⟩ := hm
    exact generation_trigger hturn ▸ Nat.le_succ _
  · exact Nat.le_of_eq (generation_turn_of_ne hturn (not_exists.1 hm)).symm

/-- The setting changes by moves of its own. -/
theorem setting_turn (hturn : sb.FlowTurn c d m d') :
    d'.setting = d.setting ∨
      (∃ cluster, m = .setCluster cluster ∧ d'.setting = { d.setting with cluster }) ∨
      m = .closeInterface c ∧ d'.setting = { d.setting with isOpen := false } := by
  cases hturn with
  | recast => exact .inr (.inl ⟨_, rfl, rfl⟩)
  | shut => exact .inr (.inr ⟨rfl, rfl⟩)
  | known hknown hleads => exact .inl hleads.setting_eq
  | resolved hwaiting herrands hleads => exact .inl hleads.setting_eq
  | portsRead hwaiting herrands hyields => exact .inl hyields.setting_eq
  | finished => exact .inl (setting_post ..)
  | confirmedSelection | cancelledSelection | cancelledDeletion | confirmedDeletion =>
    exact .inl (setting_advance ..)
  | _ => exact .inl rfl

theorem setting_turn_of_open (hturn : sb.FlowTurn c d m d')
    (hm : ∀ cluster, m ≠ .setCluster cluster) (hopen : d'.isOpen = true) :
    d'.setting = d.setting := by
  rcases setting_turn hturn with hsame | ⟨cluster, hcluster, -⟩ | ⟨-, hshut⟩
  · exact hsame
  · exact absurd hcluster (hm cluster)
  · cases hopen.symm.trans (congrArg Setting.isOpen hshut)

/-- An interface is there until it is closed. -/
theorem isOpen_turn (hturn : sb.FlowTurn c d m d') (hm : m ≠ .closeInterface c) :
    d'.isOpen = d.isOpen := by
  rcases setting_turn hturn with h | ⟨_, -, h⟩ | ⟨hclosed, -⟩
  · exact congrArg Setting.isOpen h
  · exact congrArg Setting.isOpen h
  · exact absurd hclosed hm

/-- Once a newer flow has begun, no more is shown of an older one. -/
theorem shown_turn_of_superseded {g : Nat} (hg : g < d.generation) (hturn : sb.FlowTurn c d m d') :
    d'.shown g = d.shown g := by
  have hne : d.generation ≠ g := Nat.ne_of_gt hg
  have hbegun : d.begin.generation ≠ g := Nat.ne_of_gt (Nat.lt_succ_of_lt hg)
  cases hturn with
  | known hknown hleads => exact hleads.shown_of_ne hbegun
  | resolved hwaiting herrands hleads => exact hleads.shown_of_ne hne
  | portsRead hwaiting herrands hyields => exact hyields.shown_of_ne hne
  | finished => exact shown_post ..
  | dismissed => exact shown_tell_of_quiet (by simp [Effect.isOutcome]) d g
  | confirmedSelection | cancelledSelection | cancelledDeletion => exact shown_advance ..
  | confirmedDeletion =>
    refine (shown_tell_of_quiet ?_ _ g).trans (shown_advance ..)
    split <;> simp [Effect.isOutcome]
  | _ => rfl

/-- A newer flow that begins shows nothing of an older one either. -/
theorem shown_trigger {target : Target} {g : Nat} (hg : g ≤ d.generation)
    (hturn : sb.FlowTurn c d (.trigger c target) d') : d'.shown g = d.shown g := by
  have hbegun : d.begin.generation ≠ g := Nat.ne_of_gt (Nat.lt_succ_of_le hg)
  cases hturn with
  | rest hbegin => exact absurd rfl (hbegin _)
  | known hknown hleads => exact hleads.shown_of_ne hbegun
  | sought => rfl

/-! ## Runs -/

theorem dialogue_eq_none_iff : sb.dialogue c = none ↔ sb.controllers.length ≤ c := by
  simp [dialogue]

/-- A dialogue comes from a turn of the one before. -/
theorem exists_flowTurn (wf : sb.registry.WellFormed) (hd' : (sb.step m).dialogue c = some d') :
    ∃ d, sb.dialogue c = some d ∧ sb.FlowTurn c d m d' := by
  cases hd : sb.dialogue c with
  | none =>
    have hnone : (sb.step m).dialogue c = none := by
      rw [dialogue_eq_none_iff, (continues_step wf m).length]
      exact dialogue_eq_none_iff.1 hd
    cases hnone.symm.trans hd'
  | some d =>
    obtain ⟨d'', hd'', hturn⟩ := flowTurn_step wf hd m
    cases hd'.symm.trans hd''
    exact ⟨d, rfl, hturn⟩

theorem exists_dialogue_run (h : sb.Sound) (hd : sb.dialogue c = some d) (moves : List Move) :
    ∃ d', (sb.run moves).dialogue c = some d' := by
  induction moves generalizing sb d with
  | nil => exact ⟨d, hd⟩
  | cons m moves ih =>
    obtain ⟨d', hd', -⟩ := flowTurn_step h.wellFormed hd m
    exact ih (h.step m) hd'

/-- What every turn keeps holds along a run, once it holds. -/
theorem invariant_run {P : Dialogue → Prop} (h : sb.Sound)
    (hstart : ∀ d, sb.dialogue c = some d → P d)
    (hturn : ∀ {sb : Switchboard} {m d d'}, sb.FlowTurn c d m d' → P d → P d')
    (moves : List Move) (hd' : (sb.run moves).dialogue c = some d') : P d' := by
  induction moves using List.reverseRecOn generalizing d' with
  | nil => exact hstart d' hd'
  | append_singleton moves m ih =>
    rw [run_concat] at hd'
    obtain ⟨d, hd, hlast⟩ := exists_flowTurn (h.run moves).wellFormed hd'
    exact hturn hlast (ih hd)

/-- What every turn keeps, as seen from one dialogue of the run. -/
theorem invariant_run_from {P : Dialogue → Prop} (h : sb.Sound) (hd : sb.dialogue c = some d)
    (hstart : P d) (hturn : ∀ {sb : Switchboard} {m d d'}, sb.FlowTurn c d m d' → P d → P d')
    (moves : List Move) (hd' : (sb.run moves).dialogue c = some d') : P d' :=
  invariant_run h (fun _ hsame => Option.some.inj (hd.symm.trans hsame) ▸ hstart) hturn moves hd'

section Initial

variable {surroundings : Surroundings} {controllers : List (String × Nat)} {moves : List Move}

theorem bounded_initial (hd : (initial surroundings controllers).dialogue c = some d) :
    d.Bounded := by
  obtain ⟨settings, -, rfl⟩ := eq_of_dialogue_initial hd
  constructor <;> simp

theorem bounded_run (hd : ((initial surroundings controllers).run moves).dialogue c = some d) :
    d.Bounded :=
  invariant_run (sound_initial ..) (fun _ => bounded_initial) (fun hturn h => bounded_turn h hturn)
    moves hd

/-- The address on offer is the one that the controller was set up with. -/
theorem address_run (hd : ((initial surroundings controllers).run moves).dialogue c = some d) :
    controllers[c]?.map Prod.fst = some d.address := by
  refine invariant_run (P := fun d => controllers[c]?.map Prod.fst = some d.address)
    (sound_initial ..) (fun d hd => ?_) (fun {_ _ d d'} hturn h => ?_) moves hd
  · obtain ⟨settings, hsettings, rfl⟩ := eq_of_dialogue_initial hd
    rw [hsettings, Option.map_some]
  · have hsame : d'.address = d.address := by
      rcases setting_turn hturn with h | ⟨_, -, h⟩ | ⟨-, h⟩ <;> exact congrArg Setting.address h
    exact hsame ▸ h

end Initial

theorem generation_run (h : sb.Sound) (hd : sb.dialogue c = some d) (moves : List Move)
    (hd' : (sb.run moves).dialogue c = some d') : d.generation ≤ d'.generation :=
  invariant_run_from (P := fun d' => d.generation ≤ d'.generation) h hd (Nat.le_refl _)
    (fun hturn hle => Nat.le_trans hle (generation_turn hturn)) moves hd'

theorem keeps_run (h : sb.Sound) (hd : sb.dialogue c = some d) (moves : List Move)
    (hd' : (sb.run moves).dialogue c = some d') : d.Keeps d' :=
  invariant_run_from h hd (.of_eq rfl rfl) (fun hturn hkept => hkept.trans (keeps_turn hturn))
    moves hd'

theorem shown_run_of_superseded (h : sb.Sound) (hd : sb.dialogue c = some d) {g : Nat}
    (hg : g < d.generation) (moves : List Move) (hd' : (sb.run moves).dialogue c = some d') :
    d'.shown g = d.shown g := by
  refine (invariant_run_from (P := fun d' => g < d'.generation ∧ d'.shown g = d.shown g) h hd
    ⟨hg, rfl⟩ (fun hturn ⟨hlater, hsame⟩ => ⟨?_, ?_⟩) moves hd').2
  · exact Nat.lt_of_lt_of_le hlater (generation_turn hturn)
  · exact (shown_turn_of_superseded hlater hturn).trans hsame

end Switchboard

end PodTunnels
