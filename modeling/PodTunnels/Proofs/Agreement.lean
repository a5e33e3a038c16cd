import PodTunnels.Proofs.Modal

/-!
# Screen and dialog flow

The dialog on the screen is changed by keys, by what the controller shows, and by any activation,
which takes it down. The stage of the dialog flow is changed by triggers, by the pieces of the flow
and by answers, but by no activation. So an open dialog is always one that the flow waits for, and
where nothing is under way and no dialog is open the flow is idle, unless an activation took down
the dialog of the current flow (`screen_agrees_iff`).
-/

namespace PodTunnels

/-- Whether a move is made by whoever sits at the interface of a controller. -/
def Move.isMadeAt (c : ControllerId) : Move → Bool
  | .trigger c' _ | .confirmSelection c' _ _ | .cancelSelection c' _ | .confirmDeletion c' _
  | .cancelDeletion c' _ | .closeInterface c' => c' = c
  | _ => false

namespace Dialogue

variable {d : Dialogue}

theorem advance_of_eq {g : Nat} (h : d.generation = g) (stage : Stage) :
    d.advance g stage = { d with stage } :=
  if_pos h

/-- How much is under way for the current flow. -/
def pending (d : Dialogue) (c : ControllerId) : Nat :=
  (d.jobsOf c d.generation).length + (d.errandsOf d.generation).length

end Dialogue

namespace Console

/-! ## Runs of a console -/

inductive Occurrence where
  | event (e : Event)
  /-- A move that is not made at the console. -/
  | move (m : Move)
  /-- The console takes up a request for a reload of the pods. -/
  | reload
  /-- The outcome of a reload is put in. -/
  | reloaded (result : Reloaded)
  /-- The message is dropped once its time is over. -/
  | expire

namespace Desk

def initial (surroundings : Surroundings) (controllers : List (String × Nat)) (c : ControllerId)
    (ns : String) : Desk :=
  ⟨.initial surroundings controllers, { controller := c, ns }⟩

/-- The desk after something happened. -/
def occur (desk : Desk) : Occurrence → Desk
  | .event e => (desk.handle e).2
  | .move m => if m.isMadeAt desk.console.controller then desk else desk.step m
  | .reload => { desk with console := desk.console.takeRefreshRequest.2 }
  | .reloaded result => { desk with console := desk.console.setPods result desk.sb.clock }
  | .expire => { desk with console := desk.console.expireFlash desk.sb.clock }

def run (desk : Desk) (occurrences : List Occurrence) : Desk :=
  occurrences.foldl occur desk

def generation? (desk : Desk) : Option Nat :=
  (desk.sb.dialogue desk.console.controller).map Dialogue.generation

/-- An open dialog is taken down by an activation. -/
inductive TakesDown (desk : Desk) : Occurrence → Prop
  | intro {id : SessionId} (hopen : desk.console.modal.isSome = true)
      (hactivates : desk.sb.Activates id (.applyTask desk.console.controller)) :
      TakesDown desk (.move (.applyTask desk.console.controller))

/-- The dialog of the current flow was taken down by an activation. -/
def TakenDown (desk : Desk) (occurrences : List Occurrence) : Prop :=
  ∃ before o after, occurrences = before ++ o :: after ∧ (desk.run before).TakesDown o ∧
    (desk.run occurrences).generation? = (desk.run before).generation?

end Desk

open Dialogue

variable {sb : Switchboard} {c : ControllerId} {d d' : Dialogue} {m : Move}

/-! ## Agreement -/

/-- The screen and the current flow of a dialogue agree. `taken` says whether the dialog of this
flow was taken down. -/
inductive Aligned (c : ControllerId) (d : Dialogue) (taken : Prop) : Option Modal → Prop
  | idle (hpending : d.pending c = 0) (hstage : d.stage = .idle) (htaken : ¬ taken) :
      Aligned c d taken none
  /-- The flow is on its way to a dialog. -/
  | busy (hpending : d.pending c = 1) (htaken : ¬ taken) : Aligned c d taken none
  | offering {f : Form} {dialog : SelectionDialog} (hpending : d.pending c = 0)
      (hstage : d.stage = .awaitingSelection) (hdialog : d.selections[f.dialog]? = some dialog)
      (hopen : dialog.answered = false) (hgen : dialog.generation = d.generation)
      (htaken : ¬ taken) : Aligned c d taken (some (.selection f))
  | asking {n : Nat} {dialog shown : DeletionDialog} (hpending : d.pending c = 0)
      (hstage : d.stage = .awaitingDeletion) (hdialog : d.deletions[n]? = some dialog)
      (hopen : dialog.answered = false) (hgen : dialog.generation = d.generation)
      (htaken : ¬ taken) : Aligned c d taken (some (.deletion n shown))
  /-- The flow waits for the answer to a dialog that was taken down. -/
  | orphaned (hpending : d.pending c = 0) (hstage : d.stage ≠ .idle) (htaken : taken) :
      Aligned c d taken none

variable {taken taken' : Prop} {modal : Option Modal}

theorem Aligned.congr (h : Aligned c d taken modal) (htaken : taken' ↔ taken) :
    Aligned c d taken' modal :=
  propext htaken ▸ h

/-- A change that neither the current flow nor the screen sees. -/
theorem Aligned.kept (h : Aligned c d taken modal) (hstage : d'.stage = d.stage)
    (hgen : d'.generation = d.generation) (hselections : d'.selections = d.selections)
    (hdeletions : d'.deletions = d.deletions) (htold : d'.told = d.told)
    (hpending : d'.pending c = d.pending c) (htakes : taken' ↔ taken) :
    Aligned c d' taken' (d.reveal d' modal) := by
  refine Aligned.congr ?_ htakes
  rw [reveal_of_same htold]
  cases h with
  | idle hnone hidle htaken => exact .idle (hpending.trans hnone) (hstage.trans hidle) htaken
  | busy hone htaken => exact .busy (hpending.trans hone) htaken
  | offering hnone hwaits hdialog hopen hcurrent htaken =>
    exact .offering (hpending.trans hnone) (hstage.trans hwaits) (hselections ▸ hdialog) hopen
      (hcurrent.trans hgen.symm) htaken
  | asking hnone hwaits hdialog hopen hcurrent htaken =>
    exact .asking (hpending.trans hnone) (hstage.trans hwaits) (hdeletions ▸ hdialog) hopen
      (hcurrent.trans hgen.symm) htaken
  | orphaned hnone hwaits htaken =>
    exact .orphaned (hpending.trans hnone) (hstage.symm ▸ hwaits) htaken

/-- The flow asks a question. -/
theorem aligned_ask (hpending : d.pending c = 0) (htaken : ¬ taken) (pod : ResourcePath)
    (sessions : List SessionId) (lines : List String) :
    Aligned c (d.ask c pod sessions lines) taken (d.reveal (d.ask c pod sessions lines) none) := by
  let dialog : DeletionDialog := { generation := d.generation, pod, sessions, lines }
  have hdialog : (d.ask c pod sessions lines).deletions[d.deletions.length]? = some dialog :=
    List.getElem?_concat_length
  rw [reveal_of_told rfl]
  simp only [List.foldl_cons, List.foldl_nil, Dialogue.present, hdialog]
  exact .asking hpending rfl hdialog rfl rfl htaken

/-- The flow offers candidates. -/
theorem aligned_offer (hpending : d.pending c = 0) (htaken : ¬ taken) (pod : ResourcePath)
    (candidates : List Candidate) :
    Aligned c (d.offer c pod candidates) taken (d.reveal (d.offer c pod candidates) none) := by
  let dialog : SelectionDialog :=
    { generation := d.generation, pod, candidates, address := d.address }
  have hdialog : (d.offer c pod candidates).selections[d.selections.length]? = some dialog :=
    List.getElem?_concat_length
  rw [reveal_of_told rfl]
  simp only [List.foldl_cons, List.foldl_nil, Dialogue.present, hdialog]
  exact .offering hpending rfl hdialog rfl rfl htaken

/-- A job for the current flow is under way. -/
theorem pending_spawn {job : Job} (hflow : job.flow? = some (c, d.generation)) :
    (d.spawn job).pending c = d.pending c + 1 := by
  have hjobs := jobsOf_spawn hflow d
  simp only [Dialogue.pending]
  rw [show (d.spawn job).generation = d.generation from rfl, hjobs, List.length_append,
    List.length_singleton]
  exact Nat.add_right_comm ..

/-- The interface comes to what the target led to. -/
theorem aligned_leads {registry : Registry} {result : Except Failure ResourcePath}
    (hpending : d.pending c = 0) (htaken : ¬ taken) (h : Leads registry c d result d') :
    Aligned c d' taken (d.reveal d' none) := by
  cases h with
  | failed =>
    rw [reveal_of_told rfl]
    exact .idle hpending rfl htaken
  | asked => exact aligned_ask hpending htaken ..
  | @reading pod =>
    have hsame : d.reveal (d.read c pod) none = none := reveal_of_same rfl none
    rw [hsame]
    have hpending' : Dialogue.pending { d with stage := .awaitingSelection } c = 0 := hpending
    exact .busy ((pending_spawn rfl).trans (congrArg (· + 1) hpending')) htaken

/-- The interface comes to the ports of the pod. -/
theorem aligned_yields {pod : ResourcePath} {result : Except Failure PodPorts}
    (hpending : d.pending c = 0) (htaken : ¬ taken) (h : Yields c d pod result d') :
    Aligned c d' taken (d.reveal d' none) := by
  cases h with
  | failed | undeclared =>
    rw [reveal_of_told rfl]
    exact .idle hpending rfl htaken
  | offered => exact aligned_offer hpending htaken ..

/-- A flow that begins has nothing under way yet. -/
theorem pending_begin (h : d.Bounded) : d.begin.pending c = 0 := by
  simp only [Dialogue.pending, show d.begin.generation = d.generation + 1 from rfl,
    jobsOf_begin h, errandsOf_begin h, List.length_nil]

/-- The first task that waits is of the current flow. -/
theorem pending_cons {task : Task} {errands : List Task} (herrands : d.errands = task :: errands)
    (h : task.generation? = some d.generation) :
    d.pending c = Dialogue.pending { d with errands } c + 1 := by
  simp [Dialogue.pending, errandsOf, jobsOf, herrands, h, Nat.add_assoc]

/-- It is of another flow. -/
theorem pending_cons_of_ne {task : Task} {errands : List Task}
    (herrands : d.errands = task :: errands) (h : task.generation? ≠ some d.generation) :
    d.pending c = Dialogue.pending { d with errands } c := by
  simp [Dialogue.pending, errandsOf, jobsOf, herrands, h]

/-- What a job hands over is under way as the job was. -/
theorem pending_finished {job : Job} {before after : List Job} {task : Task} {cluster : Cluster}
    {g : Nat} (hopen : d.isOpen = true) (hflow : job.flow? = some (c, g))
    (hjobs : d.jobs = before ++ job :: after) (htask : job.report? cluster = some task) :
    (Dialogue.post { d with jobs := before ++ after } task).pending c = d.pending c := by
  have hgen := Job.generation?_of_report? hflow htask
  by_cases hg : g = d.generation
  · subst hg
    simp [Dialogue.pending, Dialogue.post, hopen, errandsOf, jobsOf, hjobs, hflow, hgen]
    omega
  · simp [Dialogue.pending, Dialogue.post, hopen, errandsOf, jobsOf, hjobs, hflow, hgen, hg]

/-- An agreement with something under way has no dialog open, and none taken down. -/
theorem Aligned.of_pending (h : Aligned c d taken modal) (hpending : d.pending c ≠ 0) :
    d.pending c = 1 ∧ modal = none ∧ ¬ taken := by
  cases h with
  | busy hone htaken => exact ⟨hone, rfl, htaken⟩
  | idle hnone | offering hnone | asking hnone | orphaned hnone => exact absurd hnone hpending

/-! ## Occurrences -/

section Occurrences

variable {desk : Desk}

/-- Only an activation on the interface takes a dialog down. -/
theorem not_takesDown
    (h : m = .applyTask desk.console.controller → ∀ id, ¬ desk.sb.Activates id m) :
    ¬ desk.TakesDown (.move m) := by
  rintro ⟨hopen, hactivates⟩
  exact h rfl _ hactivates

/-- No task of a flow takes one down. -/
theorem not_takesDown_of_cons {task : Task} {rest : List Task} {g : Nat}
    (hwaiting : desk.sb.waiting desk.console.controller = task :: rest)
    (htask : task.generation? = some g) :
    ¬ desk.TakesDown (.move (.applyTask desk.console.controller)) :=
  not_takesDown fun _ id hactivates => by
    cases hactivates with
    | applied hwaiting' =>
      cases hwaiting.symm.trans hwaiting'
      cases htask

/-- While a task of the current flow waits, no dialog is open, and nothing else is under way. -/
theorem Aligned.of_cons (h : Aligned desk.console.controller d taken desk.console.modal)
    {task : Task} {rest errands : List Task}
    (hwaiting : desk.sb.waiting desk.console.controller = task :: rest)
    (herrands : d.errands = task :: errands) (htask : task.generation? = some d.generation) :
    Dialogue.pending { d with errands } desk.console.controller = 0 ∧ desk.console.modal = none ∧
      ¬ (desk.TakesDown (.move (.applyTask desk.console.controller)) ∨ taken) := by
  have hpending := pending_cons (c := desk.console.controller) herrands htask
  obtain ⟨hone, hmodal, htaken⟩ := h.of_pending (hpending ▸ Nat.succ_ne_zero _)
  exact ⟨Nat.succ.inj (hpending.symm.trans hone), hmodal,
    not_or.2 ⟨not_takesDown_of_cons hwaiting htask, htaken⟩⟩

/-- An activation leaves no dialog open, and takes one down if there was one. -/
theorem aligned_dismissed (h : Aligned desk.console.controller d taken desk.console.modal)
    {id : SessionId} (hactivates : desk.sb.Activates id (.applyTask desk.console.controller))
    {notices : List Notice} :
    Aligned desk.console.controller (d.tell notices)
      (desk.TakesDown (.move (.applyTask desk.console.controller)) ∨ taken) none := by
  have hclosed (hnone : desk.console.modal = none) :
      ¬ desk.TakesDown (.move (.applyTask desk.console.controller)) := by
    rintro ⟨hsome, -⟩
    simp [hnone] at hsome
  have hdown (hsome : desk.console.modal.isSome = true) := Desk.TakesDown.intro hsome hactivates
  generalize desk.console.modal = modal at h hclosed hdown
  cases h with
  | idle hpending hstage htaken => exact .idle hpending hstage (not_or.2 ⟨hclosed rfl, htaken⟩)
  | busy hpending htaken => exact .busy hpending (not_or.2 ⟨hclosed rfl, htaken⟩)
  | offering hpending hstage =>
    have hwaits : d.stage ≠ .idle := by simp [hstage]
    exact .orphaned hpending hwaits (.inl (hdown rfl))
  | asking hpending hstage =>
    have hwaits : d.stage ≠ .idle := by simp [hstage]
    exact .orphaned hpending hwaits (.inl (hdown rfl))
  | orphaned hpending hstage htaken => exact .orphaned hpending hstage (.inr htaken)

/-- A move that is not made at the console keeps the agreement. -/
theorem aligned_move (hopen : d.isOpen = true)
    (h : Aligned desk.console.controller d taken desk.console.modal)
    (hmade : m.isMadeAt desk.console.controller = false)
    (hturn : desk.sb.FlowTurn desk.console.controller d m d') :
    Aligned desk.console.controller d' (desk.TakesDown (.move m) ∨ taken)
      (d.reveal d' desk.console.modal) := by
  cases hturn with
  | known | sought | shut | confirmedSelection | cancelledSelection | confirmedDeletion
  | cancelledDeletion => simp [Move.isMadeAt] at hmade
  | rest hbegin hjob hactivation =>
    exact h.kept rfl rfl rfl rfl rfl rfl (or_iff_right (not_takesDown hactivation))
  | recast => exact h.kept rfl rfl rfl rfl rfl rfl (or_iff_right (not_takesDown (by simp)))
  | @finished place g job before after task hplace hflow hjobs htask =>
    have hpost : Dialogue.post { d with jobs := before ++ after } task =
        { d with jobs := before ++ after, errands := d.errands ++ [task] } := if_pos hopen
    have hsame := pending_finished hopen hflow hjobs htask
    rw [hpost] at hsame ⊢
    exact h.kept rfl rfl rfl rfl rfl hsame (or_iff_right (not_takesDown (by simp)))
  | @stale task rest errands g hwaiting herrands htask hstale =>
    have hne : task.generation? ≠ some d.generation := by
      rw [htask]
      exact fun heq => hstale (Option.some.inj heq).symm
    exact h.kept rfl rfl rfl rfl rfl (pending_cons_of_ne herrands hne).symm
      (or_iff_right (not_takesDown_of_cons hwaiting htask))
  | @resolved result rest errands _ hwaiting herrands hleads =>
    obtain ⟨hnone, hmodal, htaken⟩ := h.of_cons hwaiting herrands rfl
    rw [hmodal]
    exact aligned_leads (d := { d with errands }) hnone htaken hleads
  | @portsRead pod result rest errands _ hwaiting herrands hyields =>
    obtain ⟨hnone, hmodal, htaken⟩ := h.of_cons hwaiting herrands rfl
    rw [hmodal]
    exact aligned_yields (d := { d with errands }) hnone htaken hyields
  | dismissed hactivates =>
    rw [reveal_of_told rfl]
    exact aligned_dismissed h hactivates

/-- The screen and the flow of a desk agree, which stands at a dialogue. -/
structure Desk.Agrees (desk : Desk) (taken : Prop) (d : Dialogue) : Prop where
  dialogue : desk.sb.dialogue desk.console.controller = some d
  isOpen : d.isOpen = true
  bounded : d.Bounded
  aligned : Aligned desk.console.controller d taken desk.console.modal

theorem Desk.Agrees.congr (h : desk.Agrees taken d) (htaken : taken' ↔ taken) :
    desk.Agrees taken' d :=
  { h with aligned := h.aligned.congr htaken }

/-- A move from a desk whose console is in any state. -/
theorem agrees_step (hsound : desk.sb.Sound)
    (hd : desk.sb.dialogue desk.console.controller = some d) (hopen : d.isOpen = true)
    (hbounded : d.Bounded) (hm : m ≠ .closeInterface desk.console.controller)
    (hd' : (desk.sb.step m).dialogue desk.console.controller = some d')
    (haligned : Aligned desk.console.controller d' taken (d.reveal d' desk.console.modal)) :
    (desk.step m).Agrees taken d' := by
  obtain ⟨_, hd'', hturn⟩ := Switchboard.flowTurn_step hsound.wellFormed hd m
  cases hd'.symm.trans hd''
  have hcontroller := controller_step desk m
  refine ⟨hcontroller.symm ▸ hd', (Switchboard.isOpen_turn hturn hm).trans hopen,
    Switchboard.bounded_turn hbounded hturn, ?_⟩
  rw [hcontroller, modal_step hsound m hd hd']
  exact haligned

/-- An answer takes the open dialog down, and ends the flow. -/
theorem agrees_answered {new : List Notice} (hsound : desk.sb.Sound) (h : desk.Agrees taken d)
    (hm : m ≠ .closeInterface desk.console.controller)
    (hd' : (desk.sb.step m).dialogue desk.console.controller = some d')
    (hpending : d'.pending desk.console.controller = 0) (hstage : d'.stage = .idle)
    (htold : d'.told = d.told ++ new) (hquiet : ∀ n ∈ new, n.effect.isModal = false)
    (htaken : ¬ taken') :
    (({ desk with console.modal := none } : Desk).step m).Agrees taken' d' := by
  refine agrees_step hsound h.dialogue h.isOpen h.bounded hm hd' ?_
  rw [reveal_of_quiet htold hquiet]
  exact .idle hpending hstage htaken

/-- The console changes, but not what is on the screen. -/
theorem agrees_still (h : desk.Agrees taken d) {console : State}
    (hsame : desk.console.Shows console) (htaken : taken' ↔ taken) :
    ({ desk with console } : Desk).Agrees taken' d := by
  obtain ⟨hcontroller, hmodal⟩ := hsame
  refine ⟨hcontroller.symm ▸ h.dialogue, h.isOpen, h.bounded, ?_⟩
  rw [hcontroller, hmodal]
  exact h.aligned.congr htaken

/-- A move that is not made at the console belongs to the current flow. -/
theorem agrees_move (hsound : desk.sb.Sound) (h : desk.Agrees taken d)
    (hmade : m.isMadeAt desk.console.controller = false) :
    ∃ d', d'.generation = d.generation ∧
      (desk.step m).Agrees (desk.TakesDown (.move m) ∨ taken) d' := by
  obtain ⟨hd, hopen, hbounded, haligned⟩ := h
  obtain ⟨d', hd', hturn⟩ := Switchboard.flowTurn_step hsound.wellFormed hd m
  refine ⟨d', Switchboard.generation_turn_of_ne hturn ?_,
    agrees_step hsound hd hopen hbounded ?_ hd' (aligned_move hopen haligned hmade hturn)⟩
  · rintro target rfl
    simp [Move.isMadeAt] at hmade
  · rintro rfl
    simp [Move.isMadeAt] at hmade

/-- A trigger begins a flow. -/
theorem agrees_trigger (hsound : desk.sb.Sound) (h : desk.Agrees taken d)
    (hmodal : desk.console.modal = none) (target : Target) :
    ∃ d', d'.generation = d.generation + 1 ∧
      (desk.step (.trigger desk.console.controller target)).Agrees False d' := by
  obtain ⟨hd, hopen, hbounded, -⟩ := h
  have hpending := pending_begin (c := desk.console.controller) hbounded
  obtain ⟨d', hd', hturn⟩ := Switchboard.flowTurn_trigger hd target
  refine ⟨d', Switchboard.generation_trigger hturn,
    agrees_step hsound hd hopen hbounded nofun hd' ?_⟩
  rw [hmodal]
  cases hturn with
  | rest hbegin => exact absurd rfl (hbegin target)
  | known hknown hleads => exact aligned_leads (d := d.begin) hpending id hleads
  | @sought _ route hroute =>
    let job : Job := .resolve desk.console.controller (d.generation + 1) route target.path
    have hsame : d.reveal (d.begin.spawn job) none = none := reveal_of_same rfl none
    rw [hsame]
    exact .busy ((pending_spawn rfl).trans (congrArg (· + 1) hpending)) id

/-- An event goes to the current flow, or triggers a new one. -/
theorem agrees_event (hsound : desk.sb.Sound) (h : desk.Agrees taken d) (e : Event) :
    ∃ d', d'.generation = d.generation ∧ (desk.handle e).2.Agrees taken d' ∨
      d'.generation = d.generation + 1 ∧ (desk.handle e).2.Agrees False d' := by
  have haligned := h.aligned
  have hreacts := desk.console.reacts desk.sb.registry e
  simp only [Desk.handle]
  generalize desk.console.handle desk.sb.registry e = r at hreacts ⊢
  cases hreacts with
  | kept hsame => exact ⟨d, .inl ⟨rfl, agrees_still h hsame Iff.rfl⟩⟩
  | edited hcontroller hbefore hafter hdialog =>
    refine ⟨d, .inl ⟨rfl, hcontroller.symm ▸ h.dialogue, h.isOpen, h.bounded, ?_⟩⟩
    rw [hbefore] at haligned
    rw [hcontroller, hafter]
    cases haligned with
    | offering hpending hstage hd hopen hgen htaken =>
      exact .offering hpending hstage (hdialog ▸ hd) hopen hgen htaken
  | @triggered _ target hmodal =>
    obtain ⟨d', hgen, hagrees⟩ := agrees_trigger hsound h hmodal target
    exact ⟨d', .inr ⟨hgen, hagrees⟩⟩
  | @confirmedSelection _ f selection hmodal =>
    rw [hmodal] at haligned
    cases haligned with
    | offering hpending hstage hdialog hopen hgen htaken =>
      have hd' := Switchboard.dialogue_confirmSelection h.dialogue hdialog hopen selection
      rw [advance_of_eq (d := d.answerSelection f.dialog) hgen.symm] at hd'
      refine ⟨_, .inl ⟨?_, agrees_answered hsound h nofun hd' hpending rfl
        (List.append_nil _).symm nofun htaken⟩⟩
      rfl
  | @cancelledSelection _ f hmodal =>
    rw [hmodal] at haligned
    cases haligned with
    | offering hpending hstage hdialog hopen hgen htaken =>
      have hd' := Switchboard.dialogue_cancelSelection h.dialogue hdialog hopen
      rw [advance_of_eq (d := d.answerSelection f.dialog) hgen.symm] at hd'
      refine ⟨_, .inl ⟨?_, agrees_answered hsound h nofun hd' hpending rfl
        (List.append_nil _).symm nofun htaken⟩⟩
      rfl
  | @confirmedDeletion _ n _ hmodal =>
    rw [hmodal] at haligned
    cases haligned with
    | asking hpending hstage hdialog hopen hgen htaken =>
      have hd' := Switchboard.dialogue_confirmDeletion h.dialogue hdialog hopen
      rw [advance_of_eq (d := d.answerDeletion n) hgen.symm, if_pos hgen.symm] at hd'
      refine ⟨_, .inl ⟨?_, agrees_answered hsound h nofun hd' hpending rfl rfl
        (by simp [Effect.isModal]) htaken⟩⟩
      rfl
  | @cancelledDeletion _ n _ hmodal =>
    rw [hmodal] at haligned
    cases haligned with
    | asking hpending hstage hdialog hopen hgen htaken =>
      have hd' := Switchboard.dialogue_cancelDeletion h.dialogue hdialog hopen
      rw [advance_of_eq (d := d.answerDeletion n) hgen.symm] at hd'
      refine ⟨_, .inl ⟨?_, agrees_answered hsound h nofun hd' hpending rfl
        (List.append_nil _).symm nofun htaken⟩⟩
      rfl

/-- What happens at a desk belongs to the current flow, or begins a new one. -/
theorem agrees_occur (hsound : desk.sb.Sound) (h : desk.Agrees taken d) (o : Occurrence) :
    ∃ d', d'.generation = d.generation ∧ (desk.occur o).Agrees (desk.TakesDown o ∨ taken) d' ∨
      d'.generation = d.generation + 1 ∧ (desk.occur o).Agrees False d' := by
  have hstill (console : State) (hsame : desk.console.Shows console) (hdown : ¬ desk.TakesDown o) :
      ({ desk with console } : Desk).Agrees (desk.TakesDown o ∨ taken) d :=
    agrees_still h hsame (or_iff_right hdown)
  cases o with
  | event e =>
    have hdown : ¬ desk.TakesDown (.event e) := nofun
    rw [propext (or_iff_right hdown)]
    exact agrees_event hsound h e
  | move m =>
    simp only [Desk.occur]
    split
    · rename_i hmade
      refine ⟨d, .inl ⟨rfl, hstill desk.console ⟨rfl, rfl⟩ ?_⟩⟩
      rintro ⟨-, -⟩
      simp [Move.isMadeAt] at hmade
    · rename_i hmade
      obtain ⟨d', hgen, hagrees⟩ := agrees_move hsound h (by simpa using hmade)
      exact ⟨d', .inl ⟨hgen, hagrees⟩⟩
  | reload => exact ⟨d, .inl ⟨rfl, hstill _ (State.shows_takeRefreshRequest _) nofun⟩⟩
  | reloaded result => exact ⟨d, .inl ⟨rfl, hstill _ (State.shows_setPods ..) nofun⟩⟩
  | expire => exact ⟨d, .inl ⟨rfl, hstill _ (State.shows_expireFlash ..) nofun⟩⟩

end Occurrences

/-! ## Runs -/

namespace Desk

variable {desk : Desk} {occurrences : List Occurrence} {o : Occurrence}

theorem run_concat (desk : Desk) (occurrences : List Occurrence) (o : Occurrence) :
    desk.run (occurrences ++ [o]) = (desk.run occurrences).occur o :=
  List.foldl_append

/-- What happens at a desk happens to its switchboard by moves. -/
theorem exists_moves_occur (desk : Desk) (o : Occurrence) :
    ∃ moves, (desk.occur o).sb = desk.sb.run moves ∧
      (desk.occur o).console.controller = desk.console.controller := by
  cases o with
  | event e =>
    have hcontroller := (desk.console.reacts desk.sb.registry e).controller_eq
    simp only [occur, handle]
    cases (desk.console.handle desk.sb.registry e).move with
    | none => exact ⟨[], rfl, hcontroller⟩
    | some m => exact ⟨[m], rfl, (controller_step ..).trans hcontroller⟩
  | move m =>
    simp only [occur]
    split
    · exact ⟨[], rfl, rfl⟩
    · exact ⟨[m], rfl, controller_step ..⟩
  | reload => exact ⟨[], rfl, (State.shows_takeRefreshRequest _).1⟩
  | reloaded result => exact ⟨[], rfl, (State.shows_setPods ..).1⟩
  | expire => exact ⟨[], rfl, (State.shows_expireFlash ..).1⟩

theorem exists_moves (desk : Desk) (occurrences : List Occurrence) :
    ∃ moves, (desk.run occurrences).sb = desk.sb.run moves ∧
      (desk.run occurrences).console.controller = desk.console.controller := by
  induction occurrences generalizing desk with
  | nil => exact ⟨[], rfl, rfl⟩
  | cons o occurrences ih =>
    obtain ⟨moves, hsb, hcontroller⟩ := desk.exists_moves_occur o
    obtain ⟨moves', hsb', hcontroller'⟩ := ih (desk.occur o)
    refine ⟨moves ++ moves', ?_, hcontroller'.trans hcontroller⟩
    rw [Switchboard.run_append, ← hsb]
    exact hsb'

theorem sound_run (h : desk.sb.Sound) (occurrences : List Occurrence) :
    (desk.run occurrences).sb.Sound := by
  obtain ⟨moves, hsb, -⟩ := desk.exists_moves occurrences
  exact hsb ▸ h.run moves

/-- The generation of the dialog flow never falls. -/
theorem generation_run {g g' : Nat} (h : desk.sb.Sound) (hg : desk.generation? = some g)
    (hg' : (desk.run occurrences).generation? = some g') : g ≤ g' := by
  obtain ⟨moves, hsb, hcontroller⟩ := desk.exists_moves occurrences
  obtain ⟨d, hd, rfl⟩ := Option.map_eq_some_iff.1 hg
  obtain ⟨d', hd', rfl⟩ := Option.map_eq_some_iff.1 hg'
  rw [hsb, hcontroller] at hd'
  exact Switchboard.generation_run h hd moves hd'

theorem Agrees.generation? {taken : Prop} (h : desk.Agrees taken d) :
    desk.generation? = some d.generation := by
  rw [Desk.generation?, h.dialogue]
  rfl

/-- An element of a list with one more at its end. -/
theorem eq_or_split_of_concat {α : Type} {as before after : List α} {a b : α}
    (h : as ++ [a] = before ++ b :: after) :
    before = as ∧ b = a ∨ ∃ after', as = before ++ b :: after' := by
  rcases List.eq_nil_or_concat after with rfl | ⟨after', last, rfl⟩
  · obtain ⟨has, ha⟩ := List.append_inj' h rfl
    exact .inl ⟨has.symm, (List.singleton_inj.1 ha).symm⟩
  · rw [List.concat_eq_append, ← List.cons_append, ← List.append_assoc] at h
    exact .inr ⟨after', (List.append_inj' h rfl).1⟩

/-- As long as the flow is the same, what was taken down stays so. -/
theorem takenDown_concat
    (hsame : (desk.run (occurrences ++ [o])).generation? = (desk.run occurrences).generation?) :
    desk.TakenDown (occurrences ++ [o]) ↔
      (desk.run occurrences).TakesDown o ∨ desk.TakenDown occurrences := by
  constructor
  · rintro ⟨before, o', after, hsplit, hdown, hgen⟩
    rcases eq_or_split_of_concat hsplit with ⟨rfl, rfl⟩ | ⟨after', hsplit'⟩
    · exact .inl hdown
    · exact .inr ⟨before, o', after', hsplit', hdown, hsame.symm.trans hgen⟩
  · rintro (hdown | ⟨before, o', after, hsplit, hdown, hgen⟩)
    · exact ⟨occurrences, o, [], rfl, hdown, hsame⟩
    · exact ⟨before, o', after ++ [o], by simp [hsplit], hdown, hsame.trans hgen⟩

/-- Of a flow that just began nothing was taken down. -/
theorem not_takenDown_concat {g g' : Nat} (h : desk.sb.Sound)
    (hg : (desk.run occurrences).generation? = some g)
    (hg' : (desk.run (occurrences ++ [o])).generation? = some g') (hbegun : g < g') :
    ¬ desk.TakenDown (occurrences ++ [o]) := by
  rintro ⟨before, o', after, hsplit, hdown, hgen⟩
  have hbefore : (desk.run before).generation? = some g' := hgen.symm.trans hg'
  have hprefix : ∃ between, occurrences = before ++ between := by
    rcases eq_or_split_of_concat hsplit with ⟨rfl, -⟩ | ⟨after', hsplit'⟩
    · exact ⟨[], (List.append_nil _).symm⟩
    · exact ⟨o' :: after', hsplit'⟩
  obtain ⟨between, rfl⟩ := hprefix
  have hrun : desk.run (before ++ between) = (desk.run before).run between := List.foldl_append
  rw [hrun] at hg
  exact Nat.not_le_of_lt hbegun (generation_run (sound_run h before) hbefore hg)

/-- The screen and the flow of a desk agree at all times. -/
theorem agrees_run (surroundings : Surroundings) {controllers : List (String × Nat)}
    {c : ControllerId} (hc : c < controllers.length) (ns : String)
    (occurrences : List Occurrence) :
    ∃ d, ((initial surroundings controllers c ns).run occurrences).Agrees
      ((initial surroundings controllers c ns).TakenDown occurrences) d := by
  have hsound := Switchboard.sound_initial surroundings controllers
  induction occurrences using List.reverseRecOn with
  | nil =>
    have hd : (Switchboard.initial surroundings controllers).dialogue c ≠ none := by
      simp [Switchboard.dialogue, Switchboard.initial, hc]
    obtain ⟨d, hd⟩ := Option.ne_none_iff_exists'.1 hd
    obtain ⟨settings, -, rfl⟩ := Switchboard.eq_of_dialogue_initial hd
    refine ⟨_, hd, rfl, Switchboard.bounded_initial hd, .idle rfl rfl ?_⟩
    rintro ⟨before, o, after, hsplit, -⟩
    simp at hsplit
  | append_singleton occurrences o ih =>
    obtain ⟨d, h⟩ := ih
    have hrun := run_concat (initial surroundings controllers c ns) occurrences o
    obtain ⟨d', hoccurred⟩ := agrees_occur (sound_run hsound occurrences) h o
    rw [← hrun] at hoccurred
    rcases hoccurred with ⟨hgen, hagrees⟩ | ⟨hgen, hagrees⟩
    · refine ⟨d', hagrees.congr (takenDown_concat ?_)⟩
      exact hagrees.generation?.trans (hgen ▸ h.generation?.symm)
    · refine ⟨d', hagrees.congr (iff_false_intro ?_)⟩
      refine not_takenDown_concat hsound h.generation? hagrees.generation? ?_
      exact hgen ▸ Nat.lt_succ_self _

end Desk

/-- The screen and the dialog flow. An open start dialog means that the flow waits for a selection,
and an open question that it waits for the answer. Where no task waits and no job of a flow is under
way and no dialog is open, the flow is idle, unless an activation took down the dialog of the
current flow, and then it is not. -/
theorem screen_agrees_iff (surroundings : Surroundings) (controllers : List (String × Nat))
    (c : ControllerId) (ns : String) (occurrences : List Occurrence) (hc : c < controllers.length) :
    let start := Desk.initial surroundings controllers c ns
    let desk := start.run occurrences
    ∃ ctl, desk.sb.controllers[c]? = some ctl ∧
      (∀ f, desk.console.modal = some (.selection f) → ctl.stage = .awaitingSelection) ∧
      (∀ n dialog, desk.console.modal = some (.deletion n dialog) →
        ctl.stage = .awaitingDeletion) ∧
      (ctl.queue.waiting = [] → desk.sb.flowJobs c = [] → desk.console.modal = none →
        (ctl.stage = .idle ↔ ¬ start.TakenDown occurrences)) := by
  intro start desk
  obtain ⟨d, hagrees⟩ := Desk.agrees_run surroundings hc ns occurrences
  obtain ⟨moves, -, hcontroller⟩ := start.exists_moves occurrences
  have hc' : desk.console.controller = c := hcontroller
  have haligned := hagrees.aligned
  have hdialogue := hagrees.dialogue
  rw [hc'] at haligned hdialogue
  obtain ⟨ctl, hctl, rfl⟩ := Switchboard.exists_controller_of_dialogue hdialogue
  refine ⟨ctl, hctl, fun f hf => ?_, fun n dialog hn => ?_, fun hwaiting hjobs hnone => ?_⟩
  · rw [hf] at haligned
    cases haligned with
    | offering _ hstage => exact hstage
  · rw [hn] at haligned
    cases haligned with
    | asking _ hstage => exact hstage
  · have hpending : (desk.sb.dialogueOf c ctl).pending c = 0 := by
      simp [Dialogue.pending, jobsOf, errandsOf, Switchboard.dialogueOf, hwaiting, hjobs]
    rw [hnone] at haligned
    cases haligned with
    | idle _ hstage htaken => exact iff_of_true hstage htaken
    | busy hone => cases hpending.symm.trans hone
    | orphaned _ hstage htaken => exact iff_of_false hstage (not_not_intro htaken)

/-- A session that is not active yet is about to be deleted when its activation is applied. -/
def activatedWhileAsked : List Occurrence :=
  (Switchboard.webStart 0 0).map .move ++
    [.event (.press { code := .tab }), .event (.press { code := .char 'F' }), .move (.applyTask 0)]

theorem takenDown_of_activatedWhileAsked :
    (Desk.initial { cluster := .empty } [("127.0.0.1", 30)] 0 "ns").TakenDown
      activatedWhileAsked := by
  obtain ⟨ctl, hctl, -, -, hiff⟩ := screen_agrees_iff { cluster := .empty } [("127.0.0.1", 30)] 0
    "ns" activatedWhileAsked (by decide)
  have hview : ((Desk.initial { cluster := .empty } [("127.0.0.1", 30)] 0 "ns").run
      activatedWhileAsked).sb.controllers[0]?.map
        (fun ctl => (ctl.stage, ctl.queue.waiting.isEmpty)) = some (.awaitingDeletion, true) := by
    decide +kernel
  rw [hctl] at hview
  obtain ⟨hstage, hwaiting⟩ := Prod.mk.inj (Option.some.inj hview)
  have hidle := hiff (List.isEmpty_iff.1 hwaiting) (List.isEmpty_iff.1 (by decide +kernel))
    (Option.isNone_iff_eq_none.1 (by decide +kernel))
  refine not_not.1 fun htaken => ?_
  cases hstage.symm.trans (hidle.2 htaken)

/-- The flow waits for an answer that nobody can give. -/
theorem flow_waits_without_dialog :
    let desk := (Desk.initial { cluster := .empty } [("127.0.0.1", 30)] 0 "ns").run
      activatedWhileAsked
    ∃ ctl, desk.sb.controllers[0]? = some ctl ∧ ctl.queue.waiting = [] ∧ desk.sb.jobs = [] ∧
      desk.console.modal = none ∧ ctl.stage = .awaitingDeletion :=
  ⟨_, rfl, rfl, rfl, rfl, rfl⟩

end Console

end PodTunnels
