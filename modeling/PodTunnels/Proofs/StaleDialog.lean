import PodTunnels.Proofs.Activation
import PodTunnels.Proofs.Within

/-!
# Stale dialogs

A dialog is shown for the generation that is current then, and every trigger begins a newer one. So
after the next trigger a dialog is stale for good. Answering a stale dialog has no effect but that
it counts as answered, with one exception: a deletion that is confirmed stops the sessions that its
question listed, and only then looks at its generation.
-/

namespace PodTunnels

/-- To change an element into what it is changes nothing. -/
theorem modify_eq_self {α : Type} {as : List α} {i : Nat} {f : α → α}
    (hf : ∀ a, as[i]? = some a → f a = a) : as.modify i f = as := by
  refine List.ext_getElem? fun j => ?_
  rw [List.getElem?_modify]
  split
  · rename_i hj
    subst hj
    cases ha : as[i]? with
    | none => rfl
    | some a => exact congrArg some (hf a ha)
  · exact congrFun Option.map_id _

namespace Controller

variable {ctl : Controller}

/-- A dialog is answered once. -/
theorem answerSelection_of_answered {dialog : Nat} {d : SelectionDialog}
    (hd : ctl.selections[dialog]? = some d) (hanswered : d.answered = true) :
    ctl.answerSelection dialog = ctl := by
  have hkept : ctl.selections.modify dialog (fun d => { d with answered := true }) =
      ctl.selections := by
    refine modify_eq_self fun d' hd' => ?_
    cases hd.symm.trans hd'
    cases d
    cases hanswered
    rfl
  simp only [answerSelection, hkept]

theorem answerDeletion_of_answered {dialog : Nat} {d : DeletionDialog}
    (hd : ctl.deletions[dialog]? = some d) (hanswered : d.answered = true) :
    ctl.answerDeletion dialog = ctl := by
  have hkept : ctl.deletions.modify dialog (fun d => { d with answered := true }) =
      ctl.deletions := by
    refine modify_eq_self fun d' hd' => ?_
    cases hd.symm.trans hd'
    cases d
    cases hanswered
    rfl
  simp only [answerDeletion, hkept]

end Controller

namespace Standing

variable {st : Standing}

/-- The session is down already: not registered, inactive, and asked to close. -/
def IsDown (st : Standing) : Prop :=
  st.registered = false ∧ ∀ s, st.session = some s → s.active = false ∧ s.closeRequested = true

/-- A stop changes nothing exactly if the session is down. -/
theorem quit_eq_self_iff : st.quit = st ↔ st.IsDown := by
  rw [quit_eq]
  constructor
  · intro hsame
    refine ⟨(congrArg Standing.registered hsame).symm, fun s hs => ?_⟩
    have hsession := live_session (register_session hs false) fun l => l.deactivate.requestClose
    have hkept := hsession.symm.trans ((congrArg Standing.session hsame).trans hs)
    have hlife := congrArg Session.toLife (Option.some.inj hkept)
    exact ⟨(congrArg Life.active hlife).symm, (congrArg Life.closeRequested hlife).symm⟩
  · rintro ⟨hreg, hdown⟩
    refine Standing.ext ?_ hreg.symm rfl rfl rfl
    cases hs : st.session with
    | none => simp [live, register, hs]
    | some s =>
      obtain ⟨hactive, hclose⟩ := hdown s hs
      refine (live_session (register_session hs false) _).trans (congrArg some ?_)
      obtain ⟨w, l⟩ := s
      cases l
      cases hactive
      cases hclose
      rfl

end Standing

namespace Switchboard

/-! ## What a move does to the controllers -/

/-- Controllers stay, and their dialog flows go on. -/
structure Continues (sb sb' : Switchboard) : Prop where
  length : sb'.controllers.length = sb.controllers.length
  onward : ∀ (c : ControllerId) (ctl : Controller), sb.controllers[c]? = some ctl →
    ∃ ctl', sb'.controllers[c]? = some ctl' ∧ ctl.Onward ctl'

namespace Continues

variable {sb sb' sb₁ sb₂ sb₃ : Switchboard} {c : ControllerId}

theorem trans (h : sb₁.Continues sb₂) (h' : sb₂.Continues sb₃) : sb₁.Continues sb₃ where
  length := h'.length.trans h.length
  onward c ctl hctl := by
    obtain ⟨ctl', hctl', hon⟩ := h.onward c ctl hctl
    obtain ⟨ctl'', hctl'', hon'⟩ := h'.onward c ctl' hctl'
    exact ⟨ctl'', hctl'', hon.trans hon'⟩

theorem of_aside (h : sb.Aside sb') : sb.Continues sb' where
  length := h.length
  onward c ctl hctl := by
    obtain ⟨ctl', hctl', haside⟩ := h.controller c ctl hctl
    exact ⟨ctl', hctl', haside.onward⟩

theorem of_controllers (h : sb'.controllers = sb.controllers) : sb.Continues sb' :=
  ⟨congrArg List.length h, fun _ ctl hctl => ⟨ctl, h ▸ hctl, .refl ctl⟩⟩

theorem refl (sb : Switchboard) : sb.Continues sb :=
  of_controllers rfl

/-- A change of a controller that shows no dialog. -/
theorem of_control {f : Controller → Controller}
    (h : sb'.controllers = (sb.control c f).controllers)
    (hf : ∀ ctl, (f ctl).generation = ctl.generation ∧ (f ctl).selections = ctl.selections ∧
      (f ctl).deletions = ctl.deletions) : sb.Continues sb' := by
  refine .trans ⟨List.length_modify .., fun c' ctl hctl => ?_⟩ (of_controllers h)
  obtain ⟨hgen, hselections, hdeletions⟩ := hf ctl
  simp only [control, List.getElem?_modify, hctl]
  split
  · exact ⟨f ctl, rfl, .of_dialogs (Nat.le_of_eq hgen.symm) hselections hdeletions⟩
  · exact ⟨ctl, rfl, .refl ctl⟩

theorem start (sb : Switchboard) (c : ControllerId) (pod : ResourcePath) (selection : Selection) :
    sb.Continues (sb.start c pod selection) := by
  unfold Switchboard.start
  split
  · exact .refl sb
  · dsimp only
    split
    · exact of_controllers rfl
    · exact of_control (c := c) rfl fun _ => ⟨rfl, rfl, rfl⟩

theorem checked (sb : Switchboard) (c : ControllerId) (start : StartId) (key : SessionKey)
    (selection : Selection) (result : Except Failure Unit) :
    sb.Continues (sb.checked c start key selection result) := by
  have hend (sb' : Switchboard) (result : Except Failure Unit) :
      sb'.Continues ((sb'.control c fun ctl => ctl.release key).reportStart c start result) := by
    cases result <;>
      exact of_control (c := c) (f := fun ctl => ctl.release key) rfl fun _ => ⟨rfl, rfl, rfl⟩
  unfold Switchboard.checked
  cases result with
  | error e => exact hend sb (.error e)
  | ok _ =>
    have hwithin := Within.openSession sb c start key selection.tunnels
    exact (of_controllers hwithin.controllers).trans (hend _ _)

end Continues

variable {sb : Switchboard} {c : ControllerId}

/-- Every move goes on from where the controllers stand. -/
theorem continues_step (wf : sb.registry.WellFormed) (m : Move) : sb.Continues (sb.step m) := by
  rcases aside_step wf m with haside | hconcerns
  · exact .of_aside haside
  · cases hconcerns with
    | start haside hstep =>
      rw [hstep]
      exact (Continues.of_aside haside).trans (.start ..)
    | check hplace =>
      simp only [step, finishJob, hplace, runJob]
      exact .of_control rfl fun _ => ⟨rfl, rfl, rfl⟩
    | verdict hwaiting =>
      rw [step, applyTask_of_cons hwaiting]
      refine .trans ?_ (.checked ..)
      exact .of_control rfl fun _ => ⟨rfl, rfl, rfl⟩
    | shut => exact .of_control rfl fun _ => ⟨rfl, rfl, rfl⟩

theorem continues_run (h : sb.Sound) (moves : List Move) : sb.Continues (sb.run moves) := by
  induction moves generalizing sb with
  | nil => exact .refl sb
  | cons m moves ih => exact (continues_step h.wellFormed m).trans (ih (h.step m))

/-- No dialog is ever ahead of its flow. -/
theorem controller_sound_run {surroundings : Surroundings} {controllers : List (String × Nat)}
    {moves : List Move} {ctl : Controller}
    (hctl : ((initial surroundings controllers).run moves).controllers[c]? = some ctl) :
    ctl.Sound := by
  have hcontinues := continues_run (sound_initial surroundings controllers) moves
  have hbound := (List.getElem?_eq_some_iff.1 hctl).1
  rw [hcontinues.length] at hbound
  have hfirst := List.getElem?_eq_getElem hbound
  obtain ⟨ctl', hctl', hon⟩ := hcontinues.onward c _ hfirst
  cases hctl.symm.trans hctl'
  refine hon.sound ?_
  simp only [initial, List.getElem_map]
  exact ⟨by simp, by simp⟩

/-! ## Answers that come too late -/

theorem control_self {f : Controller → Controller}
    (hf : ∀ ctl, sb.controllers[c]? = some ctl → f ctl = ctl) : sb.control c f = sb := by
  simp only [control, modify_eq_self hf]

/-- An answer does not begin a flow. -/
theorem isCurrent_control {f : Controller → Controller}
    (hf : ∀ ctl, (f ctl).generation = ctl.generation) (generation : Nat) :
    (sb.control c f).isCurrent c generation = sb.isCurrent c generation := by
  cases hctl : sb.controllers[c]? <;> simp [isCurrent, control, hctl, hf]

theorem advance_of_not_isCurrent {generation : Nat} (h : sb.isCurrent c generation = false)
    (stage : Stage) : sb.advance c generation stage = sb := by
  refine control_self fun ctl hctl => ?_
  have hne : ctl.generation ≠ generation := by simpa [isCurrent, hctl] using h
  exact if_neg hne

/-- An answer to a stale start dialog only counts as an answer. -/
theorem answer_selection_of_stale {ctl : Controller} {dialog : Nat} {d : SelectionDialog}
    (hctl : sb.controllers[c]? = some ctl) (hd : ctl.selections[dialog]? = some d)
    (hstale : sb.isCurrent c d.generation = false) (selection : Selection) :
    sb.confirmSelection c dialog selection = sb.control c (·.answerSelection dialog) ∧
      sb.cancelSelection c dialog = sb.control c (·.answerSelection dialog) := by
  have hstale' : (sb.control c (·.answerSelection dialog)).isCurrent c d.generation = false :=
    (isCurrent_control (f := (·.answerSelection dialog)) (fun _ => rfl) d.generation).trans hstale
  cases hanswered : d.answered with
  | false =>
    have hopen : (sb.controllers[c]?.bind fun ctl => ctl.openSelection? dialog) = some d := by
      simp [hctl, Controller.openSelection?, hd, hanswered]
    simp [confirmSelection, cancelSelection, hopen, hstale', advance_of_not_isCurrent hstale']
  | true =>
    have hclosed : (sb.controllers[c]?.bind fun ctl => ctl.openSelection? dialog) = none := by
      simp [hctl, Controller.openSelection?, hd, hanswered]
    have hsame : sb.control c (·.answerSelection dialog) = sb := control_self fun ctl' hctl' => by
      cases hctl.symm.trans hctl'
      exact Controller.answerSelection_of_answered hd hanswered
    simp [confirmSelection, cancelSelection, hclosed, hsame]

/-- So does a stale deletion that is called off. -/
theorem cancelDeletion_of_stale {ctl : Controller} {dialog : Nat} {d : DeletionDialog}
    (hctl : sb.controllers[c]? = some ctl) (hd : ctl.deletions[dialog]? = some d)
    (hstale : sb.isCurrent c d.generation = false) :
    sb.cancelDeletion c dialog = sb.control c (·.answerDeletion dialog) := by
  have hstale' : (sb.control c (·.answerDeletion dialog)).isCurrent c d.generation = false :=
    (isCurrent_control (f := (·.answerDeletion dialog)) (fun _ => rfl) d.generation).trans hstale
  cases hanswered : d.answered with
  | false =>
    have hopen : (sb.controllers[c]?.bind fun ctl => ctl.openDeletion? dialog) = some d := by
      simp [hctl, Controller.openDeletion?, hd, hanswered]
    simp [cancelDeletion, hopen, advance_of_not_isCurrent hstale']
  | true =>
    have hclosed : (sb.controllers[c]?.bind fun ctl => ctl.openDeletion? dialog) = none := by
      simp [hctl, Controller.openDeletion?, hd, hanswered]
    have hsame : sb.control c (·.answerDeletion dialog) = sb := control_self fun ctl' hctl' => by
      cases hctl.symm.trans hctl'
      exact Controller.answerDeletion_of_answered hd hanswered
    simp [cancelDeletion, hclosed, hsame]

theorem notices_stopSession (sb : Switchboard) (id : SessionId) :
    (sb.stopSession id).notices = sb.notices := by
  unfold stopSession quit closeSession
  split
  · split <;> rfl
  · rfl

/-- What a deletion does that is confirmed too late: it stops the sessions that were listed, and the
interface is to refresh. The controllers see of it that the question was answered. -/
structure LateDeletion (sb after : Switchboard) (c : ControllerId) (dialog : Nat)
    (d : DeletionDialog) : Prop where
  apart : (sb.control c (·.answerDeletion dialog)).Apart after
  told : after.notices = sb.notices ++ [⟨c, .flow d.generation, .refresh⟩]
  stopped : ∀ id, after.standing id =
    if id ∈ d.sessions then (sb.standing id).quit else sb.standing id

theorem confirmDeletion_of_stale {dialog : Nat} {d : DeletionDialog}
    (hopen : (sb.controllers[c]?.bind fun ctl => ctl.openDeletion? dialog) = some d)
    (hstale : sb.isCurrent c d.generation = false) :
    sb.LateDeletion (sb.confirmDeletion c dialog) c dialog d := by
  let answered := sb.control c (·.answerDeletion dialog)
  have hstopped := Apart.foldl Apart.stopSession answered d.sessions
  have hstale' : (d.sessions.foldl stopSession answered).isCurrent c d.generation = false := by
    rw [isCurrent, hstopped.controllers]
    exact (isCurrent_control (f := fun ctl => ctl.answerDeletion dialog) (fun _ => rfl)
      d.generation).trans hstale
  have heq : sb.confirmDeletion c dialog =
      (d.sessions.foldl stopSession answered).notify c (.flow d.generation) .refresh := by
    simp only [confirmDeletion, hopen]
    rw [if_neg (by simpa using hstale')]
  have hnotices : (d.sessions.foldl stopSession answered).notices = sb.notices :=
    List.foldlRecOn (motive := fun sb' : Switchboard => sb'.notices = sb.notices) _ _ rfl
      fun sb' h id _ => (notices_stopSession sb' id).trans h
  refine ⟨?_, ?_, fun id => standing_confirmDeletion hopen⟩
  · rw [heq]
    exact hstopped.trans (Apart.notify _ c (by simp) _)
  · rw [heq, ← hnotices]
    rfl

/-- After a trigger, every flow that was there before is behind the current one. -/
theorem exists_newer_flow (h : sb.Sound) {ctl : Controller} (hctl : sb.controllers[c]? = some ctl)
    (target : Target) (after : List Move) :
    ∃ ctl', (sb.run (.trigger c target :: after)).controllers[c]? = some ctl' ∧
      ctl.Onward ctl' ∧ ctl.generation < ctl'.generation := by
  have hbegun : (sb.control c fun ctl => ctl.begin .resolving).controllers[c]? =
      some (ctl.begin .resolving) := by
    simp [control, hctl]
  have hlater := (Continues.of_aside (.trigger_begun hctl target)).trans
    (continues_run (h.step (.trigger c target)) after)
  obtain ⟨ctl', hctl', hon⟩ := hlater.onward c _ hbegun
  exact ⟨ctl', hctl', (ctl.onward_begin .resolving).trans hon, hon.generation⟩

/-- Stale dialogs. Whatever dialog a controller had shown before a trigger, at any time after it: to
confirm or dismiss a start dialog, or to call a deletion off, only counts as an answer. To confirm a
deletion stops the sessions that were listed, so nothing comes of it for any session exactly if
these are down already; beside that it has the interface refresh, and only if it is the first
answer. -/
theorem stale_dialog_acts_iff (surroundings : Surroundings) (controllers : List (String × Nat))
    (before after : List Move) (c : ControllerId) (target : Target) (ctl : Controller)
    (hctl : ((initial surroundings controllers).run before).controllers[c]? = some ctl) :
    let sb := (initial surroundings controllers).run (before ++ .trigger c target :: after)
    (∀ dialog d, ctl.selections[dialog]? = some d → ∀ selection,
      sb.step (.confirmSelection c dialog selection) = sb.control c (·.answerSelection dialog) ∧
      sb.step (.cancelSelection c dialog) = sb.control c (·.answerSelection dialog)) ∧
    ∀ dialog d, ctl.deletions[dialog]? = some d →
      sb.step (.cancelDeletion c dialog) = sb.control c (·.answerDeletion dialog) ∧
      ((sb.controllers[c]?.bind fun ctl => ctl.openDeletion? dialog) = none →
        sb.step (.confirmDeletion c dialog) = sb) ∧
      ∀ d', (sb.controllers[c]?.bind fun ctl => ctl.openDeletion? dialog) = some d' →
        d'.sessions = d.sessions ∧
        sb.LateDeletion (sb.step (.confirmDeletion c dialog)) c dialog d' ∧
        ((∀ id, (sb.step (.confirmDeletion c dialog)).standing id = sb.standing id) ↔
          ∀ id ∈ d.sessions, (sb.standing id).IsDown) := by
  intro sb
  have hsound := (sound_initial surroundings controllers).run before
  have hflows : ctl.Sound := controller_sound_run hctl
  obtain ⟨ctl', hctl', hon, hnewer⟩ := exists_newer_flow hsound hctl target after
  rw [← run_append] at hctl'
  have hstale {generation : Nat} (hold : generation ≤ ctl.generation) :
      sb.isCurrent c generation = false := by
    have hne : ctl'.generation ≠ generation := Nat.ne_of_gt (Nat.lt_of_le_of_lt hold hnewer)
    simp [isCurrent, sb, hctl', hne]
  constructor
  · intro dialog d hd selection
    obtain ⟨d', hd', hgen⟩ := hon.selection dialog d hd
    have hold := hflows.selection d (List.mem_of_getElem? hd)
    exact answer_selection_of_stale hctl' hd' (hstale (hgen ▸ hold)) selection
  · intro dialog d hd
    obtain ⟨d', hd', hgen, hsessions⟩ := hon.deletion dialog d hd
    have hold := hflows.deletion d (List.mem_of_getElem? hd)
    have hlate := hstale (hgen ▸ hold : d'.generation ≤ ctl.generation)
    refine ⟨cancelDeletion_of_stale hctl' hd' hlate, fun hclosed => ?_, fun d'' hopen => ?_⟩
    · simp only [step, confirmDeletion, hclosed]
    · have hsame : d'' = d' := by
        obtain ⟨ctl'', hctl'', hopen'⟩ := Option.bind_eq_some_iff.1 hopen
        cases hctl'.symm.trans hctl''
        have hfound := (Option.filter_eq_some_iff.1 hopen').1
        exact Option.some.inj (hfound.symm.trans hd')
      subst hsame
      have hlast := confirmDeletion_of_stale hopen hlate
      refine ⟨hsessions, hlast, ?_⟩
      rw [← hsessions]
      constructor
      · intro hnothing id hid
        have hquit := (hlast.stopped id).symm.trans (hnothing id)
        rw [if_pos hid] at hquit
        exact Standing.quit_eq_self_iff.1 hquit
      · intro hdown id
        refine (hlast.stopped id).trans ?_
        split
        · rename_i hid
          exact Standing.quit_eq_self_iff.2 (hdown id hid)
        · rfl

/-- A session is active, and a trigger for its pod has asked whether to delete it. -/
def askedDeletion : List Move :=
  webStart 0 0 ++ [.applyTask 0, .trigger 0 ⟨.pod, webPod⟩]

/-- The question is stale once the pod was triggered again; calling it off only counts as an
answer. -/
theorem cancel_of_askedDeletion :
    let sb := (initial { cluster := .empty } [("127.0.0.1", 30)]).run
      (askedDeletion ++ [.trigger 0 ⟨.pod, webPod⟩])
    sb.step (.cancelDeletion 0 0) = sb.control 0 (·.answerDeletion 0) :=
  ((stale_dialog_acts_iff { cluster := .empty } [("127.0.0.1", 30)] askedDeletion [] 0
    ⟨.pod, webPod⟩ _ rfl).2 0 _ rfl).1

/-- To confirm it stops the session. -/
theorem stale_deletion_stops :
    let sb := (initial { cluster := .empty } [("127.0.0.1", 30)]).run
      (askedDeletion ++ [.trigger 0 ⟨.pod, webPod⟩])
    sb.isActive 0 = true ∧ sb.registry.isRegistered 0 = true ∧ sb.closings = [] ∧
      (sb.step (.confirmDeletion 0 0)).isActive 0 = false ∧
      (sb.step (.confirmDeletion 0 0)).registry.isRegistered 0 = false ∧
      (sb.step (.confirmDeletion 0 0)).closings = [0] :=
  ⟨by decide, by decide, by decide, by decide, by decide, by decide⟩

end Switchboard

end PodTunnels
