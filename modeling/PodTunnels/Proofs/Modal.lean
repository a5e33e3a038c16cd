import PodTunnels.Console.Desk
import PodTunnels.Console.Reload
import PodTunnels.Proofs.Flows
import PodTunnels.Proofs.Notices

/-!
# The dialog on the screen

A key goes to the open dialog if there is one, and only an answer takes it down (`State.reacts`).
Otherwise the dialog changes by what the console is told. That shows in the dialogue of its
controller, so what a move does to the screen can be read from the dialogues before and after it
(`modal_step`).
-/

namespace PodTunnels

namespace Console

/-! ## What does not concern the dialog -/

namespace State

/-- The same dialog, if any, is on the screen of the same controller. -/
def Shows (c c' : State) : Prop :=
  c'.controller = c.controller ∧ c'.modal = c.modal

theorem shows_takeRefreshRequest (c : State) : c.Shows c.takeRefreshRequest.2 := by
  unfold takeRefreshRequest
  split <;> exact ⟨rfl, rfl⟩

theorem shows_setPods (c : State) (result : Reloaded) (now : Nat) :
    c.Shows (c.setPods result now) := by
  cases result <;> exact ⟨rfl, rfl⟩

theorem shows_expireFlash (c : State) (now : Nat) : c.Shows (c.expireFlash now) := by
  unfold expireFlash
  split
  · split <;> exact ⟨rfl, rfl⟩
  · exact ⟨rfl, rfl⟩

theorem shows_setCursor (c : State) (row : Nat) : c.Shows (c.setCursor row) := by
  unfold setCursor
  split <;> exact ⟨rfl, rfl⟩

theorem shows_selectDown (c : State) (registry : Registry) : c.Shows (c.selectDown registry) := by
  unfold selectDown
  split
  · exact c.shows_setCursor _
  · exact ⟨rfl, rfl⟩

end State

/-! ## What a key does -/

/-- What an event does to the dialog on the screen, and the move that it results in. -/
inductive Reacts (c : State) : Reaction → Prop
  | kept {h : Handling} {c' : State} (hsame : c.Shows c') : Reacts c ⟨h, c', none⟩
  /-- The form of the open start dialog is edited. -/
  | edited {h : Handling} {c' : State} {f f' : Form} (hcontroller : c'.controller = c.controller)
      (hbefore : c.modal = some (.selection f)) (hafter : c'.modal = some (.selection f'))
      (hdialog : f'.dialog = f.dialog) : Reacts c ⟨h, c', none⟩
  | triggered {h : Handling} {target : Target} (hmodal : c.modal = none) :
      Reacts c ⟨h, c, some (.trigger c.controller target)⟩
  | confirmedSelection {h : Handling} {f : Form} {selection : Selection}
      (hmodal : c.modal = some (.selection f)) :
      Reacts c
        ⟨h, { c with modal := none }, some (.confirmSelection c.controller f.dialog selection)⟩
  | cancelledSelection {h : Handling} {f : Form} (hmodal : c.modal = some (.selection f)) :
      Reacts c ⟨h, { c with modal := none }, some (.cancelSelection c.controller f.dialog)⟩
  | confirmedDeletion {h : Handling} {n : Nat} {dialog : DeletionDialog}
      (hmodal : c.modal = some (.deletion n dialog)) :
      Reacts c ⟨h, { c with modal := none }, some (.confirmDeletion c.controller n)⟩
  | cancelledDeletion {h : Handling} {n : Nat} {dialog : DeletionDialog}
      (hmodal : c.modal = some (.deletion n dialog)) :
      Reacts c ⟨h, { c with modal := none }, some (.cancelDeletion c.controller n)⟩

theorem Reacts.controller_eq {c : State} {r : Reaction} (h : Reacts c r) :
    r.console.controller = c.controller := by
  cases h with
  | kept hsame => exact hsame.1
  | edited hcontroller => exact hcontroller
  | _ => rfl

namespace Form

/-- A form of the same dialog, filled in otherwise. -/
structure Refills (f f' : Form) : Prop where
  dialog : f'.dialog = f.dialog
  pod : f'.pod = f.pod
  candidates : f'.candidates = f.candidates

theorem refills_edit (f : Form) (change : String → String) : f.Refills (f.edit change) := by
  unfold Form.edit
  split <;> exact ⟨rfl, rfl, rfl⟩

theorem refills_down (f : Form) : f.Refills f.down := by
  unfold Form.down
  split <;> exact ⟨rfl, rfl, rfl⟩

/-- No key makes a form one of another dialog. -/
theorem refills_press (f : Form) (code : KeyCode) : f.Refills (f.press code) := by
  unfold Form.press
  split
  · exact ⟨rfl, rfl, rfl⟩
  · split <;> exact ⟨rfl, rfl, rfl⟩
  · split
    · exact f.refills_down
    · exact ⟨rfl, rfl, rfl⟩
  · exact f.refills_edit _
  · split
    · exact ⟨rfl, rfl, rfl⟩
    · exact f.refills_edit _
  · exact f.refills_edit _
  · exact ⟨rfl, rfl, rfl⟩

theorem dialog_press (f : Form) (code : KeyCode) : (f.press code).dialog = f.dialog :=
  (f.refills_press code).dialog

end Form

namespace State

variable {c : State}

theorem reacts_selection {f : Form} (hmodal : c.modal = some (.selection f)) (code : KeyCode) :
    Reacts c ({ c with modal := none }.pressSelection f code) := by
  unfold pressSelection
  split
  · exact .cancelledSelection hmodal
  · split
    · exact .confirmedSelection hmodal
    · exact .edited rfl hmodal rfl rfl
  · exact .edited rfl hmodal rfl (f.dialog_press _)

theorem reacts_deletion {n : Nat} {dialog : DeletionDialog}
    (hmodal : c.modal = some (.deletion n dialog)) (code : KeyCode) :
    Reacts c ({ c with modal := none }.pressDeletion n dialog code) := by
  unfold pressDeletion
  split
  · exact .confirmedDeletion hmodal
  · exact .confirmedDeletion hmodal
  · exact .cancelledDeletion hmodal
  · exact .cancelledDeletion hmodal
  · exact .kept ⟨rfl, hmodal.symm⟩

theorem reacts_listing (hmodal : c.modal = none) (registry : Registry) (code : KeyCode) :
    Reacts c (c.pressListing registry code) := by
  unfold pressListing
  split
  · exact .kept ⟨rfl, rfl⟩
  · exact .kept ⟨rfl, rfl⟩
  · exact .kept ⟨rfl, rfl⟩
  · exact .kept (c.shows_selectDown registry)
  · exact .kept (c.shows_selectDown registry)
  · exact .kept (c.shows_setCursor _)
  · exact .kept (c.shows_setCursor _)
  · split
    · unfold act
      split
      · exact .kept ⟨rfl, rfl⟩
      · split
        · exact .triggered hmodal
        · exact .kept ⟨rfl, rfl⟩
    · exact .kept ⟨rfl, rfl⟩
  · exact .kept ⟨rfl, rfl⟩

/-- A key goes to the open dialog if there is one, and only an answer takes it down. -/
theorem reacts (c : State) (registry : Registry) (e : Event) : Reacts c (c.handle registry e) := by
  cases e with
  | press key =>
    simp only [handle, press]
    split
    · exact .kept ⟨rfl, rfl⟩
    · split
      · rename_i hmodal
        exact reacts_selection hmodal _
      · rename_i hmodal
        exact reacts_deletion hmodal _
      · rename_i hmodal
        exact reacts_listing hmodal registry _
  | release | resize | other => exact .kept ⟨rfl, rfl⟩

end State

end Console

/-! ## What a console is told -/

theorem Notice.isModal_of_not_isFlow (n : Notice) (h : n.isFlow = false) :
    n.effect.isModal = false := by
  unfold isFlow at h
  split at h
  · cases h
  · exact h
  · exact h

namespace Dialogue

open Console

variable {d d' : Dialogue} {modal : Option Modal}

def present (d : Dialogue) (modal : Option Modal) : Effect → Option Modal
  | .showSelection n =>
    match d.selections[n]? with
    | some dialog => some (.selection (.ofDialog n dialog))
    | none => modal
  | .showDeletion n =>
    match d.deletions[n]? with
    | some dialog => some (.deletion n dialog)
    | none => modal
  | .dismiss => none
  | .info _ | .error _ | .refresh => modal

theorem present_of_quiet {effect : Effect} (h : effect.isModal = false) :
    d.present modal effect = modal := by
  cases effect with
  | showSelection | showDeletion | dismiss => cases h
  | info | error | refresh => rfl

/-- The dialog on the screen after all that was said newly. -/
def reveal (d d' : Dialogue) (modal : Option Modal) : Option Modal :=
  (d'.told.drop d.told.length).foldl (fun modal n => d'.present modal n.effect) modal

theorem reveal_of_told {new : List Notice} (h : d'.told = d.told ++ new) (modal : Option Modal) :
    d.reveal d' modal = new.foldl (fun modal n => d'.present modal n.effect) modal := by
  rw [reveal, h, List.drop_left]

/-- Where nothing was said about dialogs, the screen stays as it is. -/
theorem reveal_of_quiet {new : List Notice} (h : d'.told = d.told ++ new)
    (hquiet : ∀ n ∈ new, n.effect.isModal = false) (modal : Option Modal) :
    d.reveal d' modal = modal := by
  rw [reveal_of_told h]
  exact List.foldlRecOn (motive := fun shown => shown = modal) new _ rfl
    fun shown hshown n hn => (present_of_quiet (hquiet n hn)).trans hshown

theorem reveal_of_same (h : d'.told = d.told) (modal : Option Modal) :
    d.reveal d' modal = modal :=
  reveal_of_quiet (h.trans (List.append_nil _).symm) nofun modal

end Dialogue

namespace Console

open Dialogue

variable {sb : Switchboard} {c : ControllerId} {d d' : Dialogue} {m : Move}

theorem controller_tell (ctl : Option Controller) (now : Nat) (c : State) (effect : Effect) :
    (Desk.tell ctl now c effect).controller = c.controller := by
  cases effect with
  | showSelection | showDeletion =>
    simp only [Desk.tell]
    split <;> rfl
  | _ => rfl

theorem modal_tell {ctl : Controller} (now : Nat) (c : State) (effect : Effect) :
    (Desk.tell (some ctl) now c effect).modal =
      (sb.dialogueOf c.controller ctl).present c.modal effect := by
  cases effect with
  | showSelection n =>
    simp only [Desk.tell, Dialogue.present, Switchboard.dialogueOf, Option.bind_some]
    cases ctl.selections[n]? <;> rfl
  | showDeletion n =>
    simp only [Desk.tell, Dialogue.present, Switchboard.dialogueOf, Option.bind_some]
    cases ctl.deletions[n]? <;> rfl
  | _ => rfl

theorem controller_step (desk : Desk) (m : Move) :
    (desk.step m).console.controller = desk.console.controller :=
  List.foldlRecOn (motive := fun cs : State => cs.controller = desk.console.controller) _ _ rfl
    fun cs h n _ => (controller_tell _ _ cs n.effect).trans h

/-- Of a row of notices, those about flows or dialogs decide on the dialog. -/
theorem modal_foldl_tell {ctl : Controller} (now : Nat) (news : List Notice) (cs : State)
    (hd : sb.dialogueOf cs.controller ctl = d) :
    ((news.filter fun n => n.controller = cs.controller).foldl
      (fun cs n => Desk.tell (some ctl) now cs n.effect) cs).modal =
        (news.filter fun n => n.controller = cs.controller && n.isFlow).foldl
          (fun modal n => d.present modal n.effect) cs.modal := by
  induction news generalizing cs with
  | nil => rfl
  | cons n news ih =>
    have hcontroller := controller_tell (some ctl) now cs n.effect
    have hmodal : (Desk.tell (some ctl) now cs n.effect).modal = d.present cs.modal n.effect :=
      hd ▸ modal_tell now cs n.effect
    by_cases hn : n.controller = cs.controller
    · have hshown := ih (Desk.tell (some ctl) now cs n.effect) (hcontroller ▸ hd)
      rw [hcontroller, hmodal] at hshown
      cases hflow : n.isFlow with
      | true => simpa [hn, hflow] using hshown
      | false =>
        rw [present_of_quiet (n.isModal_of_not_isFlow hflow)] at hshown
        simpa [hn, hflow] using hshown
    · simpa [hn] using ih cs hd

/-- A move at a desk, as it shows on the screen. -/
theorem modal_step {desk : Desk} (hsound : desk.sb.Sound) (m : Move)
    (hd : desk.sb.dialogue desk.console.controller = some d)
    (hd' : (desk.sb.step m).dialogue desk.console.controller = some d') :
    (desk.step m).console.modal = d.reveal d' desk.console.modal := by
  obtain ⟨news, hnews⟩ := Switchboard.told_step hsound.wellFormed m
  obtain ⟨ctl, hctl, rfl⟩ := Switchboard.exists_controller_of_dialogue hd
  obtain ⟨ctl', hctl', hview⟩ := Switchboard.exists_controller_of_dialogue hd'
  have htold : d'.told = (desk.sb.dialogueOf desk.console.controller ctl).told ++
      news.filter fun n => n.controller = desk.console.controller && n.isFlow := by
    rw [← hview]
    simp [Switchboard.dialogueOf, Switchboard.flowTold, ← hnews]
  have hfold := modal_foldl_tell (desk.sb.step m).clock news desk.console hview
  rw [reveal_of_told htold]
  simp only [Desk.step, Desk.follow, ← hnews, List.drop_left, hctl']
  exact hfold

end Console

end PodTunnels
