import PodTunnels.Proofs.Cursors
import PodTunnels.Proofs.Declared

/-!
# Answers to dialogs

While a dialog is open every key but Ctrl-C is for it. Such a key changes nothing else of the
console, whatever the listings show and whatever keys are bound: the same dialog stays open and
nobody hears of it, or it is taken down together with its one answer (`State.exists_response`).

A dialog that was answered stays answered (`answered?_turn`), and the one on the screen was not
(`Aligned.unanswered`). So along a run no dialog is answered twice (`nodup_answers`).
-/

namespace PodTunnels

/-- A dialog of a controller: its kind, and its number among those of the kind. -/
inductive DialogId where
  | selection (n : Nat)
  | deletion (n : Nat)
deriving DecidableEq, Repr

def Move.answers? : Move → Option DialogId
  | .confirmSelection _ n _ | .cancelSelection _ n => some (.selection n)
  | .confirmDeletion _ n | .cancelDeletion _ n => some (.deletion n)
  | _ => none

/-! ## Answered dialogs -/

namespace Dialogue

variable {d d' : Dialogue} {c : ControllerId} {x : DialogId}

def answered? (d : Dialogue) : DialogId → Option Bool
  | .selection n => d.selections[n]?.map SelectionDialog.answered
  | .deletion n => d.deletions[n]?.map DeletionDialog.answered

@[simp] theorem answered?_advance (d : Dialogue) (g : Nat) (stage : Stage) (x : DialogId) :
    (d.advance g stage).answered? x = d.answered? x := by
  unfold advance
  split <;> rfl

@[simp] theorem answered?_post (d : Dialogue) (task : Task) (x : DialogId) :
    (d.post task).answered? x = d.answered? x := by
  unfold post
  split <;> rfl

@[simp] theorem answered?_tell (d : Dialogue) (notices : List Notice) (x : DialogId) :
    (d.tell notices).answered? x = d.answered? x := rfl

@[simp] theorem told_advance (d : Dialogue) (g : Nat) (stage : Stage) :
    (d.advance g stage).told = d.told := by
  unfold advance
  split <;> rfl

/-- An item that does not count, at the end of a list, adds no place that does. -/
theorem map_getElem?_concat {α : Type} {f : α → Bool} {a : α} (ha : f a = false) (as : List α)
    (n : Nat) : (as ++ [a])[n]?.map f = some true ↔ as[n]?.map f = some true := by
  rcases Nat.lt_trichotomy n as.length with hlt | rfl | hgt
  · rw [List.getElem?_append_left hlt]
  · simp [ha]
  · have hbeyond : (as ++ [a]).length ≤ n := List.length_append ▸ hgt
    rw [List.getElem?_eq_none (Nat.le_of_lt hgt), List.getElem?_eq_none hbeyond]

/-- A dialog that is shown newly was not answered. -/
theorem answered?_ask (pod : ResourcePath) (sessions : List SessionId) (lines : List String) :
    (d.ask c pod sessions lines).answered? x = some true ↔ d.answered? x = some true := by
  cases x with
  | selection => exact .rfl
  | deletion => exact map_getElem?_concat rfl ..

theorem answered?_offer (pod : ResourcePath) (candidates : List Candidate) :
    (d.offer c pod candidates).answered? x = some true ↔ d.answered? x = some true := by
  cases x with
  | selection => exact map_getElem?_concat rfl ..
  | deletion => exact .rfl

theorem Leads.answered?_iff {registry : Registry} {result : Except Failure ResourcePath}
    (h : Leads registry c d result d') :
    d'.answered? x = some true ↔ d.answered? x = some true := by
  cases h with
  | failed | reading => exact .rfl
  | asked => exact answered?_ask ..

theorem Yields.answered?_iff {pod : ResourcePath} {result : Except Failure PodPorts}
    (h : Yields c d pod result d') : d'.answered? x = some true ↔ d.answered? x = some true := by
  cases h with
  | failed | undeclared => exact .rfl
  | offered => exact answered?_offer ..

theorem answered?_answerSelection_self {n : Nat} {dialog : SelectionDialog}
    (h : d.selections[n]? = some dialog) :
    (d.answerSelection n).answered? (.selection n) = some true := by
  simp [answered?, answerSelection, h]

/-- An answer is one to a single dialog. -/
theorem answered?_answerSelection_of_ne {n : Nat} (h : x ≠ .selection n) :
    (d.answerSelection n).answered? x = d.answered? x := by
  cases x with
  | deletion => rfl
  | selection i =>
    have hne : n ≠ i := fun heq => h (congrArg _ heq.symm)
    simp [answered?, answerSelection, hne]

theorem answered?_answerDeletion_self {n : Nat} {dialog : DeletionDialog}
    (h : d.deletions[n]? = some dialog) :
    (d.answerDeletion n).answered? (.deletion n) = some true := by
  simp [answered?, answerDeletion, h]

theorem answered?_answerDeletion_of_ne {n : Nat} (h : x ≠ .deletion n) :
    (d.answerDeletion n).answered? x = d.answered? x := by
  cases x with
  | selection => rfl
  | deletion i =>
    have hne : n ≠ i := fun heq => h (congrArg _ heq.symm)
    simp [answered?, answerDeletion, hne]

end Dialogue

namespace Switchboard

open Dialogue

variable {sb : Switchboard} {c : ControllerId} {m : Move} {d d' : Dialogue} {x : DialogId}

/-- Whether a dialog was answered stays as it is, but where a move at the interface answers it. -/
theorem answered?_turn_cases (hturn : sb.FlowTurn c d m d') (x : DialogId) :
    (d'.answered? x = some true ↔ d.answered? x = some true) ∨
      m.answers? = some x ∧ m.isMadeAt c = true ∧ d'.answered? x = some true := by
  cases hturn with
  | known hknown hleads => exact .inl (hleads.answered?_iff.trans .rfl)
  | resolved hwaiting herrands hleads => exact .inl (hleads.answered?_iff.trans .rfl)
  | portsRead hwaiting herrands hyields => exact .inl (hyields.answered?_iff.trans .rfl)
  | finished =>
    rw [answered?_post]
    exact .inl .rfl
  | @confirmedSelection n _ _ hdialog | @cancelledSelection n _ hdialog =>
    rw [answered?_advance]
    by_cases hx : x = .selection n
    · subst hx
      exact .inr ⟨rfl, decide_eq_true rfl, answered?_answerSelection_self hdialog⟩
    · rw [answered?_answerSelection_of_ne hx]
      exact .inl .rfl
  | @confirmedDeletion n _ hdialog | @cancelledDeletion n _ hdialog =>
    simp only [answered?_tell, answered?_advance]
    by_cases hx : x = .deletion n
    · subst hx
      exact .inr ⟨rfl, decide_eq_true rfl, answered?_answerDeletion_self hdialog⟩
    · rw [answered?_answerDeletion_of_ne hx]
      exact .inl .rfl
  | rest | recast | shut | sought | stale | dismissed => exact .inl .rfl

/-- A dialog that was answered stays so. -/
theorem answered?_turn (hturn : sb.FlowTurn c d m d') (h : d.answered? x = some true) :
    d'.answered? x = some true := by
  rcases answered?_turn_cases hturn x with hsame | ⟨-, -, hanswered⟩
  · exact hsame.2 h
  · exact hanswered

theorem answered?_run (hsound : sb.Sound) (hd : sb.dialogue c = some d)
    (h : d.answered? x = some true) (moves : List Move)
    (hd' : (sb.run moves).dialogue c = some d') : d'.answered? x = some true :=
  invariant_run_from (P := fun d => d.answered? x = some true) hsound hd h answered?_turn moves hd'

end Switchboard

namespace Console

/-! ## The response of a dialog to a key -/

/-- The key that ends a console whatever it shows. -/
def interrupt : KeyPress := { code := .char 'c', control := true }

namespace Modal

/-- The dialog that is on the screen. -/
def id : Modal → DialogId
  | .selection f => .selection f.dialog
  | .deletion n _ => .deletion n

/-- The same dialog is on the screen, though its form may be filled in otherwise. -/
inductive Stays : Modal → Modal → Prop
  | selection {f f' : Form} (h : f.Refills f') : Stays (.selection f) (.selection f')
  | deletion (n : Nat) (dialog : DeletionDialog) : Stays (.deletion n dialog) (.deletion n dialog)

/-- The answers to a dialog, a confirmation and a cancellation, and the keys that give them. A start
dialog is confirmed with the selection that its form stands for, and only if there is one. -/
inductive AnsweredBy (c : ControllerId) : Modal → Event → Move → Prop
  | confirmSelection {f : Form} {key : KeyPress} {selection : Selection} (hkey : key.code = .enter)
      (h : f.selection = .ok selection) :
      AnsweredBy c (.selection f) (.press key) (.confirmSelection c f.dialog selection)
  | cancelSelection {f : Form} {key : KeyPress} (hkey : key.code = .escape) :
      AnsweredBy c (.selection f) (.press key) (.cancelSelection c f.dialog)
  | confirmDeletion {n : Nat} {dialog : DeletionDialog} {key : KeyPress}
      (hkey : key.code = .char 'y' ∨ key.code = .enter) :
      AnsweredBy c (.deletion n dialog) (.press key) (.confirmDeletion c n)
  | cancelDeletion {n : Nat} {dialog : DeletionDialog} {key : KeyPress}
      (hkey : key.code = .char 'n' ∨ key.code = .escape) :
      AnsweredBy c (.deletion n dialog) (.press key) (.cancelDeletion c n)

/-- What an open dialog comes to: it stays open where the event is no answer to it, and otherwise it
is gone with the answer. -/
inductive Response (c : ControllerId) (shown : Modal) (e : Event) :
    Option Modal → Option Move → Prop
  | stays {shown' : Modal} (h : shown.Stays shown') (hnone : ∀ m, ¬ shown.AnsweredBy c e m) :
      Response c shown e (some shown') none
  | answered {m : Move} (h : shown.AnsweredBy c e m) : Response c shown e none (some m)

theorem Stays.rfl {shown : Modal} : shown.Stays shown := by
  cases shown with
  | selection => exact .selection ⟨.refl _, .refl _, .refl _⟩
  | deletion => exact .deletion ..

theorem AnsweredBy.answers?_eq {c : ControllerId} {shown : Modal} {e : Event} {m : Move}
    (h : shown.AnsweredBy c e m) : m.answers? = some shown.id := by
  cases h <;> rfl

end Modal

namespace State

variable {c : State}

theorem exists_response_selection (c : State) (f : Form) (key : KeyPress) :
    ∃ modal move, (Modal.selection f).Response c.controller (.press key) modal move ∧
      ∀ keys, { c with keys, modal := none }.pressSelection f key.code =
        ⟨.handled, { c with keys, modal }, move⟩ := by
  cases hcode : key.code with
  | escape => exact ⟨none, _, .answered (.cancelSelection hcode), fun _ => rfl⟩
  | enter =>
    cases hselection : f.selection with
    | ok selection =>
      refine ⟨none, _, .answered (.confirmSelection hcode hselection), fun keys => ?_⟩
      simp only [pressSelection, hselection]
    | error e =>
      refine ⟨some (.selection { f with error := some e }), none,
        .stays (.selection ⟨rfl, rfl, rfl⟩) ?_, fun keys => ?_⟩
      · intro m hm
        cases hm with
        | confirmSelection _ h => cases hselection.symm.trans h
        | cancelSelection hkey => cases hcode.symm.trans hkey
      · simp only [pressSelection, hselection]
  | _ =>
    refine ⟨some (.selection (f.press _)), none, .stays (.selection (f.refills_press _)) ?_,
      fun _ => rfl⟩
    intro m hm
    cases hm with
    | confirmSelection hkey | cancelSelection hkey => cases hcode.symm.trans hkey

theorem exists_response_deletion (c : State) (n : Nat) (dialog : DeletionDialog)
    (key : KeyPress) :
    ∃ modal move, (Modal.deletion n dialog).Response c.controller (.press key) modal move ∧
      ∀ keys, { c with keys, modal := none }.pressDeletion n dialog key.code =
        ⟨.handled, { c with keys, modal }, move⟩ := by
  by_cases hyes : key.code = .char 'y' ∨ key.code = .enter
  · refine ⟨none, _, .answered (.confirmDeletion hyes), fun keys => ?_⟩
    rcases hyes with hkey | hkey <;> rw [hkey] <;> rfl
  by_cases hno : key.code = .char 'n' ∨ key.code = .escape
  · refine ⟨none, _, .answered (.cancelDeletion hno), fun keys => ?_⟩
    rcases hno with hkey | hkey <;> rw [hkey] <;> rfl
  refine ⟨some (.deletion n dialog), none, .stays (.deletion ..) ?_, fun keys => ?_⟩
  · intro m hm
    cases hm with
    | confirmDeletion hkey => exact hyes hkey
    | cancelDeletion hkey => exact hno hkey
  · unfold pressDeletion
    split
    · exact absurd (.inl ‹_›) hyes
    · exact absurd (.inr ‹_›) hyes
    · exact absurd (.inl ‹_›) hno
    · exact absurd (.inr ‹_›) hno
    · rfl

/-- While a dialog is open, an event is for the dialog alone. -/
theorem exists_response {shown : Modal} (hmodal : c.modal = some shown) {e : Event}
    (he : e ≠ .press interrupt) :
    ∃ handling modal move, handling ≠ .quit ∧ shown.Response c.controller e modal move ∧
      ∀ keys registry, { c with keys }.handle registry e =
        ⟨handling, { c with keys, modal }, move⟩ := by
  cases e with
  | press key =>
    have hkey : ¬ (key.control = true ∧ key.code = .char 'c') := by
      rintro ⟨hcontrol, hcode⟩
      obtain ⟨code, control⟩ := key
      cases hcontrol
      cases hcode
      exact he rfl
    cases shown with
    | selection f =>
      obtain ⟨modal, move, hresponse, hpress⟩ := c.exists_response_selection f key
      refine ⟨.handled, modal, move, by decide, hresponse, fun keys registry => ?_⟩
      simp only [handle, press, if_neg hkey, hmodal]
      exact hpress keys
    | deletion n dialog =>
      obtain ⟨modal, move, hresponse, hpress⟩ := c.exists_response_deletion n dialog key
      refine ⟨.handled, modal, move, by decide, hresponse, fun keys registry => ?_⟩
      simp only [handle, press, if_neg hkey, hmodal]
      exact hpress keys
  | release | resize | other =>
    have huntouched (keys : KeyTable KeyAction) :
        { c with keys } = { c with keys, modal := some shown } := by
      rw [← hmodal]
    refine ⟨_, some shown, none, ?_, .stays .rfl ?_, fun keys registry =>
      congrArg (Reaction.mk _ · none) (huntouched keys)⟩
    · decide
    · rintro m ⟨⟩

end State

/-! ## Answers at a desk -/

namespace Desk

open Dialogue

variable {desk : Desk} {d : Dialogue} {taken : Prop} {shown : Modal} {x : DialogId}

def answered? (desk : Desk) (x : DialogId) : Option Bool :=
  (desk.sb.dialogue desk.console.controller).bind fun d => d.answered? x

/-- The dialog that is answered as something happens. -/
def answer? (desk : Desk) : Occurrence → Option DialogId
  | .event e => (desk.console.handle desk.sb.registry e).move.bind Move.answers?
  | _ => none

def answers (desk : Desk) : List Occurrence → List DialogId
  | [] => []
  | o :: occurrences => (desk.answer? o).toList ++ (desk.occur o).answers occurrences

theorem answers_concat (desk : Desk) (occurrences : List Occurrence) (o : Occurrence) :
    desk.answers (occurrences ++ [o]) =
      desk.answers occurrences ++ ((desk.run occurrences).answer? o).toList := by
  induction occurrences generalizing desk with
  | nil => exact List.append_nil _
  | cons o' occurrences ih =>
    simp only [List.cons_append, answers, ih, List.append_assoc]
    rfl

theorem quitting_tell (ctl : Option Controller) (now : Nat) (c : State) (effect : Effect) :
    (tell ctl now c effect).quitting = c.quitting := by
  cases effect with
  | showSelection | showDeletion =>
    simp only [tell]
    split <;> rfl
  | _ => rfl

theorem quitting_step (desk : Desk) (m : Move) :
    (desk.step m).console.quitting = desk.console.quitting :=
  List.foldlRecOn (motive := fun c : State => c.quitting = desk.console.quitting) _ _ rfl
    fun c h n _ => (quitting_tell _ _ c n.effect).trans h

theorem Agrees.answered?_eq (h : desk.Agrees taken d) (x : DialogId) :
    desk.answered? x = d.answered? x := by
  rw [Desk.answered?, h.dialogue]
  rfl

/-- The dialog on the screen is one that was not answered. -/
theorem Agrees.unanswered (h : desk.Agrees taken d) (hmodal : desk.console.modal = some shown) :
    d.answered? shown.id = some false := by
  have haligned := h.aligned
  rw [hmodal] at haligned
  cases haligned with
  | offering _ _ hdialog hopen | asking _ _ hdialog hopen =>
    exact Option.map_eq_some_iff.2 ⟨_, hdialog, hopen⟩

/-- The answer reaches the dialog, and shows no other. -/
theorem Agrees.exists_answered (h : desk.Agrees taken d) (hmodal : desk.console.modal = some shown)
    {e : Event} {m : Move} (hm : shown.AnsweredBy desk.console.controller e m) :
    ∃ d', (desk.sb.step m).dialogue desk.console.controller = some d' ∧
      d'.answered? shown.id = some true ∧ d.reveal d' none = none := by
  have haligned := h.aligned
  rw [hmodal] at haligned
  cases haligned with
  | offering _ _ hdialog hopen =>
    have hanswered := answered?_answerSelection_self hdialog
    cases hm with
    | @confirmSelection _ _ selection =>
      exact ⟨_, Switchboard.dialogue_confirmSelection h.dialogue hdialog hopen selection,
        (answered?_advance ..).trans hanswered, reveal_of_same (told_advance ..) none⟩
    | cancelSelection =>
      exact ⟨_, Switchboard.dialogue_cancelSelection h.dialogue hdialog hopen,
        (answered?_advance ..).trans hanswered, reveal_of_same (told_advance ..) none⟩
  | asking _ _ hdialog hopen =>
    have hanswered := answered?_answerDeletion_self hdialog
    cases hm with
    | confirmDeletion =>
      refine ⟨_, Switchboard.dialogue_confirmDeletion h.dialogue hdialog hopen,
        (answered?_advance ..).trans hanswered, ?_⟩
      refine reveal_of_quiet (congrArg (· ++ _) (told_advance ..)) ?_ none
      split <;> simp [Effect.isModal]
    | cancelDeletion =>
      exact ⟨_, Switchboard.dialogue_cancelDeletion h.dialogue hdialog hopen,
        (answered?_advance ..).trans hanswered, reveal_of_same (told_advance ..) none⟩

/-- What an event does at a desk where a dialog is open. The listings, the cursors and the decision
to leave are as they were; and the same dialog is open without anything having been called, or it is
gone and has been given one answer, its first. -/
structure Confines (desk : Desk) (shown : Modal) (e : Event) : Prop where
  rests : desk.console.Rests (desk.handle e).2.console
  quitting : (desk.handle e).2.console.quitting = desk.console.quitting
  outcome :
    ((∃ shown', (desk.handle e).2.console.modal = some shown' ∧ shown.Stays shown') ∧
        (desk.handle e).2.sb = desk.sb ∧ desk.answer? (.event e) = none) ∨
      ((desk.handle e).2.console.modal = none ∧
        (∃ m, shown.AnsweredBy desk.console.controller e m ∧
          (desk.handle e).2.sb = desk.sb.step m) ∧
        desk.answer? (.event e) = some shown.id ∧ desk.answered? shown.id = some false ∧
        (desk.handle e).2.answered? shown.id = some true)

theorem Agrees.confines (hsound : desk.sb.Sound) (h : desk.Agrees taken d)
    (hmodal : desk.console.modal = some shown) {e : Event} (he : e ≠ .press interrupt) :
    desk.Confines shown e := by
  obtain ⟨handling, modal, move, -, hresponse, hhandle⟩ := State.exists_response hmodal he
  have hreaction : desk.console.handle desk.sb.registry e =
      ⟨handling, { desk.console with modal }, move⟩ := hhandle desk.console.keys desk.sb.registry
  cases hresponse with
  | @stays shown' hstays =>
    have hafter : (desk.handle e).2 = { desk with console.modal := some shown' } := by
      simp only [handle, hreaction]
    refine ⟨hafter ▸ ⟨rfl, rfl, rfl, rfl⟩, hafter ▸ rfl, .inl ⟨⟨shown', hafter ▸ rfl, hstays⟩,
      hafter ▸ rfl, ?_⟩⟩
    simp only [answer?, hreaction]
    rfl
  | @answered m hm =>
    let asked : Desk := { desk with console.modal := none }
    have hafter : (desk.handle e).2 = asked.step m := by
      simp only [handle, hreaction]
      rfl
    obtain ⟨d', hd', hanswered, hreveal⟩ := h.exists_answered hmodal hm
    have hcontroller : (asked.step m).console.controller = desk.console.controller :=
      controller_step asked m
    have hrests : desk.console.Rests asked.console := ⟨rfl, rfl, rfl, rfl⟩
    refine ⟨hafter ▸ hrests.trans (rests_step asked m), hafter ▸ quitting_step asked m,
      .inr ⟨?_, ⟨m, hm, hafter ▸ rfl⟩, ?_, ?_, ?_⟩⟩
    · have hstep := modal_step (show asked.sb.Sound from hsound) m h.dialogue hd'
      exact hafter ▸ hstep.trans hreveal
    · simp only [answer?, hreaction]
      exact hm.answers?_eq
    · exact (h.answered?_eq _).trans (h.unanswered hmodal)
    · rw [hafter, Desk.answered?, hcontroller, show (asked.step m).sb = desk.sb.step m from rfl,
        hd']
      exact hanswered

/-- Only an open dialog is answered, and not by Ctrl-C. -/
theorem exists_open_of_answer? {o : Occurrence} (h : desk.answer? o = some x) :
    ∃ e shown, o = .event e ∧ e ≠ .press interrupt ∧ desk.console.modal = some shown := by
  cases o with
  | move | reload | reloaded | expire => cases h
  | event e =>
    have hinterrupt : e ≠ .press interrupt := by
      rintro rfl
      cases h
    have hreacts := desk.console.reacts desk.sb.registry e
    simp only [answer?] at h
    generalize desk.console.handle desk.sb.registry e = r at hreacts h
    cases hreacts with
    | kept | edited | triggered => cases h
    | confirmedSelection hmodal | cancelledSelection hmodal | confirmedDeletion hmodal
    | cancelledDeletion hmodal => exact ⟨e, _, rfl, hinterrupt, hmodal⟩

/-- What the console shows does not matter for what was answered. -/
theorem answered?_of_console {console : State}
    (hcontroller : console.controller = desk.console.controller) (x : DialogId) :
    ({ desk with console } : Desk).answered? x = desk.answered? x := by
  simp only [Desk.answered?, hcontroller]

/-- A move answers a dialog only if it is an answer at the interface. -/
theorem answers?_of_step (desk : Desk) (hsound : desk.sb.Sound) {m : Move}
    (h : (desk.step m).answered? x = some true) :
    desk.answered? x = some true ∨
      m.answers? = some x ∧ m.isMadeAt desk.console.controller = true := by
  obtain ⟨d', hd', hanswered⟩ := Option.bind_eq_some_iff.1 h
  rw [controller_step] at hd'
  obtain ⟨d, hd, hturn⟩ := Switchboard.exists_flowTurn hsound.wellFormed hd'
  rcases Switchboard.answered?_turn_cases hturn x with hsame | ⟨hm, hmade, -⟩
  · exact .inl (Option.bind_eq_some_iff.2 ⟨d, hd, hsame.1 hanswered⟩)
  · exact .inr ⟨hm, hmade⟩

theorem answer?_of_occur (hsound : desk.sb.Sound) {o : Occurrence}
    (h : (desk.occur o).answered? x = some true) :
    desk.answered? x = some true ∨ desk.answer? o = some x := by
  have hshown {console : State} (hcontroller : console.controller = desk.console.controller)
      (h : ({ desk with console } : Desk).answered? x = some true) : desk.answered? x = some true :=
    (answered?_of_console hcontroller x).symm.trans h
  cases o with
  | event e =>
    have hcontroller := (desk.console.reacts desk.sb.registry e).controller_eq
    simp only [occur, handle] at h
    cases hmove : (desk.console.handle desk.sb.registry e).move with
    | none =>
      simp only [hmove] at h
      exact .inl (hshown hcontroller h)
    | some m =>
      simp only [hmove] at h
      have hstep :=
        answers?_of_step ⟨desk.sb, (desk.console.handle desk.sb.registry e).console⟩ hsound h
      refine hstep.imp (hshown hcontroller) fun hm => ?_
      simp only [answer?, hmove]
      exact hm.1
  | move m =>
    simp only [occur] at h
    split at h
    · exact .inl h
    · rename_i hmade
      exact .inl ((answers?_of_step desk hsound h).resolve_right fun hm => hmade hm.2)
  | reload => exact .inl (hshown (State.shows_takeRefreshRequest _).1 h)
  | reloaded => exact .inl (hshown (State.shows_setPods ..).1 h)
  | expire => exact .inl (hshown (State.shows_expireFlash ..).1 h)

theorem answered?_occur (hsound : desk.sb.Sound) (h : desk.answered? x = some true)
    (o : Occurrence) : (desk.occur o).answered? x = some true := by
  obtain ⟨d, hd, hanswered⟩ := Option.bind_eq_some_iff.1 h
  obtain ⟨moves, hsb, hcontroller⟩ := desk.exists_moves_occur o
  obtain ⟨d', hd'⟩ := Switchboard.exists_dialogue_run hsound hd moves
  rw [Desk.answered?, hsb, hcontroller, hd']
  exact Switchboard.answered?_run hsound hd hanswered moves hd'

/-- An answer that is given is the first one of its dialog. -/
theorem Agrees.answered?_of_answer? (hsound : desk.sb.Sound) (h : desk.Agrees taken d)
    {o : Occurrence} (hanswer : desk.answer? o = some x) :
    desk.answered? x = some false ∧ (desk.occur o).answered? x = some true := by
  obtain ⟨e, shown, rfl, he, hmodal⟩ := exists_open_of_answer? hanswer
  rcases (h.confines hsound hmodal he).outcome with ⟨-, -, hnone⟩ | ⟨-, -, hsome, hbefore, hafter⟩
  · cases hnone.symm.trans hanswer
  · cases hsome.symm.trans hanswer
    exact ⟨hbefore, hafter⟩

theorem Agrees.answered?_occur_iff (hsound : desk.sb.Sound) (h : desk.Agrees taken d)
    (o : Occurrence) (x : DialogId) :
    (desk.occur o).answered? x = some true ↔
      desk.answered? x = some true ∨ desk.answer? o = some x := by
  constructor
  · exact answer?_of_occur hsound
  · rintro (hbefore | hanswer)
    · exact answered?_occur hsound hbefore o
    · exact (h.answered?_of_answer? hsound hanswer).2

section Runs

variable (surroundings : Surroundings) {controllers : List (String × Nat)} {c : ControllerId}
  (hc : c < controllers.length) (ns : String) (occurrences : List Occurrence)
include hc

/-- What was answered in the course of a run are the dialogs that count as answered after it. -/
theorem mem_answers_iff (x : DialogId) :
    x ∈ (initial surroundings controllers c ns).answers occurrences ↔
      ((initial surroundings controllers c ns).run occurrences).answered? x = some true := by
  have hsound := Switchboard.sound_initial surroundings controllers
  induction occurrences using List.reverseRecOn with
  | nil =>
    refine iff_of_false List.not_mem_nil fun h => ?_
    obtain ⟨d, hd, hanswered⟩ := Option.bind_eq_some_iff.1 h
    obtain ⟨settings, -, rfl⟩ := Switchboard.eq_of_dialogue_initial hd
    cases x <;> cases hanswered
  | append_singleton occurrences o ih =>
    obtain ⟨d, hagrees⟩ := agrees_run surroundings hc ns occurrences
    rw [answers_concat, run_concat, List.mem_append, Option.mem_toList,
      hagrees.answered?_occur_iff (sound_run hsound occurrences)]
    exact or_congr_left ih

/-- No dialog is answered twice. By induction on the run: what was answered counts as answered, and
what is answered next does not. -/
theorem nodup_answers : ((initial surroundings controllers c ns).answers occurrences).Nodup := by
  have hsound := Switchboard.sound_initial surroundings controllers
  induction occurrences using List.reverseRecOn with
  | nil => exact .nil
  | append_singleton occurrences o ih =>
    rw [answers_concat]
    cases hanswer : (run _ occurrences).answer? o with
    | none => rwa [Option.toList_none, List.append_nil]
    | some x =>
      obtain ⟨d, hagrees⟩ := agrees_run surroundings hc ns occurrences
      have hbefore := (hagrees.answered?_of_answer? (sound_run hsound occurrences) hanswer).1
      refine List.Nodup.append ih (List.nodup_singleton x) (List.disjoint_singleton.2 fun hx => ?_)
      cases hbefore.symm.trans ((mem_answers_iff surroundings hc ns occurrences x).1 hx)

end Runs

end Desk

/-- An open dialog takes all keys but Ctrl-C. At any console it is all that such a key changes, in
the same way whatever keys are bound and whatever is registered: it stays open without an answer, or
it is gone with one. Along a run that answer reaches the dialog on the screen, which had none yet,
and no other dialog comes up. So the dialogs that are answered in the course of a run are all
different, and they are those that count as answered after it. -/
theorem keys_confined_to_dialog (surroundings : Surroundings) (controllers : List (String × Nat))
    (i : ControllerId) (ns : String) (occurrences : List Occurrence) (hi : i < controllers.length) :
    let start := Desk.initial surroundings controllers i ns
    let desk := start.run occurrences
    (∀ (c : State) (shown : Modal) (e : Event), c.modal = some shown → e ≠ .press interrupt →
      ∃ handling modal move, handling ≠ .quit ∧ shown.Response c.controller e modal move ∧
        ∀ keys registry, { c with keys }.handle registry e =
          ⟨handling, { c with keys, modal }, move⟩) ∧
      (∀ (shown : Modal) (e : Event), desk.console.modal = some shown → e ≠ .press interrupt →
        desk.Confines shown e) ∧
      (start.answers occurrences).Nodup ∧
      ∀ x, x ∈ start.answers occurrences ↔ desk.answered? x = some true := by
  intro start desk
  have hsound : desk.sb.Sound :=
    Desk.sound_run (Switchboard.sound_initial surroundings controllers) occurrences
  obtain ⟨d, hagrees⟩ := Desk.agrees_run surroundings hi ns occurrences
  exact ⟨fun c shown e hmodal he => State.exists_response hmodal he,
    fun shown e hmodal he => hagrees.confines hsound hmodal he,
    Desk.nodup_answers surroundings hi ns occurrences,
    Desk.mem_answers_iff surroundings hi ns occurrences⟩

/-- A forward is started, and its pod is triggered again. -/
def deletionAsked : List Occurrence :=
  (Switchboard.webStart 0 0).map .move ++
    [.event (.press { code := .tab }), .event (.press { code := .char 'F' })]

/-- In the question whether to delete the forward a q does not end the console. A y is a yes, and
the next y is for the listing. In a start dialog a q does not end the console either. -/
theorem question_takes_keys :
    let start := Desk.initial { cluster := .empty } [("127.0.0.1", 30)] 0 "ns"
    let q : Event := .press { code := .char 'q' }
    let y : Event := .press { code := .char 'y' }
    (∃ shown, (start.run deletionAsked).console.modal = some shown ∧
      (start.run deletionAsked).Confines shown q ∧ (start.run deletionAsked).Confines shown y) ∧
      start.answers (deletionAsked ++ [.event q, .event y, .event y]) = [.deletion 0] ∧
      (start.answers (deletionAsked ++ [.event q, .event y, .event y])).Nodup ∧
      (proxiedConsole.handle {} q).handling ≠ .quit := by
  have hone : 0 < [("127.0.0.1", 30)].length := by decide
  have hopen : ((Desk.initial { cluster := .empty } [("127.0.0.1", 30)] 0 "ns").run
      deletionAsked).console.modal.isSome = true := by decide +kernel
  obtain ⟨shown, hmodal⟩ := Option.isSome_iff_exists.1 hopen
  obtain ⟨hstate, hdesk, -⟩ :=
    keys_confined_to_dialog { cluster := .empty } [("127.0.0.1", 30)] 0 "ns" deletionAsked hone
  refine ⟨⟨shown, hmodal, hdesk shown _ hmodal (by decide), hdesk shown _ hmodal (by decide)⟩,
    by decide +kernel, ?_, ?_⟩
  · exact (keys_confined_to_dialog { cluster := .empty } [("127.0.0.1", 30)] 0 "ns" _ hone).2.2.1
  · obtain ⟨handling, modal, move, hquit, -, hhandle⟩ :=
      hstate proxiedConsole _ (.press { code := .char 'q' }) rfl (by decide)
    have hreaction := hhandle proxiedConsole.keys {}
    exact fun h => hquit ((congrArg Reaction.handling hreaction).symm.trans h)

end Console

end PodTunnels
