import PodTunnels.Proofs.Leftover
import PodTunnels.Proofs.Ledger
import PodTunnels.Proofs.Settling

/-!
# Settlement of starts

A start that was confirmed is in flight until its interface has applied what came of the check of
its ports, unless it is turned down at once. Then it is settled, all or nothing: it has failed, with
one error and nothing left of it but a closed transport, or it has come through, with one new
session and a runner for it (`start_settled`).

The proof follows the affair of the start along the run. It takes one of four shapes, and each move
leaves it as it is or brings it from one shape to the next (`Course.concat`).
-/

namespace PodTunnels

namespace Switchboard

variable {sb : Switchboard} {id : SessionId} {c c' : ControllerId} {k : StartId}
  {key : SessionKey} {m : Move} {w : Wiring} {selection : Selection} {moves : List Move}
  {tunnels : List Tunnel}

/-! ## Confirmed starts -/

/-- A move confirms a start of a controller: it asks for the start without a dialog, or answers a
dialog of the current generation. -/
inductive Confirms (sb : Switchboard) (c : ControllerId) : ResourcePath → Selection → Move → Prop
  | direct {ctl : Controller} {pod : ResourcePath} {selection : Selection}
      (hctl : sb.controllers[c]? = some ctl) :
      Confirms sb c pod selection (.start c pod selection)
  | dialog {ctl : Controller} {dialog : Nat} {d : SelectionDialog} {selection : Selection}
      (hctl : sb.controllers[c]? = some ctl) (hopen : ctl.openSelection? dialog = some d)
      (hcurrent : ctl.generation = d.generation) :
      Confirms sb c d.pod selection (.confirmSelection c dialog selection)

/-- Whatever the answer to a dialog does besides, it then asks for the start. -/
theorem Confirms.exists_start {pod : ResourcePath} (h : sb.Confirms c pod selection m) :
    ∃ sb₁ ctl, sb.Aside sb₁ ∧ sb₁.registry = sb.registry ∧ sb₁.controllers[c]? = some ctl ∧
      sb.step m = sb₁.start c pod selection := by
  cases h with
  | @direct ctl _ _ hctl => exact ⟨sb, ctl, .refl sb, rfl, hctl, rfl⟩
  | @dialog ctl dialog d _ hctl hopen hcurrent =>
    have hd : (sb.controllers[c]?.bind fun ctl => ctl.openSelection? dialog) = some d := by
      rw [hctl]
      exact hopen
    have hnow : (sb.control c fun ctl => ctl.answerSelection dialog).isCurrent c d.generation =
        true := by
      simp [isCurrent, control, hctl, Controller.answerSelection, hcurrent]
    have haside := (Aside.answerSelection sb c dialog).trans (.advance _ c d.generation .idle)
    obtain ⟨ctl', hctl', -⟩ := haside.controller c ctl hctl
    refine ⟨_, ctl', haside, rfl, hctl', ?_⟩
    simp only [step, confirmSelection, hd, hnow, if_true]

/-! ## Outcomes -/

/-- By the end of a run a start has failed: one failure was told about it, and whatever session was
made for it was given up, with its transport closed once. -/
structure Failed (sb : Switchboard) (moves : List Move) (c : ControllerId) (k : StartId)
    (key : SessionKey) (tunnels : List Tunnel) : Prop where
  told : ∃ e, (sb.run moves).toldStart k = [⟨c, .start k, .error e⟩] ∧
    Grounds sb.surroundings.plans key tunnels e
  givenUp : ∀ w id, (w, id) ∈ (sb.run moves).made k → sb.GivenUp moves w id
  closedOnce : ∀ w id, (w, id) ∈ (sb.run moves).made k →
    (sb.run moves).closings.count w.transport = 1

/-- A move of a run has launched a session: neither it nor its transport had been there before. -/
def LaunchedBy (sb : Switchboard) (moves : List Move) (c : ControllerId) (w : Wiring)
    (id : SessionId) : Prop :=
  ∃ earlier later, moves = earlier ++ .applyTask c :: later ∧
    (sb.run earlier).session? id = none ∧ w.transport ∉ (sb.run earlier).opened ∧
    w.transport ∈ (sb.run (earlier ++ [.applyTask c])).opened ∧
    (sb.run (earlier ++ [.applyTask c])).Launched c w id

/-- By the end of a run a start has come through: nothing was told about it, and one session was
made for it, under its key, and launched. -/
structure Succeeded (sb : Switchboard) (moves : List Move) (c : ControllerId) (k : StartId)
    (key : SessionKey) (tunnels : List Tunnel) : Prop where
  silent : (sb.run moves).toldStart k = []
  session : ∃ w id, (sb.run moves).made k = [(w, id)] ∧ w.key = key ∧ w.tunnels = tunnels ∧
    sb.LaunchedBy moves c w id

theorem Failed.not_succeeded (h : sb.Failed moves c k key tunnels) :
    ¬ sb.Succeeded moves c k key tunnels := by
  intro hsucceeded
  obtain ⟨e, htold, -⟩ := h.told
  cases htold.symm.trans hsucceeded.silent

theorem LaunchedBy.concat (h : sb.LaunchedBy moves c w id) (m : Move) :
    sb.LaunchedBy (moves ++ [m]) c w id := by
  obtain ⟨earlier, later, rfl, hlaunched⟩ := h
  exact ⟨earlier, later ++ [m], by simp, hlaunched⟩

/-! ## The course of a start -/

/-- What holds after a run where transports without tunnels are refused. -/
structure Orderly (sb : Switchboard) (moves : List Move) : Prop where
  sound : (sb.run moves).Sound
  lasts : sb.Lasts (sb.run moves)
  refuses : (sb.run moves).surroundings.refusesEmpty = true
  accounted : (sb.run moves).Accounted
  traced : (sb.run moves).Traced
  fresh : (sb.run moves).Fresh

theorem orderly_run {surroundings : Surroundings} (controllers : List (String × Nat))
    (hrefuses : surroundings.refusesEmpty = true) (moves : List Move) :
    (initial surroundings controllers).Orderly moves where
  sound := (sound_initial surroundings controllers).run moves
  lasts := lasts_run controllers hrefuses moves
  refuses := (lasts_run controllers hrefuses moves).refusesEmpty.trans hrefuses
  accounted := accounted_run surroundings controllers moves
  traced := traced_run controllers hrefuses moves
  fresh := fresh_run surroundings controllers moves

/-- How far a start has come by the end of a run. -/
inductive Course (sb : Switchboard) (moves : List Move) (c : ControllerId) (k : StartId)
    (key : SessionKey) (selection : Selection) : Prop
  | checking (haffair : (sb.run moves).affair k = .checking c k key selection) :
      Course sb moves c k key selection
  | checked {result : Except Failure Unit}
      (haffair : (sb.run moves).affair k = .checked c k key selection result)
      (hresult : ∀ e, result = .error e →
        Grounds sb.surroundings.plans key selection.tunnels e) :
      Course sb moves c k key selection
  | failed {e : Failure} {made : List (Wiring × SessionId)}
      (haffair : (sb.run moves).affair k = .failed c k e made)
      (hgrounds : Grounds sb.surroundings.plans key selection.tunnels e)
      (hleft : ∀ w id, (w, id) ∈ made → sb.GivenUp moves w id) :
      Course sb moves c k key selection
  | succeeded {w : Wiring} {id : SessionId}
      (haffair : (sb.run moves).affair k = .succeeded w id) (hkey : w.key = key)
      (htunnels : w.tunnels = selection.tunnels) (hlaunched : sb.LaunchedBy moves c w id) :
      Course sb moves c k key selection

namespace Course

/-- Nothing about the start waits for another interface. -/
theorem verdicts_of_ne (h : sb.Course moves c k key selection) (hc : c' ≠ c) :
    ((sb.run moves).affair k).verdicts c' = [] := by
  cases h with
  | checking haffair | failed haffair | succeeded haffair =>
    rw [haffair]
    rfl
  | checked haffair =>
    rw [haffair]
    exact Function.update_of_ne hc _ _

/-- The start was asked for. -/
theorem lt_startCount (h : sb.Course moves c k key selection) (hfresh : (sb.run moves).Fresh) :
    k < (sb.run moves).startCount := by
  by_contra hlate
  have huntouched := hfresh k (Nat.le_of_not_lt hlate)
  cases h with
  | checking haffair => cases congrArg Affair.checks (huntouched.symm.trans haffair)
  | checked haffair =>
    have hnone := congrFun (congrArg Affair.verdicts (huntouched.symm.trans haffair)) c
    simp [Affair.untouched, Affair.checked] at hnone
  | failed haffair => cases congrArg Affair.told (huntouched.symm.trans haffair)
  | succeeded haffair => cases congrArg Affair.made (huntouched.symm.trans haffair)

/-- A move that leaves the affair of the start alone changes nothing about its course. -/
theorem of_affair_eq (h : sb.Course moves c k key selection) (hnow : sb.Orderly moves)
    (hsame : ((sb.run moves).step m).affair k = (sb.run moves).affair k) :
    sb.Course (moves ++ [m]) c k key selection := by
  rw [← run_concat] at hsame
  cases h with
  | checking haffair => exact .checking (hsame.trans haffair)
  | checked haffair hresult => exact .checked (hsame.trans haffair) hresult
  | @failed e made haffair hgrounds hleft =>
    refine .failed (hsame.trans haffair) hgrounds fun w id hmem => ?_
    have hall : (sb.run moves).made k = made := congrArg Affair.made haffair
    have hmade : (w, id) ∈ (sb.run moves).made k := hall ▸ hmem
    exact (hleft w id hmem).concat hnow.sound hnow.traced
      (lasts_step hnow.sound.wellFormed hnow.refuses m) hmade
  | succeeded haffair hkey htunnels hlaunched =>
    exact .succeeded (hsame.trans haffair) hkey htunnels (hlaunched.concat m)

end Course

/-- The transport of a session that is made in a move is opened in that move. -/
theorem not_mem_opened_of_new (hsound : sb.Sound) (htraced : sb.Traced)
    (haccounted : (sb.step m).Accounted) (hnew : sb.session? id = none)
    (hmade : (w, id) ∈ (sb.step m).made k) : w.transport ∉ sb.opened := by
  intro hmem
  obtain ⟨k', w', id', hmade', htransport⟩ := (htraced _).1 hmem
  obtain ⟨⟨s', hs', rfl⟩, -⟩ := mem_made_iff.1 hmade'
  obtain ⟨⟨s, hs, rfl⟩, -⟩ := mem_made_iff.1 hmade
  obtain ⟨s'', hs'', hwiring, -⟩ := hsound.follows_step m id' s' hs'
  have hsame : s''.transport = s.transport := (congrArg Wiring.transport hwiring).trans htransport
  obtain rfl := haccounted.distinct id' id s'' s hs'' hs hsame
  cases hs'.symm.trans hnew

/-- When its interface applies what came of the check, the start is settled. -/
theorem course_of_verdict (horderly : ∀ moves, sb.Orderly moves) {result : Except Failure Unit}
    {rest : List Task}
    (hwaiting : (sb.run moves).waiting c = .checked k key selection result :: rest)
    (haffair : (sb.run moves).affair k = .checked c k key selection result)
    (hresult : ∀ e, result = .error e → Grounds sb.surroundings.plans key selection.tunnels e) :
    sb.Course (moves ++ [.applyTask c]) c k key selection := by
  have hnow := horderly moves
  have hnext := horderly (moves ++ [.applyTask c])
  have hnone : (sb.run moves).made k = [] := congrArg Affair.made haffair
  rw [← hnow.lasts.plans] at hresult
  rcases affair_verdict hnow.sound.wellFormed hnow.refuses hwaiting haffair hresult with
    ⟨e, made, hfailed, hgrounds, hforsaken⟩ | ⟨w, id, hsucceeded, hkey, htunnels, hlaunched⟩
  · rw [hnow.lasts.plans] at hgrounds
    refine .failed (by rwa [run_concat]) hgrounds fun w id hmem => ?_
    have hall : ((sb.run moves).step (.applyTask c)).made k = made :=
      congrArg Affair.made hfailed
    have hmade : (w, id) ∈ ((sb.run moves).step (.applyTask c)).made k := hall ▸ hmem
    -- The session is new, so it was not registered before, and it is not now.
    have hnew := new_of_made hnow.sound hnone hmade
    obtain ⟨⟨s, hs, rfl⟩, -⟩ := mem_made_iff.1 hmade
    obtain ⟨hunregistered, hclosed, s', hs', hidle⟩ := hforsaken _ id hmem
    cases hs.symm.trans hs'
    rw [← run_concat] at hs hclosed
    exact ⟨(NeverRegistered.of_none (horderly []).sound hnew).concat fun _ => hunregistered,
      ⟨s, hs, rfl, hidle⟩, hclosed⟩
  · have hall : ((sb.run moves).step (.applyTask c)).made k = [(w, id)] :=
      congrArg Affair.made hsucceeded
    have hmade : (w, id) ∈ ((sb.run moves).step (.applyTask c)).made k := by
      rw [hall]
      exact List.mem_singleton.2 rfl
    have hnew := new_of_made hnow.sound hnone hmade
    have haccounted := hnext.accounted
    rw [run_concat] at haccounted
    have hunopened := not_mem_opened_of_new hnow.sound hnow.traced haccounted hnew hmade
    rw [← run_concat] at hsucceeded hmade hlaunched
    exact .succeeded hsucceeded hkey htunnels
      ⟨moves, [], rfl, hnew, hunopened, (hnext.traced _).2 ⟨k, w, id, hmade, rfl⟩, hlaunched⟩

/-- Each move leaves a start where it is or brings it on. -/
theorem Course.concat (h : sb.Course moves c k key selection)
    (horderly : ∀ moves, sb.Orderly moves)
    (hhears : ((sb.run moves).step m).hears c = true) :
    sb.Course (moves ++ [m]) c k key selection := by
  have hnow := horderly moves
  rcases affair_step hnow.sound.wellFormed m k with hsame | hadvances
  · exact h.of_affair_eq hnow hsame
  · cases hadvances with
    | asked haside hstep hcount =>
      -- A number is given to one start only.
      have hlt := h.lt_startCount hnow.fresh
      rw [← haside.startCount, hcount] at hlt
      exact absurd hlt (Nat.lt_irrefl k)
    | check hplace =>
      have hmem := mem_checks hplace
      cases h with
      | checking haffair =>
        rw [haffair] at hmem
        cases List.mem_singleton.1 hmem
        have hbefore := hears_turn (hnow.sound.turn _ 0) hhears
        have hchecked := affair_finishJob hplace haffair hbefore
        exact .checked ((congrArg (·.affair k) (run_concat ..)).trans hchecked) fun _ => .port
      | checked haffair | failed haffair | succeeded haffair =>
        rw [haffair] at hmem
        cases hmem
    | @verdict c' key' selection' result' rest hwaiting =>
      -- Only the interface of its controller has something to apply for the start.
      have hmem := mem_verdicts hwaiting
      by_cases hc : c' = c
      · subst hc
        cases h with
        | @checked result haffair hresult =>
          rw [haffair] at hmem
          have hone : Task.checked k key' selection' result' = .checked k key selection result := by
            simpa [Affair.checked] using hmem
          cases hone
          exact course_of_verdict horderly hwaiting haffair hresult
        | checking haffair | failed haffair | succeeded haffair =>
          rw [haffair] at hmem
          cases hmem
      · rw [h.verdicts_of_ne hc] at hmem
        cases hmem
    | @shut c' =>
      -- It is the interface of another controller, since this one is still there.
      have hc : c' ≠ c := by
        rintro rfl
        cases (hears_closeInterface (sb.run moves) c').symm.trans hhears
      exact h.of_affair_eq hnow (affair_closeInterface (h.verdicts_of_ne hc))

/-- A start that is confirmed is turned down, or its ports are to be checked. -/
theorem Confirms.course {before : List Move} {pod : ResourcePath}
    (h : (sb.run before).Confirms c pod selection m) (hnow : sb.Orderly before) :
    sb.Course (before ++ [m]) c (sb.run before).startCount ⟨pod, selection.container⟩
      selection := by
  obtain ⟨sb₁, ctl, haside, -, hctl, hstep⟩ := h.exists_start
  have huntouched : sb₁.affair sb₁.startCount = .untouched := by
    rw [haside.affair, haside.startCount]
    exact hnow.fresh _ (Nat.le_refl _)
  have hcases := affair_start hctl huntouched pod selection
  rw [← hstep, ← run_concat, haside.startCount] at hcases
  rcases hcases with hfailed | hchecking
  · exact .failed hfailed .taken (by simp)
  · exact .checking hchecking

/-- While its interface is there, a confirmed start keeps its course. -/
theorem Confirms.course_run {before : List Move} {pod : ResourcePath}
    (h : (sb.run before).Confirms c pod selection m) (horderly : ∀ moves, sb.Orderly moves)
    (after : List Move) (hhears : (sb.run (before ++ m :: after)).hears c = true) :
    sb.Course (before ++ m :: after) c (sb.run before).startCount ⟨pod, selection.container⟩
      selection := by
  rw [List.append_cons] at hhears ⊢
  induction after using List.reverseRecOn with
  | nil => exact (List.append_nil _).symm ▸ h.course (horderly before)
  | append_singleton after m' ih =>
    rw [← List.append_assoc] at hhears ⊢
    rw [run_concat] at hhears
    have hbefore := hears_turn ((horderly _).sound.turn m' 0) hhears
    exact (ih hbefore).concat horderly hhears

/-! ## The settlement -/

/-- A start is in flight and nothing has come of it, or it is settled in one of two ways. -/
theorem Course.settled (h : sb.Course moves c k key selection) (hnow : sb.Orderly moves) :
    (key, k) ∈ (sb.run moves).inFlight c ∧ (sb.run moves).toldStart k = [] ∧
        (sb.run moves).made k = [] ∨
      (key, k) ∉ (sb.run moves).inFlight c ∧
        Xor (sb.Failed moves c k key selection.tunnels)
          (sb.Succeeded moves c k key selection.tunnels) := by
  cases h with
  | checking haffair =>
    refine .inl ⟨mem_inFlight_iff.2 (.inl ⟨selection, ?_⟩), congrArg Affair.told haffair,
      congrArg Affair.made haffair⟩
    rw [haffair]
    exact List.mem_singleton.2 rfl
  | @checked result haffair hresult =>
    refine .inl ⟨mem_inFlight_iff.2 (.inr ⟨selection, result, ?_⟩), congrArg Affair.told haffair,
      congrArg Affair.made haffair⟩
    rw [haffair]
    simp [Affair.checked]
  | @failed e made haffair hgrounds hleft =>
    have hmade : (sb.run moves).made k = made := congrArg Affair.made haffair
    rw [← hmade] at hleft
    have hfailed : sb.Failed moves c k key selection.tunnels := by
      refine ⟨⟨e, congrArg Affair.told haffair, hgrounds⟩, hleft, fun w id hmem => ?_⟩
      rw [hnow.accounted.nodup.count, if_pos (hleft w id hmem).closed]
    refine .inr ⟨fun hflight => ?_, .inl ⟨hfailed, hfailed.not_succeeded⟩⟩
    rw [mem_inFlight_iff, haffair] at hflight
    simp [Affair.failed, Affair.untouched] at hflight
  | @succeeded w id haffair hkey htunnels hlaunched =>
    have hsucceeded : sb.Succeeded moves c k key selection.tunnels :=
      ⟨congrArg Affair.told haffair, w, id, congrArg Affair.made haffair, hkey, htunnels, hlaunched⟩
    refine .inr ⟨fun hflight => ?_, .inr ⟨hsucceeded, fun hfailed =>
      hfailed.not_succeeded hsucceeded⟩⟩
    rw [mem_inFlight_iff, haffair] at hflight
    simp [Affair.succeeded, Affair.untouched] at hflight

/-- Settlement of starts, where transports without tunnels are refused. As long as its interface is
there, a confirmed start is in flight and nothing has come of it yet, or it is settled in exactly
one of two ways: it has failed, or it has come through. Every transport that was opened for a start
is that of a session made for a start. The claims of the controller are those of its starts in
flight, whose number is that of its pending starts. -/
theorem start_settled (surroundings : Surroundings) (controllers : List (String × Nat))
    (before after : List Move) (m : Move) (c : ControllerId) (pod : ResourcePath)
    (selection : Selection) (hrefuses : surroundings.refusesEmpty = true)
    (hconfirms : ((initial surroundings controllers).run before).Confirms c pod selection m)
    (hliving : ((initial surroundings controllers).run (before ++ m :: after)).hears c = true) :
    let sb := initial surroundings controllers
    let moves := before ++ m :: after
    let k := (sb.run before).startCount
    let key : SessionKey := ⟨pod, selection.container⟩
    ((key, k) ∈ (sb.run moves).inFlight c ∧ (sb.run moves).toldStart k = [] ∧
          (sb.run moves).made k = [] ∨
        (key, k) ∉ (sb.run moves).inFlight c ∧
          Xor (sb.Failed moves c k key selection.tunnels)
            (sb.Succeeded moves c k key selection.tunnels)) ∧
      (∀ t, t ∈ (sb.run moves).opened ↔
        ∃ k w id, (w, id) ∈ (sb.run moves).made k ∧ w.transport = t) ∧
      ∀ ctl, (sb.run moves).controllers[c]? = some ctl →
        ctl.pendingStarts = ((sb.run moves).inFlight c).length ∧
          ∀ key k, ctl.starts.get? key = some k ↔ (key, k) ∈ (sb.run moves).inFlight c := by
  intro sb moves k key
  have horderly := orderly_run controllers hrefuses
  refine ⟨?_, (horderly moves).traced, fun ctl hctl => ?_⟩
  · exact (hconfirms.course_run horderly after hliving).settled (horderly moves)
  · exact (claimed_run controllers hrefuses moves c).pendingStarts hctl hliving

/-- Surroundings in which transports without tunnels are refused, and somebody else takes the key
while the first transport is being opened. -/
def strictlyContested : Surroundings :=
  { contested with refusesEmpty := true }

/-- The start that loses its key to a rival is settled: it has failed, and what it had opened was
given up. -/
theorem failed_of_rival :
    (initial strictlyContested [("127.0.0.1", 30)]).Failed
      [.start 0 webPod webSelection, .finishJob 0, .applyTask 0] 0 0 webKey
      webSelection.tunnels := by
  have hsettled := (start_settled strictlyContested [("127.0.0.1", 30)] []
    [.finishJob 0, .applyTask 0] (.start 0 webPod webSelection) 0 webPod webSelection rfl
    (.direct rfl) (by decide)).1
  rcases hsettled with ⟨-, htold, -⟩ | ⟨-, ⟨hfailed, -⟩ | ⟨hsucceeded, -⟩⟩
  · exact absurd htold (by decide)
  · exact hfailed
  · exact absurd hsucceeded.silent (by decide)

end Switchboard

end PodTunnels
