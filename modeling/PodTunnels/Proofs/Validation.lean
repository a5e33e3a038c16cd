import PodTunnels.Proofs.Checking
import PodTunnels.Proofs.Settlement

/-!
# Validation of ports

The ports of a start are checked all or nothing, before anything is opened for it. Where one of its
local ends is held, the start is turned down: one failure is told, which names the first such end,
and no move of the start opens anything. Afterwards nothing of it is in the way of a retry. Where
none is held, the check passes (`ports_all_or_nothing`).
-/

namespace PodTunnels

namespace Switchboard

variable {sb : Switchboard} {c : ControllerId} {k : StartId} {key : SessionKey}
  {selection : Selection} {m : Move} {e : Failure}

/-! ## Nothing is opened -/

/-- A change that opens nothing: no transport was tried or opened, and the registry with its
sessions and their runners is what it was. -/
structure OpensNothing (sb sb' : Switchboard) : Prop where
  attempts : sb'.attempts = sb.attempts
  transports : sb'.transports = sb.transports
  registry : sb'.registry = sb.registry

theorem opensNothing_start (sb : Switchboard) (c : ControllerId) (pod : ResourcePath)
    (selection : Selection) : sb.OpensNothing (sb.start c pod selection) := by
  cases hctl : sb.controllers[c]? with
  | none =>
    rw [start_of_none hctl]
    exact ⟨rfl, rfl, rfl⟩
  | some ctl =>
    cases htaken : sb.isTaken ctl ⟨pod, selection.container⟩ with
    | true =>
      rw [start_of_taken hctl htaken]
      exact ⟨rfl, rfl, rfl⟩
    | false =>
      rw [start_of_free hctl htaken]
      exact ⟨rfl, rfl, rfl⟩

/-- To confirm a start opens nothing. -/
theorem Confirms.opensNothing {pod : ResourcePath} (h : sb.Confirms c pod selection m) :
    sb.OpensNothing (sb.step m) := by
  cases h with
  | direct => exact opensNothing_start ..
  | @dialog ctl dialog d _ hctl hopen hcurrent =>
    have hstart := opensNothing_start
      ((sb.control c fun ctl => ctl.answerSelection dialog).advance c d.generation .idle) c d.pod
      selection
    have hd : (sb.controllers[c]?.bind fun ctl => ctl.openSelection? dialog) = some d := by
      rw [hctl]
      exact hopen
    simp only [step, confirmSelection, hd]
    split
    · exact ⟨hstart.attempts, hstart.transports, hstart.registry⟩
    · exact ⟨rfl, rfl, rfl⟩

/-- A move serves a start: it confirms it, ends the check of its ports, or applies what came of
that. -/
inductive Serves (sb : Switchboard) (k : StartId) : Move → Prop
  | confirm {m : Move} {c : ControllerId} {pod : ResourcePath} {selection : Selection}
      (hconfirms : sb.Confirms c pod selection m) (hk : sb.startCount = k) : Serves sb k m
  | check {place : Nat} {c : ControllerId} {key : SessionKey} {selection : Selection}
      (hplace : sb.jobs[place]? = some (.checkPorts c k key selection)) :
      Serves sb k (.finishJob place)
  | verdict {c : ControllerId} {key : SessionKey} {selection : Selection}
      {result : Except Failure Unit} {rest : List Task}
      (hwaiting : sb.waiting c = .checked k key selection result :: rest) :
      Serves sb k (.applyTask c)

/-- Whatever came of checks for a start and waits is a failure. -/
def Hopeless (sb : Switchboard) (k : StartId) : Prop :=
  ∀ c, ∀ task ∈ (sb.affair k).verdicts c, ∃ key selection e,
    task = .checked k key selection (.error e)

/-- A move opens nothing on behalf of a start whose check did not pass. -/
theorem Serves.opensNothing (h : sb.Serves k m) (hhopeless : sb.Hopeless k) :
    sb.OpensNothing (sb.step m) := by
  cases h with
  | confirm hconfirms => exact hconfirms.opensNothing
  | check hplace =>
    rw [step, finishJob_of_check hplace]
    exact ⟨rfl, rfl, rfl⟩
  | verdict hwaiting =>
    obtain ⟨key', selection', e, htask⟩ := hhopeless _ _ (mem_verdicts hwaiting)
    cases htask
    rw [step_of_checked_error hwaiting]
    exact ⟨rfl, rfl, rfl⟩

/-! ## Starts that are turned down -/

/-- The check of a start has failed, and if its interface has come to that, the failure was told and
no session made. -/
def Refused (sb : Switchboard) (c : ControllerId) (k : StartId) (key : SessionKey)
    (selection : Selection) (e : Failure) : Prop :=
  sb.Past c k key selection (· = .error e) fun result made => result = .error e ∧ made = []

namespace Refused

theorem hopeless (h : sb.Refused c k key selection e) : sb.Hopeless k := by
  intro c' task htask
  cases h with
  | waiting haffair hfound =>
    subst hfound
    rw [haffair] at htask
    exact ⟨key, selection, e, (Affair.mem_verdicts_checked.1 htask).2⟩
  | lost _ haffair | settled haffair =>
    rw [haffair] at htask
    cases htask

theorem made (h : sb.Refused c k key selection e) : sb.made k = [] := by
  cases h with
  | waiting haffair | lost _ haffair => exact congrArg Affair.made haffair
  | settled haffair hended => exact (congrArg Affair.made haffair).trans hended.2

/-- In flight, the failure is not told yet; and once it is told, nothing is in flight. -/
theorem told (h : sb.Refused c k key selection e) (hhears : sb.hears c = true) :
    (key, k) ∈ sb.inFlight c ∧ sb.toldStart k = [] ∨
      (key, k) ∉ sb.inFlight c ∧ sb.toldStart k = [⟨c, .start k, .error e⟩] := by
  cases h with
  | @waiting result haffair =>
    refine .inl ⟨mem_inFlight_iff.2 (.inr ⟨selection, result, ?_⟩), congrArg Affair.told haffair⟩
    rw [haffair]
    exact Affair.mem_verdicts_checked.2 ⟨rfl, rfl⟩
  | lost hdeaf => cases hdeaf.symm.trans hhears
  | settled haffair hended =>
    obtain ⟨rfl, rfl⟩ := hended
    refine .inr ⟨fun hflight => ?_, congrArg Affair.told haffair⟩
    rw [mem_inFlight_iff, haffair] at hflight
    simp [Affair.settled, Affair.untouched] at hflight

/-- When its interface comes to it, the failure is told. -/
theorem applied (h : sb.Refused c k key selection e) {rest : List Task}
    (hwaiting : sb.waiting c = .checked k key selection (.error e) :: rest) :
    (sb.step (.applyTask c)).toldStart k = [⟨c, .start k, .error e⟩] := by
  have hmem := mem_verdicts hwaiting
  cases h with
  | waiting haffair hfound =>
    subst hfound
    exact congrArg Affair.told (affair_verdict_error hwaiting haffair)
  | lost _ haffair | settled haffair =>
    rw [haffair] at hmem
    cases hmem

theorem run (h : sb.Refused c k key selection e) (hsound : sb.Sound) (hk : k < sb.startCount)
    (moves : List Move) : (sb.run moves).Refused c k key selection e := by
  refine Past.run h hsound hk (fun sb result rest made hwaiting haffair hfound hsettled => ?_) moves
  subst hfound
  exact ⟨rfl, congrArg Affair.made (hsettled.symm.trans (affair_verdict_error hwaiting haffair))⟩

end Refused

/-! ## Starts that are admitted -/

/-- Nobody disputes a key: no live session holds it, nobody takes it while the next transport is
being opened, and that transport does not report it as taken. -/
structure Undisputed (sb : Switchboard) (key : SessionKey) : Prop where
  unheld : sb.registry.lookup key = none
  unrivalled : sb.nextPlan.rival = false
  unreported : sb.nextPlan.openFailure ≠ some (.duplicateSession key)

theorem Undisputed.openTransport (h : sb.Undisputed key) (tunnels : List Tunnel) :
    (∃ e, sb.openTransport key tunnels = (.error e, sb.attempt) ∧ e ≠ .duplicateSession key) ∨
      sb.openTransport key tunnels =
        (.ok sb.transports.length,
          (sb.attempt.connect { key, tunnels, occasion := .start, plan := sb.nextPlan }).2) := by
  simp only [Switchboard.openTransport]
  split
  · exact .inl ⟨_, rfl, by simp⟩
  · split
    · rename_i e hopen
      refine .inl ⟨e, rfl, ?_⟩
      rintro rfl
      exact h.unreported hopen
    · simp only [h.unrivalled, Bool.false_eq_true, if_false]
      exact .inr rfl

/-- Under a key that nobody disputes a session is not rejected as a duplicate. -/
theorem Undisputed.openSession (h : sb.Undisputed key) (wf : sb.registry.WellFormed)
    (c : ControllerId) (k : StartId) (tunnels : List Tunnel) :
    (sb.openSession c k key tunnels).1 ≠ .error (.duplicateSession key) := by
  simp only [Switchboard.openSession, h.unheld]
  rcases h.openTransport tunnels with ⟨e, hopened, he⟩ | hopened
  · rw [hopened]
    simpa using he
  · rw [hopened]
    dsimp only
    split
    · simp
    · rename_i htunnels
      let opened := (sb.attempt.connect
        { key, tunnels, occasion := .start, plan := sb.nextPlan }).2
      let w : Wiring := ⟨key, tunnels, htunnels, sb.transports.length, some k⟩
      have wf' : opened.registry.WellFormed := wf
      have hfree : opened.registry.lookup w.key = none := h.unheld
      have hregistered : (opened.register c w).1 = .ok () := by
        rw [register_of_lookup_none wf' c hfree]
      rw [hregistered]
      simp

theorem Undisputed.outcome (h : sb.Undisputed key) (wf : sb.registry.WellFormed)
    {result : Except Failure Unit} (hresult : result ≠ .error (.duplicateSession key))
    (c : ControllerId) (k : StartId) (selection : Selection) :
    sb.outcome c k key selection result ≠ .error (.duplicateSession key) := by
  cases result with
  | error e => exact hresult
  | ok _ =>
    have hpopped : (sb.popTask c).Undisputed key := ⟨h.unheld, h.unrivalled, h.unreported⟩
    exact hpopped.openSession wf c k selection.tunnels

/-- A move begins a start that is not turned down: its ports are being checked, the check passes if
none of them is held by then, and unless somebody disputes its key when what came of the check is
applied, the start is not rejected as a duplicate. -/
structure Admitted (sb : Switchboard) (m : Move) (c : ControllerId) (key : SessionKey)
    (selection : Selection) : Prop where
  checking : (sb.run [m]).affair sb.startCount = .checking c sb.startCount key selection
  passes : ∀ later place,
    (sb.run (m :: later)).jobs[place]? = some (.checkPorts c sb.startCount key selection) →
    (∀ t ∈ selection.tunnels, t.localEnd ∉ (sb.run (m :: later)).surroundings.held) →
    (sb.run (m :: later)).hears c = true →
    (sb.run (m :: later ++ [.finishJob place])).affair sb.startCount =
      .checked c sb.startCount key selection (.ok ())
  unrejected : ∀ later,
    (∀ earlier result rest, earlier ++ [.applyTask c] <+: later →
      (sb.run (m :: earlier)).waiting c = .checked sb.startCount key selection result :: rest →
      (sb.run (m :: earlier)).Undisputed key) →
    ∀ notice ∈ (sb.run (m :: later)).toldStart sb.startCount,
      notice.effect ≠ .error (.duplicateSession key)

variable {ctl : Controller} {pod : ResourcePath}

/-- A start that is confirmed under a free key goes to the check of its ports. -/
theorem Confirms.checking (h : sb.Confirms c pod selection m) (hfresh : sb.Fresh)
    (hctl : sb.controllers[c]? = some ctl)
    (hfree : sb.isTaken ctl ⟨pod, selection.container⟩ = false) :
    (sb.step m).affair sb.startCount =
        .checking c sb.startCount ⟨pod, selection.container⟩ selection ∧
      sb.startCount < (sb.step m).startCount := by
  obtain ⟨sb₁, -, haside, hregistry, -, hstep⟩ := h.exists_start
  obtain ⟨ctl', hctl', hkept⟩ := haside.controller c ctl hctl
  have huntouched : sb₁.affair sb₁.startCount = .untouched := by
    rw [haside.affair, haside.startCount]
    exact hfresh _ (Nat.le_refl _)
  have hfree' : sb₁.isTaken ctl' ⟨pod, selection.container⟩ = false := by
    rwa [isTaken, hkept.starts, hregistry]
  have hchecking := affair_start_of_free hctl' hfree' huntouched
  have hcount := startCount_start hctl' pod selection
  rw [haside.startCount] at hchecking hcount
  rw [hstep, hcount]
  exact ⟨hchecking, Nat.lt_succ_self _⟩

/-- A start that is confirmed under a free key is admitted. -/
theorem Confirms.admitted (h : sb.Confirms c pod selection m) (hsound : sb.Sound)
    (hfresh : sb.Fresh) (hctl : sb.controllers[c]? = some ctl)
    (hfree : sb.isTaken ctl ⟨pod, selection.container⟩ = false) :
    sb.Admitted m c ⟨pod, selection.container⟩ selection := by
  obtain ⟨hchecking, hk⟩ := h.checking hfresh hctl hfree
  have hsound' := hsound.step m
  refine ⟨hchecking, ?_, ?_⟩
  · intro later place hplace hnone hhears
    have hnow := checking_of_job hsound' hk hchecking hplace later (List.prefix_refl _)
    have hdone := affair_finishJob hplace hnow hhears
    rw [checkTunnels_of_free hnone] at hdone
    rw [run_concat]
    exact hdone
  · intro later hundisputed notice hnotice
    have hcourse := checking_run
      (F := (· ≠ .error (.duplicateSession ⟨pod, selection.container⟩)))
      (E := fun result _ => result ≠ .error (.duplicateSession ⟨pod, selection.container⟩))
      hsound' hk hchecking (fun held => checkTunnels_ne_duplicate held _ _) later
      (fun earlier result rest _ hbegins hwaiting hfound =>
        (hundisputed earlier result rest hbegins hwaiting).outcome
          (hsound'.run earlier).wellFormed hfound c _ selection)
    change notice ∈ (((sb.step m).run later).affair sb.startCount).told at hnotice
    rcases hcourse with hnow | hpast
    · rw [hnow] at hnotice
      cases hnotice
    · cases hpast with
      | waiting haffair | lost _ haffair =>
        rw [haffair] at hnotice
        cases hnotice
      | @settled result made haffair hended =>
        rw [haffair] at hnotice
        cases result with
        | error e =>
          cases List.mem_singleton.1 hnotice
          simpa using hended
        | ok _ => cases hnotice

/-! ## All or nothing -/

/-- A run turns a start down. No move that serves the start opens anything and no session is made
for it. Its failure is in flight until it is told, once, when the interface comes to it. Then a
retry is admitted as soon as its key is of no use to others. -/
structure TurnedDown (sb : Switchboard) (moves : List Move) (c : ControllerId) (k : StartId)
    (key : SessionKey) (selection : Selection) (e : Failure) : Prop where
  opensNothing : ∀ earlier m, earlier ++ [m] <+: moves → (sb.run earlier).Serves k m →
    (sb.run earlier).OpensNothing (sb.run (earlier ++ [m]))
  made : (sb.run moves).made k = []
  told : (sb.run moves).hears c = true →
    (key, k) ∈ (sb.run moves).inFlight c ∧ (sb.run moves).toldStart k = [] ∨
      (key, k) ∉ (sb.run moves).inFlight c ∧
        (sb.run moves).toldStart k = [⟨c, .start k, .error e⟩]
  applied : ∀ rest, (sb.run moves).waiting c = .checked k key selection (.error e) :: rest →
    (sb.run (moves ++ [.applyTask c])).toldStart k = [⟨c, .start k, .error e⟩]
  retry : (sb.run moves).hears c = true → (sb.run moves).toldStart k ≠ [] →
    (sb.run moves).registry.lookup key = none →
    (∀ k' ≠ k, (key, k') ∉ (sb.run moves).inFlight c) →
    ∀ m selection', selection'.container = key.container →
      (sb.run moves).Confirms c key.pod selection' m →
      (sb.run moves).Admitted m c key selection'

/-- Nothing came of checks for the start. -/
theorem hopeless_of_nil (hnone : ∀ c, (sb.affair k).verdicts c = []) : sb.Hopeless k := by
  intro c task htask
  rw [hnone c] at htask
  cases htask

/-- At no time of a run is there hope for a start whose check ends with a failure. -/
theorem hopeless_run (hsound : sb.Sound) (huntouched : sb.affair k = .untouched)
    (hk : k < (sb.step m).startCount)
    (hchecking : (sb.step m).affair k = .checking c k key selection) {middle after : List Move}
    {place : Nat}
    (hplace : (sb.run (m :: middle)).jobs[place]? = some (.checkPorts c k key selection))
    (hrefused : (sb.run (m :: middle ++ [.finishJob place])).Refused c k key selection e)
    {earlier : List Move} (hbegins : earlier <+: m :: middle ++ .finishJob place :: after) :
    (sb.run earlier).Hopeless k := by
  have hchecked : m :: middle ++ [.finishJob place] <+: m :: middle ++ .finishJob place :: after :=
    ⟨after, by simp⟩
  rcases List.prefix_or_prefix_of_prefix hbegins hchecked with hbefore | ⟨later, rfl⟩
  · rcases List.prefix_concat_iff.1 hbefore with rfl | hearlier
    · exact hrefused.hopeless
    · rcases List.prefix_cons_iff.1 hearlier with rfl | ⟨p, rfl, hp⟩
      · refine hopeless_of_nil fun c => ?_
        rw [run, List.foldl_nil, huntouched]
        rfl
      · have hnow := checking_of_job (hsound.step m) hk hchecking hplace p hp
        refine hopeless_of_nil fun c => ?_
        change (((sb.step m).run p).affair k).verdicts c = []
        rw [hnow]
        rfl
  · have hsound' := hsound.run (m :: middle ++ [.finishJob place])
    have hlt := Nat.lt_of_lt_of_le hk
      (startCount_run (hsound.step m) (middle ++ [.finishJob place]))
    rw [run_append]
    exact (hrefused.run hsound' hlt later).hopeless

theorem exists_controller_of_hears (hhears : sb.hears c = true) :
    ∃ ctl, sb.controllers[c]? = some ctl := by
  cases hctl : sb.controllers[c]? with
  | none => simp [hears, hctl] at hhears
  | some ctl => exact ⟨ctl, rfl⟩

/-- Under a key that others have no use for a retry is admitted once the failure was told. -/
theorem Refused.retry (h : sb.Refused c k key selection e) (hsound : sb.Sound) (hfresh : sb.Fresh)
    (hclaimed : sb.Claimed c) (hhears : sb.hears c = true) (htold : sb.toldStart k ≠ [])
    (hunheld : sb.registry.lookup key = none) (hothers : ∀ k' ≠ k, (key, k') ∉ sb.inFlight c)
    {selection' : Selection} (hcontainer : selection'.container = key.container)
    (hconfirms : sb.Confirms c key.pod selection' m) : sb.Admitted m c key selection' := by
  obtain ⟨ctl, hctl⟩ := exists_controller_of_hears hhears
  have hclaims := (hclaimed.pendingStarts hctl hhears).2
  have hunclaimed : ctl.starts.get? key = none := by
    rw [Option.eq_none_iff_forall_ne_some]
    intro k' hclaim
    have hflight := (hclaims key k').1 hclaim
    by_cases hk : k' = k
    · subst hk
      rcases h.told hhears with ⟨-, hsilent⟩ | ⟨hgone, -⟩
      · exact htold hsilent
      · exact hgone hflight
    · exact hothers k' hk hflight
  have hkey : key = ⟨key.pod, selection'.container⟩ := by rw [hcontainer]
  have hfree : sb.isTaken ctl ⟨key.pod, selection'.container⟩ = false := by
    rw [← hkey]
    simp [isTaken, hunclaimed, hunheld]
  have hadmitted := hconfirms.admitted hsound hfresh hctl hfree
  rwa [← hkey] at hadmitted

/-- Validation of ports, all or nothing. A start that is confirmed under a key that is neither live
nor being started is admitted to the check. If one of its local ends is held while the check is
made, the start is turned down with the failure of the first tunnel whose local end is held,
whatever else happens before and after. -/
theorem ports_all_or_nothing (surroundings : Surroundings) (controllers : List (String × Nat))
    (before : List Move) (m : Move) (c : ControllerId) (ctl : Controller) (pod : ResourcePath)
    (selection : Selection)
    (hconfirms : ((initial surroundings controllers).run before).Confirms c pod selection m)
    (hctl : ((initial surroundings controllers).run before).controllers[c]? = some ctl)
    (hfree : ((initial surroundings controllers).run before).isTaken ctl
      ⟨pod, selection.container⟩ = false) :
    let sb := (initial surroundings controllers).run before
    let key : SessionKey := ⟨pod, selection.container⟩
    sb.Admitted m c key selection ∧
      ∀ middle after place,
        (sb.run (m :: middle)).jobs[place]? =
          some (.checkPorts c sb.startCount key selection) →
        (∃ t ∈ selection.tunnels, t.localEnd ∈ (sb.run (m :: middle)).surroundings.held) →
        ∃ t, selection.tunnels.find? (fun t =>
            t.localEnd ∈ (sb.run (m :: middle)).surroundings.held) = some t ∧
          sb.TurnedDown (m :: middle ++ .finishJob place :: after) c sb.startCount key selection
            t.inUse := by
  intro sb key
  have hsound : sb.Sound := (sound_initial surroundings controllers).run before
  have hfresh : sb.Fresh := fresh_run surroundings controllers before
  obtain ⟨hchecking, hk⟩ := hconfirms.checking hfresh hctl hfree
  refine ⟨hconfirms.admitted hsound hfresh hctl hfree, ?_⟩
  intro middle after place hplace hheld
  obtain ⟨t, hfirst⟩ : ∃ t, selection.tunnels.find? (fun t =>
      t.localEnd ∈ (sb.run (m :: middle)).surroundings.held) = some t := by
    rw [← Option.isSome_iff_exists, List.find?_isSome]
    simpa using hheld
  refine ⟨t, hfirst, ?_⟩
  have hnow := checking_of_job (hsound.step m) hk hchecking hplace middle (List.prefix_refl _)
  have hfailed := checkTunnels_of_held hfirst
  have hrefused : (sb.run (m :: middle ++ [.finishJob place])).Refused c sb.startCount key selection
      t.inUse := by
    rw [run_concat]
    exact past_finishJob (hsound.run (m :: middle)) hplace hnow hfailed
  have hsound' := hsound.run (m :: middle ++ [.finishJob place])
  have hlt := Nat.lt_of_lt_of_le hk
    (startCount_run (hsound.step m) (middle ++ [.finishJob place]))
  have hend := hrefused.run hsound' hlt after
  rw [← run_append, List.append_assoc] at hend
  have hrun : sb.run (m :: middle ++ .finishJob place :: after) =
      (initial surroundings controllers).run
        (before ++ (m :: middle ++ .finishJob place :: after)) := (run_append ..).symm
  refine ⟨?_, hend.made, hend.told, ?_, ?_⟩
  · intro earlier m' hbegins hserves
    rw [run_concat]
    exact hserves.opensNothing (hopeless_run hsound (hfresh _ (Nat.le_refl _)) hk hchecking hplace
      hrefused ((List.prefix_append ..).trans hbegins))
  · intro rest hwaiting
    rw [run_concat]
    exact hend.applied hwaiting
  · intro hhears htold hunheld hothers m' selection' hcontainer hconfirms'
    refine hend.retry (hsound.run _) ?_ ?_ hhears htold hunheld hothers hcontainer hconfirms'
    · exact hrun ▸ fresh_run surroundings controllers _
    · exact hrun ▸ (claimed_initial surroundings controllers c).run
        (sound_initial surroundings controllers) _

/-- Two tunnels to a pod. -/
def portPair : Selection :=
  ⟨"app", [{ address := "127.0.0.1", localPort := 20899, containerPort := 8080 },
    { address := "127.0.0.1", localPort := 20900, containerPort := 8081 }]⟩

/-- The local end of the second tunnel is held. -/
def secondHeld : Switchboard :=
  (initial { cluster := .empty } [("127.0.0.1", 30)]).run [.hold ("127.0.0.1", 20900)]

/-- The start that finds its second port held is turned down. When the port is free again, a retry
is admitted and passes the check. -/
theorem second_port_turned_down :
    secondHeld.TurnedDown
        [.start 0 webPod portPair, .finishJob 0, .applyTask 0, .unhold ("127.0.0.1", 20900)] 0 0
        webKey portPair (.portUnavailable "127.0.0.1" 20900 addressInUse) ∧
      (secondHeld.run [.start 0 webPod portPair, .finishJob 0, .applyTask 0,
        .unhold ("127.0.0.1", 20900), .start 0 webPod portPair, .finishJob 0]).affair 1 =
          .checked 0 1 webKey portPair (.ok ()) := by
  obtain ⟨-, hall⟩ := ports_all_or_nothing { cluster := .empty } [("127.0.0.1", 30)]
    [.hold ("127.0.0.1", 20900)] (.start 0 webPod portPair) 0
    { address := "127.0.0.1", readySeconds := 30 } webPod portPair (.direct rfl) rfl rfl
  obtain ⟨t, hfirst, hdown⟩ := hall [] [.applyTask 0, .unhold ("127.0.0.1", 20900)] 0 rfl
    (by decide)
  cases hfirst
  have hnone : (secondHeld.run [.start 0 webPod portPair, .finishJob 0, .applyTask 0,
      .unhold ("127.0.0.1", 20900)]).inFlight 0 = [] := rfl
  have hretry := hdown.retry rfl (by decide) rfl (fun _ _ => hnone ▸ List.not_mem_nil)
    (.start 0 webPod portPair) portPair rfl (.direct rfl)
  exact ⟨hdown, hretry.passes [] 0 rfl (by decide) rfl⟩

end Switchboard

end PodTunnels
