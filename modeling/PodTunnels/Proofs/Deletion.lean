import PodTunnels.Proofs.Isolation
import Mathlib.Data.List.Nodup

/-!
# Deletions that are asked about

A flow that comes to a pod with live sessions asks whether to delete them. The question lists just
these sessions, in the order of their keys (`Registry.Lists`), and remembers them by identity. So it
does not matter what becomes of the registry until the question is answered: a yes to the question
of the current flow takes down the sessions that were listed, whether they still run or not, and no
others, even if these got the same keys meanwhile (`Deletes`).
-/

namespace PodTunnels

namespace Registry

variable {r : Registry} {pod : ResourcePath} {id : SessionId}

/-- A question before a deletion lists the live sessions that are registered for a pod, each with a
line of its own for its container and its ports, in the order of their keys. -/
structure Lists (r : Registry) (pod : ResourcePath) (d : DeletionDialog) : Prop where
  about : d.pod = pod
  listed : ∀ id, id ∈ d.sessions ↔ ∃ s, r.session? id = some s ∧ r.isRegistered id = true ∧
    s.isLive = true ∧ s.pod = pod
  message : ∃ ss : List Session, d.sessions.map r.session? = ss.map some ∧
    (ss.Pairwise fun s s' => compare s.key s'.key = .lt) ∧
    d.message = "\n".intercalate (("Delete PortForward " ++ pod.render ++ "?") ::
      ss.map fun s => s.container ++ " " ++ ",".intercalate (s.tunnels.map Tunnel.render))

theorem mem_allForPod_iff (wf : r.WellFormed) :
    id ∈ r.allForPod pod ↔ ∃ s, r.session? id = some s ∧ r.isRegistered id = true ∧
      s.isLive = true ∧ s.pod = pod := by
  simp only [allForPod, List.mem_map, List.mem_filter, decide_eq_true_eq]
  constructor
  · rintro ⟨⟨key, _⟩, ⟨hentry, rfl, hlive⟩, rfl⟩
    have hget := OrderedMap.mem_entries_iff.1 hentry
    obtain ⟨s, hs, rfl⟩ := wf hget
    exact ⟨s, hs, (isRegistered_of_session? hs).2 hget, (isLive_of_session? hs).symm.trans hlive,
      rfl⟩
  · rintro ⟨s, hs, hreg, hlive, rfl⟩
    have hget := (isRegistered_of_session? hs).1 hreg
    exact ⟨(s.key, id), ⟨OrderedMap.mem_entries_iff.2 hget, rfl,
      (isLive_of_session? hs).trans hlive⟩, rfl⟩

/-- Entries stand for sessions with the same keys. -/
theorem exists_sessions_of_entries {es : List (SessionKey × SessionId)} (wf : r.WellFormed)
    (hes : ∀ e ∈ es, e ∈ r.entries.entries) :
    ∃ ss : List Session, (es.map Prod.snd).map r.session? = ss.map some ∧
      ss.map (fun s => s.key) = es.map Prod.fst := by
  induction es with
  | nil => exact ⟨[], rfl, rfl⟩
  | cons e es ih =>
    obtain ⟨hfirst, hrest⟩ := List.forall_mem_cons.1 hes
    obtain ⟨ss, hsessions, hkeys⟩ := ih hrest
    obtain ⟨s, hs, hkey⟩ := wf (OrderedMap.mem_entries_iff.1 hfirst)
    exact ⟨s :: ss, by simp [hs, hsessions], by simp [hkey, hkeys]⟩

/-- The live sessions of a pod have increasing keys. -/
theorem exists_sessions_allForPod (wf : r.WellFormed) (pod : ResourcePath) :
    ∃ ss : List Session, (r.allForPod pod).map r.session? = ss.map some ∧
      ss.Pairwise fun s s' => compare s.key s'.key = .lt := by
  let es := r.entries.entries.filter fun e => e.1.pod = pod ∧ r.isLive e.2
  have hincreasing : (es.map Prod.fst).Pairwise fun k k' => compare k k' = .lt :=
    List.pairwise_map.2 (r.entries.increasing.sublist List.filter_sublist)
  have hentries : ∀ e ∈ es, e ∈ r.entries.entries := fun e he => (List.mem_filter.1 he).1
  obtain ⟨ss, hsessions, hkeys⟩ := exists_sessions_of_entries wf hentries
  exact ⟨ss, hsessions, List.pairwise_map.1 (hkeys ▸ hincreasing)⟩

theorem nodup_of_map_session? {ids : List SessionId} {ss : List Session}
    (hsessions : ids.map r.session? = ss.map some)
    (hordered : ss.Pairwise fun s s' => compare s.key s'.key = .lt) : ids.Nodup := by
  have hdistinct : ss.Nodup := hordered.imp fun hlt heq => by simp [heq] at hlt
  have hmapped : (ss.map some).Nodup := List.pairwise_map.2 (hdistinct.imp fun hne heq =>
    hne (Option.some.inj heq))
  exact List.Nodup.of_map r.session? (hsessions ▸ hmapped)

theorem linesOf_eq {ids : List SessionId} {ss : List Session}
    (hsessions : ids.map r.session? = ss.map some) :
    r.linesOf ids = ss.map fun s => s.line := by
  have hlines : r.linesOf ids = (ids.map r.session?).filterMap (Option.map fun s => s.line) := by
    rw [linesOf, List.filterMap_map]
    rfl
  rw [hlines, hsessions, List.filterMap_map]
  exact congrFun (List.filterMap_eq_map (f := fun s : Session => s.line)) ss

/-- A question about what is registered and live for a pod. -/
theorem WellFormed.lists (wf : r.WellFormed) (generation : Nat) (pod : ResourcePath) :
    r.Lists pod { generation, pod, sessions := r.allForPod pod,
                  lines := r.linesOf (r.allForPod pod) } where
  about := rfl
  listed _ := mem_allForPod_iff wf
  message := by
    obtain ⟨ss, hsessions, hordered⟩ := exists_sessions_allForPod wf pod
    refine ⟨ss, hsessions, hordered, ?_⟩
    rw [DeletionDialog.message, linesOf_eq hsessions]
    rfl

end Registry

namespace Switchboard

variable {sb : Switchboard} {c : ControllerId} {ctl : Controller} {pod : ResourcePath} {m : Move}

/-! ## The question -/

/-- A move brings the current flow of a controller to a pod: a flow begins whose target is the pod,
or the interface comes to the pod that the target was resolved to. -/
inductive Finds (sb : Switchboard) (c : ControllerId) (pod : ResourcePath) : Move → Prop
  | known {target : Target} (hknown : target.known? = some (.ok pod)) :
      Finds sb c pod (.trigger c target)
  | resolved {ctl : Controller} {rest : List Task} (hctl : sb.controllers[c]? = some ctl)
      (hwaiting : sb.waiting c = .resolved ctl.generation (.ok pod) :: rest) :
      Finds sb c pod (.applyTask c)

/-- A controller has just asked whether to delete sessions. -/
structure Asked (sb : Switchboard) (c : ControllerId) (n : Nat) (d : DeletionDialog) : Prop where
  unanswered : d.answered = false
  told : ∃ before, sb.notices = before ++ [⟨c, .flow d.generation, .showDeletion n⟩]
  shown : ∃ ctl, sb.controllers[c]? = some ctl ∧ ctl.generation = d.generation ∧
    ctl.stage = .awaitingDeletion ∧ ctl.deletions[n]? = some d

def question (sb : Switchboard) (generation : Nat) (pod : ResourcePath) : DeletionDialog :=
  { generation, pod, sessions := sb.registry.allForPod pod,
    lines := sb.registry.linesOf (sb.registry.allForPod pod) }

/-- A flow that comes to a pod with live sessions asks about them. -/
theorem podFound_of_live (hctl : sb.controllers[c]? = some ctl)
    (hlive : sb.registry.allForPod pod ≠ []) :
    sb.podFound c ctl.generation pod =
      ((sb.advance c ctl.generation .awaitingDeletion).control c fun ctl' =>
        { ctl' with deletions := ctl'.deletions ++ [sb.question ctl.generation pod] }).notify c
          (.flow ctl.generation) (.showDeletion ctl.deletions.length) := by
  unfold podFound
  split
  · contradiction
  · simp only [askDeletion, hctl, ↓reduceIte]
    rfl

theorem asked_podFound (hctl : sb.controllers[c]? = some ctl)
    (hlive : sb.registry.allForPod pod ≠ []) :
    (sb.podFound c ctl.generation pod).Asked c ctl.deletions.length
      (sb.question ctl.generation pod) := by
  let asked : Controller :=
    { ctl with
      stage := .awaitingDeletion
      deletions := ctl.deletions ++ [sb.question ctl.generation pod] }
  rw [podFound_of_live hctl hlive]
  refine ⟨rfl, ⟨sb.notices, rfl⟩, asked, ?_, rfl, rfl, List.getElem?_concat_length⟩
  simp [notify, control, advance, hctl, Controller.advance, asked]

theorem route_of_known {target : Target} (h : target.known? = some (.ok pod)) :
    Route.ofKind target.kind = .ok .pod ∧ target.path = pod := by
  unfold Target.known? at h
  split at h
  · cases h
  · rename_i hroute
    exact ⟨hroute, by simpa using h⟩
  · cases h

theorem step_of_finds (hctl : sb.controllers[c]? = some ctl) (hfinds : sb.Finds c pod m) :
    ∃ (sb' : Switchboard) (ctl' : Controller), sb'.registry = sb.registry ∧
      sb'.controllers[c]? = some ctl' ∧ ctl'.deletions = ctl.deletions ∧
      sb.step m = sb'.podFound c ctl'.generation pod := by
  cases hfinds with
  | @known target hknown =>
    have hbegun : (sb.control c fun ctl => ctl.begin .resolving).controllers[c]? =
        some (ctl.begin .resolving) := by
      simp [control, hctl]
    refine ⟨sb.control c fun ctl => ctl.begin .resolving, ctl.begin .resolving, rfl, hbegun, rfl,
      ?_⟩
    obtain ⟨hroute, rfl⟩ := route_of_known hknown
    simp only [step, trigger, hctl, hroute]
    rfl
  | @resolved ctl' rest hctl' hwaiting =>
    cases hctl.symm.trans hctl'
    have hpopped : (sb.popTask c).controllers[c]? =
        some { ctl with queue := { ctl.queue with waiting := ctl.queue.waiting.tail } } := by
      simp [popTask, control, hctl]
    exact ⟨sb.popTask c, _, rfl, hpopped, rfl, applyTask_of_cons hwaiting⟩

/-- Whatever brings a flow to a pod with live sessions shows a question that lists them. -/
theorem exists_asked (wf : sb.registry.WellFormed) (hctl : sb.controllers[c]? = some ctl)
    (hfinds : sb.Finds c pod m) (hlive : sb.registry.allForPod pod ≠ []) :
    ∃ d, sb.registry.Lists pod d ∧ (sb.step m).Asked c ctl.deletions.length d := by
  obtain ⟨sb', ctl', hregistry, hctl', hdeletions, hstep⟩ := step_of_finds hctl hfinds
  rw [hstep, ← hdeletions]
  rw [← hregistry] at wf hlive ⊢
  exact ⟨_, wf.lists _ pod, asked_podFound hctl' hlive⟩

/-! ## The answer -/

/-- The transport of a session, if nobody has asked for its close yet. -/
def unclosed? (sb : Switchboard) (id : SessionId) : Option TransportId :=
  match sb.session? id with
  | some s => if s.closeRequested then none else some s.transport
  | none => none

/-- What a yes to a question does while the flow that asked is the current one: it stops the
sessions that are listed, says so once, has the interface refresh, and ends the flow. Only the first
request to close reaches a transport. -/
structure Deletes (sb : Switchboard) (c : ControllerId) (n : Nat) (ctl : Controller)
    (d : DeletionDialog) (after : Switchboard) : Prop where
  session : ∀ id, after.session? id = (sb.session? id).map fun s =>
    if id ∈ d.sessions then { s with active := false, closeRequested := true } else s
  registered : ∀ id, after.registry.isRegistered id =
    (sb.registry.isRegistered id && decide (id ∉ d.sessions))
  closings : after.closings = sb.closings ++ d.sessions.filterMap sb.unclosed?
  told : after.notices = sb.notices ++
    [⟨c, .flow d.generation, .info (.deleted d.pod)⟩, ⟨c, .flow d.generation, .refresh⟩]
  flow : after.controllers[c]? = some { ctl.answerDeletion n with stage := .idle }
  others : ∀ c', c' ≠ c → after.controllers[c']? = sb.controllers[c']?
  /-- Nothing else has changed. -/
  rest : after = { sb with
    registry := after.registry, closings := after.closings, notices := after.notices,
    controllers := after.controllers }

theorem stopSession_eq (sb : Switchboard) (id : SessionId) :
    sb.stopSession id = { sb with
      registry := (sb.stopSession id).registry
      closings := sb.closings ++ (sb.unclosed? id).toList } := by
  let quiet := { sb with registry := sb.registry.deleteSession id }.live id Life.deactivate
  have hsession : quiet.session? id = (sb.session? id).map (·.live Life.deactivate) := by
    simp [quiet, session?, live, Registry.session?_live]
  have hstop : sb.stopSession id = quiet.closeSession id := rfl
  rw [hstop]
  cases hs : sb.session? id with
  | none =>
    rw [closeSession_of_none (by rw [hsession, hs]; rfl)]
    simp [unclosed?, hs, quiet, live]
  | some s =>
    rw [hs] at hsession
    cases hclose : s.closeRequested with
    | true =>
      rw [closeSession_of_requested hsession hclose]
      simp [unclosed?, hs, hclose, quiet, live]
    | false =>
      rw [closeSession_of_not_requested hsession hclose]
      simp [unclosed?, hs, hclose, quiet, live, Session.live]

/-- A stop leaves it open whether other sessions are to be closed. -/
theorem unclosed?_stopSession_of_ne {id id' : SessionId} (h : id' ≠ id) :
    (sb.stopSession id).unclosed? id' = sb.unclosed? id' := by
  have hspared := (standing_stopSession sb id' id).trans (if_neg h)
  have hsession : (sb.stopSession id).session? id' = sb.session? id' :=
    congrArg Standing.session hspared
  simp only [unclosed?, hsession]

theorem foldl_stopSession_eq (sb : Switchboard) {ids : List SessionId} (hids : ids.Nodup) :
    ids.foldl stopSession sb = { sb with
      registry := (ids.foldl stopSession sb).registry
      closings := sb.closings ++ ids.filterMap sb.unclosed? } := by
  induction ids generalizing sb with
  | nil => simp
  | cons id ids ih =>
    obtain ⟨hnew, hrest⟩ := List.nodup_cons.1 hids
    have hlater : ids.filterMap (sb.stopSession id).unclosed? = ids.filterMap sb.unclosed? :=
      List.filterMap_congr fun id' hid' =>
        unclosed?_stopSession_of_ne (ne_of_mem_of_not_mem hid' hnew)
    rw [List.foldl_cons, ih (sb.stopSession id) hrest, hlater, stopSession_eq sb id]
    cases hclose : sb.unclosed? id <;> simp [hclose]

/-- A yes to an open question of the current flow takes down what is listed, and nothing else. -/
theorem deletes_of_current {n : Nat} {ctl : Controller} {d : DeletionDialog}
    (hctl : sb.controllers[c]? = some ctl) (hopen : ctl.openDeletion? n = some d)
    (hcurrent : ctl.generation = d.generation) (hdistinct : d.sessions.Nodup) :
    sb.Deletes c n ctl d (sb.step (.confirmDeletion c n)) := by
  have hfound : (sb.controllers[c]?.bind fun ctl => ctl.openDeletion? n) = some d := by
    rw [hctl]
    exact hopen
  let answered := sb.control c fun ctl => ctl.answerDeletion n
  have hanswered : answered.controllers[c]? = some (ctl.answerDeletion n) := by
    simp [answered, control, hctl]
  have hstopped := foldl_stopSession_eq answered hdistinct
  have hcontrollers : (d.sessions.foldl stopSession answered).controllers = answered.controllers := by
    rw [hstopped]
  have hstill : (d.sessions.foldl stopSession answered).isCurrent c d.generation = true := by
    simp [isCurrent, hcontrollers, hanswered, Controller.answerDeletion, hcurrent]
  have heq : sb.step (.confirmDeletion c n) =
      (((d.sessions.foldl stopSession answered).advance c d.generation .idle).notify c
        (.flow d.generation) (.info (.deleted d.pod))).notify c (.flow d.generation) .refresh := by
    simp only [step, confirmDeletion, hfound]
    rw [if_pos hstill]
  have hstanding (id : SessionId) : (sb.step (.confirmDeletion c n)).standing id =
      if id ∈ d.sessions then (sb.standing id).quit else sb.standing id :=
    standing_confirmDeletion hfound
  refine ⟨fun id => ?_, fun id => ?_, ?_, ?_, ?_, fun c' hc' => ?_, ?_⟩
  · refine (congrArg Standing.session (hstanding id)).trans ?_
    split
    · simp [Standing.quit, Standing.live, Standing.register, standing, Function.comp_def,
        Session.live, Life.deactivate, Life.requestClose]
    · simp [standing]
  · refine (congrArg Standing.registered (hstanding id)).trans ?_
    split <;> simp [Standing.quit, Standing.live, Standing.register, standing, *]
  · rw [heq, hstopped]
    rfl
  · rw [heq, hstopped]
    simp [notify, advance, control, answered]
  · rw [heq, hstopped]
    simp [notify, advance, control, answered, hctl, Controller.advance, Controller.answerDeletion,
      hcurrent]
  · rw [heq, hstopped]
    simp [notify, advance, control, answered, Ne.symm hc']
  · rw [heq, hstopped]
    rfl

/-- Deletions go by identity. A flow that comes to a pod with live sessions asks about just these. A
yes to the question, whenever it is given while the flow is the current one, takes down the sessions
that were asked about and no others, whatever has become of them since and whoever has their keys
now. -/
theorem deletion_by_identity (surroundings : Surroundings) (controllers : List (String × Nat))
    (before : List Move) (c : ControllerId) (ctl : Controller) (pod : ResourcePath) (m : Move)
    (hctl : ((initial surroundings controllers).run before).controllers[c]? = some ctl)
    (hfinds : ((initial surroundings controllers).run before).Finds c pod m)
    (hlive : ((initial surroundings controllers).run before).registry.allForPod pod ≠ []) :
    let sb := (initial surroundings controllers).run before
    let n := ctl.deletions.length
    ∃ d, sb.registry.Lists pod d ∧ (sb.step m).Asked c n d ∧
      ∀ (after : List Move) (ctl' : Controller),
        ((sb.step m).run after).controllers[c]? = some ctl' → ctl'.openDeletion? n ≠ none →
        ctl'.generation = d.generation →
        ((sb.step m).run after).Deletes c n ctl' d
          (((sb.step m).run after).step (.confirmDeletion c n)) := by
  intro sb n
  have hsound : sb.Sound := (sound_initial surroundings controllers).run before
  obtain ⟨d, hlists, hasked⟩ := exists_asked hsound.wellFormed hctl hfinds hlive
  refine ⟨d, hlists, hasked, fun after ctl' hctl' hunanswered hcurrent => ?_⟩
  obtain ⟨asked, hctlAsked, -, -, hd⟩ := hasked.shown
  obtain ⟨d', hopen⟩ := Option.ne_none_iff_exists'.1 hunanswered
  -- Questions are kept as they were asked, but for the flag whether they were answered.
  have hsame : d' = d := by
    have hkeeps := keeps_run (hsound.step m)
      (congrArg (Option.map ((sb.step m).dialogueOf c)) hctlAsked) after
      (congrArg (Option.map (((sb.step m).run after).dialogueOf c)) hctl')
    obtain ⟨answered, hkept⟩ := hkeeps.deletion n d hd
    obtain ⟨hfound, hstill⟩ := Option.filter_eq_some_iff.1 hopen
    cases hkept.symm.trans hfound
    have hneither : answered = d.answered := by simpa [hasked.unanswered] using hstill
    rw [hneither]
  subst hsame
  obtain ⟨ss, hsessions, hordered, -⟩ := hlists.message
  exact deletes_of_current hctl' hopen hcurrent (Registry.nodup_of_map_session? hsessions hordered)

/-- The pod has sessions for two of its containers. -/
def twoContainers : List Move :=
  webStart 0 0 ++
    [.applyTask 0,
    .start 0 webPod
      ⟨"log", [{ address := "127.0.0.1", localPort := 20901, containerPort := 9090 }]⟩,
    .finishJob 0, .applyTask 0, .stepRunner 1, .applyTask 0]

/-- One of them is stopped, and another one is started under its key. -/
def renewed : List Move :=
  .stop webKey :: webStart 0 2

/-- The question about both of them. -/
def bothAsked : DeletionDialog :=
  { generation := 1, pod := webPod, sessions := [0, 1],
    lines := ["app 20900:8080", "log 20901:9090"] }

theorem deletes_of_renewed :
    let asked := ((initial { cluster := .empty } [("127.0.0.1", 30)]).run twoContainers).step
      (.trigger 0 ⟨.pod, webPod⟩)
    asked.Asked 0 0 bothAsked ∧ (asked.run renewed).registry.lookup webKey = some 2 ∧
      ∃ ctl, (asked.run renewed).Deletes 0 0 ctl bothAsked
        ((asked.run renewed).step (.confirmDeletion 0 0)) := by
  intro asked
  obtain ⟨before, hbefore⟩ : ∃ ctl, ((initial { cluster := .empty } [("127.0.0.1", 30)]).run
      twoContainers).controllers[0]? = some ctl :=
    Option.isSome_iff_exists.1 (by decide +kernel)
  obtain ⟨ctl, hctl⟩ : ∃ ctl, (asked.run renewed).controllers[0]? = some ctl :=
    Option.isSome_iff_exists.1 (by decide +kernel)
  have hnone : before.deletions.length = 0 := by
    have hinitial : (((initial { cluster := .empty } [("127.0.0.1", 30)]).run
        twoContainers).controllers[0]?.all fun ctl => ctl.deletions.length == 0) = true := by
      decide +kernel
    simpa [hbefore] using hinitial
  have hstands : (ctl.openDeletion? 0).isSome = true ∧ ctl.generation = 1 := by
    have hopen : ((asked.run renewed).controllers[0]?.all fun ctl =>
        (ctl.openDeletion? 0).isSome && ctl.generation == 1) = true := by
      decide +kernel
    simpa [hctl] using hopen
  obtain ⟨d, -, hasked, hdeletes⟩ := deletion_by_identity { cluster := .empty }
    [("127.0.0.1", 30)] twoContainers 0 before webPod (.trigger 0 ⟨.pod, webPod⟩) hbefore
    (.known rfl) (by decide +kernel)
  rw [hnone] at hasked hdeletes
  have hd : d = bothAsked := by
    obtain ⟨ctl', hctl', -, -, hd⟩ := hasked.shown
    have hquestion : (asked.controllers[0]?.bind fun ctl => ctl.deletions[0]?) = some bothAsked := by
      decide +kernel
    rw [hctl', Option.bind_some, hd] at hquestion
    exact Option.some.inj hquestion
  subst hd
  exact ⟨hasked, by decide +kernel, ctl,
    hdeletes renewed ctl hctl (Option.isSome_iff_ne_none.1 hstands.1) hstands.2⟩

end Switchboard

end PodTunnels
