import PodTunnels.Proofs.Flows

/-!
# What a trigger leads to

A trigger is cut into pieces: a job resolves its target, the interface looks at the pod, another job
reads the ports, and the interface offers them. At each piece the flow may have been overtaken. If
it has not, what the user gets to see is what one would get by resolving the target and reading the
ports one after the other (`trigger_verdict`).

Between two pieces a flow is at one of a few places of its course, with exactly one job or task to
its name until it has settled.
-/

namespace PodTunnels

/-- What a flow comes to. -/
inductive Verdict where
  | failure (e : Failure)
  | deletion (pod : ResourcePath) (sessions : List SessionId)
  | selection (pod : ResourcePath) (candidates : List Candidate)

/-- What a flow comes to from the ports of its pod. -/
def Verdict.ofPorts (pod : ResourcePath) : Except Failure PodPorts → Verdict
  | .error e => .failure e
  | .ok ports =>
    match tcpCandidates ports with
    | [] => .failure (.invalidPorts (.noneDeclared pod))
    | candidates => .selection pod candidates

theorem Verdict.ofPorts_of_none {pod : ResourcePath} {ports : PodPorts}
    (h : tcpCandidates ports = []) :
    ofPorts pod (.ok ports) = .failure (.invalidPorts (.noneDeclared pod)) := by
  simp [ofPorts, h]

theorem Verdict.ofPorts_of_some {pod : ResourcePath} {ports : PodPorts}
    (h : tcpCandidates ports ≠ []) :
    ofPorts pod (.ok ports) = .selection pod (tcpCandidates ports) := by
  cases hports : tcpCandidates ports with
  | nil => exact absurd hports h
  | cons => simp [ofPorts, hports]

namespace Target

variable {target : Target} {cluster : Cluster} {registry : Registry} {pod : ResourcePath}

/-- What a target comes to, with the requests that are made on the way: it is resolved, and the
ports of its pod are read, one after the other, unless the pod has live sessions. -/
def verdict (cluster : Cluster) (registry : Registry) (target : Target) : Verdict × List Request :=
  match cluster.ask target.resolve with
  | (.error e, asked) => (.failure e, asked)
  | (.ok pod, asked) =>
    match registry.allForPod pod with
    | [] =>
      let (ports, asked') := cluster.ask (fetchPodPorts pod)
      (.ofPorts pod ports, asked ++ asked')
    | sessions => (.deletion pod sessions, asked)

theorem verdict_of_error (registry : Registry) {e : Failure}
    (h : (cluster.ask target.resolve).1 = .error e) :
    target.verdict cluster registry = (.failure e, (cluster.ask target.resolve).2) := by
  unfold verdict
  split <;> simp_all

theorem verdict_of_live (h : (cluster.ask target.resolve).1 = .ok pod)
    (hlive : registry.allForPod pod ≠ []) :
    target.verdict cluster registry =
      (.deletion pod (registry.allForPod pod), (cluster.ask target.resolve).2) := by
  unfold verdict
  split <;> simp_all

theorem verdict_of_free (h : (cluster.ask target.resolve).1 = .ok pod)
    (hfree : registry.allForPod pod = []) :
    target.verdict cluster registry =
      (.ofPorts pod (cluster.ask (fetchPodPorts pod)).1,
        (cluster.ask target.resolve).2 ++ (cluster.ask (fetchPodPorts pod)).2) := by
  unfold verdict
  split <;> simp_all

/-- A target that needs no question to the cluster asks none. -/
theorem ask_resolve_of_known (cluster : Cluster) {result : Except Failure ResourcePath}
    (h : target.known? = some result) : cluster.ask target.resolve = (result, []) := by
  unfold known? at h
  split at h
  · rename_i e hroute
    cases h
    simp [resolve, hroute]
    rfl
  · rename_i hroute
    cases h
    simp [resolve, hroute]
    rfl
  · cases h

theorem ask_resolve_of_route (cluster : Cluster) {route : Route}
    (h : Route.ofKind target.kind = .ok route) :
    cluster.ask target.resolve = cluster.ask (route.resolve target.path) := by
  simp only [resolve, h]
  rfl

end Target

/-- The requests that a job of a flow makes. -/
def Job.asks (cluster : Cluster) : Job → List Request
  | .resolve _ _ route path => (cluster.ask (route.resolve path)).2
  | .readPorts _ _ pod => (cluster.ask (fetchPodPorts pod)).2
  | .checkPorts .. => []

namespace Switchboard

variable {sb : Switchboard} {c : ControllerId} {m : Move} {g : Nat}

/-! ## The requests of a flow -/

/-- Whether a move works for a flow: it begins it, ends one of its jobs, or applies one of its
tasks. -/
def worksFor (sb : Switchboard) (c : ControllerId) (g : Nat) : Move → Bool
  | .trigger c' _ => c' = c && (sb.dialogue c).any fun d => d.generation + 1 = g
  | .finishJob place => sb.jobs[place]?.bind Job.flow? = some (c, g)
  | .applyTask c' => c' = c && (sb.waiting c).head?.bind Task.generation? = some g
  | _ => false

/-- The requests that a move makes for a flow. -/
def askedBy (sb : Switchboard) (c : ControllerId) (g : Nat) (m : Move) : List Request :=
  if sb.worksFor c g m then (sb.step m).requests.drop sb.requests.length else []

def asked (sb : Switchboard) (c : ControllerId) (g : Nat) : List Move → List Request
  | [] => []
  | m :: moves => sb.askedBy c g m ++ (sb.step m).asked c g moves

theorem requests_abandon (sb : Switchboard) (c : ControllerId) (g : Nat) (e : Failure) :
    (sb.abandon c g e).requests = sb.requests := by
  unfold abandon
  split <;> rfl

theorem requests_podFound (sb : Switchboard) (c : ControllerId) (g : Nat) (pod : ResourcePath) :
    (sb.podFound c g pod).requests = sb.requests := by
  unfold podFound askDeletion
  split
  · split <;> rfl
  · split
    · rfl
    · split <;> rfl

theorem requests_resolved (sb : Switchboard) (c : ControllerId) (g : Nat)
    (result : Except Failure ResourcePath) : (sb.resolved c g result).requests = sb.requests := by
  cases result with
  | error e => exact requests_abandon sb c g e
  | ok pod => exact requests_podFound sb c g pod

theorem requests_portsRead (sb : Switchboard) (c : ControllerId) (g : Nat) (pod : ResourcePath)
    (result : Except Failure PodPorts) : (sb.portsRead c g pod result).requests = sb.requests := by
  unfold portsRead offer
  split
  · exact requests_abandon ..
  · split
    · exact requests_abandon ..
    · split
      · rfl
      · split <;> rfl

theorem requests_trigger (sb : Switchboard) (c : ControllerId) (target : Target) :
    (sb.trigger c target).requests = sb.requests := by
  unfold trigger
  split
  · rfl
  · dsimp only
    split
    · exact requests_abandon ..
    · exact requests_podFound ..
    · rfl

theorem askedBy_of_same (h : (sb.step m).requests = sb.requests) : sb.askedBy c g m = [] := by
  unfold askedBy
  split
  · rw [h, List.drop_length]
  · rfl

/-- The end of a job makes the requests of the job. -/
theorem askedBy_finishJob {place : Nat} {job : Job} (hplace : sb.jobs[place]? = some job)
    (hflow : job.flow? = some (c, g)) :
    sb.askedBy c g (.finishJob place) = job.asks sb.surroundings.cluster := by
  have hworks : sb.worksFor c g (.finishJob place) = true := by simp [worksFor, hplace, hflow]
  rw [askedBy, if_pos hworks, step, finishJob, hplace]
  cases job with
  | checkPorts => cases hflow
  | resolve | readPorts => exact List.drop_left ..

/-- No other move asks for the flow. -/
theorem askedBy_of_no_job
    (h : ∀ place job, m = .finishJob place → sb.jobs[place]? = some job →
      job.flow? ≠ some (c, g)) : sb.askedBy c g m = [] := by
  cases m with
  | trigger c' target => exact askedBy_of_same (requests_trigger sb c' target)
  | finishJob place =>
    refine if_neg fun hworks => ?_
    obtain ⟨job, hplace, hflow⟩ := Option.bind_eq_some_iff.1 (of_decide_eq_true hworks)
    exact h place job rfl hplace hflow
  | applyTask c' =>
    cases hwaiting : sb.waiting c' with
    | nil => exact askedBy_of_same (by rw [step, applyTask_of_nil hwaiting])
    | cons task rest =>
      cases task with
      | resolved generation result =>
        refine askedBy_of_same ?_
        rw [step, applyTask_of_cons hwaiting, perform, requests_resolved]
        rfl
      | portsRead generation pod result =>
        refine askedBy_of_same ?_
        rw [step, applyTask_of_cons hwaiting, perform, requests_portsRead]
        rfl
      | checked | activate | retire =>
        refine if_neg fun hworks => ?_
        simp only [worksFor, Bool.and_eq_true, decide_eq_true_eq] at hworks
        obtain ⟨rfl, hworks⟩ := hworks
        simp [hwaiting, Task.generation?] at hworks
  | _ => rfl

end Switchboard

/-! ## The course of a flow -/

namespace Dialogue

variable {d d' : Dialogue} {c : ControllerId} {g : Nat}

/-- What is left to be done for a flow, and what was shown of it. -/
structure Holds (d : Dialogue) (c : ControllerId) (g : Nat) (jobs : List Job) (errands : List Task)
    (shown : List Effect) : Prop where
  jobs : d.jobsOf c g = jobs
  errands : d.errandsOf g = errands
  shown : d.shown g = shown

/-- Of a flow one verdict was shown and nothing else: one failure, or one dialog. -/
def Shows (d : Dialogue) (g : Nat) (address : String) : Verdict → Prop
  | .failure e => d.shown g = [.error e]
  | .deletion pod sessions => ∃ n dialog, d.shown g = [.showDeletion n] ∧
      d.deletions[n]? = some dialog ∧
      dialog.generation = g ∧ dialog.pod = pod ∧ dialog.sessions = sessions
  | .selection pod candidates => ∃ n dialog, d.shown g = [.showSelection n] ∧
      d.selections[n]? = some dialog ∧
      dialog.generation = g ∧ dialog.pod = pod ∧ dialog.candidates = candidates ∧
      dialog.address = address

variable {address : String} {verdict : Verdict}

theorem Shows.kept (h : d.Shows g address verdict) (hshown : d'.shown g = d.shown g)
    (hkeeps : d.Keeps d') : d'.Shows g address verdict := by
  cases verdict with
  | failure e => exact hshown.trans h
  | deletion pod sessions =>
    obtain ⟨n, dialog, hn, hdialog, hsame⟩ := h
    obtain ⟨answered, hdialog'⟩ := hkeeps.deletion n dialog hdialog
    exact ⟨n, _, hshown.trans hn, hdialog', hsame⟩
  | selection pod candidates =>
    obtain ⟨n, dialog, hn, hdialog, hsame⟩ := h
    obtain ⟨answered, hdialog'⟩ := hkeeps.selection n dialog hdialog
    exact ⟨n, _, hshown.trans hn, hdialog', hsame⟩

theorem holds_advance (d : Dialogue) (g' : Nat) (stage : Stage) (g : Nat) :
    (d.advance g' stage).Holds c g (d.jobsOf c g) (d.errandsOf g) (d.shown g) := by
  unfold advance
  split <;> exact ⟨rfl, rfl, rfl⟩

/-- Where a flow for a target stands, as long as it is the current one. `Learnt` tells with which
registry the interface came to which pod. -/
inductive Progress (cluster : Cluster) (target : Target) (c : ControllerId) (g : Nat)
    (address : String) (Learnt : ResourcePath → Registry → Prop) (d : Dialogue)
    (asked : List Request) : Prop
  /-- The target is being resolved. -/
  | resolving {route : Route} (hroute : Route.ofKind target.kind = .ok route)
      (hholds : d.Holds c g [.resolve c g route target.path] [] []) (hasked : asked = [])
  /-- What it led to waits for the interface. -/
  | resolved (hholds : d.Holds c g [] [.resolved g (cluster.ask target.resolve).1] [])
      (hasked : asked = (cluster.ask target.resolve).2)
  /-- The ports of its pod are being read. -/
  | reading {pod : ResourcePath} {registry : Registry}
      (hpod : (cluster.ask target.resolve).1 = .ok pod) (hlearnt : Learnt pod registry)
      (hfree : registry.allForPod pod = []) (hholds : d.Holds c g [.readPorts c g pod] [] [])
      (hasked : asked = (cluster.ask target.resolve).2)
  /-- They wait for the interface. -/
  | read {pod : ResourcePath} {registry : Registry}
      (hpod : (cluster.ask target.resolve).1 = .ok pod) (hlearnt : Learnt pod registry)
      (hfree : registry.allForPod pod = [])
      (hholds : d.Holds c g [] [.portsRead g pod (cluster.ask (fetchPodPorts pod)).1] [])
      (hasked : asked =
        (cluster.ask target.resolve).2 ++ (cluster.ask (fetchPodPorts pod)).2)
  | settled {registry : Registry}
      (hlearnt : ∀ pod, (cluster.ask target.resolve).1 = .ok pod → Learnt pod registry)
      (hjobs : d.jobsOf c g = []) (herrands : d.errandsOf g = [])
      (hshows : d.Shows g address (target.verdict cluster registry).1)
      (hasked : asked = (target.verdict cluster registry).2)

variable {cluster : Cluster} {target : Target} {Learnt Learnt' : ResourcePath → Registry → Prop}
  {asked : List Request} {registry : Registry}

/-- A change that leaves the flow alone. -/
theorem Progress.kept (h : Progress cluster target c g address Learnt d asked)
    (hlearn : ∀ pod registry, Learnt pod registry → Learnt' pod registry)
    (hsame : d'.Holds c g (d.jobsOf c g) (d.errandsOf g) (d.shown g)) (hkeeps : d.Keeps d') :
    Progress cluster target c g address Learnt' d' asked := by
  have hmoved {jobs errands shown} (h : d.Holds c g jobs errands shown) :
      d'.Holds c g jobs errands shown :=
    ⟨hsame.jobs.trans h.jobs, hsame.errands.trans h.errands, hsame.shown.trans h.shown⟩
  cases h with
  | resolving hroute hholds hasked => exact .resolving hroute (hmoved hholds) hasked
  | resolved hholds hasked => exact .resolved (hmoved hholds) hasked
  | reading hpod hlearnt hfree hholds hasked =>
    exact .reading hpod (hlearn _ _ hlearnt) hfree (hmoved hholds) hasked
  | read hpod hlearnt hfree hholds hasked =>
    exact .read hpod (hlearn _ _ hlearnt) hfree (hmoved hholds) hasked
  | settled hlearnt hjobs herrands hshows hasked =>
    exact .settled (fun pod hpod => hlearn pod _ (hlearnt pod hpod)) (hsame.jobs.trans hjobs)
      (hsame.errands.trans herrands) (hshows.kept hsame.shown hkeeps) hasked

/-! ### What the pieces show -/

theorem shown_tell_outcome {effect : Effect} (h : effect.isOutcome = true) (d : Dialogue)
    (c : ControllerId) (g : Nat) :
    (d.tell [⟨c, .flow g, effect⟩]).shown g = d.shown g ++ [effect] := by
  simp [shown_tell, h]

/-- A flow of which nothing was shown shows one thing now. -/
theorem shown_tell_first {effect : Effect} (h : effect.isOutcome = true)
    (hnothing : d.shown g = []) : (d.tell [⟨c, .flow g, effect⟩]).shown g = [effect] := by
  rw [shown_tell_outcome h, hnothing, List.nil_append]

theorem shows_fail (hnothing : d.shown d.generation = []) (e : Failure) :
    (d.fail c e).Shows d.generation address (.failure e) :=
  shown_tell_first (d := { d with stage := .idle }) rfl hnothing

theorem shows_ask (hnothing : d.shown d.generation = []) (pod : ResourcePath)
    (sessions : List SessionId) (lines : List String) :
    (d.ask c pod sessions lines).Shows d.generation address (.deletion pod sessions) := by
  let dialog : DeletionDialog := { generation := d.generation, pod, sessions, lines }
  exact ⟨d.deletions.length, dialog, shown_tell_first rfl hnothing, List.getElem?_concat_length,
    rfl, rfl, rfl⟩

theorem shows_offer (hnothing : d.shown d.generation = []) (pod : ResourcePath)
    (candidates : List Candidate) :
    (d.offer c pod candidates).Shows d.generation d.address (.selection pod candidates) := by
  let dialog : SelectionDialog :=
    { generation := d.generation, pod, candidates, address := d.address }
  exact ⟨d.selections.length, dialog, shown_tell_first rfl hnothing, List.getElem?_concat_length,
    rfl, rfl, rfl, rfl⟩

/-! ### How a flow goes on -/

/-- The interface comes to what the target led to. -/
theorem progress_leads (hholds : d.Holds c d.generation [] [] [])
    {result : Except Failure ResourcePath} (hresult : (cluster.ask target.resolve).1 = result)
    (hlearnt : ∀ pod, result = .ok pod → Learnt pod registry)
    (hleads : Leads registry c d result d') :
    Progress cluster target c d.generation address Learnt d' (cluster.ask target.resolve).2 := by
  have hpods : ∀ pod, (cluster.ask target.resolve).1 = .ok pod → Learnt pod registry :=
    fun pod hpod => hlearnt pod (hresult.symm.trans hpod)
  cases hleads with
  | failed =>
    have hverdict := Target.verdict_of_error registry hresult
    refine .settled hpods hholds.jobs hholds.errands ?_ (by rw [hverdict])
    rw [hverdict]
    exact shows_fail hholds.shown _
  | asked hlive =>
    have hverdict := Target.verdict_of_live hresult hlive
    refine .settled hpods hholds.jobs hholds.errands ?_ (by rw [hverdict])
    rw [hverdict]
    exact shows_ask hholds.shown _ _ _
  | reading hfree =>
    refine .reading hresult (hlearnt _ rfl) hfree ⟨?_, hholds.errands, hholds.shown⟩ rfl
    refine (jobsOf_spawn rfl _).trans ?_
    exact congrArg (· ++ _) hholds.jobs

/-- The interface comes to the ports of the pod. -/
theorem progress_yields {pod : ResourcePath} (hholds : d.Holds c d.generation [] [] [])
    (hpod : (cluster.ask target.resolve).1 = .ok pod) (hlearnt : Learnt pod registry)
    (hfree : registry.allForPod pod = [])
    (hyields : Yields c d pod (cluster.ask (fetchPodPorts pod)).1 d') :
    Progress cluster target c d.generation d.address Learnt d'
      ((cluster.ask target.resolve).2 ++ (cluster.ask (fetchPodPorts pod)).2) := by
  have hverdict := Target.verdict_of_free hpod hfree
  have hpods : ∀ pod', (cluster.ask target.resolve).1 = .ok pod' → Learnt pod' registry := by
    intro pod' hpod'
    cases hpod.symm.trans hpod'
    exact hlearnt
  generalize hports : (cluster.ask (fetchPodPorts pod)).1 = ports at hyields hverdict
  cases hyields with
  | failed =>
    refine .settled hpods hholds.jobs hholds.errands ?_ (by rw [hverdict])
    rw [hverdict]
    exact shows_fail hholds.shown _
  | undeclared hnone =>
    refine .settled hpods hholds.jobs hholds.errands ?_ (by rw [hverdict])
    rw [hverdict, Verdict.ofPorts_of_none hnone]
    exact shows_fail hholds.shown _
  | offered hsome =>
    refine .settled hpods hholds.jobs hholds.errands ?_ (by rw [hverdict])
    rw [hverdict, Verdict.ofPorts_of_some hsome]
    exact shows_offer hholds.shown _ _

end Dialogue

namespace Switchboard

open Dialogue

variable {sb : Switchboard} {c : ControllerId} {m : Move} {g : Nat} {d d' : Dialogue}
  {cluster : Cluster} {target : Target} {address : String} {asked : List Request}
  {Learnt Learnt' : ResourcePath → Registry → Prop}

/-- At a move, the interface comes to the pod that the target of a flow led to. -/
inductive Learns (sb : Switchboard) (c : ControllerId) (g : Nat) (pod : ResourcePath) : Move → Prop
  | begun {d : Dialogue} {target : Target} (hd : sb.dialogue c = some d)
      (hgen : d.generation + 1 = g) (hknown : target.known? = some (.ok pod)) :
      Learns sb c g pod (.trigger c target)
  | applied {rest : List Task} (hwaiting : sb.waiting c = .resolved g (.ok pod) :: rest) :
      Learns sb c g pod (.applyTask c)

/-- The one job of a flow. -/
theorem eq_of_append_cons_eq_singleton {α : Type} {as bs : List α} {a b : α}
    (h : as ++ a :: bs = [b]) : as = [] ∧ a = b ∧ bs = [] := by
  cases as with
  | nil => simpa using h
  | cons => simp at h

/-- A job of the flow ends. -/
theorem progress_finished {job : Job} {before after : List Job} {task : Task}
    (h : Progress cluster target c g address Learnt d asked) (hopen : d.isOpen = true)
    (hflow : job.flow? = some (c, g)) (hjobs : d.jobs = before ++ job :: after)
    (htask : job.report? cluster = some task) :
    Progress cluster target c g address Learnt
      (Dialogue.post { d with jobs := before ++ after } task)
      (asked ++ job.asks cluster) := by
  let mine (jobs : List Job) := jobs.filter fun job => job.flow? = some (c, g)
  have hwhole : d.jobsOf c g = mine before ++ job :: mine after := by
    simp [jobsOf, mine, hjobs, hflow]
  have hrest : (Dialogue.post { d with jobs := before ++ after } task).jobsOf c g =
      mine before ++ mine after := by
    rw [jobsOf_post]
    simp [jobsOf, mine]
  have hposted := errandsOf_post (d := { d with jobs := before ++ after }) hopen
    (Job.generation?_of_report? hflow htask)
  have hidle (hnone : d.jobsOf c g = []) : False := by simp [hwhole] at hnone
  cases h with
  | resolving hroute hholds hasked =>
    obtain ⟨hbefore, rfl, hafter⟩ := eq_of_append_cons_eq_singleton (hwhole.symm.trans hholds.jobs)
    cases htask
    have hsame := Target.ask_resolve_of_route cluster hroute
    refine .resolved ⟨?_, ?_, (shown_post ..).trans hholds.shown⟩ ?_
    · rw [hrest, hbefore, hafter, List.append_nil]
    · rw [hsame]
      exact hposted.trans (congrArg (· ++ _) hholds.errands)
    · rw [hasked, List.nil_append, Job.asks, hsame]
  | reading hpod hlearnt hfree hholds hasked =>
    obtain ⟨hbefore, rfl, hafter⟩ := eq_of_append_cons_eq_singleton (hwhole.symm.trans hholds.jobs)
    cases htask
    refine .read hpod hlearnt hfree ⟨?_, ?_, (shown_post ..).trans hholds.shown⟩ ?_
    · rw [hrest, hbefore, hafter, List.append_nil]
    · exact hposted.trans (congrArg (· ++ _) hholds.errands)
    · rw [hasked, Job.asks]
  | resolved hholds | read _ _ _ hholds => exact (hidle hholds.jobs).elim
  | settled _ hnone => exact (hidle hnone).elim

theorem errandsOf_cons {task : Task} {errands : List Task} (herrands : d.errands = task :: errands)
    (h : task.generation? = some g) : d.errandsOf g = task :: { d with errands }.errandsOf g := by
  simp [errandsOf, herrands, h]

theorem progress_turn (hd : sb.dialogue c = some d)
    (h : Progress cluster target c g address Learnt d asked) (hturn : sb.FlowTurn c d m d')
    (hgen : d.generation = g) (hgen' : d'.generation = g) (hopen : d'.isOpen = true)
    (hcluster : d.cluster = cluster) (haddress : d.address = address)
    (hfixed : ∀ cluster, m ≠ .setCluster cluster)
    (hlearn : ∀ pod registry, Learnt pod registry → Learnt' pod registry)
    (hnew : ∀ pod, sb.Learns c g pod m → Learnt' pod sb.registry) :
    Progress cluster target c g address Learnt' d' (asked ++ sb.askedBy c g m) := by
  subst hgen hcluster haddress
  have hkeeps := keeps_turn hturn
  have hopen' : d.isOpen = true :=
    (congrArg Setting.isOpen (setting_turn_of_open hturn hfixed hopen)).symm.trans hopen
  have hquiet (hm : ∀ place, m ≠ .finishJob place) : sb.askedBy c d.generation m = [] :=
    askedBy_of_no_job fun place _ h => absurd h (hm place)
  cases hturn with
  | rest hbegin hjob =>
    rw [askedBy_of_no_job fun place job hm hplace => hjob place job _ hm hplace, List.append_nil]
    exact h.kept hlearn ⟨rfl, rfl, rfl⟩ hkeeps
  | recast => exact absurd rfl (hfixed _)
  | shut => simp [shut] at hopen
  | known hknown hleads => exact absurd (hleads.generation_eq.symm.trans hgen') (Nat.succ_ne_self _)
  | sought => exact absurd hgen' (Nat.succ_ne_self _)
  | @finished place g' job before after task hplace hflow hjobs htask =>
    by_cases hg : g' = d.generation
    · subst hg
      rw [askedBy_finishJob hplace hflow, cluster_of_dialogue hd]
      exact (progress_finished h hopen' hflow hjobs htask).kept hlearn ⟨rfl, rfl, rfl⟩
        (.of_eq rfl rfl)
    · have hother : job.flow? ≠ some (c, d.generation) := by simpa [hflow] using hg
      have hnone : sb.askedBy c d.generation (.finishJob place) = [] := by
        refine askedBy_of_no_job ?_
        rintro place' job' ⟨⟩ hplace'
        cases hplace.symm.trans hplace'
        exact hother
      rw [hnone, List.append_nil]
      refine h.kept hlearn ⟨?_, ?_, shown_post ..⟩ hkeeps
      · rw [jobsOf_post]
        simp [jobsOf, hjobs, hother]
      · refine errandsOf_post_of_ne ?_
        rw [Job.generation?_of_report? hflow htask]
        simpa using hg
  | stale hwaiting herrands htask hstale =>
    rw [hquiet (by simp), List.append_nil]
    refine h.kept hlearn ⟨rfl, ?_, rfl⟩ (.of_eq rfl rfl)
    simp [errandsOf, herrands, htask, Ne.symm hstale]
  | @resolved result rest errands d' hwaiting herrands hleads =>
    have hfirst := errandsOf_cons herrands rfl
    rw [hquiet (by simp), List.append_nil]
    cases h with
    | resolved hholds hasked =>
      obtain ⟨hresult, hrest⟩ := List.cons.inj (hfirst.symm.trans hholds.errands)
      cases hresult
      rw [hasked]
      refine progress_leads (d := { d with errands }) ⟨hholds.jobs, hrest, hholds.shown⟩ rfl
        (fun pod hpod => hnew pod ?_) hleads
      exact .applied (hpod ▸ hwaiting)
    | resolving _ hholds | reading _ _ _ hholds =>
      cases hfirst.symm.trans hholds.errands
    | read _ _ _ hholds => cases hfirst.symm.trans hholds.errands
    | settled _ _ hnone => cases hfirst.symm.trans hnone
  | @portsRead pod result rest errands d' hwaiting herrands hyields =>
    have hfirst := errandsOf_cons herrands rfl
    rw [hquiet (by simp), List.append_nil]
    cases h with
    | read hpod hlearnt hfree hholds hasked =>
      obtain ⟨hresult, hrest⟩ := List.cons.inj (hfirst.symm.trans hholds.errands)
      cases hresult
      rw [hasked]
      exact progress_yields (d := { d with errands }) ⟨hholds.jobs, hrest, hholds.shown⟩ hpod
        (hlearn _ _ hlearnt) hfree hyields
    | resolving _ hholds | reading _ _ _ hholds | resolved hholds =>
      cases hfirst.symm.trans hholds.errands
    | settled _ _ hnone => cases hfirst.symm.trans hnone
  | dismissed hactivates =>
    rw [hquiet (by simp), List.append_nil]
    exact h.kept hlearn ⟨rfl, rfl, shown_tell_of_quiet (by simp [Effect.isOutcome]) ..⟩
      (.of_eq rfl rfl)
  | confirmedSelection | cancelledSelection =>
    rw [hquiet (by simp), List.append_nil]
    exact h.kept hlearn (holds_advance (d.answerSelection _) ..) hkeeps
  | cancelledDeletion =>
    rw [hquiet (by simp), List.append_nil]
    exact h.kept hlearn (holds_advance (d.answerDeletion _) ..) hkeeps
  | @confirmedDeletion n dialog =>
    rw [hquiet (by simp), List.append_nil]
    have hclosed := holds_advance (c := c) (d.answerDeletion n) dialog.generation .idle d.generation
    refine h.kept hlearn ⟨hclosed.jobs, hclosed.errands, ?_⟩ hkeeps
    refine (shown_tell_of_quiet ?_ ..).trans hclosed.shown
    split <;> simp [Effect.isOutcome]

/-! ## Runs -/

/-- Along a run, the interface comes to the pod of a flow with a registry. -/
def LearnsAlong (sb : Switchboard) (c : ControllerId) (g : Nat) (moves : List Move)
    (pod : ResourcePath) (registry : Registry) : Prop :=
  ∃ before m after, moves = before ++ m :: after ∧ (sb.run before).Learns c g pod m ∧
    registry = (sb.run before).registry

theorem asked_concat (sb : Switchboard) (c : ControllerId) (g : Nat) (moves : List Move)
    (m : Move) :
    sb.asked c g (moves ++ [m]) = sb.asked c g moves ++ (sb.run moves).askedBy c g m := by
  induction moves generalizing sb with
  | nil => simp [asked, run]
  | cons m' moves ih =>
    simp only [List.cons_append, Switchboard.asked, ih, List.append_assoc]
    rfl

/-- A flow that begins. -/
theorem progress_trigger (hd : sb.dialogue c = some d) (hbound : d.Bounded)
    (hturn : sb.FlowTurn c d (.trigger c target) d') :
    Progress d.cluster target c (d.generation + 1) d.address
      (sb.LearnsAlong c (d.generation + 1) [.trigger c target]) d'
      (sb.asked c (d.generation + 1) [.trigger c target]) := by
  have hasked : sb.asked c (d.generation + 1) [.trigger c target] = [] := by
    have hsame : (sb.step (.trigger c target)).requests = sb.requests :=
      requests_trigger sb c target
    simp [Switchboard.asked, askedBy_of_same hsame]
  have hholds : d.begin.Holds c (d.generation + 1) [] [] [] :=
    ⟨jobsOf_begin hbound, errandsOf_begin hbound, shown_begin hbound⟩
  cases hturn with
  | rest hbegin => exact absurd rfl (hbegin _)
  | known hknown hleads =>
    have hask := Target.ask_resolve_of_known d.cluster hknown
    have hprogress : Progress d.cluster target c (d.generation + 1) d.address
        (sb.LearnsAlong c (d.generation + 1) [.trigger c target]) d'
        (d.cluster.ask target.resolve).2 :=
      progress_leads hholds (congrArg Prod.fst hask)
        (fun pod hpod => ⟨[], _, [], rfl, .begun hd rfl (hpod ▸ hknown), rfl⟩) hleads
    rw [hasked]
    rwa [hask] at hprogress
  | sought hroute hunknown =>
    refine .resolving hroute ⟨?_, hholds.errands, hholds.shown⟩ hasked
    refine (jobsOf_spawn rfl _).trans ?_
    exact congrArg (· ++ _) hholds.jobs

theorem progress_run (h : sb.Sound) (hd : sb.dialogue c = some d) (hbound : d.Bounded)
    {after : List Move} (hfixed : ∀ cluster, .setCluster cluster ∉ after)
    (hd' : (sb.run (.trigger c target :: after)).dialogue c = some d')
    (hgen : d'.generation = d.generation + 1) (hopen : d'.isOpen = true) :
    Progress d.cluster target c (d.generation + 1) d.address
        (sb.LearnsAlong c (d.generation + 1) (.trigger c target :: after)) d'
        (sb.asked c (d.generation + 1) (.trigger c target :: after)) ∧
      d'.setting = d.setting := by
  induction after using List.reverseRecOn generalizing d' with
  | nil =>
    obtain ⟨d₀, hd₀, hturn⟩ := exists_flowTurn h.wellFormed (m := .trigger c target) hd'
    cases hd.symm.trans hd₀
    exact ⟨progress_trigger hd hbound hturn, setting_turn_of_open hturn nofun hopen⟩
  | append_singleton after m ih =>
    rw [← List.cons_append] at hd' ⊢
    rw [run_concat] at hd'
    rw [asked_concat]
    have hsound := h.run (.trigger c target :: after)
    obtain ⟨d₁, hd₁, hturn⟩ := exists_flowTurn hsound.wellFormed hd'
    obtain ⟨d₂, hd₂, hbegun⟩ := flowTurn_step h.wellFormed hd (.trigger c target)
    have hlast : ∀ cluster, m ≠ .setCluster cluster := by
      rintro cluster rfl
      exact hfixed cluster (by simp)
    have hkept := setting_turn_of_open hturn hlast hopen
    have hgen₁ : d₁.generation = d.generation + 1 := by
      refine Nat.le_antisymm (hgen ▸ generation_turn hturn) ?_
      exact generation_trigger hbegun ▸ generation_run (h.step _) hd₂ after hd₁
    have hopen₁ : d₁.isOpen = true := (congrArg Setting.isOpen hkept).symm.trans hopen
    obtain ⟨hprogress, hsetting⟩ := ih (fun cluster hmem => hfixed cluster (by simp [hmem])) hd₁
      hgen₁ hopen₁
    refine ⟨?_, hkept.trans hsetting⟩
    refine progress_turn hd₁ hprogress hturn hgen₁ hgen hopen (congrArg Setting.cluster hsetting)
      (congrArg Setting.address hsetting) hlast ?_ ?_
    · rintro pod registry ⟨before, m', after', hsplit, hlearns, hregistry⟩
      exact ⟨before, m', after' ++ [m], by simp [hsplit], hlearns, hregistry⟩
    · intro pod hlearns
      exact ⟨.trigger c target :: after, m, [], rfl, hlearns, rfl⟩

/-- What a trigger leads to. If its flow is the current one until nothing is left to be done for it,
and the cluster and the interface stay what they are, then the user was shown the verdict on the
target that the direct calls give, with the registry at the time when the interface came to the pod:
one failure or one dialog, and nothing else of this flow. The requests made for it are those of the
direct calls, so there are none for a target of an unsupported kind, and the ports of a pod with
live sessions are not read. From a newer trigger on nothing more is shown of the flow. -/
theorem trigger_verdict (surroundings : Surroundings) (controllers : List (String × Nat))
    (before after : List Move) (c : ControllerId) (target : Target) (d : Dialogue)
    (hd : ((initial surroundings controllers).run before).dialogue c = some d) :
    let sb := (initial surroundings controllers).run before
    let moves := Move.trigger c target :: after
    let g := d.generation + 1
    (∀ d', (sb.run moves).dialogue c = some d' → (∀ cluster, .setCluster cluster ∉ after) →
      d'.generation = g → d'.isOpen = true → d'.jobsOf c g = [] → d'.errandsOf g = [] →
      ∃ address registry, controllers[c]?.map Prod.fst = some address ∧
        (∀ pod, (d.cluster.ask target.resolve).1 = .ok pod →
          sb.LearnsAlong c g moves pod registry) ∧
        d'.Shows g address (target.verdict d.cluster registry).1 ∧
        sb.asked c g moves = (target.verdict d.cluster registry).2 ∧
        ∀ e, Route.ofKind target.kind = .error e →
          target.verdict d.cluster registry = (.failure e, [])) ∧
    ∀ target' later, ∃ d' d'', (sb.run moves).dialogue c = some d' ∧
      (sb.run (moves ++ .trigger c target' :: later)).dialogue c = some d'' ∧
      d''.shown g = d'.shown g := by
  intro sb moves g
  have hsound : sb.Sound := (sound_initial surroundings controllers).run before
  refine ⟨fun d' hd' hfixed hgen hopen hjobs herrands => ?_, fun target' later => ?_⟩
  · obtain ⟨hprogress, -⟩ := progress_run hsound hd (bounded_run hd) hfixed hd' hgen hopen
    cases hprogress with
    | resolving _ hholds | reading _ _ _ hholds => cases hjobs.symm.trans hholds.jobs
    | resolved hholds | read _ _ _ hholds => cases herrands.symm.trans hholds.errands
    | @settled registry hlearnt _ _ hshows hasked =>
      refine ⟨d.address, registry, address_run hd, hlearnt, hshows, hasked, fun e he => ?_⟩
      have hknown : target.known? = some (.error e) := by simp [Target.known?, he]
      have hask := Target.ask_resolve_of_known d.cluster hknown
      rw [Target.verdict_of_error registry (congrArg Prod.fst hask), hask]
  · obtain ⟨d₁, hd₁, hbegun⟩ := flowTurn_step hsound.wellFormed hd (.trigger c target)
    obtain ⟨d', hd'⟩ := exists_dialogue_run (hsound.step _) hd₁ after
    have hg := generation_run (hsound.step _) hd₁ after hd'
    rw [generation_trigger hbegun] at hg
    obtain ⟨d₂, hd₂, hnewer⟩ := flowTurn_step (hsound.run moves).wellFormed hd' (.trigger c target')
    have hlast : g < d₂.generation := by
      rw [generation_trigger hnewer]
      exact Nat.lt_succ_of_le hg
    obtain ⟨d'', hd''⟩ := exists_dialogue_run ((hsound.run moves).step _) hd₂ later
    have hsame := shown_run_of_superseded ((hsound.run moves).step _) hd₂ hlast later hd''
    refine ⟨d', d'', hd', ?_, hsame.trans (shown_trigger hg hnewer)⟩
    rw [run_append]
    exact hd''

/-- A pod without sessions is triggered, and its ports cannot be read. -/
def unreadPorts : List Move :=
  [.finishJob 0, .applyTask 0]

theorem verdict_of_unreadPorts :
    let sb := initial { cluster := .empty } [("127.0.0.1", 30)]
    let moves := Move.trigger 0 ⟨.pod, webPod⟩ :: unreadPorts
    ∃ d registry, (sb.run moves).dialogue 0 = some d ∧
      d.Shows 1 "127.0.0.1" (Target.verdict .empty registry ⟨.pod, webPod⟩).1 ∧
      sb.asked 0 1 moves = (Target.verdict .empty registry ⟨.pod, webPod⟩).2 := by
  intro sb moves
  have hverdict := (trigger_verdict { cluster := .empty } [("127.0.0.1", 30)] [] unreadPorts 0
    ⟨.pod, webPod⟩ _ rfl).1 _ rfl (by simp [unreadPorts]) rfl rfl rfl rfl
  obtain ⟨address, registry, haddress, -, hshows, hasked, -⟩ := hverdict
  cases haddress
  exact ⟨_, registry, rfl, hshows, hasked⟩

end Switchboard

end PodTunnels
