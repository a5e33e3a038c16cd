import PodTunnels.Proofs.Objects
import PodTunnels.Resolution

/-!
# The pod that a workload or a service leads to

What comes of an inquiry is said together with the requests that it makes (`Inquiry.ComesTo`), and
put together along its binds. A workload or a service leads to a pod through the labels of its object
(`Selects`) and the pods that these select (`Picks`). There is one case for everything that can be
wrong on the way (`Resolves`), and one of the cases applies (`exists_resolves`); each of them
determines both the outcome and the requests (`Resolves.comesTo`), so a resolution is just what the
cases say (`resolve_iff`).
-/

namespace PodTunnels

variable {α β : Type} {c : Cluster}

/-! ## Inquiries -/

instance : LawfulMonad Query :=
  LawfulMonad.mk' Query
    (fun q => by
      change q.bind .done = q
      induction q with
      | done a => rfl
      | fetch kind path next ih => exact congrArg _ (funext ih)
      | listPods ns selector next ih => exact congrArg _ (funext ih))
    (fun _ _ => rfl)
    (fun q f g => by
      change (q.bind f).bind g = q.bind fun a => (f a).bind g
      induction q with
      | done a => rfl
      | fetch kind path next ih => exact congrArg _ (funext ih)
      | listPods ns selector next ih => exact congrArg _ (funext ih))

theorem Query.run_bind {σ : Type} (access : Access σ) (q : Query α) (f : α → Query β) (s : σ) :
    Query.run access (q >>= f) s =
      Query.run access (f (Query.run access q s).1) (Query.run access q s).2 := by
  change Query.run access (q.bind f) s = _
  induction q generalizing s with
  | done a => rfl
  | fetch kind path next ih => exact ih _ _
  | listPods ns selector next ih => exact ih _ _

namespace Inquiry

/-- An inquiry comes to a result through some requests, whatever was asked before. -/
def ComesTo (c : Cluster) (q : Inquiry α) (result : Except Failure α) (asked : List Request) :
    Prop :=
  ∀ before, Query.run c.access q.run before = (result, before ++ asked)

variable {q : Inquiry α} {f : α → Inquiry β} {a : α} {e : Failure} {result : Except Failure β}
  {asked asked' : List Request}

theorem ComesTo.ask {result : Except Failure α} (h : ComesTo c q result asked) :
    c.ask q = (result, asked) :=
  h []

theorem comesTo_pure (c : Cluster) (a : α) : ComesTo c (pure a) (.ok a) [] :=
  fun before => by rw [List.append_nil]; rfl

theorem comesTo_throw (c : Cluster) (e : Failure) :
    ComesTo c (throw e : Inquiry α) (.error e) [] :=
  fun before => by rw [List.append_nil]; rfl

theorem comesTo_fetch {kind : ResourceKind} {path : ResourcePath} {object : Except Failure Json}
    (h : c.fetch kind path = object) : ComesTo c (fetch kind path) object [.fetch kind path] := by
  subst h
  exact fun _ => rfl

theorem comesTo_listPods {ns : String} {selector : Option String}
    {objects : Except Failure (List Json)} (h : c.listPods ns selector = objects) :
    ComesTo c (listPods ns selector) objects [.listPods ns selector] := by
  subst h
  exact fun _ => rfl

theorem ComesTo.bind (h : ComesTo c q (.ok a) asked) (h' : ComesTo c (f a) result asked') :
    ComesTo c (q >>= f) result (asked ++ asked') := by
  intro before
  rw [ExceptT.run_bind, Query.run_bind, h before]
  exact (h' _).trans (by rw [List.append_assoc])

theorem ComesTo.bind_error (h : ComesTo c q (.error e) asked) :
    ComesTo c (q >>= f) (.error e) asked := by
  intro before
  rw [ExceptT.run_bind, Query.run_bind, h before]
  rfl

end Inquiry

open Inquiry

/-! ## Objects -/

section Objects

variable {what : String} {reader : Json.Reader α} {object : Json} {objects : List Json} {a : α}
  {as : List α}

/-- The failure of an object that cannot be read. -/
def unusable (what : String) : Failure :=
  .kubectl (.undecodable (.malformed what))

theorem comesTo_readObject (h : reader object.document = some a) :
    ComesTo c (readObject what reader object) (.ok a) [] := by
  simp only [readObject, Manifest.decode, h]
  exact comesTo_pure c a

theorem comesTo_readObject_error (h : reader object.document = none) :
    ComesTo c (readObject what reader object) (.error (unusable what)) [] := by
  simp only [readObject, Manifest.decode, h]
  exact comesTo_throw c _

theorem comesTo_mapM_readObject
    (h : objects.map (fun o => reader o.document) = as.map some) :
    ComesTo c (objects.mapM (readObject what reader)) (.ok as) [] := by
  induction as generalizing objects with
  | nil =>
    cases List.map_eq_nil_iff.1 h
    exact comesTo_pure c []
  | cons a as ih =>
    obtain ⟨object, objects, rfl, hfirst, hrest⟩ := List.map_eq_cons_iff.1 h
    rw [List.mapM_cons]
    exact (comesTo_readObject hfirst).bind ((ih hrest).bind (comesTo_pure c (a :: as)))

/-- One object that cannot be read is enough, wherever it stands. -/
theorem comesTo_mapM_readObject_error (h : ∃ o ∈ objects, reader o.document = none) :
    ComesTo c (objects.mapM (readObject what reader)) (.error (unusable what)) [] := by
  induction objects with
  | nil => simp at h
  | cons object objects ih =>
    rw [List.mapM_cons]
    cases hfirst : reader object.document with
    | none => exact (comesTo_readObject_error hfirst).bind_error
    | some a =>
      have hrest : ∃ o ∈ objects, reader o.document = none := by simpa [hfirst] using h
      exact (comesTo_readObject hfirst).bind (ih hrest).bind_error

theorem exists_readable_or (objects : List Json) (reader : Json.Reader α) :
    (∃ as : List α, objects.map (fun o => reader o.document) = as.map some) ∨
      ∃ o ∈ objects, reader o.document = none := by
  induction objects with
  | nil => exact .inl ⟨[], rfl⟩
  | cons object objects ih =>
    cases hfirst : reader object.document with
    | none => exact .inr ⟨object, List.mem_cons_self, hfirst⟩
    | some a =>
      refine ih.imp ?_ ?_
      · rintro ⟨as, has⟩
        exact ⟨a :: as, by simp [hfirst, has]⟩
      · rintro ⟨o, ho, hnone⟩
        exact ⟨o, List.mem_cons_of_mem _ ho, hnone⟩

end Objects

/-! ## Selectors -/

/-- Labels in the order of their keys. Of those with one key the last one counts. -/
structure InKeyOrder (entries pairs : List (String × String)) : Prop where
  ordered : pairs.Pairwise fun e e' => e.1 < e'.1
  complete : ∀ key value, (key, value) ∈ pairs ↔
    ∃ before after, entries = before ++ (key, value) :: after ∧ ∀ e ∈ after, e.1 ≠ key

theorem inKeyOrder_iff {entries pairs : List (String × String)} :
    InKeyOrder entries pairs ↔ pairs = (OrderedMap.ofList entries : Labels).entries := by
  constructor
  · intro h
    refine OrderedMap.eq_of_mem_iff (h.ordered.imp fun hlt => ?_)
      (OrderedMap.ofList entries : Labels).increasing fun e => ?_
    · exact compareOfLessAndEq_eq_lt.2 hlt
    · rw [OrderedMap.mem_entries_iff, OrderedMap.get?_ofList_eq_some_iff]
      exact h.complete e.1 e.2
  · rintro rfl
    refine ⟨(OrderedMap.ofList entries : Labels).increasing.imp compareOfLessAndEq_eq_lt.1, ?_⟩
    intro key value
    rw [OrderedMap.mem_entries_iff, OrderedMap.get?_ofList_eq_some_iff]

/-- The object under a path selects pods by labels, at least one, written `key=value` each in the
order of the keys. -/
inductive Selects (c : Cluster) (kind : ResourceKind) (path : ResourcePath) (holder : Holder)
    (selector : String) : Prop
  | intro {object : Json} {entries pairs : List (String × String)}
      (hobject : c.fetch kind path = .ok object)
      (hlabels : Labelled holder object.document entries) (hsome : entries ≠ [])
      (hpairs : InKeyOrder entries pairs)
      (hselector : selector = ",".intercalate (pairs.map fun e => e.1 ++ "=" ++ e.2))

/-- The pod that stands for several: the first one that runs, or the first one if none does. -/
inductive Picks : List Json → Json → Prop
  | running {before after : List Json} {o : Json}
      (hrunning : PodObject.reportedPhase o.document = some "Running")
      (hfirst : ∀ other ∈ before, PodObject.reportedPhase other.document ≠ some "Running") :
      Picks (before ++ o :: after) o
  | first {o : Json} {after : List Json}
      (hnone : ∀ other ∈ o :: after, PodObject.reportedPhase other.document ≠ some "Running") :
      Picks (o :: after) o

/-! ## The cases -/

/-- What a path leads to when the labels of its object are followed, with the requests made on the
way: one for the object, and one for the pods where there are labels to select them by. -/
inductive Resolves (c : Cluster) (kind : ResourceKind) (path : ResourcePath) (holder : Holder) :
    Except Failure ResourcePath → List Request → Prop
  | unfetched {e : Failure} (hobject : c.fetch kind path = .error e) :
      Resolves c kind path holder (.error e) [.fetch kind path]
  | unreadable {object : Json} (hobject : c.fetch kind path = .ok object)
      (hread : ∀ entries, ¬ Labelled holder object.document entries) :
      Resolves c kind path holder (.error (unusable holder.name)) [.fetch kind path]
  | unlabelled {object : Json} (hobject : c.fetch kind path = .ok object)
      (hlabels : Labelled holder object.document []) :
      Resolves c kind path holder (.error (.kubectl (.undecodable (.noSelector path))))
        [.fetch kind path]
  | unlisted {selector : String} {e : Failure} (hselects : Selects c kind path holder selector)
      (hlist : c.listPods path.ns (some selector) = .error e) :
      Resolves c kind path holder (.error e)
        [.fetch kind path, .listPods path.ns (some selector)]
  | unreadablePod {selector : String} {objects : List Json}
      (hselects : Selects c kind path holder selector)
      (hlist : c.listPods path.ns (some selector) = .ok objects)
      (hread : ∃ o ∈ objects, ¬ PodObject.IsPod o.document) :
      Resolves c kind path holder (.error (unusable "pod"))
        [.fetch kind path, .listPods path.ns (some selector)]
  | unmatched {selector : String} (hselects : Selects c kind path holder selector)
      (hlist : c.listPods path.ns (some selector) = .ok []) :
      Resolves c kind path holder
        (.error (.kubectl (.notFound ("no pods match " ++ path.render))))
        [.fetch kind path, .listPods path.ns (some selector)]
  | found {selector name : String} {objects : List Json} {o : Json}
      (hselects : Selects c kind path holder selector)
      (hlist : c.listPods path.ns (some selector) = .ok objects)
      (hread : ∀ o ∈ objects, PodObject.IsPod o.document) (hpicks : Picks objects o)
      (hname : PodObject.metadataText "name" o.document = some name) :
      Resolves c kind path holder
        (.ok ⟨(PodObject.metadataText "namespace" o.document).getD path.ns, name⟩)
        [.fetch kind path, .listPods path.ns (some selector)]

/-! ## Each case on its way -/

section Steps

variable {kind : ResourceKind} {path : ResourcePath} {holder : Holder} {labels : Labels}
  {objects : List Json} {pods : List Pod}

open Route PodObject

theorem comesTo_selectPod_of_isEmpty (h : labels.isEmpty = true) :
    ComesTo c (selectPod path labels) (.error (.kubectl (.undecodable (.noSelector path)))) [] := by
  simp only [selectPod, h, if_true]
  exact (comesTo_throw c _).bind_error

theorem selectPod_of_labels (h : labels.isEmpty = false) :
    selectPod path labels =
      Inquiry.listPods path.ns (some labels.selector) >>= choosePod path := by
  simp only [selectPod, h]
  rfl

theorem comesTo_choosePod_of_unreadable (h : ∃ o ∈ objects, ¬ IsPod o.document) :
    ComesTo c (choosePod path objects) (.error (unusable "pod")) [] := by
  have hnone : ∃ o ∈ objects, Manifest.pod o.document = none := by
    obtain ⟨o, ho, hnot⟩ := h
    exact ⟨o, ho, not_not.1 fun hread => hnot (pod_ne_none_iff.1 hread)⟩
  exact (comesTo_mapM_readObject_error hnone).bind_error

theorem comesTo_choosePod_nil :
    ComesTo c (choosePod path []) (.error (.kubectl (.notFound ("no pods match " ++ path.render))))
      [] :=
  (comesTo_pure c []).bind (comesTo_throw c _)

theorem isRunning_iff {d : Json.Document} {p : Pod} (h : Describes d p) :
    p.isRunning = true ↔ reportedPhase d = some "Running" := by
  rw [h.phase]
  cases hphase : p.reportedPhase <;> simp [Pod.isRunning, Pod.phase, hphase]

/-- Where no object reports that its pod runs, no pod does. -/
theorem find?_isRunning_eq_none
    (hread : objects.map (fun o => Manifest.pod o.document) = pods.map some)
    (hnone : ∀ o ∈ objects, reportedPhase o.document ≠ some "Running") :
    pods.find? Pod.isRunning = none := by
  rw [List.find?_eq_none]
  intro p hp hrunning
  have hmem : some p ∈ objects.map fun o => Manifest.pod o.document :=
    hread ▸ List.mem_map_of_mem hp
  obtain ⟨o, ho, hpod⟩ := List.mem_map.1 hmem
  exact hnone o ho ((isRunning_iff (describes_of_pod hpod)).1 hrunning)

/-- The pod that is picked is that of the object that is picked. -/
theorem Picks.exists_pick {o : Json} (h : Picks objects o)
    (hread : objects.map (fun o => Manifest.pod o.document) = pods.map some) :
    ∃ p, Manifest.pod o.document = some p ∧ pick pods = some p := by
  cases h with
  | running hrunning hfirst =>
    rw [List.map_append, List.map_cons] at hread
    obtain ⟨before, rest, rfl, hbefore, hrest⟩ := List.map_eq_append_iff.1 hread.symm
    obtain ⟨p, after, rfl, hp, -⟩ := List.map_eq_cons_iff.1 hrest
    have hnone := find?_isRunning_eq_none hbefore.symm hfirst
    have hruns := (isRunning_iff (describes_of_pod hp.symm)).2 hrunning
    exact ⟨p, hp.symm, by simp [pick, List.find?_append, hnone, hruns]⟩
  | first hnone =>
    have hfound := find?_isRunning_eq_none hread hnone
    obtain ⟨p, after, rfl, hp, -⟩ := List.map_eq_cons_iff.1 hread.symm
    exact ⟨p, hp.symm, by simp [pick, hfound]⟩

theorem exists_pods (h : ∀ o ∈ objects, IsPod o.document) :
    ∃ pods : List Pod, objects.map (fun o => Manifest.pod o.document) = pods.map some := by
  obtain hpods | ⟨o, ho, hnone⟩ := exists_readable_or objects Manifest.pod
  · exact hpods
  · exact absurd hnone (pod_ne_none_iff.2 (h o ho))

theorem comesTo_choosePod {o : Json} {name : String} (hread : ∀ o ∈ objects, IsPod o.document)
    (hpicks : Picks objects o) (hname : metadataText "name" o.document = some name) :
    ComesTo c (choosePod path objects)
      (.ok ⟨(metadataText "namespace" o.document).getD path.ns, name⟩) [] := by
  obtain ⟨pods, hpods⟩ := exists_pods hread
  obtain ⟨p, hp, hpick⟩ := hpicks.exists_pick hpods
  have hshown := describes_of_pod hp
  refine (comesTo_mapM_readObject hpods).bind ?_
  rw [hpick, hshown.ns, Option.some.inj (hname.symm.trans hshown.name)]
  exact comesTo_pure c _

theorem exists_picks (h : objects ≠ []) : ∃ o, Picks objects o := by
  cases hfound : objects.find? fun o => reportedPhase o.document == some "Running" with
  | some o =>
    obtain ⟨hrunning, before, after, rfl, hfirst⟩ := List.find?_eq_some_iff_append.1 hfound
    refine ⟨o, .running (by simpa using hrunning) fun other hother => ?_⟩
    simpa using hfirst other hother
  | none =>
    obtain ⟨o, after, rfl⟩ := List.exists_cons_of_ne_nil h
    refine ⟨o, .first fun other hother => ?_⟩
    simpa using List.find?_eq_none.1 hfound other hother

theorem isEmpty_ofList_iff {entries : List (String × String)} :
    (OrderedMap.ofList entries : Labels).isEmpty = true ↔ entries = [] := by
  constructor
  · intro h
    by_contra hsome
    obtain ⟨front, ⟨key, value⟩, hentries⟩ := (List.eq_nil_or_concat entries).resolve_left hsome
    have hlast : (OrderedMap.ofList entries : Labels).get? key = some value :=
      OrderedMap.get?_ofList_eq_some_iff.2 ⟨front, [], by simpa using hentries, nofun⟩
    have hmem := OrderedMap.mem_entries_iff.2 hlast
    rw [List.isEmpty_iff.1 h] at hmem
    cases hmem
  · rintro rfl
    rfl

theorem selects_iff {selector : String} :
    Selects c kind path holder selector ↔ ∃ object found, c.fetch kind path = .ok object ∧
      holder.reader object.document = some found ∧ (found.getD {}).isEmpty = false ∧
      (found.getD {}).selector = selector := by
  constructor
  · rintro ⟨hobject, hlabels, hsome, hpairs, rfl⟩
    obtain ⟨found, hread, hfound⟩ := reader_eq_some_iff.2 ⟨_, hlabels, rfl⟩
    refine ⟨_, found, hobject, hread, ?_, ?_⟩
    · rw [hfound]
      exact Bool.eq_false_iff.2 fun hempty => hsome (isEmpty_ofList_iff.1 hempty)
    · rw [hfound, Labels.selector, inKeyOrder_iff.1 hpairs]
  · rintro ⟨object, found, hobject, hread, hsome, rfl⟩
    obtain ⟨entries, hlabels, hfound⟩ := reader_eq_some_iff.1 ⟨found, hread, rfl⟩
    refine ⟨hobject, hlabels, ?_, inKeyOrder_iff.2 rfl, by rw [hfound, Labels.selector]⟩
    rintro rfl
    rw [hfound] at hsome
    cases hsome

/-- One of the pods that the labels of an object select. -/
def holderPod (kind : ResourceKind) (path : ResourcePath) (holder : Holder) :
    Inquiry ResourcePath :=
  selectedPod kind path holder.name holder.reader

/-- Where an object selects pods, they are listed, and one of them is chosen. -/
theorem Selects.comesTo {selector : String} {result : Except Failure ResourcePath}
    {asked : List Request} (h : Selects c kind path holder selector)
    (hlisting : ComesTo c (Inquiry.listPods path.ns (some selector) >>= choosePod path) result
      asked) :
    ComesTo c (holderPod kind path holder) result (.fetch kind path :: asked) := by
  obtain ⟨object, found, hobject, hread, hsome, rfl⟩ := selects_iff.1 h
  refine (comesTo_fetch hobject).bind ((comesTo_readObject hread).bind ?_)
  rw [selectPod_of_labels hsome]
  exact hlisting

theorem Resolves.comesTo {result : Except Failure ResourcePath} {asked : List Request}
    (h : Resolves c kind path holder result asked) :
    ComesTo c (holderPod kind path holder) result asked := by
  cases h with
  | unfetched hobject => exact (comesTo_fetch hobject).bind_error
  | @unreadable object hobject hread =>
    have hnone : holder.reader object.document = none := by
      by_contra hsome
      obtain ⟨found, hfound⟩ := Option.ne_none_iff_exists'.1 hsome
      obtain ⟨entries, hlabels, -⟩ := reader_eq_some_iff.1 ⟨found, hfound, rfl⟩
      exact hread entries hlabels
    exact (comesTo_fetch hobject).bind (comesTo_readObject_error hnone).bind_error
  | unlabelled hobject hlabels =>
    obtain ⟨found, hread, hfound⟩ := reader_eq_some_iff.2 ⟨[], hlabels, rfl⟩
    have hempty : (found.getD {}).isEmpty = true := hfound ▸ rfl
    exact (comesTo_fetch hobject).bind
      ((comesTo_readObject hread).bind (comesTo_selectPod_of_isEmpty hempty))
  | unlisted hselects hlist => exact hselects.comesTo (comesTo_listPods hlist).bind_error
  | unreadablePod hselects hlist hread =>
    exact hselects.comesTo
      ((comesTo_listPods hlist).bind (comesTo_choosePod_of_unreadable hread))
  | unmatched hselects hlist =>
    exact hselects.comesTo ((comesTo_listPods hlist).bind comesTo_choosePod_nil)
  | found hselects hlist hread hpicks hname =>
    exact hselects.comesTo ((comesTo_listPods hlist).bind (comesTo_choosePod hread hpicks hname))

/-- One of the cases applies. -/
theorem exists_resolves (c : Cluster) (kind : ResourceKind) (path : ResourcePath)
    (holder : Holder) : ∃ result asked, Resolves c kind path holder result asked := by
  cases hobject : c.fetch kind path with
  | error e => exact ⟨_, _, .unfetched hobject⟩
  | ok object =>
    by_cases hlabelled : ∃ entries, Labelled holder object.document entries
    · obtain ⟨entries, hlabels⟩ := hlabelled
      by_cases hempty : entries = []
      · subst hempty
        exact ⟨_, _, .unlabelled hobject hlabels⟩
      · have hselects : Selects c kind path holder _ :=
          .intro hobject hlabels hempty (inKeyOrder_iff.2 rfl) rfl
        cases hlist : c.listPods path.ns (some _) with
        | error e => exact ⟨_, _, .unlisted hselects hlist⟩
        | ok objects =>
          by_cases hread : ∀ o ∈ objects, IsPod o.document
          · by_cases hsome : objects = []
            · subst hsome
              exact ⟨_, _, .unmatched hselects hlist⟩
            · obtain ⟨o, hpicks⟩ := exists_picks hsome
              obtain ⟨pods, hpods⟩ := exists_pods hread
              obtain ⟨p, hp, -⟩ := hpicks.exists_pick hpods
              exact ⟨_, _, .found hselects hlist hread hpicks (describes_of_pod hp).name⟩
          · obtain ⟨o, ho⟩ := not_forall.1 hread
            exact ⟨_, _, .unreadablePod hselects hlist ⟨o, Classical.not_imp.1 ho⟩⟩
    · exact ⟨_, _, .unreadable hobject fun entries hlabels => hlabelled ⟨entries, hlabels⟩⟩

theorem ask_holderPod_iff {result : Except Failure ResourcePath} {asked : List Request} :
    c.ask (holderPod kind path holder) = (result, asked) ↔
      Resolves c kind path holder result asked := by
  constructor
  · intro h
    obtain ⟨result', asked', hresolves⟩ := exists_resolves c kind path holder
    cases h.symm.trans hresolves.comesTo.ask
    exact hresolves
  · exact fun h => h.comesTo.ask

end Steps

/-- Resolution. A workload or a service leads to the first running one of the pods that its labels
select, or the first one of them if none runs; the object is asked for once, and then the pods are,
once, in the namespace of the target. They are not asked for when the object cannot be had or read, or
has no labels to select by. Every pod must be readable, there must be one, and the failures of
requests come back as they are. -/
theorem resolve_iff (c : Cluster) (path : ResourcePath) (result : Except Failure ResourcePath)
    (asked : List Request) :
    (∀ kind, c.ask ((Route.workload kind).resolve path) = (result, asked) ↔
      Resolves c kind path .workload result asked) ∧
    (c.ask (Route.service.resolve path) = (result, asked) ↔
      Resolves c .service path .service result asked) := by
  have hasked (kind : ResourceKind) (holder : Holder) :
      c.ask (holderPod kind path holder) = (result, asked) ↔
        Resolves c kind path holder result asked := ask_holderPod_iff
  exact ⟨fun kind => hasked kind .workload, hasked .service .service⟩

/-! ## A deployment and a service -/

/-- An object with these members under `spec.selector`. -/
def selecting (members : List (String × Json)) : Json :=
  .object [("spec", .object [("selector", .object members)])]

/-- Labels that are not given in the order of their keys. -/
def shopLabels : List (String × Json) :=
  [("tier", .string "web"), ("app", .string "shop")]

/-- A pod object without a namespace. -/
def shopPod (name phase : String) : Json :=
  .object [("metadata", .object [("name", .string name)]), ("spec", .object []),
    ("status", .object [("phase", .string phase)])]

/-- A cluster with a deployment and a service that select the same two pods. -/
def shopCluster : Cluster where
  fetch kind path :=
    match kind with
    | .deployment => .ok (selecting [("matchLabels", .object shopLabels)])
    | .service => .ok (selecting shopLabels)
    | _ => Cluster.empty.fetch kind path
  listPods ns selector :=
    if ns = "shop" ∧ selector = some "app=shop,tier=web" then
      .ok [shopPod "web-0" "Pending", shopPod "web-1" "Running"]
    else .ok []

theorem specifies_selecting (members : List (String × Json)) :
    Specifies (selecting members).document
      (Json.object [("selector", .object members)]).document where
  whole := Json.fields?_ne_none_iff.1 nofun
  given := rfl
  record := Json.fields?_ne_none_iff.1 nofun

/-- The labels are written in the order of their keys, and of the two pods the second one runs. -/
theorem resolves_of_shopLabels {kind : ResourceKind} {holder : Holder} {object : Json}
    (hobject : shopCluster.fetch kind ⟨"shop", "front"⟩ = .ok object)
    (hlabels : Labelled holder object.document [("tier", "web"), ("app", "shop")]) :
    Resolves shopCluster kind ⟨"shop", "front"⟩ holder (.ok ⟨"shop", "web-1"⟩)
      [.fetch kind ⟨"shop", "front"⟩, .listPods "shop" (some "app=shop,tier=web")] := by
  have hselects : Selects shopCluster kind ⟨"shop", "front"⟩ holder "app=shop,tier=web" :=
    .intro hobject hlabels (List.cons_ne_nil _ _) (inKeyOrder_iff.2 rfl) (by decide)
  have hlist : shopCluster.listPods "shop" (some "app=shop,tier=web") =
      .ok [shopPod "web-0" "Pending", shopPod "web-1" "Running"] := rfl
  have hread : ∀ o ∈ [shopPod "web-0" "Pending", shopPod "web-1" "Running"],
      PodObject.IsPod o.document := by
    simp only [List.forall_mem_cons, ← PodObject.pod_ne_none_iff]
    decide
  have hpicks : Picks ([shopPod "web-0" "Pending"] ++ [shopPod "web-1" "Running"])
      (shopPod "web-1" "Running") := .running rfl (by decide)
  exact .found hselects hlist hread hpicks rfl

theorem resolve_shop :
    shopCluster.ask ((Route.workload .deployment).resolve ⟨"shop", "front"⟩) =
        (.ok ⟨"shop", "web-1"⟩, [.fetch .deployment ⟨"shop", "front"⟩,
          .listPods "shop" (some "app=shop,tier=web")]) ∧
      shopCluster.ask (Route.service.resolve ⟨"shop", "front"⟩) =
        (.ok ⟨"shop", "web-1"⟩, [.fetch .service ⟨"shop", "front"⟩,
          .listPods "shop" (some "app=shop,tier=web")]) := by
  have hworkload : Labelled .workload (selecting [("matchLabels", .object shopLabels)]).document
      [("tier", "web"), ("app", "shop")] :=
    .workload (specifies_selecting _) rfl (Json.fields?_ne_none_iff.1 nofun) rfl
  have hservice : Labelled .service (selecting shopLabels).document
      [("tier", "web"), ("app", "shop")] := .service (specifies_selecting _) rfl
  exact ⟨((resolve_iff shopCluster ⟨"shop", "front"⟩ _ _).1 .deployment).2
      (resolves_of_shopLabels rfl hworkload),
    (resolve_iff shopCluster ⟨"shop", "front"⟩ _ _).2.2 (resolves_of_shopLabels rfl hservice)⟩

end PodTunnels
