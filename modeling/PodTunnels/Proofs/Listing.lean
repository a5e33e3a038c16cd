import PodTunnels.Kubectl.Client
import PodTunnels.Proofs.Decoding
import PodTunnels.Proofs.Files
import PodTunnels.Proofs.JsonText
import PodTunnels.Proofs.Numeral
import PodTunnels.Proofs.PodObjects
import PodTunnels.Proofs.StartForm

/-!
# Listings of pods

A listing shows every pod object by a summary. What a summary shows is said about the object itself:
the name, the namespace and the phase it gives, and the containers it lists (`sumsUp_of_pod`). When
no two pods have one path, the paths order the summaries strictly, so that there is only one way to
list them. Then a listing does not depend on the order in which kubectl prints the objects
(`podSummaries_of_listed`); nor does the refusal of a listing in which some object is no pod.
-/

namespace PodTunnels

open Json

/-! ## The order of paths -/

/-- What has distinct keys is sorted strictly by them. -/
theorem pairwise_mergeSort_of_key {α β : Type} [Ord α] [Std.TransOrd α] [Std.LawfulEqOrd α]
    (key : β → α) {items : List β} (hdistinct : (items.map key).Nodup) :
    (items.mergeSort fun x y => (compare (key x) (key y)).isLE).Pairwise
      fun x y => compare (key x) (key y) = .lt := by
  have htrans (x y z : β) : (compare (key x) (key y)).isLE → (compare (key y) (key z)).isLE →
      (compare (key x) (key z)).isLE := Std.TransOrd.isLE_trans
  have htotal (x y : β) : (compare (key x) (key y)).isLE || (compare (key y) (key x)).isLE := by
    rw [Bool.or_eq_true]
    refine or_iff_not_imp_left.2 fun hgt => ?_
    exact Ordering.isLE_of_eq_lt (Std.OrientedCmp.lt_of_not_isLE hgt)
  have hsorted := List.pairwise_mergeSort htrans htotal items
  have hapart : (items.mergeSort fun x y => (compare (key x) (key y)).isLE).Pairwise
      fun x y => key x ≠ key y :=
    List.pairwise_map.1 (((List.mergeSort_perm items _).map key).nodup_iff.2 hdistinct)
  refine hsorted.imp₂ (fun x y hle hne => ?_) hapart
  exact (Ordering.isLE_iff_eq_lt_or_eq_eq.1 hle).resolve_right
    fun heq => hne (Std.LawfulEqOrd.eq_of_compare heq)

namespace ResourcePath

/-- A path comes before another one: by the bytes of the namespace first, and of the name second. -/
def Precedes (p q : ResourcePath) : Prop :=
  Text.Utf8.encode p.ns < Text.Utf8.encode q.ns ∨
    p.ns = q.ns ∧ Text.Utf8.encode p.name < Text.Utf8.encode q.name

theorem precedes_iff {p q : ResourcePath} : p.Precedes q ↔ compare p q = .lt := by
  have hcompare : compare p q = (compare p.ns q.ns).then (compare p.name q.name) := rfl
  rw [hcompare, Ordering.then_eq_lt, compare_lt_iff_lt, compare_eq_iff_eq, compare_lt_iff_lt,
    ← Text.Utf8.encode_lt_encode_iff, ← Text.Utf8.encode_lt_encode_iff, Precedes]

end ResourcePath

/-! ## What a summary shows -/

namespace PodObject

/-- A summary shows a pod object of a namespace. -/
structure SumsUp (ns : String) (object : Document) (s : PodSummary) : Prop where
  name : metadataText "name" object = some s.path.name
  ns : (metadataText "namespace" object).getD ns = s.path.ns
  phase : (reportedPhase object).getD "Unknown" = s.phase
  ports : ∃ entries, s.ports = .ofList entries ∧
    List.Forall₂ ReadsContainer entries (containers object)

variable {d : Document} {p : Pod}

theorem sumsUp_of_pod (ns : String) (h : Manifest.pod d = some p) :
    SumsUp ns d (p.summary ns) := by
  have hshown := describes_of_pod h
  constructor
  · exact hshown.name
  · rw [hshown.ns]
    rfl
  · rw [hshown.phase]
    rfl
  · exact ⟨_, rfl, readsContainers_of_pod h⟩

end PodObject

/-! ## Reading a listing -/

namespace Kubectl

variable {ns : String} {objects objects' : List Json}

/-- The summary of an object that reads as a pod. -/
def summary? (ns : String) (object : Json) : Option PodSummary :=
  (Manifest.pod object.document).map fun p => p.summary ns

theorem sumsUp_of_summary? {object : Json} {s : PodSummary} (h : summary? ns object = some s) :
    PodObject.SumsUp ns object.document s := by
  obtain ⟨p, hreads, rfl⟩ := Option.map_eq_some_iff.1 h
  exact PodObject.sumsUp_of_pod ns hreads

theorem decode_pod_eq_ok_iff {d : Document} {p : Pod} :
    Manifest.decode "pod" Manifest.pod d = .ok p ↔ Manifest.pod d = some p := by
  unfold Manifest.decode
  cases Manifest.pod d <;> simp

theorem decode_pod_eq_error_iff {d : Document} {e : KubectlFailure} :
    Manifest.decode "pod" Manifest.pod d = .error e ↔
      Manifest.pod d = none ∧ e = .undecodable (.malformed "pod") := by
  unfold Manifest.decode
  cases Manifest.pod d <;> simp [eq_comm]

/-- When every object reads as a pod, each is read into its summary. -/
theorem readSummaries_of_readable (ns : String)
    (h : ∀ o ∈ objects, Manifest.pod o.document ≠ none) :
    ∃ pods, readSummaries ns objects = .ok pods ∧
      List.Forall₂ (fun o s => summary? ns o = some s) objects pods := by
  obtain ⟨pods, hpods⟩ := exists_forall₂_iff.2 fun o ho => Option.ne_none_iff_exists'.1 (h o ho)
  refine ⟨pods.map fun p => p.summary ns, ?_, ?_⟩
  · rw [readSummaries, mapM_eq_ok_iff.2 (hpods.imp fun o p => decode_pod_eq_ok_iff.2)]
    rfl
  · rw [List.forall₂_map_right_iff]
    exact hpods.imp fun o p hread => congrArg (Option.map fun p => p.summary ns) hread

/-- One object that is no pod is enough, wherever it stands. -/
theorem readSummaries_of_unreadable (h : ∃ o ∈ objects, Manifest.pod o.document = none) :
    readSummaries ns objects = .error (.undecodable (.malformed "pod")) := by
  rw [readSummaries]
  cases hread : objects.mapM fun o => Manifest.decode "pod" Manifest.pod o.document with
  | error e =>
    obtain ⟨o, -, he⟩ := exists_error_of_mapM hread
    rw [(decode_pod_eq_error_iff.1 he).2]
    rfl
  | ok pods =>
    obtain ⟨o, ho, hnone⟩ := h
    obtain ⟨p, hp⟩ := exists_forall₂_iff.1 ⟨pods, mapM_eq_ok_iff.1 hread⟩ o ho
    rw [decode_pod_eq_ok_iff, hnone] at hp
    cases hp

/-! ## Sorting a listing -/

variable {pods pods' : List PodSummary}

theorem precedes_sortSummaries (hdistinct : (pods.map PodSummary.path).Nodup) :
    (sortSummaries pods).Pairwise fun s t => s.path.Precedes t.path :=
  (pairwise_mergeSort_of_key PodSummary.path hdistinct).imp ResourcePath.precedes_iff.2

/-- Summaries with distinct paths are sorted in one way only. -/
theorem sortSummaries_eq_of_perm (hperm : pods.Perm pods')
    (hdistinct : (pods.map PodSummary.path).Nodup) : sortSummaries pods = sortSummaries pods' := by
  have hdistinct' := (hperm.map PodSummary.path).nodup_iff.1 hdistinct
  refine List.Perm.eq_of_pairwise (fun s t _ _ hst hts => ?_) (precedes_sortSummaries hdistinct)
    (precedes_sortSummaries hdistinct') ?_
  · -- No two paths come before each other.
    rw [ResourcePath.precedes_iff] at hst hts
    exact absurd hts (Std.OrientedCmp.not_lt_of_lt hst)
  · exact (List.mergeSort_perm pods _).trans (hperm.trans (List.mergeSort_perm pods' _).symm)

/-! ## The answer to a listing -/

def paths (ns : String) (objects : List Json) : List ResourcePath :=
  (objects.filterMap (summary? ns)).map PodSummary.path

theorem filterMap_of_forall₂ {α β : Type} {f : α → Option β} {xs : List α} {ys : List β}
    (h : List.Forall₂ (fun x y => f x = some y) xs ys) : xs.filterMap f = ys := by
  induction h with
  | nil => rfl
  | cons hfirst _ ih => rw [List.filterMap_cons_some hfirst, ih]

theorem summaries_eq_of_perm (hperm : objects.Perm objects')
    (hdistinct : (paths ns objects).Nodup) : summaries ns objects = summaries ns objects' := by
  by_cases hunreadable : ∃ o ∈ objects, Manifest.pod o.document = none
  · have hunreadable' : ∃ o ∈ objects', Manifest.pod o.document = none := by
      obtain ⟨o, ho, hnone⟩ := hunreadable
      exact ⟨o, hperm.mem_iff.1 ho, hnone⟩
    rw [summaries, summaries, readSummaries_of_unreadable hunreadable,
      readSummaries_of_unreadable hunreadable']
  · have hreadable : ∀ o ∈ objects, Manifest.pod o.document ≠ none :=
      fun o ho hnone => hunreadable ⟨o, ho, hnone⟩
    obtain ⟨pods, hpods, hread⟩ := readSummaries_of_readable ns hreadable
    obtain ⟨pods', hpods', hread'⟩ := readSummaries_of_readable ns
      fun o ho => hreadable o (hperm.mem_iff.2 ho)
    rw [paths, filterMap_of_forall₂ hread] at hdistinct
    have hsame : pods.Perm pods' :=
      filterMap_of_forall₂ hread ▸ filterMap_of_forall₂ hread' ▸ hperm.filterMap _
    rw [summaries, summaries, hpods, hpods']
    exact congrArg Except.ok (sortSummaries_eq_of_perm hsame hdistinct)

theorem summaries_of_readable (hreadable : ∀ o ∈ objects, Manifest.pod o.document ≠ none)
    (hdistinct : (paths ns objects).Nodup) :
    ∃ pods, summaries ns objects = .ok pods ∧
      (pods.Pairwise fun s t => s.path.Precedes t.path) ∧
      ∃ ordered, ordered.Perm objects ∧
        List.Forall₂ (fun o s => summary? ns o = some s) ordered pods := by
  obtain ⟨pods, hpods, hread⟩ := readSummaries_of_readable ns hreadable
  rw [paths, filterMap_of_forall₂ hread] at hdistinct
  obtain ⟨ordered, hordered, hperm⟩ :=
    List.perm_comp_forall₂ (List.mergeSort_perm pods _) hread.flip
  refine ⟨sortSummaries pods, ?_, precedes_sortSummaries hdistinct, ordered, hperm, hordered.flip⟩
  rw [summaries, hpods]
  rfl

theorem summaries_of_unreadable (h : ∃ o ∈ objects, Manifest.pod o.document = none) :
    summaries ns objects = .error (.undecodable (.malformed "pod")) := by
  rw [summaries, readSummaries_of_unreadable h]
  rfl

namespace Client

variable {c : Client} {h : Host}

theorem podSummaries_eq (hlisted : (c.listPods ns none h).1 = .ok objects) :
    (c.podSummaries ns h).1 = summaries ns objects := by
  rw [podSummaries]
  exact congrArg (Except.bind · (summaries ns)) hlisted

/-- The answer to a listing of pods whose paths are all distinct. It is the same in whatever order
kubectl prints the objects. If all of them are pods, it has a summary of each, strictly in the order
of the paths; if some object is none, the listing is refused. -/
theorem podSummaries_of_listed (hlisted : (c.listPods ns none h).1 = .ok objects)
    (hdistinct : (paths ns objects).Nodup) :
    (∀ {h' objects'}, (c.listPods ns none h').1 = .ok objects' → objects.Perm objects' →
      (c.podSummaries ns h).1 = (c.podSummaries ns h').1) ∧
    ((∀ o ∈ objects, Manifest.pod o.document ≠ none) →
      ∃ pods, (c.podSummaries ns h).1 = .ok pods ∧
        (pods.Pairwise fun s t => s.path.Precedes t.path) ∧
        ∃ ordered, ordered.Perm objects ∧
          List.Forall₂ (fun o s => summary? ns o = some s ∧ PodObject.SumsUp ns o.document s)
            ordered pods) ∧
    ((∃ o ∈ objects, Manifest.pod o.document = none) →
      ∃ fault, (c.podSummaries ns h).1 = .error (.undecodable fault)) := by
  rw [podSummaries_eq hlisted]
  refine ⟨fun hlisted' hperm => ?_, fun hreadable => ?_, fun hunreadable => ?_⟩
  · rw [podSummaries_eq hlisted']
    exact summaries_eq_of_perm hperm hdistinct
  · obtain ⟨pods, hpods, hsorted, ordered, hperm, hread⟩ :=
      summaries_of_readable hreadable hdistinct
    exact ⟨pods, hpods, hsorted, ordered, hperm,
      hread.imp fun o s hsummary => ⟨hsummary, sumsUp_of_summary? hsummary⟩⟩
  · exact ⟨_, summaries_of_unreadable hunreadable⟩

/-! ## A listing that is printed -/

/-- A file is started by its place. -/
theorem start_of_file {program : String} {id : Nat} (arguments : List String)
    (hslash : program.contains '/' = true) (hfile : h.files.file (.ofText program) = .ok id)
    (hallowed : ∀ text ∈ program :: arguments, '\x00' ∉ text.toList) :
    ∃ h', h.start program arguments = (.ok (h.runs.headD {}), h') := by
  have hany : (program :: arguments).any (·.contains '\x00') = false := by
    rw [List.any_eq_false]
    exact fun text htext => by simpa using hallowed text htext
  have hsome : program.isEmpty = false := by
    rw [Bool.eq_false_iff]
    intro hempty
    simp [String.isEmpty_iff.1 hempty] at hslash
  have hfind : h.findProgram program = .ok () := by
    rw [Host.findProgram, hsome, hslash, Host.runnable,
      Storage.FileSystem.file_eq_ok_iff_lookup.1 hfile]
    rfl
  rw [Host.start, hany, hfind]
  exact ⟨_, rfl⟩

/-- A host with nothing on it but kubectl, in the root, whose runs turn out so. -/
def hostOf (run : ProgramRun) : Host where
  files := Storage.FileSystem.addFile {} ["kubectl"] []
  runs := [run]

theorem start_hostOf (run : ProgramRun) {arguments : List String}
    (hallowed : ∀ text ∈ "/kubectl" :: arguments, '\x00' ∉ text.toList) :
    ∃ h', (hostOf run).start "/kubectl" arguments = (.ok run, h') := by
  let files := (hostOf run).files
  have hlocation : Storage.Location.ofText "/kubectl" = { names := ["/", "kubectl"] } := by
    decide +kernel
  have hnode : files.node? ["kubectl"] = some (.file 0) :=
    Storage.FileSystem.node?_addFile_self (by decide)
  have hentry : files.entry { names := ["/", "kubectl"] } = .ok ["kubectl"] := by
    refine Storage.FileSystem.entry_eq_ok_iff.2
      ⟨Storage.FileSystem.refusal?_eq_none_iff.2 ⟨by decide, by decide +kernel⟩, ["/"], "kubectl",
        [], rfl, .step (Storage.FileSystem.node?_working _) rfl ?_ .here, rfl, rfl⟩
    exact fun target => nofun
  have hplace := Storage.FileSystem.place_of_entry hentry (by simp [hnode])
  have hfile : files.file (.ofText "/kubectl") = .ok 0 :=
    hlocation ▸ Storage.FileSystem.file_eq_ok_iff.2 ⟨by simp, rfl, ["kubectl"], hplace, hnode⟩
  exact start_of_file arguments (by simp) hfile hallowed

/-- A client that runs the file `/kubectl`. -/
def plain : Client :=
  { program := some "/kubectl" }

/-- A host whose kubectl prints a listing of objects. -/
def printing (objects : List Json) : Host :=
  hostOf { output := Text.Utf8.encode (Json.object [("items", .array objects)]).pretty }

/-- What kubectl prints is what is listed. -/
theorem listPods_printing {objects : List Json}
    (hexact : ∀ n ∈ (Json.object [("items", .array objects)]).numbers, n.Exact)
    (hitems : Manifest.items (Json.object [("items", .array objects)]).document = some objects) :
    (plain.listPods "shop" none (printing objects)).1 = .ok objects := by
  have hallowed : ∀ text ∈ "/kubectl" :: requestArguments none 15 (listArguments "shop" none),
      '\x00' ∉ text.toList := by decide +kernel
  let run : ProgramRun :=
    { output := Text.Utf8.encode (Json.object [("items", .array objects)]).pretty }
  obtain ⟨h', hstart⟩ : ∃ h', (printing objects).start "/kubectl"
      (requestArguments none 15 (listArguments "shop" none)) = (.ok run, h') :=
    start_hostOf run hallowed
  have hrequest : plain.request (listArguments "shop" none) (printing objects) =
      (.ok (Json.object [("items", .array objects)]).pretty, h') := by
    have hprogram : plain.program = some "/kubectl" := rfl
    have hpatience : plain.patience? = some 16 := by decide
    have harguments : requestArguments plain.context plain.seconds.toNat =
        requestArguments none 15 := rfl
    have hrun : outcome 16 run = .ok (Json.object [("items", .array objects)]).pretty := by
      simp [outcome, run, Text.Utf8.decode?_encode]
    simp only [request, hprogram, hpatience, harguments, hstart, hrun]
  have hdecode : Manifest.decodeText "list" Manifest.items
      (Json.object [("items", .array objects)]).pretty = .ok objects := by
    simp only [Manifest.decodeText, parse?_pretty hexact, Manifest.decode, hitems]
  simp only [listPods, hrequest]
  exact hdecode

/-- A pod that names its namespace. -/
def databasePod : Json :=
  .object
    [("metadata", .object [("namespace", .string "team"), ("name", .string "db-0")]),
      ("spec", .object []), ("status", .object [("phase", .string "Running")])]

/-- A pod that has no namespace and reports no phase, with a port. -/
def webPod : Json :=
  .object
    [("metadata", .object [("name", .string "web-0")]),
      ("spec", .object [("containers", .array [.object [("name", .string "web"), ("ports", .array
        [.object [("containerPort", .number (.ofNat 8080))]])]])])]

/-- The pod without a namespace takes its place by the requested one, whichever is printed first. -/
theorem two_pods_listed :
    let database : PodSummary := ⟨⟨"team", "db-0"⟩, "Running", {}⟩
    let web : PodSummary :=
      ⟨⟨"shop", "web-0"⟩, "Unknown", .ofList [("web", [⟨none, 8080, .tcp⟩])]⟩
    (plain.podSummaries "shop" (printing [databasePod, webPod])).1 = .ok [web, database] ∧
      (plain.podSummaries "shop" (printing [webPod, databasePod])).1 = .ok [web, database] ∧
      (∃ fault, (plain.podSummaries "shop" (printing [databasePod, .null])).1 =
        .error (.undecodable fault)) ∧
      ∃ ordered, ordered.Perm [databasePod, webPod] ∧
        List.Forall₂ (fun o s => PodObject.SumsUp "shop" o.document s) ordered [web, database] := by
  intro database web
  have hport : (Number.ofNat 8080).Exact := Number.exact_ofNat (by decide)
  have hprinted := @listPods_printing [databasePod, webPod]
    (by simpa [Json.numbers, itemNumbers, memberNumbers, databasePod, webPod] using hport) rfl
  have hswapped := @listPods_printing [webPod, databasePod]
    (by simpa [Json.numbers, itemNumbers, memberNumbers, databasePod, webPod] using hport) rfl
  have hfaulty := @listPods_printing [databasePod, .null]
    (by simp [Json.numbers, itemNumbers, memberNumbers, databasePod]) rfl
  obtain ⟨hsame, hpods, -⟩ := podSummaries_of_listed hprinted (by decide)
  obtain ⟨-, -, hrefused⟩ := podSummaries_of_listed hfaulty (by decide)
  have hsorted : (plain.podSummaries "shop" (printing [webPod, databasePod])).1 =
      .ok [web, database] := by
    rw [podSummaries_eq hswapped]
    exact congrArg Except.ok (List.mergeSort_of_pairwise (by decide))
  have hanswer := (hsame hswapped (List.Perm.swap _ _ _)).trans hsorted
  obtain ⟨pods, hok, -, ordered, hperm, hshown⟩ := hpods (by decide)
  cases hanswer.symm.trans hok
  exact ⟨hanswer, hsorted, hrefused ⟨.null, by simp, by decide⟩, ordered, hperm,
    hshown.imp fun _ _ h => h.2⟩

end Client

end Kubectl

end PodTunnels
