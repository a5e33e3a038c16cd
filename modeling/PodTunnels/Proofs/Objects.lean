import Mathlib.Data.List.Induction
import PodTunnels.Manifest
import PodTunnels.OrderedMap.Lookup

/-!
# What objects say

What an object of the cluster says is said about the object itself. A document is a record for some
names (`IsRecord`), and it gives something for each of them or nothing (`Document.given`); that is
how records are read (`fields?_eq_some_iff`). From there on it is a matter of names: which objects
are pods (`isPod_iff`), how a pod is called and what phase it reports (`PodObject.metadataText`,
`PodObject.reportedPhase`), and by which labels a workload or a service selects its pods
(`Labelled`).
-/

namespace PodTunnels

open Json

/-! ## Records -/

namespace Json.Document

/-- What a field of a record is given as: by its name in an object, by its place in an array. -/
def given (names : List String) (name : String) : Document → Option Document
  | .object members => (members.find? fun m => m.1 == some name).map Prod.snd
  | .array items => items[names.idxOf name]?
  | _ => none

def items : Document → List Document
  | .array items => items
  | _ => []

/-- An object that gives texts by their names. -/
def texts (entries : List (String × String)) : Document :=
  .object (entries.map fun e => (some e.1, .string (some e.2)))

end Json.Document

namespace Json

/-- A document that can be read as a record: an object that gives none of the fields twice and has
a text for every name, or an array with no more items than there are fields. -/
inductive IsRecord (names : List String) : Document → Prop
  | object {members : List (Option String × Document)} (hnamed : ∀ m ∈ members, m.1 ≠ none)
      (honce : ∀ name ∈ names, members.countP (fun m => m.1 == some name) ≤ 1) :
      IsRecord names (.object members)
  | array {items : List Document} (hshort : items.length ≤ names.length) :
      IsRecord names (.array items)

variable {names : List String} {name : String} {d : Document}

theorem takeFields_ne_none_iff {members : List (Option String × Document)}
    {seen : List (String × Document)} :
    takeFields names seen members ≠ none ↔ (∀ m ∈ members, m.1 ≠ none) ∧
      ∀ name ∈ names, members.countP (fun m => m.1 == some name) +
        (if seen.any fun f => f.1 == name then 1 else 0) ≤ 1 := by
  induction members generalizing seen with
  | nil =>
    refine iff_of_true nofun ⟨nofun, fun name _ => ?_⟩
    rw [List.countP_nil]
    split <;> decide
  | cons m members ih =>
    obtain ⟨given, d⟩ := m
    cases given with
    | none => exact iff_of_false (fun h => h rfl) fun h => h.1 _ List.mem_cons_self rfl
    | some other =>
      have hfields (name : String) :
          List.countP (fun m => m.1 == some name) ((some other, d) :: members) =
            List.countP (fun m => m.1 == some name) members + if other = name then 1 else 0 := by
        rw [List.countP_cons]
        by_cases hother : other = name <;> simp [hother]
      rw [takeFields]
      simp only [hfields, List.forall_mem_cons, ne_eq, reduceCtorEq, not_false_eq_true, true_and]
      split
      · rename_i hknown
        split
        · rename_i htwice
          refine iff_of_false (fun h => h rfl) fun h => ?_
          have := h.2 other (List.contains_iff_mem.1 hknown)
          rw [if_pos rfl, if_pos htwice] at this
          omega
        · rename_i honce
          refine ih.trans (and_congr_right fun _ => forall₂_congr fun name _ => ?_)
          by_cases hother : other = name
          · subst hother
            simp [honce]
          · have hany : ((seen ++ [(other, d)]).any fun f => f.1 == name) =
                seen.any fun f => f.1 == name := by simp [List.any_append, hother]
            rw [if_neg hother, Nat.add_zero, hany]
      · rename_i hunknown
        refine ih.trans (and_congr_right fun _ => forall₂_congr fun name hname => ?_)
        have hother : other ≠ name := by
          rintro rfl
          exact hunknown (List.contains_iff_mem.2 hname)
        rw [if_neg hother, Nat.add_zero]

theorem find?_takeFields {members : List (Option String × Document)}
    {seen found : List (String × Document)} (hname : name ∈ names)
    (h : takeFields names seen members = some found) :
    (found.find? fun f => f.1 == name).map Prod.snd =
      ((seen.find? fun f => f.1 == name).map Prod.snd).or
        ((members.find? fun m => m.1 == some name).map Prod.snd) := by
  induction members generalizing seen with
  | nil =>
    cases h
    rw [List.find?_nil, Option.map_none, Option.or_none]
  | cons m members ih =>
    obtain ⟨given, d⟩ := m
    cases given with
    | none => cases h
    | some other =>
      rw [takeFields] at h
      split at h
      · split at h
        · cases h
        · rw [ih h, List.find?_append, Option.map_or, Option.or_assoc]
          by_cases hother : other = name <;> simp [hother]
      · rename_i hunknown
        have hother : other ≠ name := by
          rintro rfl
          exact hunknown (List.contains_iff_mem.2 hname)
        rw [ih h, List.find?_cons_of_neg (by simpa using hother)]

theorem find?_zip (hname : name ∈ names) (items : List Document) :
    ((names.zip items).find? fun f => f.1 == name).map Prod.snd = items[names.idxOf name]? := by
  induction names generalizing items with
  | nil => cases hname
  | cons first names ih =>
    cases items with
    | nil => rfl
    | cons d items =>
      by_cases hfirst : first = name
      · simp [hfirst]
      · have hrest : name ∈ names := (List.mem_cons.1 hname).resolve_left (Ne.symm hfirst)
        have hother : (first == name) = false := beq_false_of_ne hfirst
        simpa [List.idxOf_cons, hother] using ih hrest items

/-- The fields of a record are what the document gives for them. -/
theorem given_of_fields? {d : Document} {fields : Fields} (h : d.fields? names = some fields)
    (hname : name ∈ names) : fields name = d.given names name := by
  cases d with
  | object members =>
    obtain ⟨found, hfound, hfields⟩ := Option.bind_eq_some_iff.1 h
    cases hfields
    rw [Document.given]
    simpa using find?_takeFields hname hfound
  | array items =>
    rw [Document.fields?] at h
    split at h
    · cases h
      exact find?_zip hname items
    · cases h
  | null | bool | number | string => cases h

/-- A document is read as a record exactly if it is one. -/
theorem fields?_ne_none_iff : d.fields? names ≠ none ↔ IsRecord names d := by
  cases d with
  | object members =>
    have hfields : Document.fields? names (.object members) ≠ none ↔
        takeFields names [] members ≠ none := by
      rw [Document.fields?]
      cases takeFields names [] members <;> simp
    rw [hfields, takeFields_ne_none_iff]
    simp only [List.any_nil, Bool.false_eq_true, if_false, Nat.add_zero]
    constructor
    · rintro ⟨hnamed, honce⟩
      exact .object hnamed honce
    · rintro ⟨hnamed, honce⟩
      exact ⟨hnamed, honce⟩
  | array items =>
    rw [Document.fields?]
    constructor
    · intro h
      split at h
      · exact .array ‹_›
      · exact absurd rfl h
    · intro h
      cases h with
      | array hshort =>
        rw [if_pos hshort]
        exact nofun
  | null | bool | number | string => exact iff_of_false (fun h => h rfl) nofun

/-- What is read from the fields of a record is read from what the document gives for them. -/
theorem bind_fields?_eq_some_iff {α : Type} {k : Fields → Option α} {a : α}
    (hk : ∀ f g : Fields, (∀ name ∈ names, f name = g name) → k f = k g) :
    (d.fields? names).bind k = some a ↔
      IsRecord names d ∧ k (fun name => d.given names name) = some a := by
  rw [← fields?_ne_none_iff]
  cases hfields : d.fields? names with
  | none => exact iff_of_false nofun fun h => h.1 rfl
  | some fields =>
    rw [Option.bind_some, and_iff_right nofun]
    rw [hk fields _ fun name hname => given_of_fields? hfields hname]

theorem bind_fields?_ne_none_iff {α : Type} {k : Fields → Option α}
    (hk : ∀ f g : Fields, (∀ name ∈ names, f name = g name) → k f = k g) :
    (d.fields? names).bind k ≠ none ↔
      IsRecord names d ∧ k (fun name => d.given names name) ≠ none := by
  simp only [Option.ne_none_iff_exists', bind_fields?_eq_some_iff hk, exists_and_left]

section Steps

variable {α β : Type} {x : Option α}

theorem bind_ne_none_iff {f : α → Option β} {P : Prop} (hf : ∀ a, f a ≠ none ↔ P) :
    x.bind f ≠ none ↔ x ≠ none ∧ P := by
  cases x with
  | none => exact iff_of_false (fun h => h rfl) fun h => h.1 rfl
  | some a => exact (hf a).trans (and_iff_right nofun).symm

theorem bind_some_ne_none_iff {f : α → β} : (x.bind fun a => some (f a)) ≠ none ↔ x ≠ none := by
  cases x <;> simp

end Steps

/-! ## Fields -/

/-- Nothing is given for a field, or null. -/
def Left (field : Option Document) : Prop :=
  field = none ∨ field = some .null

/-- A text is given for a field. -/
def IsText (field : Option Document) : Prop :=
  ∃ s, field = some (.string (some s))

namespace Reader

variable {α : Type} {reader : Reader α} {field : Option Document}

theorem text_eq_some_iff {s : String} : text d = some s ↔ d = .string (some s) := by
  cases d <;> simp [text]

theorem required_ne_none_iff :
    required reader field ≠ none ↔ ∃ d, field = some d ∧ reader d ≠ none := by
  cases field <;> simp [required]

theorem optional_eq_some_iff {found : Option α} :
    optional reader field = some found ↔
      Left field ∧ found = none ∨
        ∃ d a, field = some d ∧ d ≠ .null ∧ reader d = some a ∧ found = some a := by
  unfold optional
  split
  · simp [Left, eq_comm]
  · simp [Left, eq_comm]
  · rename_i d hnull
    have hpresent : d ≠ .null := hnull
    rw [Option.map_eq_some_iff]
    constructor
    · rintro ⟨a, ha, rfl⟩
      exact .inr ⟨d, a, rfl, hpresent, ha, rfl⟩
    · rintro (⟨hleft | hleft, -⟩ | ⟨_, a, ⟨⟩, -, ha, rfl⟩)
      · cases hleft
      · exact absurd (Option.some.inj hleft) hpresent
      · exact ⟨a, ha, rfl⟩

theorem optional_ne_none_iff :
    optional reader field ≠ none ↔ Left field ∨ ∃ d, field = some d ∧ reader d ≠ none := by
  rcases field with - | d
  · simp [optional, Left]
  · cases d <;> simp [optional, Left]

theorem orDefault_ne_none_iff {default : α} :
    orDefault default reader field ≠ none ↔
      field = none ∨ ∃ d, field = some d ∧ reader d ≠ none := by
  cases field <;> simp [orDefault]

theorem text_ne_none_iff : (∃ d, field = some d ∧ text d ≠ none) ↔ IsText field := by
  simp only [Option.ne_none_iff_exists', text_eq_some_iff, IsText]
  constructor
  · rintro ⟨d, hfield, s, rfl⟩
    exact ⟨s, hfield⟩
  · rintro ⟨s, hfield⟩
    exact ⟨_, hfield, s, rfl⟩

theorem list_ne_none_iff {item : Reader α} :
    list item d ≠ none ↔ ∃ items, d = .array items ∧ ∀ i ∈ items, item i ≠ none := by
  cases d with
  | array items =>
    simp only [list, Document.array.injEq, exists_eq_left']
    induction items with
    | nil => simp
    | cons first rest ih =>
      rw [List.mapM_cons, List.forall_mem_cons, ← ih]
      cases item first <;> cases rest.mapM item <;> simp
  | null | bool | number | string | object => simp [list]

end Reader

end Json

/-! ## Pods -/

namespace PodObject

variable {d : Document}

/-- What a port is declared with. -/
def portField (name : String) (port : Document) : Option Document :=
  port.given ["name", "containerPort", "protocol"] name

/-- The name of a protocol: a text, or the name of the only member of an object. -/
def protocolName : Document → Option String
  | .string name => name
  | .object [(name, .null)] => name
  | _ => none

/-- A declaration of a port has a number of 16 bits. It may have a name, and a protocol. -/
structure IsPort (d : Document) : Prop where
  record : IsRecord ["name", "containerPort", "protocol"] d
  name : Left (portField "name" d) ∨ IsText (portField "name" d)
  number : ∃ n k, portField "containerPort" d = some (.number n) ∧ n.toNat? = some k ∧
    k < UInt16.size
  protocol : portField "protocol" d = none ∨
    ∃ p, portField "protocol" d = some p ∧ protocolName p ≠ none

/-- A container has a name, and may have a list of ports. -/
structure IsContainer (d : Document) : Prop where
  record : IsRecord ["name", "ports"] d
  name : IsText (d.given ["name", "ports"] "name")
  ports : d.given ["name", "ports"] "ports" = none ∨
    ∃ items, d.given ["name", "ports"] "ports" = some (.array items) ∧ ∀ port ∈ items, IsPort port

/-- The metadata of a pod have its name, and may have its namespace. -/
structure IsMetadata (d : Document) : Prop where
  record : IsRecord ["name", "namespace"] d
  name : IsText (d.given ["name", "namespace"] "name")
  ns : Left (d.given ["name", "namespace"] "namespace") ∨
    IsText (d.given ["name", "namespace"] "namespace")

/-- The specification of a pod may have a list of containers. -/
structure IsSpec (d : Document) : Prop where
  record : IsRecord ["containers"] d
  containers : d.given ["containers"] "containers" = none ∨
    ∃ items, d.given ["containers"] "containers" = some (.array items) ∧
      ∀ container ∈ items, IsContainer container

/-- The status of a pod may have a phase. -/
structure IsStatus (d : Document) : Prop where
  record : IsRecord ["phase"] d
  phase : Left (d.given ["phase"] "phase") ∨ IsText (d.given ["phase"] "phase")

/-- What a part of a pod object is given as. -/
def part (name : String) (object : Document) : Option Document :=
  object.given ["metadata", "spec", "status"] name

/-- A pod object has metadata and a specification, and may have a status. -/
structure IsPod (d : Document) : Prop where
  record : IsRecord ["metadata", "spec", "status"] d
  metadata : ∃ m, part "metadata" d = some m ∧ IsMetadata m
  spec : ∃ m, part "spec" d = some m ∧ IsSpec m
  status : Left (part "status" d) ∨ ∃ m, part "status" d = some m ∧ IsStatus m

theorem port_ne_none_iff :
    Manifest.port d ≠ none ↔ ∃ n k, d = .number n ∧ n.toNat? = some k ∧ k < UInt16.size := by
  cases d with
  | number n => simp [Manifest.port, Reader.natBelow, Option.filter_eq_none_iff]
  | null | bool | string | array | object => simp [Manifest.port, Reader.natBelow]

theorem protocol_ne_none_iff : Manifest.protocol d ≠ none ↔ protocolName d ≠ none := by
  cases d with
  | string name => cases name <;> simp [Manifest.protocol, protocolName]
  | object members =>
    rcases members with - | ⟨⟨name, v⟩, - | ⟨m, rest⟩⟩
    · simp [Manifest.protocol, protocolName]
    · cases v <;> cases name <;> simp [Manifest.protocol, protocolName]
    · simp [Manifest.protocol, protocolName]
  | null | bool | number | array => simp [Manifest.protocol, protocolName]

theorem containerPort_ne_none_iff : Manifest.containerPort d ≠ none ↔ IsPort d := by
  have hread : Manifest.containerPort d ≠ none ↔
      IsRecord ["name", "containerPort", "protocol"] d ∧
        Reader.optional Reader.text (portField "name" d) ≠ none ∧
        Reader.required Manifest.port (portField "containerPort" d) ≠ none ∧
        Reader.orDefault .tcp Manifest.protocol (portField "protocol" d) ≠ none := by
    refine (bind_fields?_ne_none_iff fun f g h => by simp [h]).trans (and_congr_right fun _ => ?_)
    exact bind_ne_none_iff fun _ => bind_ne_none_iff fun _ => bind_some_ne_none_iff
  rw [hread, Reader.optional_ne_none_iff, Reader.required_ne_none_iff,
    Reader.orDefault_ne_none_iff, Reader.text_ne_none_iff]
  simp only [port_ne_none_iff, protocol_ne_none_iff]
  constructor
  · rintro ⟨hrecord, hname, ⟨_, hnumber, n, k, rfl, hn, hk⟩, hprotocol⟩
    exact ⟨hrecord, hname, ⟨n, k, hnumber, hn, hk⟩, hprotocol⟩
  · rintro ⟨hrecord, hname, ⟨n, k, hnumber, hn, hk⟩, hprotocol⟩
    exact ⟨hrecord, hname, ⟨_, hnumber, n, k, rfl, hn, hk⟩, hprotocol⟩

theorem container_ne_none_iff : Manifest.container d ≠ none ↔ IsContainer d := by
  have hread : Manifest.container d ≠ none ↔ IsRecord ["name", "ports"] d ∧
      Reader.required Reader.text (d.given ["name", "ports"] "name") ≠ none ∧
      Reader.orDefault [] (Reader.list Manifest.containerPort)
        (d.given ["name", "ports"] "ports") ≠ none := by
    refine (bind_fields?_ne_none_iff fun f g h => by simp [h]).trans (and_congr_right fun _ => ?_)
    exact bind_ne_none_iff fun _ => bind_some_ne_none_iff
  rw [hread, Reader.required_ne_none_iff, Reader.text_ne_none_iff, Reader.orDefault_ne_none_iff]
  simp only [Reader.list_ne_none_iff, containerPort_ne_none_iff]
  constructor
  · rintro ⟨hrecord, hname, hnone | ⟨_, hports, items, rfl, hitems⟩⟩
    · exact ⟨hrecord, hname, .inl hnone⟩
    · exact ⟨hrecord, hname, .inr ⟨items, hports, hitems⟩⟩
  · rintro ⟨hrecord, hname, hnone | ⟨items, hports, hitems⟩⟩
    · exact ⟨hrecord, hname, .inl hnone⟩
    · exact ⟨hrecord, hname, .inr ⟨_, hports, items, rfl, hitems⟩⟩

theorem metadata_ne_none_iff : Manifest.metadata d ≠ none ↔ IsMetadata d := by
  have hread : Manifest.metadata d ≠ none ↔ IsRecord ["name", "namespace"] d ∧
      Reader.required Reader.text (d.given ["name", "namespace"] "name") ≠ none ∧
      Reader.optional Reader.text (d.given ["name", "namespace"] "namespace") ≠ none := by
    refine (bind_fields?_ne_none_iff fun f g h => by simp [h]).trans (and_congr_right fun _ => ?_)
    exact bind_ne_none_iff fun _ => bind_some_ne_none_iff
  rw [hread, Reader.required_ne_none_iff, Reader.optional_ne_none_iff, Reader.text_ne_none_iff,
    Reader.text_ne_none_iff]
  exact ⟨fun ⟨hrecord, hname, hns⟩ => ⟨hrecord, hname, hns⟩,
    fun ⟨hrecord, hname, hns⟩ => ⟨hrecord, hname, hns⟩⟩

theorem podSpec_ne_none_iff : Manifest.podSpec d ≠ none ↔ IsSpec d := by
  have hread : Manifest.podSpec d ≠ none ↔ IsRecord ["containers"] d ∧
      Reader.orDefault [] (Reader.list Manifest.container)
        (d.given ["containers"] "containers") ≠ none :=
    bind_fields?_ne_none_iff fun f g h => by simp [h]
  rw [hread, Reader.orDefault_ne_none_iff]
  simp only [Reader.list_ne_none_iff, container_ne_none_iff]
  constructor
  · rintro ⟨hrecord, hnone | ⟨_, hcontainers, items, rfl, hitems⟩⟩
    · exact ⟨hrecord, .inl hnone⟩
    · exact ⟨hrecord, .inr ⟨items, hcontainers, hitems⟩⟩
  · rintro ⟨hrecord, hnone | ⟨items, hcontainers, hitems⟩⟩
    · exact ⟨hrecord, .inl hnone⟩
    · exact ⟨hrecord, .inr ⟨_, hcontainers, items, rfl, hitems⟩⟩

theorem podStatus_ne_none_iff : Manifest.podStatus d ≠ none ↔ IsStatus d := by
  have hread : Manifest.podStatus d ≠ none ↔ IsRecord ["phase"] d ∧
      Reader.optional Reader.text (d.given ["phase"] "phase") ≠ none :=
    bind_fields?_ne_none_iff fun f g h => by simp [h]
  rw [hread, Reader.optional_ne_none_iff, Reader.text_ne_none_iff]
  exact ⟨fun ⟨hrecord, hphase⟩ => ⟨hrecord, hphase⟩, fun ⟨hrecord, hphase⟩ => ⟨hrecord, hphase⟩⟩

/-- The objects that are read as pods. -/
theorem pod_ne_none_iff : Manifest.pod d ≠ none ↔ IsPod d := by
  have hread : Manifest.pod d ≠ none ↔ IsRecord ["metadata", "spec", "status"] d ∧
      Reader.required Manifest.metadata (part "metadata" d) ≠ none ∧
      Reader.required Manifest.podSpec (part "spec" d) ≠ none ∧
      Reader.optional Manifest.podStatus (part "status" d) ≠ none := by
    refine (bind_fields?_ne_none_iff fun f g h => by simp [h]).trans (and_congr_right fun _ => ?_)
    exact bind_ne_none_iff fun _ => bind_ne_none_iff fun _ => bind_some_ne_none_iff
  rw [hread, Reader.required_ne_none_iff, Reader.required_ne_none_iff, Reader.optional_ne_none_iff]
  simp only [metadata_ne_none_iff, podSpec_ne_none_iff, podStatus_ne_none_iff]
  exact ⟨fun ⟨hrecord, hmetadata, hspec, hstatus⟩ => ⟨hrecord, hmetadata, hspec, hstatus⟩,
    fun ⟨hrecord, hmetadata, hspec, hstatus⟩ => ⟨hrecord, hmetadata, hspec, hstatus⟩⟩

def metadataText (name : String) (object : Document) : Option String :=
  ((object.given ["metadata", "spec", "status"] "metadata").bind
    (Document.given ["name", "namespace"] name)).bind Reader.text

def reportedPhase (object : Document) : Option String :=
  ((object.given ["metadata", "spec", "status"] "status").bind
    (Document.given ["phase"] "phase")).bind Reader.text

theorem bind_text_of_optional {field : Option Document} {name : Option String}
    (h : Reader.optional Reader.text field = some name) : field.bind Reader.text = name := by
  obtain ⟨rfl | rfl, rfl⟩ | ⟨d, s, rfl, -, hs, rfl⟩ := Reader.optional_eq_some_iff.1 h
  · rfl
  · rfl
  · exact hs

theorem reportedPhase_of_optional {status : Option (Option String)}
    (h : Reader.optional Manifest.podStatus
      (d.given ["metadata", "spec", "status"] "status") = some status) :
    reportedPhase d = status.join := by
  rw [reportedPhase]
  obtain ⟨hgiven | hgiven, rfl⟩ | ⟨given, phase, hgiven, -, hread, rfl⟩ :=
    Reader.optional_eq_some_iff.1 h
  · rw [hgiven]
    rfl
  · rw [hgiven]
    rfl
  · obtain ⟨fields, hfields, hread⟩ := Option.bind_eq_some_iff.1 hread
    rw [given_of_fields? hfields (by simp)] at hread
    rw [hgiven]
    exact bind_text_of_optional hread

/-- A pod object gives the name and the namespace of its pod in its metadata, and the phase in its
status. -/
structure Describes (object : Document) (p : Pod) : Prop where
  name : metadataText "name" object = some p.name
  ns : metadataText "namespace" object = p.ns
  phase : reportedPhase object = p.reportedPhase

theorem describes_of_pod {p : Pod} (h : Manifest.pod d = some p) : Describes d p := by
  obtain ⟨fields, hfields, h⟩ := Option.bind_eq_some_iff.1 h
  obtain ⟨⟨name, given⟩, hmetadata, h⟩ := Option.bind_eq_some_iff.1 h
  obtain ⟨listed, -, h⟩ := Option.bind_eq_some_iff.1 h
  obtain ⟨status, hstatus, h⟩ := Option.bind_eq_some_iff.1 h
  cases h
  rw [given_of_fields? hfields (by simp)] at hmetadata hstatus
  obtain ⟨metadata, hmetadata, hread⟩ := Option.bind_eq_some_iff.1 hmetadata
  obtain ⟨texts, htexts, hread⟩ := Option.bind_eq_some_iff.1 hread
  obtain ⟨title, htitle, hread⟩ := Option.bind_eq_some_iff.1 hread
  obtain ⟨place, hplace, hread⟩ := Option.bind_eq_some_iff.1 hread
  cases hread
  rw [given_of_fields? htexts (by simp)] at htitle hplace
  constructor
  · rw [metadataText, hmetadata]
    exact htitle
  · rw [metadataText, hmetadata, Option.bind_some, bind_text_of_optional hplace]
  · exact reportedPhase_of_optional hstatus

end PodObject

/-! ## Labels -/

namespace OrderedMap

variable {α β : Type} [Ord α] [Std.TransOrd α] [Std.LawfulEqOrd α]

/-- Of entries with one key the last one counts. -/
theorem get?_ofList_eq_some_iff {es : List (α × β)} {k : α} {v : β} :
    (ofList es).get? k = some v ↔
      ∃ before after, es = before ++ (k, v) :: after ∧ ∀ e ∈ after, e.1 ≠ k := by
  induction es using List.reverseRecOn with
  | nil => simp [ofList, get?, empty]
  | append_singleton es e ih =>
    obtain ⟨k', v'⟩ := e
    have hlast : ofList (es ++ [(k', v')]) = (ofList es).insert k' v' := by
      simp [ofList, List.foldl_append]
    rw [hlast, get?_insert]
    split
    · rename_i hsame
      obtain rfl : k = k' := Std.LawfulEqOrd.eq_of_compare hsame
      constructor
      · rintro ⟨⟩
        exact ⟨es, [], rfl, by simp⟩
      · rintro ⟨before, after, hes, hafter⟩
        rcases List.eq_nil_or_concat after with rfl | ⟨front, last, rfl⟩
        · cases (List.append_inj' hes rfl).2
          rfl
        · -- The new entry would be another one.
          rw [List.concat_eq_append, ← List.cons_append, ← List.append_assoc] at hes
          cases (List.append_inj' hes rfl).2
          exact absurd rfl (hafter (k, v') (by simp))
    · rename_i hne
      have hkey : k' ≠ k := by
        rintro rfl
        exact hne Std.ReflCmp.compare_self
      rw [ih]
      constructor
      · rintro ⟨before, after, rfl, hafter⟩
        refine ⟨before, after ++ [(k', v')], by simp, fun other hother => ?_⟩
        rcases List.mem_append.1 hother with hother | hother
        · exact hafter other hother
        · rwa [List.mem_singleton.1 hother]
      · rintro ⟨before, after, hes, hafter⟩
        rcases List.eq_nil_or_concat after with rfl | ⟨front, last, rfl⟩
        · cases (List.append_inj' hes rfl).2
          exact absurd rfl hkey
        · rw [List.concat_eq_append] at hafter
          rw [List.concat_eq_append, ← List.cons_append, ← List.append_assoc] at hes
          exact ⟨before, front, (List.append_inj' hes rfl).1,
            fun other hother => hafter other (List.mem_append_left _ hother)⟩

end OrderedMap

/-- The two kinds of objects that select pods by labels. -/
inductive Holder where
  | workload
  | service

namespace Holder

def name : Holder → String
  | workload => "workload"
  | service => "service"

def reader : Holder → Reader (Option Labels)
  | workload => Manifest.workload
  | service => Manifest.service

end Holder

/-- The specification of an object, which is a record of a selector. -/
structure Specifies (object spec : Document) : Prop where
  whole : IsRecord ["spec"] object
  given : object.given ["spec"] "spec" = some spec
  record : IsRecord ["selector"] spec

/-- The labels that an object gives, in the order in which it gives them: a workload under
`spec.selector.matchLabels`, a service under `spec.selector`. -/
inductive Labelled : Holder → Document → List (String × String) → Prop
  | bare {holder : Holder} {object spec : Document} (hspec : Specifies object spec)
      (hselector : Left (spec.given ["selector"] "selector")) : Labelled holder object []
  | service {object spec : Document} {entries : List (String × String)}
      (hspec : Specifies object spec)
      (hselector : spec.given ["selector"] "selector" = some (.texts entries)) :
      Labelled .service object entries
  | workload {object spec selector : Document} {entries : List (String × String)}
      (hspec : Specifies object spec)
      (hselector : spec.given ["selector"] "selector" = some selector)
      (hrecord : IsRecord ["matchLabels"] selector)
      (hlabels : selector.given ["matchLabels"] "matchLabels" = some (.texts entries)) :
      Labelled .workload object entries
  | unmatched {object spec selector : Document} (hspec : Specifies object spec)
      (hselector : spec.given ["selector"] "selector" = some selector)
      (hrecord : IsRecord ["matchLabels"] selector)
      (hlabels : selector.given ["matchLabels"] "matchLabels" = none) :
      Labelled .workload object []

section Labels

variable {object d : Document} {holder : Holder} {labels : Labels} {found : Option Labels}

theorem mapM_text_eq_some_iff {members : List (Option String × Document)}
    {entries : List (String × String)} :
    (members.mapM fun m => do
      let name ← m.1
      let value ← Reader.text m.2
      return (name, value)) = some entries ↔
      members = entries.map fun e => (some e.1, .string (some e.2)) := by
  induction members generalizing entries with
  | nil =>
    rw [List.mapM_nil]
    cases entries <;> simp
  | cons m members ih =>
    obtain ⟨name, d⟩ := m
    rw [List.mapM_cons]
    constructor
    · intro h
      obtain ⟨first, hread, hrest⟩ := Option.bind_eq_some_iff.1 h
      obtain ⟨rest, hmembers, hboth⟩ := Option.bind_eq_some_iff.1 hrest
      obtain ⟨key, hkey, hfirst⟩ := Option.bind_eq_some_iff.1 hread
      obtain ⟨value, hvalue, hpair⟩ := Option.bind_eq_some_iff.1 hfirst
      obtain rfl : name = some key := hkey
      obtain rfl : d = .string (some value) := Reader.text_eq_some_iff.1 hvalue
      rw [← Option.some.inj hboth, ← Option.some.inj hpair, ih.1 hmembers]
      rfl
    · intro h
      cases entries with
      | nil => cases h
      | cons e entries =>
        obtain ⟨hfirst, hrest⟩ := List.cons_eq_cons.1 h
        cases hfirst
        rw [ih.2 hrest]
        rfl

theorem textMap_eq_some_iff :
    Reader.textMap d = some labels ↔ ∃ entries, d = .texts entries ∧ labels = .ofList entries := by
  cases d with
  | object members =>
    simp only [Document.texts, Document.object.injEq]
    constructor
    · intro h
      obtain ⟨entries, hentries, h⟩ := Option.bind_eq_some_iff.1 h
      exact ⟨entries, mapM_text_eq_some_iff.1 hentries, (Option.some.inj h).symm⟩
    · rintro ⟨entries, hmembers, rfl⟩
      exact Option.bind_eq_some_iff.2 ⟨entries, mapM_text_eq_some_iff.2 hmembers, rfl⟩
  | null | bool | number | string | array => simp [Reader.textMap, Document.texts]

theorem matchLabels_eq_some_iff :
    Manifest.matchLabels d = some labels ↔ IsRecord ["matchLabels"] d ∧
      (d.given ["matchLabels"] "matchLabels" = none ∧ labels = {} ∨
        ∃ entries, d.given ["matchLabels"] "matchLabels" = some (.texts entries) ∧
          labels = .ofList entries) := by
  refine (bind_fields?_eq_some_iff fun f g h => by simp [h]).trans (and_congr_right fun _ => ?_)
  cases hlabels : d.given ["matchLabels"] "matchLabels" with
  | none => simp [Reader.orDefault, hlabels, eq_comm]
  | some d => simp [Reader.orDefault, hlabels, textMap_eq_some_iff]

theorem specSelector_eq_some_iff {selector : Reader Labels} :
    Manifest.specSelector selector object = some found ↔ ∃ spec, Specifies object spec ∧
      Reader.optional selector (spec.given ["selector"] "selector") = some found := by
  constructor
  · intro h
    obtain ⟨fields, hfields, h⟩ := Option.bind_eq_some_iff.1 h
    obtain ⟨inner, hinner, h⟩ := Option.bind_eq_some_iff.1 h
    obtain ⟨spec, hspec, hinner⟩ := Option.bind_eq_some_iff.1 hinner
    rw [given_of_fields? hfields (by simp)] at hspec
    rw [given_of_fields? hinner (by simp)] at h
    exact ⟨spec, ⟨fields?_ne_none_iff.1 (by simp [hfields]), hspec,
      fields?_ne_none_iff.1 (by simp [hinner])⟩, h⟩
  · rintro ⟨spec, ⟨hwhole, hspec, hrecord⟩, h⟩
    obtain ⟨fields, hfields⟩ := Option.ne_none_iff_exists'.1 (fields?_ne_none_iff.2 hwhole)
    obtain ⟨inner, hinner⟩ := Option.ne_none_iff_exists'.1 (fields?_ne_none_iff.2 hrecord)
    rw [← given_of_fields? hfields (by simp)] at hspec
    rw [← given_of_fields? hinner (by simp)] at h
    exact Option.bind_eq_some_iff.2 ⟨fields, hfields, Option.bind_eq_some_iff.2
      ⟨inner, Option.bind_eq_some_iff.2 ⟨spec, hspec, hinner⟩, h⟩⟩

/-- The labels of an object are read as it gives them. -/
theorem reader_eq_some_iff :
    (∃ found, holder.reader object = some found ∧ found.getD {} = labels) ↔
      ∃ entries, Labelled holder object entries ∧ labels = .ofList entries := by
  constructor
  · rintro ⟨found, hread, rfl⟩
    cases holder with
    | workload =>
      obtain ⟨spec, hspec, h⟩ := specSelector_eq_some_iff.1 hread
      obtain ⟨hleft, rfl⟩ | ⟨selector, labels, hselector, -, hlabels, rfl⟩ :=
        Reader.optional_eq_some_iff.1 h
      · exact ⟨[], .bare hspec hleft, rfl⟩
      · obtain ⟨hrecord, ⟨hnone, rfl⟩ | ⟨entries, hgiven, rfl⟩⟩ :=
          matchLabels_eq_some_iff.1 hlabels
        · exact ⟨[], .unmatched hspec hselector hrecord hnone, rfl⟩
        · exact ⟨entries, .workload hspec hselector hrecord hgiven, rfl⟩
    | service =>
      obtain ⟨spec, hspec, h⟩ := specSelector_eq_some_iff.1 hread
      obtain ⟨hleft, rfl⟩ | ⟨selector, labels, hselector, -, hlabels, rfl⟩ :=
        Reader.optional_eq_some_iff.1 h
      · exact ⟨[], .bare hspec hleft, rfl⟩
      · obtain ⟨entries, rfl, rfl⟩ := textMap_eq_some_iff.1 hlabels
        exact ⟨entries, .service hspec hselector, rfl⟩
  · rintro ⟨entries, hlabelled, rfl⟩
    cases hlabelled with
    | bare hspec hleft =>
      have h (selector : Reader Labels) : Manifest.specSelector selector object = some none :=
        specSelector_eq_some_iff.2
          ⟨_, hspec, Reader.optional_eq_some_iff.2 (.inl ⟨hleft, rfl⟩)⟩
      cases holder with
      | workload => exact ⟨none, h _, rfl⟩
      | service => exact ⟨none, h _, rfl⟩
    | service hspec hselector =>
      refine ⟨_, specSelector_eq_some_iff.2 ⟨_, hspec, Reader.optional_eq_some_iff.2
        (.inr ⟨_, _, hselector, nofun, textMap_eq_some_iff.2 ⟨entries, rfl, rfl⟩, rfl⟩)⟩, rfl⟩
    | workload hspec hselector hrecord hlabels =>
      refine ⟨_, specSelector_eq_some_iff.2 ⟨_, hspec, Reader.optional_eq_some_iff.2
        (.inr ⟨_, _, hselector, ?_, matchLabels_eq_some_iff.2
          ⟨hrecord, .inr ⟨entries, hlabels, rfl⟩⟩, rfl⟩)⟩, rfl⟩
      rintro rfl
      cases hrecord
    | unmatched hspec hselector hrecord hlabels =>
      refine ⟨_, specSelector_eq_some_iff.2 ⟨_, hspec, Reader.optional_eq_some_iff.2
        (.inr ⟨_, _, hselector, ?_, matchLabels_eq_some_iff.2
          ⟨hrecord, .inl ⟨hlabels, rfl⟩⟩, rfl⟩)⟩, rfl⟩
      rintro rfl
      cases hrecord

end Labels

end PodTunnels
