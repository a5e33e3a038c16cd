import Mathlib.Data.List.Forall2
import Mathlib.Data.List.Perm.Basic
import PodTunnels.Proofs.ByteOrder
import PodTunnels.Proofs.Claims
import PodTunnels.Proofs.Resolution

/-!
# The candidates of a pod object

What a pod object declares is said about the object itself: the containers it lists, the ports of a
container, and the name, the number and the protocol of a port, each with what stands in for it when
it is missing. An object that reads as a pod is read accordingly (`readsPort_of_containerPort`,
`readsContainer_of_container`, `readsContainers_of_pod`). So the candidates of the pod are the
declarations for TCP, one each: container by container in the byte order of the names, and within a
container as declared (`candidates_of_pod_object`).
-/

namespace PodTunnels

open Json

/-! ## Declarations -/

namespace PodObject

def containers (object : Document) : List Document :=
  ((object.given ["metadata", "spec", "status"] "spec").bind
    (Document.given ["containers"] "containers")).elim [] Document.items

def containerName (container : Document) : String :=
  ((container.given ["name", "ports"] "name").bind Reader.text).getD ""

def ports (container : Document) : List Document :=
  (container.given ["name", "ports"] "ports").elim [] Document.items

def portName (port : Document) : Option String :=
  (portField "name" port).bind Reader.text

def portNumber (port : Document) : Nat :=
  ((portField "containerPort" port).bind (Reader.natBelow UInt16.size)).getD 0

/-- Whether a port is declared for TCP, by name or by default. -/
def isTcp (port : Document) : Bool :=
  (portField "protocol" port).all fun d => protocolName d == some "TCP"

/-- The declarations for TCP, each with its container, in the order of the containers. -/
def tcpDeclarations (containers : List Document) : List (Document × Document) :=
  containers.flatMap fun container =>
    ((ports container).filter isTcp).map fun port => (container, port)

structure ReadsPort (port : Document) (q : ContainerPort) : Prop where
  name : q.name = portName port
  number : q.port.toNat = portNumber port
  tcp : q.protocol = .tcp ↔ isTcp port

/-- A container is read as it is listed: its name and its ports. -/
structure ReadsContainer (entry : String × List ContainerPort) (container : Document) : Prop where
  name : entry.1 = containerName container
  each : List.Forall₂ ReadsPort (ports container) entry.2

variable {d : Document}

theorem forall₂_of_mapM {α : Type} {item : Reader α} {R : Document → α → Prop}
    (hitem : ∀ {d a}, item d = some a → R d a) {ds : List Document} {as : List α}
    (h : ds.mapM item = some as) : List.Forall₂ R ds as := by
  induction ds generalizing as with
  | nil =>
    cases h
    exact .nil
  | cons d ds ih =>
    rw [List.mapM_cons] at h
    obtain ⟨a, ha, h⟩ := Option.bind_eq_some_iff.1 h
    obtain ⟨rest, hrest, h⟩ := Option.bind_eq_some_iff.1 h
    cases h
    exact .cons (hitem ha) (ih hrest)

/-- A field for a list is read item by item; without it there are none. -/
theorem forall₂_of_orDefault_list {α : Type} {item : Reader α} {R : Document → α → Prop}
    (hitem : ∀ {d a}, item d = some a → R d a) {field : Option Document} {as : List α}
    (h : Reader.orDefault [] (Reader.list item) field = some as) :
    List.Forall₂ R (field.elim [] Document.items) as := by
  cases field with
  | none =>
    cases h
    exact .nil
  | some d =>
    cases d with
    | array items => exact forall₂_of_mapM hitem h
    | null | bool | number | string | object => cases h

theorem toNat_of_port {n : UInt16} (h : Manifest.port d = some n) :
    Reader.natBelow UInt16.size d = some n.toNat := by
  obtain ⟨k, hk, rfl⟩ := Option.map_eq_some_iff.1 h
  cases d with
  | number =>
    have hbound : k < UInt16.size := by simpa using (Option.filter_eq_some_iff.1 hk).2
    rw [hk, UInt16.toNat_ofNat_of_lt' hbound]
  | null | bool | string | array | object => cases hk

theorem ofName_eq_tcp_iff {name : String} : Protocol.ofName name = .tcp ↔ name = "TCP" := by
  unfold Protocol.ofName
  split_ifs <;> simp_all

theorem eq_tcp_iff_of_protocol {p : Protocol} (h : Manifest.protocol d = some p) :
    p = .tcp ↔ protocolName d = some "TCP" := by
  unfold Manifest.protocol at h
  split at h <;> cases h <;> simp [protocolName, ofName_eq_tcp_iff]

theorem readsPort_of_containerPort {q : ContainerPort} (h : Manifest.containerPort d = some q) :
    ReadsPort d q := by
  obtain ⟨fields, hfields, h⟩ := Option.bind_eq_some_iff.1 h
  obtain ⟨name, hname, h⟩ := Option.bind_eq_some_iff.1 h
  obtain ⟨number, hnumber, h⟩ := Option.bind_eq_some_iff.1 h
  obtain ⟨protocol, hprotocol, h⟩ := Option.bind_eq_some_iff.1 h
  cases h
  rw [given_of_fields? hfields (by simp)] at hname hnumber hprotocol
  constructor
  · exact (bind_text_of_optional hname).symm
  · obtain ⟨given, hgiven, hport⟩ := Option.bind_eq_some_iff.1 hnumber
    rw [portNumber, portField, hgiven, Option.bind_some, toNat_of_port hport, Option.getD_some]
  · rw [isTcp, portField]
    cases hgiven : d.given ["name", "containerPort", "protocol"] "protocol" with
    | none =>
      rw [hgiven] at hprotocol
      cases hprotocol
      simp
    | some given =>
      rw [hgiven] at hprotocol
      rw [Option.all_some, beq_iff_eq]
      exact eq_tcp_iff_of_protocol hprotocol

theorem readsContainer_of_container {c : Container} (h : Manifest.container d = some c) :
    ReadsContainer (c.name, c.ports) d := by
  obtain ⟨fields, hfields, h⟩ := Option.bind_eq_some_iff.1 h
  obtain ⟨name, hname, h⟩ := Option.bind_eq_some_iff.1 h
  obtain ⟨declared, hdeclared, h⟩ := Option.bind_eq_some_iff.1 h
  cases h
  rw [given_of_fields? hfields (by simp)] at hname hdeclared
  constructor
  · exact (congrArg (Option.getD · "") hname).symm
  · exact forall₂_of_orDefault_list readsPort_of_containerPort hdeclared

theorem readsContainers_of_pod {p : Pod} (h : Manifest.pod d = some p) :
    List.Forall₂ ReadsContainer (p.containers.map fun c => (c.name, c.ports)) (containers d) := by
  obtain ⟨fields, hfields, h⟩ := Option.bind_eq_some_iff.1 h
  obtain ⟨⟨name, ns⟩, -, h⟩ := Option.bind_eq_some_iff.1 h
  obtain ⟨listed, hlisted, h⟩ := Option.bind_eq_some_iff.1 h
  obtain ⟨status, -, h⟩ := Option.bind_eq_some_iff.1 h
  cases h
  rw [given_of_fields? hfields (by simp)] at hlisted
  obtain ⟨spec, hspec, hlisted⟩ := Option.bind_eq_some_iff.1 hlisted
  obtain ⟨specFields, hspecFields, hlisted⟩ := Option.bind_eq_some_iff.1 hlisted
  rw [given_of_fields? hspecFields (by simp)] at hlisted
  rw [containers, hspec, Option.bind_some, List.forall₂_map_left_iff]
  exact (forall₂_of_orDefault_list readsContainer_of_container hlisted).flip

/-! ## Candidates -/

/-- Whether a port has no name to show: none is given, or an empty one. -/
def Unnamed (port : Document) : Prop :=
  portName port = none ∨ portName port = some ""

/-- A candidate shows a declaration: as `container/name:number`, or as `container:number` just when
it has no name to show. -/
structure Shows (container port : Document) (c : Candidate) : Prop where
  place : c.container = containerName container
  number : c.port.toNat = portNumber port
  named : ∀ name, portName port = some name → name ≠ "" → c.render =
    containerName container ++ "/" ++ name ++ ":" ++ toString (portNumber port)
  unnamed : c.render = containerName container ++ ":" ++ toString (portNumber port) ↔ Unnamed port

theorem shows_of_readsPort {port : Document} {q : ContainerPort} (h : ReadsPort port q)
    (container : Document) : Shows container port (Candidate.of (containerName container) q) := by
  have hname : (Candidate.of (containerName container) q).name =
      (portName port).filter fun name => !name.isEmpty := by rw [← h.name, Candidate.of]
  have hnumber : renderPort q.port = toString (portNumber port) := congrArg toString h.number
  have hnamed : ∀ name, portName port = some name → name ≠ "" →
      (Candidate.of (containerName container) q).render =
        containerName container ++ "/" ++ name ++ ":" ++ toString (portNumber port) := by
    intro name hgiven hsome
    have hshown : (Candidate.of (containerName container) q).name = some name := by
      simp [hname, hgiven, hsome]
    rw [Candidate.render, hshown, ← hnumber]
    rfl
  refine ⟨rfl, h.number, hnamed, ?_, ?_⟩
  · intro hplain
    by_contra hshown
    obtain ⟨hsome, hnonempty⟩ := not_or.1 hshown
    obtain ⟨name, hgiven⟩ := Option.ne_none_iff_exists'.1 hsome
    have hfull := hnamed name hgiven fun hempty => hnonempty (hempty ▸ hgiven)
    -- The longer form is longer.
    have hlength := congrArg String.length (hplain.symm.trans hfull)
    simp only [String.length_append] at hlength
    have : "/".length = 1 := rfl
    omega
  · intro hunnamed
    have hshown : (Candidate.of (containerName container) q).name = none := by
      rcases hunnamed with hgiven | hgiven <;> simp [hname, hgiven]
    rw [Candidate.render, hshown, ← hnumber]
    rfl

/-- The candidates of a container show its declarations for TCP, one after another. -/
theorem shows_of_readsContainer {entry : String × List ContainerPort} {container : Document}
    (h : ReadsContainer entry container) :
    List.Forall₂ (fun d c => Shows d.1 d.2 c)
      (((ports container).filter isTcp).map fun port => (container, port))
      ((entry.2.filter fun q => q.protocol = .tcp).map (Candidate.of entry.1)) := by
  have hkept : List.Forall₂ ReadsPort ((ports container).filter isTcp)
      (entry.2.filter fun q => q.protocol = .tcp) :=
    List.rel_filter (fun _ _ hreads => hreads.tcp.symm.trans decide_eq_true_iff.symm) h.each
  rw [h.name, List.forall₂_map_left_iff, List.forall₂_map_right_iff]
  exact hkept.imp fun _ _ hreads => shows_of_readsPort hreads container

theorem shows_of_readsContainers {entries : List (String × List ContainerPort)}
    {listed : List Document} (h : List.Forall₂ ReadsContainer entries listed) :
    List.Forall₂ (fun d c => Shows d.1 d.2 c) (tcpDeclarations listed)
      (entries.flatMap fun e =>
        (e.2.filter fun q => q.protocol = .tcp).map (Candidate.of e.1)) :=
  List.rel_flatMap h.flip fun _ _ hreads => shows_of_readsContainer hreads

theorem names_of_readsContainers {entries : List (String × List ContainerPort)}
    {listed : List Document} (h : List.Forall₂ ReadsContainer entries listed) :
    entries.map Prod.fst = listed.map containerName := by
  rw [← List.forall₂_eq_eq_eq, List.forall₂_map_left_iff, List.forall₂_map_right_iff]
  exact h.imp fun _ _ hreads => hreads.name

end PodObject

namespace OrderedMap

variable {α β : Type} [Ord α] [Std.TransOrd α] [Std.LawfulEqOrd α] [DecidableEq α]

/-- Entries with distinct keys are all kept. -/
theorem perm_entries_ofList (es : List (α × β)) (h : (es.map Prod.fst).Nodup) :
    (ofList es).entries.Perm es := by
  induction es using List.reverseRecOn with
  | nil => exact .nil
  | append_singleton es e ih =>
    rw [List.map_append, List.map_singleton, List.nodup_append_comm, List.singleton_append,
      List.nodup_cons] at h
    have hnew : (ofList es).get? e.1 = none := by
      rw [Option.eq_none_iff_forall_ne_some]
      intro v hv
      have hmem : (e.1, v) ∈ es := mem_of_mem_ofList (mem_entries_iff.2 hv)
      exact h.1 (List.mem_map.2 ⟨_, hmem, rfl⟩)
    have hlast : ofList (es ++ [e]) = (ofList es).insert e.1 e.2 := List.foldl_concat ..
    rw [hlast]
    exact (perm_entries_insert hnew).trans
      (((ih h.2).cons e).trans (List.perm_append_singleton e es).symm)

end OrderedMap

namespace PodObject

/-- The candidates of a pod object are its declarations for TCP, in the order of the bytes of the
container names and within a container as declared. -/
theorem candidates_of_pod_object {c : Cluster} {path : ResourcePath} {object : Json} {p : Pod}
    (hobject : c.fetch .pod path = .ok object) (hreads : Manifest.pod object.document = some p)
    (hdistinct : ((containers object.document).map containerName).Nodup) :
    ∃ declared, c.ask (fetchPodPorts path) = (.ok declared, [.fetch .pod path]) ∧
      ∃ ordered, ordered.Perm (containers object.document) ∧
        (ordered.Pairwise fun a b =>
          Text.Utf8.encode (containerName a) < Text.Utf8.encode (containerName b)) ∧
        List.Forall₂ (fun d candidate => Shows d.1 d.2 candidate) (tcpDeclarations ordered)
          (tcpCandidates declared) := by
  have hasked : Inquiry.ComesTo c (fetchPodPorts path) (.ok p.ports) [.fetch .pod path] :=
    (Inquiry.comesTo_fetch hobject).bind
      ((comesTo_readObject hreads).bind (Inquiry.comesTo_pure c p.ports))
  refine ⟨p.ports, hasked.ask, ?_⟩
  have hlisted := readsContainers_of_pod hreads
  obtain ⟨ordered, hordered, hperm⟩ := List.perm_comp_forall₂
    (OrderedMap.perm_entries_ofList _ (names_of_readsContainers hlisted ▸ hdistinct)) hlisted
  refine ⟨ordered, hperm, ?_, shows_of_readsContainers hordered⟩
  have hincreasing : (p.ports.entries.map Prod.fst).Pairwise fun a b => compare a b = .lt :=
    List.pairwise_map.2 p.ports.increasing
  rw [Pod.ports, names_of_readsContainers hordered, List.pairwise_map] at hincreasing
  refine hincreasing.imp fun hlt => ?_
  exact Text.Utf8.encode_lt_encode_iff.2 (compare_lt_iff_lt.1 hlt)

/-- A pod object with three containers. Among the ports of the first one are one of an unknown
protocol and one without a protocol, with an empty name; the second one gives a protocol as an
object; the third one has no ports. -/
def mixedObject : Json :=
  let port (number : Nat) (members : List (String × Json)) : Json :=
    .object (("containerPort", .number (.ofNat number)) :: members)
  .object
    [("metadata", .object [("name", .string "web-0")]),
      ("spec", .object [("containers", .array
        [.object [("name", .string "web"), ("ports", .array
            [port 53 [("name", .string "dns"), ("protocol", .string "UDP")],
              port 443 [("name", .string "h3"), ("protocol", .string "QUIC")],
              port 8080 [("name", .string "")]])],
          .object [("name", .string "proxy"), ("ports", .array
            [port 80 [("name", .string "http"), ("protocol", .object [("TCP", .null)])]])],
          .object [("name", .string "tools")]])])]

/-- The pod that is read from it. -/
def mixedPod : Pod where
  name := "web-0"
  ns := none
  containers :=
    [⟨"web", [⟨some "dns", 53, .udp⟩, ⟨some "h3", 443, .other⟩, ⟨some "", 8080, .tcp⟩]⟩,
      ⟨"proxy", [⟨some "http", 80, .tcp⟩]⟩, ⟨"tools", []⟩]
  reportedPhase := none

/-- A cluster that answers every request for an object with this one. -/
def mixedCluster : Cluster :=
  { Cluster.empty with fetch := fun _ _ => .ok mixedObject }

/-- The second container comes first, and only the two ports for TCP are candidates. -/
theorem mixed_candidates :
    ∃ declared, mixedCluster.ask (fetchPodPorts ⟨"ns", "web-0"⟩) =
        (.ok declared, [.fetch .pod ⟨"ns", "web-0"⟩]) ∧
      (tcpCandidates declared).map Candidate.render = ["proxy/http:80", "web:8080"] ∧
      ∃ ordered, ordered.Perm (containers mixedObject.document) ∧
        List.Forall₂ (fun d candidate => Shows d.1 d.2 candidate) (tcpDeclarations ordered)
          (tcpCandidates declared) := by
  have hreads : Manifest.pod mixedObject.document = some mixedPod := by decide
  obtain ⟨declared, hasked, ordered, hperm, -, hshows⟩ :=
    @candidates_of_pod_object mixedCluster ⟨"ns", "web-0"⟩ mixedObject mixedPod rfl hreads
      (by decide)
  refine ⟨declared, hasked, ?_, ordered, hperm, hshows⟩
  have hdeclared : declared = mixedPod.ports := by
    have hread : mixedCluster.ask (fetchPodPorts ⟨"ns", "web-0"⟩) =
        (.ok mixedPod.ports, [.fetch .pod ⟨"ns", "web-0"⟩]) := rfl
    cases hasked.symm.trans hread
    rfl
  rw [hdeclared]
  decide

end PodObject

end PodTunnels
