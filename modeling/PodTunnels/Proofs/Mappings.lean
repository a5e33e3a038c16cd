import PodTunnels.Proofs.Declared
import PodTunnels.Proofs.Numeral
import Mathlib.Data.List.Perm.Basic

/-!
# Mappings and their container

On the command line a selection is made of mappings, which do not name their container. The first
mapping decides it: among the containers that declare its remote port for TCP it is the first in
the order of names (`PodPorts.isOwner_of_find?`), and it has to declare the other remote ports too
(`ofMappingsFrom_known`). A container that declares all of them but comes later is not considered,
so the order of the mappings decides whether there is a selection, unless the container is given
(`ofMappings_eq_ok_iff`, `overlapping_order_matters`).
-/

namespace PodTunnels

namespace PodPorts

/-- A container declares a port for TCP. -/
def DeclaresTcp (ports : PodPorts) (name : String) (port : UInt16) : Prop :=
  ∃ declared, ports.get? name = some declared ∧ ∃ q ∈ declared, q.port = port ∧ q.protocol = .tcp

/-- The container that mappings are for: the one that is given, and otherwise the first in the order
of names that declares the remote port of the first mapping. -/
def IsOwner (ports : PodPorts) (given : Option String) (port : UInt16) (name : String) : Prop :=
  match given with
  | some container => name = container
  | none => ports.DeclaresTcp name port ∧
      ∀ other, ports.DeclaresTcp other port → (compare name other).isLE

variable {ports : PodPorts} {name : String} {port : UInt16}

theorem declaresTcp_iff :
    ports.DeclaresTcp name port ↔ ∃ c ∈ tcpCandidates ports, c.container = name ∧ c.port = port := by
  constructor
  · rintro ⟨declared, hfound, q, hq, rfl, htcp⟩
    exact ⟨.of name q, mem_tcpCandidates_iff.2 ⟨declared, hfound, q, hq, htcp, rfl⟩, rfl, rfl⟩
  · rintro ⟨c, hc, rfl, rfl⟩
    obtain ⟨declared, hfound, q, hq, htcp, hof⟩ := mem_tcpCandidates_iff.1 hc
    exact ⟨declared, hfound, q, hq, congrArg Candidate.port hof, htcp⟩

/-- Candidates come in the order of their containers. -/
theorem pairwise_tcpCandidates (ports : PodPorts) :
    (tcpCandidates ports).Pairwise fun a b => (compare a.container b.container).isLE := by
  have hcontainer : ∀ e : String × List ContainerPort, ∀ c ∈ (e.2.filter fun p =>
      decide (p.protocol = .tcp)).map (Candidate.of e.1), c.container = e.1 := by
    intro e c hc
    obtain ⟨q, -, rfl⟩ := List.mem_map.1 hc
    rfl
  refine List.pairwise_flatMap.2 ⟨?_, ?_⟩
  · intro e _
    refine List.pairwise_of_forall_mem_list ?_
    intro a ha b hb
    rw [hcontainer e a ha, hcontainer e b hb]
    exact Std.ReflCmp.isLE_rfl
  · refine ports.increasing.imp ?_
    intro e e' hlt a ha b hb
    rw [hcontainer e a ha, hcontainer e' b hb, hlt]
    rfl

/-- The first candidate with a port is one of the first container that declares the port. -/
theorem isOwner_of_find? {c : Candidate}
    (h : (tcpCandidates ports).find? (fun c => c.port == port) = some c) :
    ports.IsOwner none port c.container := by
  have hport : c.port = port := by simpa using List.find?_some h
  refine ⟨declaresTcp_iff.2 ⟨c, List.mem_of_find?_eq_some h, rfl, hport⟩, ?_⟩
  intro other hother
  obtain ⟨c', hc', rfl, hport'⟩ := declaresTcp_iff.1 hother
  obtain ⟨-, before, after, hsplit, hbefore⟩ := List.find?_eq_some_iff_append.1 h
  have hordered := pairwise_tcpCandidates ports
  rw [hsplit] at hc' hordered
  obtain hearly | rfl | hlate : c' ∈ before ∨ c' = c ∨ c' ∈ after := by simpa using hc'
  · simpa [hport'] using hbefore c' hearly
  · exact Std.ReflCmp.isLE_rfl
  · exact List.rel_of_pairwise_cons (List.pairwise_append.1 hordered).2.1 hlate

theorem find?_of_isOwner (h : ports.IsOwner none port name) :
    ∃ c, (tcpCandidates ports).find? (fun c => c.port == port) = some c ∧ c.container = name := by
  obtain ⟨hdeclares, hleast⟩ := h
  obtain ⟨c', hc', -, hport⟩ := declaresTcp_iff.1 hdeclares
  cases hfound : (tcpCandidates ports).find? fun c => c.port == port with
  | none => simpa [hport] using List.find?_eq_none.1 hfound c' hc'
  | some c =>
    obtain ⟨hdeclares', hleast'⟩ := isOwner_of_find? hfound
    have hequal := Std.OrientedCmp.isLE_antisymm (hleast' name hdeclares) (hleast _ hdeclares')
    exact ⟨c, rfl, Std.LawfulEqCmp.eq_of_compare hequal⟩

end PodPorts

/-! ## Selections -/

namespace Selection

open PodPorts

/-- Texts write mappings, each of a local port and a remote one. -/
abbrev WritesMappings (specs : List String) (pairs : List (UInt16 × UInt16)) : Prop :=
  List.Forall₂ (fun spec pair => WritesMapping spec.toList pair.1 pair.2) specs pairs

variable {ports : PodPorts} {candidates : List Candidate} {address : String}
  {container owner last : Option String} {spec name : String} {specs : List String}
  {pair : UInt16 × UInt16} {pairs : List (UInt16 × UInt16)} {tunnels : List Tunnel} {s : Selection}

theorem fits_none (port : UInt16) : fits none port = fun c => c.port == port := by
  funext c
  simp [fits]

theorem fits_some_iff {port : UInt16} {c : Candidate} :
    fits (some name) port c = true ↔ c.container = name ∧ c.port = port := by
  rw [fits, Option.all_some, Bool.and_eq_true, beq_iff_eq, beq_iff_eq, and_comm, eq_comm]

/-- A written mapping takes the first candidate that fits. -/
theorem ofMappingsFrom_cons (h : WritesMapping spec.toList pair.1 pair.2) :
    ofMappingsFrom candidates address owner (spec :: specs) = .ok (last, tunnels) ↔
      ∃ c, candidates.find? (fits owner pair.2) = some c ∧
        ∃ rest, ofMappingsFrom candidates address (some (owner.getD c.container)) specs =
            .ok (last, rest) ∧ tunnels = tunnelOf address pair :: rest := by
  simp [ofMappingsFrom_cons_eq_ok_iff, parsePortMapping_eq_ok_iff.2 h]

/-- Once the container is known, it has to have every port. By induction on the mappings. -/
theorem ofMappingsFrom_known (h : WritesMappings specs pairs) :
    ofMappingsFrom candidates address (some name) specs = .ok (last, tunnels) ↔
      last = some name ∧
        (∀ pair ∈ pairs, ∃ c ∈ candidates, c.container = name ∧ c.port = pair.2) ∧
        tunnels = pairs.map (tunnelOf address) := by
  induction h generalizing tunnels with
  | nil => simp [ofMappingsFrom, eq_comm]
  | @cons spec pair specs pairs hpair hpairs ih =>
    simp only [ofMappingsFrom_cons hpair, ih, Option.getD_some, List.forall_mem_cons, List.map_cons]
    constructor
    · rintro ⟨c, hfound, rest, ⟨rfl, hall, rfl⟩, rfl⟩
      have hc := fits_some_iff.1 (List.find?_some hfound)
      exact ⟨rfl, ⟨⟨c, List.mem_of_find?_eq_some hfound, hc⟩, hall⟩, rfl⟩
    · rintro ⟨rfl, ⟨⟨c', hc', hfits⟩, hall⟩, rfl⟩
      obtain ⟨c, hfound⟩ := Option.isSome_iff_exists.1
        (List.find?_isSome.2 ⟨c', hc', fits_some_iff.2 hfits⟩)
      exact ⟨c, hfound, _, ⟨rfl, hall, rfl⟩, rfl⟩

/-- When mappings make a selection, and which one: its container is the one that mappings with this
first remote port are for, it declares every remote port, and the tunnels are the mappings. -/
theorem ofMappings_eq_ok_iff (h : WritesMappings (spec :: specs) (pair :: pairs)) :
    ofMappings ports (spec :: specs) container address = .ok s ↔
      ports.IsOwner container pair.2 s.container ∧
        (∀ q ∈ pair :: pairs, ports.DeclaresTcp s.container q.2) ∧
        s.tunnels = (pair :: pairs).map (tunnelOf address) := by
  have hmade : ofMappings ports (spec :: specs) container address = .ok s ↔
      ofMappingsFrom ((tcpCandidates ports).filter fun c => container.all fun name =>
        c.container == name) address container (spec :: specs) =
          .ok (some s.container, s.tunnels) := by
    simp only [ofMappings, bind_eq_ok_iff]
    constructor
    · rintro ⟨⟨owner, tunnels⟩, hmapped, hnamed⟩
      cases owner with
      | none => cases hnamed
      | some name =>
        cases hnamed
        exact hmapped
    · intro hmapped
      exact ⟨(some s.container, s.tunnels), hmapped, rfl⟩
  rw [hmade]
  cases container with
  | some name =>
    have hdeclares (q : UInt16 × UInt16) : ports.DeclaresTcp name q.2 ↔
        ∃ c ∈ (tcpCandidates ports).filter (fun c => (some name).all fun name =>
          c.container == name), c.container = name ∧ c.port = q.2 := by
      simp [declaresTcp_iff, and_assoc]
    rw [ofMappingsFrom_known h, Option.some.injEq]
    constructor
    · rintro ⟨rfl, hall, htunnels⟩
      exact ⟨rfl, fun q hq => (hdeclares q).2 (hall q hq), htunnels⟩
    · rintro ⟨rfl, hall, htunnels⟩
      exact ⟨rfl, fun q hq => (hdeclares q).1 (hall q hq), htunnels⟩
  | none =>
    obtain ⟨hpair, hpairs⟩ := List.forall₂_cons.1 h
    have hall : (tcpCandidates ports).filter (fun c => (none : Option String).all fun name =>
        c.container == name) = tcpCandidates ports := List.filter_eq_self.2 fun _ _ => rfl
    simp only [hall, ofMappingsFrom_cons hpair, fits_none, ofMappingsFrom_known hpairs,
      Option.getD_none, Option.some.injEq, ← declaresTcp_iff, List.forall_mem_cons, List.map_cons]
    constructor
    · rintro ⟨c, hfound, rest, ⟨hcontainer, hrest, rfl⟩, htunnels⟩
      have howner := isOwner_of_find? hfound
      rw [← hcontainer] at howner hrest
      exact ⟨howner, ⟨howner.1, hrest⟩, htunnels⟩
    · rintro ⟨howner, ⟨-, hrest⟩, htunnels⟩
      obtain ⟨c, hfound, hcontainer⟩ := find?_of_isOwner howner
      rw [← hcontainer] at hrest
      exact ⟨c, hfound, _, ⟨hcontainer.symm, hrest, rfl⟩, htunnels⟩

/-- Mappings make a selection just when the container that they are for declares every remote port.
Another order of them changes nothing where the container is given or the first one stays. -/
theorem selection_of_mappings (h : WritesMappings (spec :: specs) (pair :: pairs)) :
    (∀ s, ofMappings ports (spec :: specs) container address = .ok s ↔
      ports.IsOwner container pair.2 s.container ∧
        (∀ q ∈ pair :: pairs, ports.DeclaresTcp s.container q.2) ∧
        s.tunnels = (pair :: pairs).map (tunnelOf address)) ∧
    ∀ reordered : List String, reordered.Perm (spec :: specs) →
      (container = none → reordered.head? = some spec) →
      (∃ s, ofMappings ports (spec :: specs) container address = .ok s) →
        ∃ s, ofMappings ports reordered container address = .ok s := by
  refine ⟨fun s => ofMappings_eq_ok_iff h, ?_⟩
  rintro reordered hperm hfirst ⟨s, hmade⟩
  obtain ⟨howner, hdeclares, -⟩ := (ofMappings_eq_ok_iff h).1 hmade
  obtain ⟨reorderedPairs, h', hperm'⟩ := List.perm_comp_forall₂ hperm h
  cases h' with
  | nil => exact absurd hperm'.length_eq (by simp)
  | @cons spec' pair' specs' pairs' hpair' hpairs' =>
    have howner' : ports.IsOwner container pair'.2 s.container := by
      cases container with
      | some name => exact howner
      | none =>
        cases hfirst rfl
        have hread : parsePortMapping spec = .ok pair :=
          parsePortMapping_eq_ok_iff.2 (List.forall₂_cons.1 h).1
        have hsame : pair = pair' :=
          Except.ok.inj (hread.symm.trans (parsePortMapping_eq_ok_iff.2 hpair'))
        exact hsame ▸ howner
    exact ⟨⟨s.container, (pair' :: pairs').map (tunnelOf address)⟩,
      (ofMappings_eq_ok_iff (.cons hpair' hpairs')).2
        ⟨howner', fun q hq => hdeclares q (hperm'.mem_iff.1 hq), rfl⟩⟩

/-- Two containers declare the same TCP port, and one of them another port as well. -/
def overlappingPorts : PodPorts :=
  .ofList [("app", [⟨none, 8080, .tcp⟩]), ("web", [⟨none, 8080, .tcp⟩, ⟨none, 9000, .tcp⟩])]

/-- The container that declares both ports is found when the other port comes first, and the mappings
after the first may change places. -/
theorem overlapping_selection :
    WritesMappings ["9000", "80:8080", "9001:9000"] [(9000, 9000), (80, 8080), (9001, 9000)] ∧
      overlappingPorts.IsOwner none 9000 "web" ∧
      ∃ s, ofMappings overlappingPorts ["9000", "9001:9000", "80:8080"] none "localhost" = .ok s := by
  have hwrites : WritesMappings ["9000", "80:8080", "9001:9000"]
      [(9000, 9000), (80, 8080), (9001, 9000)] := by
    have hread {spec : String} {pair : UInt16 × UInt16} (h : parsePortMapping spec = .ok pair) :
        WritesMapping spec.toList pair.1 pair.2 := parsePortMapping_eq_ok_iff.1 h
    exact .cons (hread (by decide +kernel)) (.cons (hread (by decide +kernel))
      (.cons (hread (by decide +kernel)) .nil))
  have hmade : ofMappings overlappingPorts ["9000", "80:8080", "9001:9000"] none "localhost" =
      .ok ⟨"web", [⟨"localhost", 9000, 9000, .tcp⟩, ⟨"localhost", 80, 8080, .tcp⟩,
        ⟨"localhost", 9001, 9000, .tcp⟩]⟩ := by decide +kernel
  obtain ⟨hwhen, hreordered⟩ :=
    @selection_of_mappings overlappingPorts "localhost" none _ _ _ _ hwrites
  exact ⟨hwrites, ((hwhen _).1 hmade).1,
    hreordered _ (.cons _ (.swap _ _ _)) (fun _ => rfl) ⟨_, hmade⟩⟩

/-- One container declares both ports, and yet the selection fails in one order of the mappings and
succeeds in the other. -/
theorem overlapping_order_matters :
    overlappingPorts.DeclaresTcp "web" 8080 ∧ overlappingPorts.DeclaresTcp "web" 9000 ∧
      ofMappings overlappingPorts ["8080", "9000"] none "localhost" = .error (.undeclared 9000) ∧
      ofMappings overlappingPorts ["9000", "8080"] none "localhost" =
        .ok ⟨"web", [⟨"localhost", 9000, 9000, .tcp⟩, ⟨"localhost", 8080, 8080, .tcp⟩]⟩ := by
  refine ⟨?_, ?_, ?_, ?_⟩
  · exact ⟨_, rfl, ⟨none, 8080, .tcp⟩, by decide, rfl, rfl⟩
  · exact ⟨_, rfl, ⟨none, 9000, .tcp⟩, by decide, rfl, rfl⟩
  · decide +kernel
  · decide +kernel

end Selection

end PodTunnels
