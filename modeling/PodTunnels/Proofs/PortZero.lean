import PodTunnels.Proofs.Mappings
import PodTunnels.Proofs.PodObjects

/-!
# Port zero

A port that is read from a text is never zero, but a pod may declare the port zero, and a candidate
is taken as it is declared. So a selection from the start dialog keeps off port zero just when no
chosen candidate has it (`offZero_iff_of_ofCandidates`): its container port is passed on, and its
local port too where no local ports are typed. Mappings have both ports from texts
(`offZero_of_ofMappings`).
-/

namespace PodTunnels

open Text

/-- A port that a listener and a container can have. -/
def InRange (p : UInt16) : Prop :=
  1 ≤ p.toNat ∧ p.toNat ≤ 65535

theorem inRange_iff {p : UInt16} : InRange p ↔ p ≠ 0 := by
  have hsize : p.toNat < 65536 := p.toNat_lt_size
  rw [InRange, ← UInt16.toNat_inj.ne]
  change 1 ≤ p.toNat ∧ p.toNat ≤ 65535 ↔ p.toNat ≠ 0
  omega

namespace Selection

/-- Both ports of every tunnel are in range. -/
def OffZero (s : Selection) : Prop :=
  ∀ t ∈ s.tunnels, InRange t.localPort ∧ InRange t.containerPort

variable {ports : PodPorts} {chosen candidates : List Candidate} {localPorts address : String}
  {locals : List UInt16} {s : Selection}

theorem offZero_iff : s.OffZero ↔ (∀ near ∈ s.tunnels.map Tunnel.localPort, InRange near) ∧
    ∀ far ∈ s.tunnels.map Tunnel.containerPort, InRange far := by
  simp only [OffZero, List.forall_mem_map, forall_and]

/-! ## The start dialog -/

/-- The ports of a selection of candidates, end by end. -/
theorem ports_of_ofCandidates (h : ofCandidates chosen localPorts address = .ok s) :
    LocalPorts chosen localPorts (s.tunnels.map Tunnel.localPort) ∧
      s.tunnels.map Tunnel.containerPort = chosen.map Candidate.port := by
  obtain ⟨-, -, -, locals, hlocals, hcount, htunnels⟩ := ofCandidates_eq_ok_iff.1 h
  have hnear : s.tunnels.map Tunnel.localPort = locals := by
    rw [htunnels, List.map_map]
    exact List.map_snd_zip hcount.le
  have hfar : s.tunnels.map Tunnel.containerPort = chosen.map Candidate.port := by
    rw [htunnels, List.map_map]
    exact (List.map_map (l := chosen.zip locals) (f := Prod.fst) (g := Candidate.port)).symm.trans
      (congrArg _ (List.map_fst_zip hcount.ge))
  exact ⟨hnear ▸ hlocals, hfar⟩

/-- Local ports that are typed are in range. -/
theorem LocalPorts.inRange (h : LocalPorts chosen localPorts locals)
    (htyped : trimChars localPorts.toList ≠ []) : ∀ near ∈ locals, InRange near := by
  rw [LocalPorts, if_neg htyped] at h
  intro near hnear
  obtain ⟨i, hi, rfl⟩ := List.getElem_of_mem hnear
  obtain ⟨hlength, hall⟩ := List.forall₂_iff_get.1 h
  exact inRange_iff.2 (hall i (hlength ▸ hi) hi).1

/-- A selection of candidates keeps off port zero just when none of them has it. -/
theorem offZero_iff_of_ofCandidates (h : ofCandidates chosen localPorts address = .ok s) :
    s.OffZero ↔ ∀ c ∈ chosen, c.port ≠ 0 := by
  obtain ⟨hlocals, hfar⟩ := ports_of_ofCandidates h
  have hdeclared : (∀ far ∈ chosen.map Candidate.port, InRange far) ↔ ∀ c ∈ chosen, c.port ≠ 0 := by
    simp only [List.forall_mem_map, inRange_iff]
  rw [offZero_iff, hfar, hdeclared]
  refine ⟨And.right, fun hnone => ⟨?_, hnone⟩⟩
  by_cases hblank : trimChars localPorts.toList = []
  · rw [LocalPorts, if_pos hblank] at hlocals
    exact hlocals ▸ hdeclared.2 hnone
  · exact hlocals.inRange hblank

/-! ## The command line -/

/-- Mappings never name port zero. -/
theorem offZero_of_ofMappings {mappings : List String} {container : Option String}
    (h : ofMappings ports mappings container address = .ok s) : s.OffZero := by
  intro t ht
  obtain ⟨spec, -, pair, hread, rfl⟩ := tunnelOf_of_ofMappings h t ht
  rw [inRange_iff, inRange_iff]
  rcases parsePortMapping_eq_ok_iff.1 hread with ⟨_, _, -, -, hnear, hfar⟩ | ⟨-, hport, hsame⟩
  · exact ⟨hnear.1, hfar.1⟩
  · exact ⟨hport.1, fun hzero => hport.1 (hsame.trans hzero)⟩

end Selection

/-! ## Decoded pods -/

namespace PodObject

variable {object : Json.Document} {p : Pod} {c : Candidate}

theorem exists_of_forall₂_of_mem {α β : Type} {R : α → β → Prop} {xs : List α} {ys : List β}
    (h : List.Forall₂ R xs ys) {x : α} (hx : x ∈ xs) : ∃ y ∈ ys, R x y := by
  induction h with
  | nil => cases hx
  | cons hfirst _ ih =>
    rcases List.mem_cons.1 hx with rfl | hx
    · exact ⟨_, List.mem_cons_self, hfirst⟩
    · obtain ⟨y, hy, hrel⟩ := ih hx
      exact ⟨y, List.mem_cons_of_mem _ hy, hrel⟩

/-- Every candidate of a pod is a declaration for TCP of its object. -/
theorem exists_declaration_of_candidate (hreads : Manifest.pod object = some p)
    (hc : c ∈ tcpCandidates p.ports) :
    ∃ container ∈ containers object, containerName container = c.container ∧
      ∃ port ∈ ports container, isTcp port ∧ portNumber port = c.port.toNat := by
  obtain ⟨declared, hfound, q, hq, htcp, hof⟩ := mem_tcpCandidates_iff.1 hc
  obtain ⟨c', hc', hname, rfl⟩ := Pod.exists_container_of_ports hfound
  obtain ⟨container, hcontainer, hread⟩ := exists_of_forall₂_of_mem (readsContainers_of_pod hreads)
    (List.mem_map.2 ⟨c', hc', rfl⟩)
  obtain ⟨port, hport, hreadPort⟩ := exists_of_forall₂_of_mem hread.each.flip hq
  have hnumber : q.port = c.port := congrArg Candidate.port hof
  exact ⟨container, hcontainer, hread.name.symm.trans hname, port, hport, hreadPort.tcp.1 htcp,
    hnumber ▸ hreadPort.number.symm⟩

end PodObject

namespace Selection

/-- A single candidate, with nothing typed. -/
theorem exists_selection_of_candidate (c : Candidate) :
    ∃ s, ofCandidates [c] "" "localhost" = .ok s := by
  refine ⟨⟨c.container, _⟩, ofCandidates_eq_ok_iff.2
    ⟨List.cons_ne_nil _ _, by simp, by decide, [c.port], ?_, rfl, rfl⟩⟩
  rw [LocalPorts, if_pos (by decide)]
  rfl

/-- Port zero and pods. For every object that reads as a pod, a selection from its start dialog has
all its ports in range just when none of the chosen candidates is declared with port zero, and its
local ports are in range where they are typed. So every selection has, whatever is chosen and typed,
just when no candidate has port zero, as it is if the object declares port zero for no TCP port.
Selections from mappings have in any case. -/
theorem ports_in_range_iff {object : Json.Document} {p : Pod}
    (hreads : Manifest.pod object = some p) :
    (∀ chosen localPorts address s, (∀ c ∈ chosen, c ∈ tcpCandidates p.ports) →
      ofCandidates chosen localPorts address = .ok s →
        (s.OffZero ↔ ∀ c ∈ chosen, c.port ≠ 0) ∧
        (trimChars localPorts.toList ≠ [] → ∀ t ∈ s.tunnels, InRange t.localPort)) ∧
    ((∀ chosen localPorts address s, (∀ c ∈ chosen, c ∈ tcpCandidates p.ports) →
      ofCandidates chosen localPorts address = .ok s → s.OffZero) ↔
        ∀ c ∈ tcpCandidates p.ports, c.port ≠ 0) ∧
    ((∀ container ∈ PodObject.containers object, ∀ port ∈ PodObject.ports container,
      PodObject.isTcp port → PodObject.portNumber port ≠ 0) →
        ∀ c ∈ tcpCandidates p.ports, c.port ≠ 0) ∧
    ∀ mappings container address s,
      ofMappings p.ports mappings container address = .ok s → s.OffZero := by
  refine ⟨?_, ⟨?_, ?_⟩, ?_, ?_⟩
  · intro chosen localPorts address s _ hmade
    refine ⟨offZero_iff_of_ofCandidates hmade, ?_⟩
    intro htyped
    exact List.forall_mem_map.1 ((ports_of_ofCandidates hmade).1.inRange htyped)
  · intro hall c hc
    obtain ⟨s, hmade⟩ := exists_selection_of_candidate c
    have hoff := hall [c] "" "localhost" s (by simpa using hc) hmade
    exact (offZero_iff_of_ofCandidates hmade).1 hoff c List.mem_cons_self
  · intro hnone chosen localPorts address s hchosen hmade
    exact (offZero_iff_of_ofCandidates hmade).2 fun c hc => hnone c (hchosen c hc)
  · intro hdeclared c hc hzero
    obtain ⟨container, hcontainer, -, port, hport, htcp, hnumber⟩ :=
      PodObject.exists_declaration_of_candidate hreads hc
    exact hdeclared container hcontainer port hport htcp (by rw [hnumber, hzero]; rfl)
  · intro mappings container address s hmade
    exact offZero_of_ofMappings hmade

/-- The selections of a pod that declares a port for UDP and two for TCP, none of them zero. -/
theorem proxied_ports_in_range :
    Manifest.pod proxiedObject = some proxiedPod ∧
      ∀ chosen localPorts address s, (∀ c ∈ chosen, c ∈ tcpCandidates proxiedPod.ports) →
        ofCandidates chosen localPorts address = .ok s → s.OffZero := by
  have hreads : Manifest.pod proxiedObject = some proxiedPod := by decide
  exact ⟨hreads, (ports_in_range_iff hreads).2.1.2 (by decide)⟩

/-- An object that reads as a pod and declares port zero. -/
def zeroObject : Json.Document :=
  .object
    [(some "metadata", .object [(some "name", .string "web-0"), (some "namespace", .string "ns")]),
      (some "spec", .object [(some "containers", .array [.object
        [(some "name", .string "app"), (some "ports", .array [.object
          [(some "containerPort", .number (.ofNat 0))]])]])])]

/-- The declared port zero is forwarded, and with nothing typed it is the local port as well; typed
for the local port it is refused. -/
theorem zero_port_is_forwarded :
    ∃ p, Manifest.pod zeroObject = some p ∧ tcpCandidates p.ports = [⟨"app", none, 0⟩] ∧
      ofCandidates [⟨"app", none, 0⟩] "20930" "127.21.230.7" =
        .ok ⟨"app", [⟨"127.21.230.7", 20930, 0, .tcp⟩]⟩ ∧
      ofCandidates [⟨"app", none, 0⟩] "" "127.21.230.7" =
        .ok ⟨"app", [⟨"127.21.230.7", 0, 0, .tcp⟩]⟩ ∧
      ofCandidates [⟨"app", none, 0⟩] "0" "127.21.230.7" =
        .error (.invalidPorts (.notAPort "0")) ∧
      ¬ ∀ chosen localPorts address s, (∀ c ∈ chosen, c ∈ tcpCandidates p.ports) →
        ofCandidates chosen localPorts address = .ok s → s.OffZero := by
  have htyped : ofCandidates [⟨"app", none, 0⟩] "20930" "127.21.230.7" =
      .ok ⟨"app", [⟨"127.21.230.7", 20930, 0, .tcp⟩]⟩ := by decide +kernel
  refine ⟨⟨"web-0", some "ns", [⟨"app", [⟨none, 0, .tcp⟩]⟩], none⟩, by decide, by decide, htyped,
    by decide +kernel, by decide +kernel, ?_⟩
  intro hall
  have hoff := hall [⟨"app", none, 0⟩] "20930" "127.21.230.7" _ (by decide) htyped
  exact absurd (hoff _ List.mem_cons_self).2 (inRange_iff.not.2 (by decide))

end Selection

end PodTunnels
