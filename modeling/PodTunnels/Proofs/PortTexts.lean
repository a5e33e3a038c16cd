import PodTunnels.Proofs.Chosen
import PodTunnels.Proofs.PortZero
import PodTunnels.Proofs.Readiness

/-!
# Ports in texts

Ports are read back from what is written of them. The display of a tunnel is read as its two ports
(`parsePortMapping_render`). In a list each port stands in decimal between blanks, and blank
segments may stand anywhere (`Lists`); the list is read as its ports, in order
(`parseLocalPorts_of_lists`). And whatever else is accepted, no port is zero
(`inRange_of_parsePortMapping`, `inRange_of_parseLocalPorts`).
-/

namespace PodTunnels

open Text

variable {p near far : UInt16} {ports : List UInt16} {s : String}

/-! ## Blanks around a text -/

theorem Text.dropWhile_blank_append {lead cs : List Char} (hlead : ∀ c ∈ lead, isBlank c = true)
    (hcs : ∀ c ∈ cs.head?, isBlank c = false) : (lead ++ cs).dropWhile isBlank = cs := by
  rw [List.dropWhile_append_of_pos hlead]
  cases cs with
  | nil => rfl
  | cons c cs => exact List.dropWhile_cons_of_neg (by simp [hcs c rfl])

/-- Trimming takes the blanks from both sides of a text without blanks. -/
theorem Text.trimChars_padded {lead cs trail : List Char} (hlead : ∀ c ∈ lead, isBlank c = true)
    (htrail : ∀ c ∈ trail, isBlank c = true) (hcs : ∀ c ∈ cs, isBlank c = false) :
    trimChars (lead ++ cs ++ trail) = cs := by
  have hend : (trail.reverse ++ cs.reverse).dropWhile isBlank = cs.reverse := by
    apply dropWhile_blank_append
    · exact fun c hc => htrail c (List.mem_reverse.1 hc)
    · exact fun c hc => hcs c (List.mem_reverse.1 (List.mem_of_mem_head? hc))
  cases cs with
  | nil =>
    have hblank : ∀ c ∈ lead ++ trail, isBlank c = true :=
      fun c hc => (List.mem_append.1 hc).elim (hlead c) (htrail c)
    rw [trimChars, List.append_nil, List.dropWhile_eq_nil_iff.2 hblank]
    rfl
  | cons first rest =>
    have hstart : (lead ++ (first :: rest ++ trail)).dropWhile isBlank = first :: rest ++ trail :=
      dropWhile_blank_append hlead (by simp [hcs])
    rw [trimChars, List.append_assoc, hstart, List.reverse_append, hend, List.reverse_reverse]

/-! ## Numbers in decimal -/

theorem isDigit_of_mem_renderPort {c : Char} (hc : c ∈ (renderPort p).toList) :
    c.isDigit = true := by
  rw [toList_renderPort] at hc
  exact (digits_toDigits p.toNat).2.1 c hc

theorem not_isBlank_of_mem_renderPort {c : Char} (hc : c ∈ (renderPort p).toList) :
    isBlank c = false :=
  not_isBlank_of_isDecimalDigit (isDecimalDigit_of_isDigit (isDigit_of_mem_renderPort hc))

theorem toList_renderPort_ne_nil (p : UInt16) : (renderPort p).toList ≠ [] := by
  rw [toList_renderPort]
  exact (digits_toDigits p.toNat).1

theorem writesPort_renderPort (h : InRange p) : WritesPort (renderPort p).toList p := by
  rw [toList_renderPort]
  exact ⟨inRange_iff.1 h, .inl (digits_toDigits p.toNat)⟩

theorem WritesPort.inRange {cs : List Char} (h : WritesPort cs p) : InRange p :=
  inRange_iff.2 h.1

/-! ## Mappings -/

/-- The display of a tunnel is read as its ports. -/
theorem parsePortMapping_render {t : Tunnel} (hnear : InRange t.localPort)
    (hfar : InRange t.containerPort) :
    parsePortMapping t.render = .ok (t.localPort, t.containerPort) := by
  have hdisplay : t.render.toList =
      (renderPort t.localPort).toList ++ ':' :: (renderPort t.containerPort).toList := by
    simp [Tunnel.render]
  have hfree : ':' ∉ (renderPort t.localPort).toList :=
    fun hcolon => absurd (isDigit_of_mem_renderPort hcolon) (by decide)
  have htrim (p : UInt16) : trimChars (renderPort p).toList = (renderPort p).toList := by
    simpa using @trimChars_padded [] (renderPort p).toList [] nofun nofun
      fun _ => not_isBlank_of_mem_renderPort
  rw [parsePortMapping_eq_ok_iff, hdisplay, writesMapping_append hfree, htrim, htrim]
  exact ⟨writesPort_renderPort hnear, writesPort_renderPort hfar⟩

theorem inRange_of_parsePortMapping (h : parsePortMapping s = .ok (near, far)) :
    InRange near ∧ InRange far := by
  rcases parsePortMapping_eq_ok_iff.1 h with ⟨_, _, -, -, hnear, hfar⟩ | ⟨-, hport, rfl⟩
  · exact ⟨hnear.inRange, hfar.inRange⟩
  · exact ⟨hport.inRange, hport.inRange⟩

/-! ## Lists -/

/-- Segments list ports: each port stands in decimal in a segment of its own, with blanks around it,
and there may be blank segments anywhere. -/
inductive Lists : List (List Char) → List UInt16 → Prop
  | nil : Lists [] []
  | blank {blanks : List Char} {parts : List (List Char)} {ports : List UInt16}
      (hblanks : ∀ c ∈ blanks, isBlank c = true) (hrest : Lists parts ports) :
      Lists (blanks :: parts) ports
  | port {lead trail : List Char} {p : UInt16} {parts : List (List Char)} {ports : List UInt16}
      (hlead : ∀ c ∈ lead, isBlank c = true) (htrail : ∀ c ∈ trail, isBlank c = true)
      (hrest : Lists parts ports) :
      Lists ((lead ++ (renderPort p).toList ++ trail) :: parts) (p :: ports)

/-- Segments with commas between them. -/
def joined (parts : List (List Char)) : String :=
  ",".intercalate (parts.map String.ofList)

variable {parts : List (List Char)}

theorem Lists.comma_notMem (h : Lists parts ports) : ∀ part ∈ parts, ',' ∉ part := by
  have hblank {cs : List Char} (hcs : ∀ c ∈ cs, isBlank c = true) : ',' ∉ cs :=
    fun hcomma => absurd (hcs ',' hcomma) (by decide)
  induction h with
  | nil => exact fun _ hpart => absurd hpart List.not_mem_nil
  | blank hblanks _ ih => exact List.forall_mem_cons.2 ⟨hblank hblanks, ih⟩
  | port hlead htrail _ ih =>
    refine List.forall_mem_cons.2 ⟨?_, ih⟩
    rw [List.mem_append, List.mem_append, not_or, not_or]
    exact ⟨⟨hblank hlead, fun hcomma => absurd (isDigit_of_mem_renderPort hcomma) (by decide)⟩,
      hblank htrail⟩

/-- Segments without commas are found again, the blank ones left out. -/
theorem segments_joined (h : ∀ part ∈ parts, ',' ∉ part) :
    segments (joined parts) = parts.filter fun part => trimChars part ≠ [] := by
  have hjoined : (joined parts).toList = [','].intercalate parts := by
    rw [joined, String.toList_intercalate, List.map_map]
    simp [Function.comp_def]
  rw [segments, hjoined]
  cases parts with
  | nil => rfl
  | cons part parts => rw [List.splitOn_intercalate ',' h (List.cons_ne_nil _ _)]

/-- A list of ports is read as these ports, in order. -/
theorem parseLocalPorts_of_lists (h : Lists parts ports) (hports : ∀ p ∈ ports, InRange p) :
    parseLocalPorts (joined parts) = .ok ports := by
  rw [parseLocalPorts_eq_ok_iff, segments_joined h.comma_notMem]
  induction h with
  | nil => exact .nil
  | @blank blanks parts ports hblanks _ ih =>
    have htrim : trimChars blanks = [] := by
      simpa using @trimChars_padded blanks [] [] hblanks nofun nofun
    rw [List.filter_cons_of_neg (by simp [htrim])]
    exact ih hports
  | @port lead trail p parts ports hlead htrail _ ih =>
    obtain ⟨hp, hrest⟩ := List.forall_mem_cons.1 hports
    have htrim := trimChars_padded hlead htrail fun _ => not_isBlank_of_mem_renderPort (p := p)
    have hkept := htrim.trans_ne (toList_renderPort_ne_nil p)
    rw [List.filter_cons_of_pos (by simpa using hkept)]
    exact .cons (htrim.symm ▸ writesPort_renderPort hp) (ih hrest)

theorem inRange_of_parseLocalPorts (h : parseLocalPorts s = .ok ports) :
    ∀ p ∈ ports, InRange p := by
  intro p hp
  obtain ⟨segment, -, hwrites⟩ :=
    PodObject.exists_of_forall₂_of_mem (parseLocalPorts_eq_ok_iff.1 h).flip hp
  exact WritesPort.inRange hwrites

/-! ## Both -/

/-- The display of a tunnel is read as its two ports, and a list of ports as these ports in order,
whatever blanks and blank segments it has. No text is read as a port that is out of range. -/
theorem ports_read_back :
    (∀ t : Tunnel, InRange t.localPort → InRange t.containerPort →
        parsePortMapping t.render = .ok (t.localPort, t.containerPort)) ∧
      (∀ parts ports, Lists parts ports → (∀ p ∈ ports, InRange p) →
        parseLocalPorts (joined parts) = .ok ports) ∧
      (∀ s near far, parsePortMapping s = .ok (near, far) → InRange near ∧ InRange far) ∧
      ∀ s ports, parseLocalPorts s = .ok ports → ∀ p ∈ ports, InRange p :=
  ⟨fun _ => parsePortMapping_render, fun _ _ => parseLocalPorts_of_lists,
    fun _ _ _ => inRange_of_parsePortMapping, fun _ _ => inRange_of_parseLocalPorts⟩

/-- Segments with two ports, blanks beside them, and blank segments around them. -/
def paddedParts : List (List Char) :=
  [[], [' '] ++ (renderPort 1).toList ++ [], ['\t'],
    [] ++ (renderPort 65535).toList ++ ['\u3000'], []]

/-- The least and the greatest port, in a mapping and in a list with blanks. -/
theorem padded_ports_read_back :
    parsePortMapping (Tunnel.render ⟨"localhost", 65535, 1, .tcp⟩) = .ok (65535, 1) ∧
      joined paddedParts = ", 1,\t,65535\u3000," ∧
      parseLocalPorts (joined paddedParts) = .ok [1, 65535] ∧
      (InRange 65535 ∧ InRange 1) ∧ ∀ p ∈ [(1 : UInt16), 65535], InRange p := by
  have hone : InRange 1 := inRange_iff.2 (by decide)
  have hlast : InRange 65535 := inRange_iff.2 (by decide)
  have hlists : Lists paddedParts [1, 65535] :=
    .blank nofun (.port (List.forall_mem_singleton.2 rfl) nofun
      (.blank (List.forall_mem_singleton.2 rfl)
        (.port nofun (List.forall_mem_singleton.2 rfl) (.blank nofun .nil))))
  obtain ⟨hmappings, hlist, hnear, hrange⟩ := ports_read_back
  have hmapping := hmappings ⟨"localhost", 65535, 1, .tcp⟩ hlast hone
  have hread := hlist _ _ hlists (by simp [hone, hlast])
  exact ⟨hmapping, by decide +kernel, hread, hnear _ _ _ hmapping, hrange _ _ hread⟩

end PodTunnels
