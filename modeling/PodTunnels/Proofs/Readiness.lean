import PodTunnels.Kubectl.PortForward
import PodTunnels.Proofs.Cutting
import PodTunnels.Proofs.Numeral
import Mathlib.Data.List.TakeWhile

/-!
# When a forward is ready

A line announces a port when it begins with `Forwarding from A:P -> R` (`Announces`); the reader of
announcements finds just these (`announcedPort?_eq_some_iff`). The ports of a forward are announced
by some lines when each of them is by one (`Announced`), and a line that is read leaves those to be
announced that it does not announce itself (`announced_cons_iff`).

So a forward becomes ready exactly if some first lines of its output announce its ports, and then it
has read the fewest that do (`ready_iff_announced`).
-/

namespace PodTunnels

namespace Text

variable {c : Char}

/-! ## Digits and blanks -/

theorem inRanges_iff {ranges : List (Nat × Nat)} {n : Nat} :
    inRanges ranges n = true ↔ ∃ r ∈ ranges, r.1 ≤ n ∧ n ≤ r.2 := by
  simp [inRanges]

/-- A character is in one table of ranges only, if no two ranges of them meet. -/
theorem not_among_of_apart {ranges ranges' : List (Nat × Nat)}
    (hapart : ∀ r ∈ ranges, ∀ r' ∈ ranges', r.2 < r'.1 ∨ r'.2 < r.1)
    (h : among ranges c = true) : among ranges' c = false := by
  rw [Bool.eq_false_iff]
  intro h'
  obtain ⟨r, hr, hlow, hhigh⟩ := inRanges_iff.1 h
  obtain ⟨r', hr', hlow', hhigh'⟩ := inRanges_iff.1 h'
  have hmeet := hapart r hr r' hr'
  omega

theorem not_isBlank_of_isDecimalDigit (h : isDecimalDigit c = true) : isBlank c = false :=
  not_among_of_apart (by decide) h

theorem isDecimalDigit_of_isDigit (h : c.isDigit = true) : isDecimalDigit c = true := by
  have hbounds : 0x30 ≤ c.toNat ∧ c.toNat ≤ 0x39 := by
    simpa [Char.isDigit, UInt32.le_iff_toNat_le] using h
  exact inRanges_iff.2 ⟨(0x30, 0x39), List.mem_cons_self, hbounds⟩

theorem dropLead_eq_some_iff {lead cs rest : List Char} :
    dropLead lead cs = some rest ↔ cs = lead ++ rest := by
  unfold dropLead
  constructor
  · intro h
    split at h
    · rename_i hlead
      obtain ⟨rest', rfl⟩ := List.isPrefixOf_iff_prefix.1 hlead
      simpa using h
    · cases h
  · rintro rfl
    simp

theorem Utf8.decode_of_decode? {bytes : List UInt8} {text : String}
    (h : Utf8.decode? bytes = some text) : Utf8.decode bytes = .ok text := by
  rw [Utf8.decode?] at h
  cases hread : Utf8.decode bytes with
  | error fault => simp [hread, Except.toOption] at h
  | ok text' => simpa [hread, Except.toOption] using h

end Text

namespace Kubectl

open Text

/-! ## Announcements -/

/-- A line begins with `Forwarding from A:P -> R`, where no character of `A` is blank, and `P` and
`R` are decimal digits of any script. -/
structure Announcement (line address near far rest : List Char) : Prop where
  reads : line = "Forwarding from ".toList ++ (address ++ ':' :: near) ++ " -> ".toList ++ far ++ rest
  address : address ≠ [] ∧ ∀ c ∈ address, isBlank c = false
  near : near ≠ [] ∧ ∀ c ∈ near, isDecimalDigit c = true
  far : far ≠ [] ∧ ∀ c ∈ far, isDecimalDigit c = true

/-- A line announces a port: it begins with an announcement where `P` writes the port. -/
def Announces (line : String) (port : UInt16) : Prop :=
  ∃ address near far rest, Announcement line.toList address near far rest ∧ Digits near port.toNat

/-- Behind the address and a colon, the port is all the digits at the end. -/
theorem boundPort?_eq_some_iff {bound near : List Char} :
    boundPort? bound = some near ↔
      ∃ address, bound = address ++ ':' :: near ∧ address ≠ [] ∧ near ≠ [] ∧
        ∀ c ∈ near, isDecimalDigit c = true := by
  constructor
  · intro h
    simp only [boundPort?] at h
    have hcut := List.prefix_iff_eq_append.1
      (List.takeWhile_prefix isDecimalDigit (l := bound.reverse))
    split at h
    · rename_i last others hbefore
      split at h
      · cases h
      · rename_i hnear
        cases h
        rw [← List.length_reverse, hbefore] at hcut
        refine ⟨(last :: others).reverse, ?_, by simp, by simpa using hnear, fun c hc => ?_⟩
        · simpa using congrArg List.reverse hcut.symm
        · exact List.mem_takeWhile_imp (List.mem_reverse.1 hc)
    · cases h
  · rintro ⟨address, rfl, haddress, hnear, hdigits⟩
    have hport : (address ++ ':' :: near).reverse.takeWhile isDecimalDigit = near.reverse := by
      have hreverse : (address ++ ':' :: near).reverse = near.reverse ++ ':' :: address.reverse := by
        simp
      rw [hreverse, List.takeWhile_append_of_pos (by simpa using hdigits),
        List.takeWhile_cons_of_neg (by decide), List.append_nil]
    have hbefore : (address ++ ':' :: near).reverse.drop near.length = ':' :: address.reverse := by
      simp
    obtain ⟨last, others, hreverse⟩ :=
      List.exists_cons_of_ne_nil (mt List.reverse_eq_nil_iff.1 haddress)
    rw [hreverse] at hbefore
    simp only [boundPort?, hport, List.reverse_reverse, hbefore]
    simp [hnear]

/-- The part `A:P` of an announcement ends at the first blank. -/
theorem takeWhile_announcement {address near : List Char}
    (haddress : ∀ c ∈ address, isBlank c = false) (hnear : ∀ c ∈ near, isDecimalDigit c = true)
    (after : List Char) :
    (address ++ ':' :: near ++ (" -> ".toList ++ after)).takeWhile (fun c => !isBlank c) =
      address ++ ':' :: near := by
  have hcolon : isBlank ':' = false := by decide
  have harrow : " -> ".toList = ' ' :: "-> ".toList := by decide
  have hrun : ∀ c ∈ address ++ ':' :: near, (!isBlank c) = true := by
    simp only [List.mem_append, List.mem_cons, Bool.not_eq_true']
    rintro c (hc | rfl | hc)
    · exact haddress c hc
    · exact hcolon
    · exact not_isBlank_of_isDecimalDigit (hnear c hc)
  rw [List.takeWhile_append_of_pos hrun, harrow, List.cons_append,
    List.takeWhile_cons_of_neg (by decide), List.append_nil]

/-- What is read from a line is the port of its announcement. -/
theorem announcedText?_eq_some_iff {line near : List Char} :
    announcedText? line = some near ↔
      ∃ address far rest, Announcement line address near far rest := by
  simp only [announcedText?, Option.bind_eq_bind, Option.bind_eq_some_iff, dropLead_eq_some_iff]
  constructor
  · rintro ⟨behind, rfl, after, hafter, h⟩
    split at h
    · rename_i hleads
      obtain ⟨address, hbound, haddress, hnear⟩ := boundPort?_eq_some_iff.1 h
      have hbehind := List.prefix_iff_eq_append.1
        (List.takeWhile_prefix (fun c => !isBlank c) (l := behind))
      rw [hafter, hbound] at hbehind
      have hrun : ∀ c ∈ address ++ ':' :: near, isBlank c = false := by
        intro c hc
        rw [← hbound] at hc
        simpa using List.mem_takeWhile_imp hc
      cases after with
      | nil => cases hleads
      | cons digit rest =>
        refine ⟨address, [digit], rest, ?_, ⟨haddress, fun c hc => ?_⟩, hnear, by simp,
          by simpa using hleads⟩
        · simp [← hbehind]
        · exact hrun c (List.mem_append_left _ hc)
    · cases h
  · rintro ⟨address, far, rest, rfl, ⟨hsome, haddress⟩, ⟨hnear, hdigits⟩, hfar, hfars⟩
    have hbound := takeWhile_announcement haddress hdigits (far ++ rest)
    have hleads : (far ++ rest).head?.any isDecimalDigit = true := by
      obtain ⟨digit, far, rfl⟩ := List.exists_cons_of_ne_nil hfar
      simpa using hfars digit List.mem_cons_self
    refine ⟨address ++ ':' :: near ++ (" -> ".toList ++ (far ++ rest)), ?_, far ++ rest, ?_, ?_⟩
    · simp only [List.append_assoc]
    · rw [hbound, List.drop_left]
    · rw [hbound, if_pos hleads, boundPort?_eq_some_iff]
      exact ⟨address, rfl, hsome, hnear, hdigits⟩

/-- The port of a line is the one that it announces. -/
theorem announcedPort?_eq_some_iff {line : String} {port : UInt16} :
    announcedPort? line = some port ↔ Announces line port := by
  have hread {address near far rest : List Char}
      (h : Announcement line.toList address near far rest) :
      portNumber? near = some port ↔ Digits near port.toNat := by
    rw [portNumber?_eq_some_iff]
    refine writes_iff_digits fun digits hplus => ?_
    have hdigit := h.near.2 '+' (hplus ▸ List.mem_cons_self)
    exact absurd hdigit (by decide)
  simp only [announcedPort?, Option.bind_eq_some_iff, announcedText?_eq_some_iff]
  constructor
  · rintro ⟨near, ⟨address, far, rest, hreads⟩, hport⟩
    exact ⟨address, near, far, rest, hreads, (hread hreads).1 hport⟩
  · rintro ⟨address, near, far, rest, hreads, hdigits⟩
    exact ⟨near, ⟨address, far, rest, hreads⟩, (hread hreads).2 hdigits⟩

instance (line : String) (port : UInt16) : Decidable (Announces line port) :=
  decidable_of_iff _ announcedPort?_eq_some_iff

/-! ## Lines that announce ports -/

/-- Each port is announced by one of the lines. -/
def Announced (texts : List String) (ports : List UInt16) : Prop :=
  ∀ p ∈ ports, ∃ line ∈ texts, Announces line p

/-- So many first lines announce the ports, and fewer do not. -/
structure ReadyAfter (texts : List String) (ports : List UInt16) (n : Nat) : Prop where
  announced : Announced (texts.take n) ports
  first : ∀ m < n, ¬ Announced (texts.take m) ports

instance (texts : List String) (ports : List UInt16) : Decidable (Announced texts ports) :=
  decidable_of_iff ((ports.all fun p => texts.any fun line => decide (Announces line p)) = true)
    (by simp [Announced])

instance (texts : List String) (ports : List UInt16) (n : Nat) :
    Decidable (ReadyAfter texts ports n) :=
  decidable_of_iff (Announced (texts.take n) ports ∧ ∀ m < n, ¬ Announced (texts.take m) ports)
    ⟨fun h => ⟨h.1, h.2⟩, fun h => ⟨h.announced, h.first⟩⟩

variable {texts : List String} {text : String} {ports : List UInt16} {p : UInt16} {n : Nat}

theorem mem_stillPending_iff : p ∈ stillPending ports text ↔ p ∈ ports ∧ ¬ Announces text p := by
  rw [← announcedPort?_eq_some_iff, stillPending]
  cases announcedPort? text with
  | none => simp
  | some port => simp [eq_comm (a := port)]

/-- A line leaves those ports to the lines behind it that it does not announce. -/
theorem announced_cons_iff :
    Announced (text :: texts) ports ↔ Announced texts (stillPending ports text) := by
  simp only [Announced, mem_stillPending_iff, List.exists_mem_cons_iff, and_imp]
  constructor
  · intro h p hp hleft
    exact (h p hp).resolve_left hleft
  · intro h p hp
    by_cases hannounced : Announces text p
    · exact .inl hannounced
    · exact .inr (h p hp hannounced)

theorem exists_readyAfter (h : ∃ n, Announced (texts.take n) ports) :
    ∃ n, ReadyAfter texts ports n :=
  ⟨Nat.find h, Nat.find_spec h, fun _ hm => Nat.find_min h hm⟩

theorem not_announced_nil (h : ports ≠ []) : ¬ Announced [] ports := by
  obtain ⟨p, ps, rfl⟩ := List.exists_cons_of_ne_nil h
  intro hannounced
  obtain ⟨line, hnone, -⟩ := hannounced p List.mem_cons_self
  cases hnone

theorem ReadyAfter.of_cons (h : ReadyAfter (text :: texts) ports (n + 1)) :
    ReadyAfter texts (stillPending ports text) n where
  announced := announced_cons_iff.1 h.announced
  first m hm hannounced := h.first (m + 1) (Nat.succ_lt_succ hm) (announced_cons_iff.2 hannounced)

theorem exists_take_iff : (∃ n, Announced (texts.take n) ports) ↔ Announced texts ports := by
  constructor
  · rintro ⟨n, h⟩ p hp
    obtain ⟨line, hline, hannounces⟩ := h p hp
    exact ⟨line, List.mem_of_mem_take hline, hannounces⟩
  · intro h
    exact ⟨texts.length, by rwa [List.take_length]⟩

/-! ## Waiting -/

namespace PortForward

variable {line : List UInt8} {lines : List (List UInt8)}

@[simp] theorem awaitPorts_nil_left (lines : List (List UInt8)) :
    awaitPorts [] lines = (some .success, lines) := by
  rw [awaitPorts]

/-- A line of text is read, and the ports that it announces need no more lines. -/
theorem awaitPorts_cons (hports : ports ≠ []) (htext : Utf8.decode? line = some text) :
    awaitPorts ports (line :: lines) = awaitPorts (stillPending ports text) lines := by
  obtain ⟨p, ps, rfl⟩ := List.exists_cons_of_ne_nil hports
  rw [awaitPorts, Utf8.decode_of_decode? htext]

/-- No more lines are read than announce the ports. -/
theorem awaitPorts_of_readyAfter (htexts : lines.map Utf8.decode? = texts.map some)
    (h : ReadyAfter texts ports n) : awaitPorts ports lines = (some .success, lines.drop n) := by
  induction texts generalizing ports lines n with
  | nil =>
    cases List.map_eq_nil_iff.1 htexts
    by_cases hports : ports = []
    · simp [hports]
    · have hnone := h.announced
      rw [List.take_nil] at hnone
      exact absurd hnone (not_announced_nil hports)
  | cons text texts ih =>
    obtain ⟨line, lines, rfl, htext, hrest⟩ := List.map_eq_cons_iff.1 htexts
    cases n with
    | zero =>
      have hports : ports = [] := by
        by_contra hports
        exact not_announced_nil hports h.announced
      simp [hports]
    | succ n =>
      have hports : ports ≠ [] := by
        rintro rfl
        exact h.first 0 n.succ_pos nofun
      rw [awaitPorts_cons hports htext, List.drop_succ_cons]
      exact ih hrest h.of_cons

/-- Where they are not announced, all lines are read. -/
theorem awaitPorts_of_not_announced (htexts : lines.map Utf8.decode? = texts.map some)
    (h : ¬ Announced texts ports) : awaitPorts ports lines = (none, []) := by
  induction texts generalizing ports lines with
  | nil =>
    cases List.map_eq_nil_iff.1 htexts
    cases ports with
    | nil => exact absurd nofun h
    | cons p ps => rw [awaitPorts]
  | cons text texts ih =>
    obtain ⟨line, lines, rfl, htext, hrest⟩ := List.map_eq_cons_iff.1 htexts
    have hports : ports ≠ [] := by
      rintro rfl
      exact h nofun
    rw [awaitPorts_cons hports htext]
    exact ih hrest fun hannounced => h (announced_cons_iff.2 hannounced)

variable {f : PortForward}

theorem ready_of_readyAfter (htexts : f.unread.map Utf8.decode? = texts.map some)
    (h : ReadyAfter texts (f.tunnels.map Tunnel.localPort) n) :
    f.ready = (some .success, { f with explains := true, unread := f.unread.drop n }) := by
  simp only [ready, awaitPorts_of_readyAfter htexts h]

theorem ready_of_not_announced (htexts : f.unread.map Utf8.decode? = texts.map some)
    (h : ¬ Announced texts (f.tunnels.map Tunnel.localPort)) :
    f.ready =
      if f.ends then
        (some (.failed (forwardFailure (tail (errorLines f.run.errorOutput)) f.tunnels)),
          { f with explains := true, unread := [], reaped := true })
      else (none, { f with explains := true, unread := [] }) := by
  simp only [ready, awaitPorts_of_not_announced htexts h]
  rfl

theorem ready_eq_success_iff (htexts : f.unread.map Utf8.decode? = texts.map some) :
    f.ready.1 = some .success ↔ Announced texts (f.tunnels.map Tunnel.localPort) := by
  by_cases hannounced : Announced texts (f.tunnels.map Tunnel.localPort)
  · obtain ⟨n, hafter⟩ := exists_readyAfter (exists_take_iff.2 hannounced)
    simp [ready_of_readyAfter htexts hafter, hannounced]
  · cases hends : f.ends <;> simp [ready_of_not_announced htexts hannounced, hends, hannounced]

/-- Readiness. A forward whose output is text becomes ready exactly if some first lines of its output
announce every port that it was asked for. Then it has read the fewest lines that do, and leaves the
others. If none do when the output has ended, everything is read, and the last lines of the error
output explain the failure. Nothing else matters: not what other lines say, nor how often a port is
announced or asked for, nor in which order. -/
theorem ready_iff_announced (f : PortForward) (texts : List String)
    (htexts : f.unread.map Utf8.decode? = texts.map some) :
    let ports := f.tunnels.map Tunnel.localPort
    (f.ready.1 = some .success ↔ ∃ n, Announced (texts.take n) ports) ∧
    (∀ n, ReadyAfter texts ports n →
      f.ready = (some .success, { f with explains := true, unread := f.unread.drop n })) ∧
    (f.ends = true → (∀ n, ¬ Announced (texts.take n) ports) →
      f.ready =
        (some (.failed (forwardFailure (tail (errorLines f.run.errorOutput)) f.tunnels)),
          { f with explains := true, unread := [], reaped := true })) ∧
    ∀ (g : PortForward) (texts' : List String),
      g.unread.map Utf8.decode? = texts'.map some →
      (∀ p, p ∈ g.tunnels.map Tunnel.localPort ↔ p ∈ ports) →
      (∀ p ∈ ports, (∃ line ∈ texts', Announces line p) ↔ ∃ line ∈ texts, Announces line p) →
      (g.ready.1 = some .success ↔ f.ready.1 = some .success) := by
  intro ports
  refine ⟨(ready_eq_success_iff htexts).trans exists_take_iff.symm,
    fun n hafter => ready_of_readyAfter htexts hafter, fun hends hnone => ?_,
    fun g texts' htexts' hports hsame => ?_⟩
  · have hunannounced : ¬ Announced texts ports := fun hannounced =>
      not_exists.2 hnone (exists_take_iff.2 hannounced)
    rw [ready_of_not_announced htexts hunannounced, if_pos hends]
  · rw [ready_eq_success_iff htexts', ready_eq_success_iff htexts]
    exact forall_congr' fun p => by
      rw [hports]
      exact forall_congr' (hsame p)

/-- What a forward of two ports prints, the second one first. -/
def twoPortsLines : List String :=
  ["Forwarding from 127.0.0.1:9090 -> 90", "Handling connection for 9090",
    "Forwarding from [::1]:9090 -> 90", "Forwarding from 127.0.0.1:8080 -> 80",
    "Forwarding from [::1]:8080 -> 80"]

/-- A forward of two ports, both of which are announced on two addresses. -/
def twoPorts : PortForward :=
  ofRun
    [{ address := "127.0.0.1", localPort := 8080, containerPort := 80 },
      { address := "127.0.0.1", localPort := 9090, containerPort := 90 }]
    { output := Utf8.encode (String.join (twoPortsLines.map (· ++ "\n"))) }

theorem ready_of_twoPorts :
    twoPorts.ready =
      (some .success, { twoPorts with explains := true, unread := twoPorts.unread.drop 4 }) :=
  (ready_iff_announced twoPorts twoPortsLines (by decide +kernel)).2.1 4 (by decide +kernel)

end PortForward

end Kubectl

end PodTunnels
