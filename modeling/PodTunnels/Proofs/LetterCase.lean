import PodTunnels.Proofs.Cutting

/-!
# Letter case

A text in lower case stays as it is (`lowerCase_lowerCase`): every character that stands in it is
its own lower case (`all_isLower_lowerFrom`). The table of partners decides this run by run. The
partners of a run are characters, and none of them is in a run again: two runs that meet have a step
of two, and the partners of the one lie between the letters of the other (`Run.apart`).
-/

namespace PodTunnels.Text

open LowerCase

namespace LowerCase

variable {r q : Run} {n : Nat} {c : Char}

/-! ## Runs -/

theorem Run.has_iff : r.has n = true ↔ r.first ≤ n ∧ n ≤ r.last ∧ (n - r.first) % r.step = 0 := by
  simp [Run.has, and_assoc]

def Run.firstPartner (r : Run) : Nat :=
  (r.first + r.shift).toNat

def Run.lastPartner (r : Run) : Nat :=
  (r.last + r.shift).toNat

/-- The partners of a run are characters, and none of them is the capital I with a dot. -/
structure Run.LeadsToChars (r : Run) : Prop where
  nonneg : 0 ≤ r.first + r.shift
  valid : r.lastPartner < 0xD800 ∨ 0xDFFF < r.firstPartner ∧ r.lastPartner < 0x110000
  not_dotted : r.lastPartner < 0x130 ∨ 0x130 < r.firstPartner

/-- No partner of the first run is in the second: the partners lie before it or behind it, or at odd
distances from its letters, which are two apart. -/
def Run.apart (r q : Run) : Bool :=
  r.lastPartner.blt q.first || q.last.blt r.firstPartner ||
    q.step == 2 && (r.step == 2 || r.first == r.last) && (r.firstPartner + q.first) % 2 == 1

instance (r : Run) : Decidable r.LeadsToChars :=
  decidable_of_iff (_ ∧ _ ∧ _) ⟨fun h => ⟨h.1, h.2.1, h.2.2⟩, fun h => ⟨h.1, h.2, h.3⟩⟩

theorem runs_leadToChars : ∀ r ∈ runs, r.LeadsToChars := by
  decide +kernel

theorem runs_apart : (runs.all fun r => runs.all r.apart) = true := by
  decide +kernel

theorem Run.apart_iff : r.apart q = true ↔ r.lastPartner < q.first ∨ q.last < r.firstPartner ∨
    q.step = 2 ∧ (r.step = 2 ∨ r.first = r.last) ∧ (r.firstPartner + q.first) % 2 = 1 := by
  simp only [Run.apart, Bool.or_eq_true, Bool.and_eq_true, beq_iff_eq, Nat.blt_eq, or_assoc,
    and_assoc]

theorem Run.not_has_of_apart (h : r.apart q = true) (hchars : r.LeadsToChars)
    (hn : r.has n = true) : q.has (n + r.shift).toNat = false := by
  rw [Bool.eq_false_iff]
  intro hagain
  obtain ⟨hlow, hhigh, hstep⟩ := Run.has_iff.1 hn
  obtain ⟨hlow', hhigh', hstep'⟩ := Run.has_iff.1 hagain
  have hnonneg := hchars.nonneg
  rw [Run.apart_iff, Run.firstPartner, Run.lastPartner] at h
  rcases h with hbefore | hbehind | ⟨htwo, hone | hone, hodd⟩
  · omega
  · omega
  · rw [htwo] at hstep'
    rw [hone] at hstep
    omega
  · rw [htwo] at hstep'
    omega

/-- The partner of a letter is the character that the run says. -/
theorem Run.LeadsToChars.toNat_partner (h : r.LeadsToChars) (hn : r.has n = true) :
    (Char.ofNat (n + r.shift).toNat).toNat = (n + r.shift).toNat := by
  obtain ⟨hlow, hhigh, -⟩ := Run.has_iff.1 hn
  have hvalid : (n + r.shift).toNat.isValidChar := by
    have hbounds := h.valid
    rw [Run.firstPartner, Run.lastPartner] at hbounds
    rw [Nat.isValidChar]
    omega
  rw [Char.ofNat, dif_pos hvalid]
  rfl

/-! ## Partners -/

theorem partner_eq_self (h : ∀ q ∈ runs, q.has c.toNat = false) : partner c = c := by
  have hnone : runs.find? (·.has c.toNat) = none := by simpa using h
  rw [partner, hnone]

theorem partner_cases (c : Char) :
    partner c = c ∨
      ∃ r ∈ runs, r.has c.toNat = true ∧ partner c = Char.ofNat (c.toNat + r.shift).toNat := by
  unfold partner
  cases hfound : runs.find? (·.has c.toNat) with
  | none => exact .inl rfl
  | some r =>
    have hhas : r.has c.toNat = true := by simpa using List.find?_some hfound
    exact .inr ⟨r, List.mem_of_find?_eq_some hfound, hhas, rfl⟩

/-- A partner is its own lower case. -/
theorem isLower_partner (hsigma : c ≠ 'Σ') (hdotted : c ≠ 'İ') : isLower (partner c) = true := by
  rcases partner_cases c with hself | ⟨r, hr, hhas, hpartner⟩
  · simp [isLower, hself, hsigma, hdotted]
  · have hchars := runs_leadToChars r hr
    have hcode := hchars.toNat_partner hhas
    rw [hpartner]
    generalize Char.ofNat (c.toNat + r.shift).toNat = d at hcode
    have hfree : ∀ q ∈ runs, q.has d.toNat = false := by
      intro q hq
      rw [hcode]
      exact Run.not_has_of_apart (List.all_eq_true.1 (List.all_eq_true.1 runs_apart r hr) q hq)
        hchars hhas
    have hsigma' : d ≠ 'Σ' := by
      rintro rfl
      have hrun : ∃ q ∈ runs, q.has ('Σ' : Char).toNat = true := by decide +kernel
      obtain ⟨q, hq, hhas'⟩ := hrun
      exact absurd hhas' (by rw [hfree q hq]; decide)
    have hdotted' : d ≠ 'İ' := by
      rintro rfl
      obtain ⟨hlow, hhigh, -⟩ := Run.has_iff.1 hhas
      have hbounds := hchars.not_dotted
      have hdot : ('İ' : Char).toNat = 0x130 := rfl
      rw [Run.firstPartner, Run.lastPartner] at hbounds
      omega
    simp [isLower, hsigma', hdotted', partner_eq_self hfree]

/-! ## Characters in their places -/

theorem all_isLower_lowerAt (before : List Char) (c : Char) (after : List Char) :
    (lowerAt before c after).all isLower = true := by
  unfold lowerAt
  split_ifs with hsigma _ hdotted
  · decide +kernel
  · decide +kernel
  · decide +kernel
  · simpa using isLower_partner hsigma hdotted

theorem all_isLower_lowerFrom (before cs : List Char) :
    (lowerFrom before cs).all isLower = true := by
  induction cs generalizing before with
  | nil => rfl
  | cons c cs ih => rw [lowerFrom, List.all_append, all_isLower_lowerAt, ih, Bool.and_self]

theorem lowerAt_ne_nil (before : List Char) (c : Char) (after : List Char) :
    lowerAt before c after ≠ [] := by
  unfold lowerAt
  split_ifs <;> exact List.cons_ne_nil _ _

end LowerCase

/-! ## Texts -/

variable {s : String}

theorem lowerCase_eq_self (h : s.toList.all isLower = true) : lowerCase s = s := by
  rw [lowerCase, lowerFrom_eq_self h, String.ofList_toList]

/-- Lower-casing twice is lower-casing once. -/
theorem lowerCase_lowerCase (s : String) : lowerCase (lowerCase s) = lowerCase s := by
  apply lowerCase_eq_self
  rw [lowerCase, String.toList_ofList]
  exact all_isLower_lowerFrom [] s.toList

theorem lowerCase_eq_empty_iff : lowerCase s = "" ↔ s = "" := by
  rw [lowerCase, ← String.toList_inj, ← String.toList_inj, String.toList_ofList,
    String.toList_empty]
  cases s.toList with
  | nil => simp [lowerFrom]
  | cons c cs => simp [lowerFrom, lowerAt_ne_nil]

end PodTunnels.Text
