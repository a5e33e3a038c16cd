import PodTunnels.Text.LowerCase
import PodTunnels.Text.Split
import Mathlib.Data.List.Basic

/-!
# Looking inside a text

The parts of a text between separators are those of the library's `List.splitOn`
(`Text.cutAll_eq_splitOn`), and a text occurs in another when it is an infix of it
(`Text.occursIn_iff`). In lower case the end of a text may depend on what stands before it, but an
end that has no upper-case letter stays what it is (`Text.lowerFrom_append`,
`Text.lowerFrom_eq_self`), so it is found there again (`Text.mentions_lowerCase`).
-/

namespace PodTunnels.Text

theorem cutAll_eq_splitOn (sep : Char) (cs : List Char) : cutAll sep cs = cs.splitOn sep := by
  induction cs with
  | nil => rfl
  | cons c cs ih =>
    rw [cutAll, ih, List.splitOn_cons_eq_if_modifyHead]
    by_cases hsep : c = sep
    · simp [hsep]
    · simp only [hsep, ↓reduceIte, beq_iff_eq]
      cases hparts : cs.splitOn sep with
      | nil => exact absurd hparts (List.splitOn_ne_nil sep cs)
      | cons part parts => rfl

theorem not_mem_of_mem_cutAll {sep : Char} {cs part : List Char} (h : part ∈ cutAll sep cs) :
    sep ∉ part := by
  induction cs generalizing part with
  | nil =>
    obtain rfl : part = [] := by simpa [cutAll] using h
    exact List.not_mem_nil
  | cons c cs ih =>
    unfold cutAll at h
    split at h
    · rcases List.mem_cons.1 h with rfl | h
      · exact List.not_mem_nil
      · exact ih h
    · rename_i hc
      have hne : sep ≠ c := Ne.symm hc
      split at h
      · obtain rfl : part = [c] := by simpa using h
        simpa using hne
      · rename_i first rest hparts
        rcases List.mem_cons.1 h with rfl | h
        · exact List.not_mem_cons_of_ne_of_not_mem hne (ih (hparts ▸ List.mem_cons_self))
        · exact ih (hparts ▸ List.mem_cons_of_mem _ h)

theorem cutFirst_append {sep : Char} {left : List Char} (h : sep ∉ left) (right : List Char) :
    cutFirst sep (left ++ sep :: right) = some (left, right) := by
  induction left with
  | nil => simp [cutFirst]
  | cons c left ih =>
    rw [List.mem_cons, not_or] at h
    simp [cutFirst, Ne.symm h.1, ih h.2]

theorem cutFirst_eq_none {sep : Char} {cs : List Char} (h : sep ∉ cs) : cutFirst sep cs = none := by
  induction cs with
  | nil => rfl
  | cons c cs ih =>
    rw [List.mem_cons, not_or] at h
    simp [cutFirst, Ne.symm h.1, ih h.2]

theorem cutFirst_eq_some_iff {sep : Char} {cs left right : List Char} :
    cutFirst sep cs = some (left, right) ↔ cs = left ++ sep :: right ∧ sep ∉ left := by
  constructor
  · intro hcut
    by_cases hsep : sep ∈ cs
    · obtain ⟨left', right', rfl, hfree⟩ := List.eq_append_cons_of_mem hsep
      rw [cutFirst_append hfree] at hcut
      cases hcut
      exact ⟨rfl, hfree⟩
    · rw [cutFirst_eq_none hsep] at hcut
      cases hcut
  · rintro ⟨rfl, hfree⟩
    exact cutFirst_append hfree right

theorem cutFirst_eq_none_iff {sep : Char} {cs : List Char} : cutFirst sep cs = none ↔ sep ∉ cs := by
  constructor
  · intro hcut hsep
    obtain ⟨left, right, rfl, hfree⟩ := List.eq_append_cons_of_mem hsep
    rw [cutFirst_append hfree] at hcut
    cases hcut
  · exact cutFirst_eq_none

theorem occursIn_iff {needle cs : List Char} : occursIn needle cs = true ↔ needle <:+: cs := by
  induction cs with
  | nil => simp [occursIn]
  | cons c cs ih => simp [occursIn, ih, List.infix_cons_iff]

/-! ## Lower case -/

open LowerCase

/-- Whether a character is its own lower case wherever it stands. -/
def isLower (c : Char) : Bool :=
  c != 'Σ' && c != 'İ' && partner c == c

theorem lowerFrom_append (before xs ys : List Char) :
    ∃ lower, lowerFrom before (xs ++ ys) = lower ++ lowerFrom (xs.reverse ++ before) ys := by
  induction xs generalizing before with
  | nil => exact ⟨[], rfl⟩
  | cons x xs ih =>
    obtain ⟨lower, hlower⟩ := ih (x :: before)
    refine ⟨lowerAt before x (xs ++ ys) ++ lower, ?_⟩
    rw [List.cons_append, lowerFrom, hlower, List.append_assoc, List.reverse_cons,
      List.append_assoc, List.singleton_append]

theorem lowerFrom_eq_self {cs : List Char} (h : cs.all isLower = true) (before : List Char) :
    lowerFrom before cs = cs := by
  induction cs generalizing before with
  | nil => rfl
  | cons c cs ih =>
    rw [List.all_cons, Bool.and_eq_true, isLower, Bool.and_eq_true, Bool.and_eq_true, bne_iff_ne,
      bne_iff_ne, beq_iff_eq] at h
    obtain ⟨⟨⟨hsigma, hdotted⟩, hpartner⟩, hrest⟩ := h
    rw [lowerFrom, ih hrest, lowerAt, if_neg hsigma, if_neg hdotted, hpartner,
      List.singleton_append]

/-- What stands in the lower-case end of a text is found in the lower case of the text. -/
theorem mentions_lowerCase {s needle : String} {lead ending : List Char}
    (hends : s.toList = lead ++ ending) (hlower : ending.all isLower = true)
    (hholds : needle.toList <:+: ending) : mentions (lowerCase s) needle = true := by
  obtain ⟨lower, hcases⟩ := lowerFrom_append [] lead ending
  rw [lowerFrom_eq_self hlower] at hcases
  rw [mentions, lowerCase, String.toList_ofList, hends, hcases, occursIn_iff]
  exact hholds.trans (List.suffix_append _ _).isInfix

end PodTunnels.Text
