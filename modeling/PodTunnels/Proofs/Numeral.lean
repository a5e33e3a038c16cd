import PodTunnels.Port
import PodTunnels.Proofs.Cutting
import Mathlib.Data.List.Forall2
import Mathlib.Data.Nat.Digits.Defs

/-!
# Ports in writing

A number is written with its digits after an optional plus sign (`Writes`), and a port is a number of
16 bits other than zero (`WritesPort`). A mapping is one port for both ends, or two with a colon
between them (`WritesMapping`). The readers take exactly what is written so
(`portNumber?_eq_some_iff`, `parsePort_eq_ok_iff`, `parsePortMapping_eq_ok_iff`), and a port that is
rendered is read back (`portNumber?_toDigits`).
-/

namespace PodTunnels

open Text

/-- Characters are digits of a number, most significant first, leading zeros allowed. -/
def Digits (cs : List Char) (n : Nat) : Prop :=
  cs ≠ [] ∧ (∀ c ∈ cs, c.isDigit = true) ∧ Nat.ofDigitChars 10 cs 0 = n

/-- Characters write a number: its digits after an optional plus sign. -/
def Writes (cs : List Char) (n : Nat) : Prop :=
  Digits cs n ∨ ∃ digits, cs = '+' :: digits ∧ Digits digits n

/-- Characters write a port: a number of 16 bits other than zero. -/
def WritesPort (cs : List Char) (p : UInt16) : Prop :=
  p ≠ 0 ∧ Writes cs p.toNat

theorem not_digits_plus {cs : List Char} {n : Nat} : ¬ Digits ('+' :: cs) n :=
  fun h => absurd (h.2.1 '+' List.mem_cons_self) (by decide)

theorem writes_plus_iff {cs : List Char} {n : Nat} : Writes ('+' :: cs) n ↔ Digits cs n := by
  simp [Writes, not_digits_plus]

theorem writes_iff_digits {cs : List Char} {n : Nat} (h : ∀ rest, cs ≠ '+' :: rest) :
    Writes cs n ↔ Digits cs n := by
  simp [Writes, h]

theorem digits_toDigits (n : Nat) : Digits (Nat.toDigits 10 n) n :=
  ⟨Nat.toDigits_ne_nil, fun _ => Nat.isDigit_of_mem_toDigits (by decide) (by decide),
    Nat.ofDigitChars_ten_toDigits⟩

/-! ## Reading -/

theorem Text.digitsValue_eq (cs : List Char) : digitsValue cs = Nat.ofDigitChars 10 cs 0 :=
  Nat.ofDigitChars_eq_foldl.symm

theorem Text.isAsciiDigit_eq : isAsciiDigit = Char.isDigit := rfl

/-- Digits are taken for the number that they are of, if it fits 16 bits. -/
theorem digits_iff {cs : List Char} {p : UInt16} :
    (if cs.isEmpty || !cs.all isAsciiDigit then none
      else if digitsValue cs < UInt16.size then some (UInt16.ofNat (digitsValue cs)) else none) =
        some p ↔ Digits cs p.toNat := by
  rw [Digits, ← Text.digitsValue_eq, ← Text.isAsciiDigit_eq, ← List.all_eq_true]
  by_cases hread : cs = [] ∨ cs.all isAsciiDigit = false
  · rcases hread with rfl | hother
    · simp
    · simp [hother]
  · obtain ⟨hsome, hall⟩ := not_or.1 hread
    rw [Bool.not_eq_false] at hall
    have hboth : (cs.isEmpty || !cs.all isAsciiDigit) = false := by simp [hsome, hall]
    rw [hboth, if_neg Bool.false_ne_true]
    by_cases hfits : digitsValue cs < UInt16.size
    · rw [if_pos hfits, Option.some.injEq, ← UInt16.toNat_inj, UInt16.toNat_ofNat_of_lt' hfits]
      simp [hsome, hall]
    · have hlarger : digitsValue cs ≠ p.toNat := fun h => hfits (h ▸ p.toNat_lt_size)
      simp [hfits, hlarger]

theorem portNumber?_eq_some_iff {cs : List Char} {p : UInt16} :
    portNumber? cs = some p ↔ Writes cs p.toNat := by
  unfold portNumber?
  split
  · rw [writes_plus_iff]
    exact digits_iff
  · rename_i hplain
    rw [writes_iff_digits hplain]
    exact digits_iff

/-- A port is read from what writes it, blanks around it aside. -/
theorem parsePort_eq_ok_iff {s : String} {p : UInt16} :
    parsePort s = .ok p ↔ WritesPort (trimChars s.toList) p := by
  rw [WritesPort, ← portNumber?_eq_some_iff, parsePort]
  cases hread : portNumber? (trimChars s.toList) with
  | none => simp
  | some q =>
    by_cases hzero : q = 0
    · subst hzero
      simp [eq_comm]
    · have hsame : q = p ↔ p ≠ 0 ∧ q = p := by
        constructor
        · rintro rfl
          exact ⟨hzero, rfl⟩
        · exact And.right
      simpa [hzero] using hsame

/-! ## Mappings -/

section Except

variable {ε α β : Type}

theorem bind_eq_ok_iff {x : Except ε α} {f : α → Except ε β} {b : β} :
    x >>= f = .ok b ↔ ∃ a, x = .ok a ∧ f a = .ok b := by
  cases x <;> simp [bind, Except.bind]

/-- A list is read when each of its items is. -/
theorem mapM_eq_ok_iff {f : α → Except ε β} {xs : List α} {ys : List β} :
    xs.mapM f = .ok ys ↔ List.Forall₂ (fun x y => f x = .ok y) xs ys := by
  induction xs generalizing ys with
  | nil => simp [pure, Except.pure, eq_comm]
  | cons x xs ih =>
    simp only [List.mapM_cons, bind_eq_ok_iff, ih, List.forall₂_cons_left_iff]
    constructor
    · rintro ⟨y, hfirst, rest, hrest, hall⟩
      cases hall
      exact ⟨y, rest, hfirst, hrest, rfl⟩
    · rintro ⟨y, rest, hfirst, hrest, rfl⟩
      exact ⟨y, hfirst, rest, hrest, rfl⟩

end Except

theorem exists_forall₂_iff {α β : Type} {r : α → β → Prop} {xs : List α} :
    (∃ ys, List.Forall₂ r xs ys) ↔ ∀ x ∈ xs, ∃ y, r x y := by
  induction xs with
  | nil => simp
  | cons x xs ih =>
    simp only [List.forall₂_cons_left_iff, List.forall_mem_cons, ← ih]
    constructor
    · rintro ⟨-, y, ys, hfirst, hrest, rfl⟩
      exact ⟨⟨y, hfirst⟩, ys, hrest⟩
    · rintro ⟨⟨y, hfirst⟩, ys, hrest⟩
      exact ⟨_, y, ys, hfirst, hrest, rfl⟩

/-- Characters write a mapping: the two ports around the first colon, or one port that stands for
both. -/
def WritesMapping (cs : List Char) (near far : UInt16) : Prop :=
  (∃ left right, cs = left ++ ':' :: right ∧ ':' ∉ left ∧
    WritesPort (trimChars left) near ∧ WritesPort (trimChars right) far) ∨
    (':' ∉ cs ∧ WritesPort (trimChars cs) near ∧ near = far)

variable {cs left right : List Char} {near far : UInt16}

theorem writesMapping_append (hfree : ':' ∉ left) :
    WritesMapping (left ++ ':' :: right) near far ↔
      WritesPort (trimChars left) near ∧ WritesPort (trimChars right) far := by
  constructor
  · rintro (⟨left', right', hsame, hfree', hwritten⟩ | ⟨hnone, -⟩)
    · have hcut := cutFirst_append hfree' right'
      rw [← hsame, cutFirst_append hfree] at hcut
      cases hcut
      exact hwritten
    · exact absurd (List.mem_append_right left List.mem_cons_self) hnone
  · rintro ⟨hnear, hfar⟩
    exact .inl ⟨left, right, rfl, hfree, hnear, hfar⟩

theorem writesMapping_of_notMem (hfree : ':' ∉ cs) :
    WritesMapping cs near far ↔ WritesPort (trimChars cs) near ∧ near = far := by
  constructor
  · rintro (⟨left, right, rfl, -⟩ | ⟨-, hwritten⟩)
    · exact absurd (List.mem_append_right left List.mem_cons_self) hfree
    · exact hwritten
  · exact fun hwritten => .inr ⟨hfree, hwritten⟩

/-- A mapping is read from what writes it. -/
theorem parsePortMapping_eq_ok_iff {s : String} :
    parsePortMapping s = .ok (near, far) ↔ WritesMapping s.toList near far := by
  rw [parsePortMapping, splitFirst]
  cases hcut : cutFirst ':' s.toList with
  | some parts =>
    obtain ⟨left, right⟩ := parts
    obtain ⟨hparts, hfree⟩ := cutFirst_eq_some_iff.1 hcut
    rw [hparts, writesMapping_append hfree]
    simp [bind_eq_ok_iff, parsePort_eq_ok_iff, pure, Except.pure]
  | none =>
    rw [writesMapping_of_notMem (cutFirst_eq_none_iff.1 hcut)]
    simp only [Option.map_none, bind_eq_ok_iff, parsePort_eq_ok_iff, pure, Except.pure,
      Except.ok.injEq, Prod.mk.injEq]
    constructor
    · rintro ⟨port, hport, rfl, rfl⟩
      exact ⟨hport, rfl⟩
    · rintro ⟨hport, rfl⟩
      exact ⟨near, hport, rfl, rfl⟩

/-! ## Writing -/

theorem toList_renderPort (p : UInt16) : (renderPort p).toList = Nat.toDigits 10 p.toNat := by
  rw [renderPort, Nat.toString_eq_ofList_toDigits, String.toList_ofList]

theorem portNumber?_toDigits (p : UInt16) : portNumber? (Nat.toDigits 10 p.toNat) = some p :=
  portNumber?_eq_some_iff.2 (.inl (digits_toDigits _))

end PodTunnels
