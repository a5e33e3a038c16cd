import PodTunnels.Json.Lexer
import PodTunnels.Json.Printer
import PodTunnels.Proofs.Numeral
import Mathlib.Data.List.TakeWhile

/-!
# Scanning what was written

What is written as a string, as a word or as a number is scanned as one token. A string ends with
its mark, and each of its characters is read as it was written, escaped or not
(`scan_renderString`). A word or a number ends where something else follows, or nothing
(`scan_spelled`, `scan_exact`). A number is read as it is written if it is an integer of 64 bits
(`Number.exact_ofNat`).
-/

namespace PodTunnels.Json

namespace Lexer

variable {state state' : State} {c : Char} {cs rest : List Char} {ts : List Token}

theorem scan_step (h : step state c = some (ts, state')) (cs : List Char) :
    scan state (c :: cs) = (scan state' cs).map (ts ++ ·) := by
  simp [scan, h, Option.map_eq_bind]

/-- A character that ends no token. -/
theorem scan_on (h : step state c = some ([], state')) (cs : List Char) :
    scan state (c :: cs) = scan state' cs := by
  simp [scan_step h]

/-! ## Strings -/

theorem hexDigit?_digitChar : ∀ d < 16, hexDigit? d.digitChar = some d := by
  decide

theorem scan_unit {r : Reading} {left u d : Nat} (hd : d < 16) (hleft : 1 < left) :
    scan (.unit r left u) (d.digitChar :: cs) = scan (.unit r (left - 1) (16 * u + d)) cs := by
  refine scan_on ?_ cs
  simp [step, hexDigit?_digitChar d hd, Nat.not_le_of_lt hleft]

theorem scan_lastUnit {r : Reading} {u d : Nat} (hd : d < 16) :
    scan (.unit r 1 u) (d.digitChar :: cs) = scan (.string (r.pushUnit (16 * u + d))) cs := by
  refine scan_on ?_ cs
  simp [step, hexDigit?_digitChar d hd]

theorem scan_escaped {r : Reading} {e : Char} (he : escaped? c = some e) (hu : c ≠ 'u') :
    scan (.string r) ('\\' :: c :: cs) = scan (.string (r.push e)) cs := by
  have hescape : step (.string r) '\\' = some ([], .escape r) := rfl
  rw [scan_on hescape]
  refine scan_on ?_ cs
  simp [step, he, hu]

/-- A control character by its number. -/
theorem scan_control {read : List Char} {n : Nat} (hn : n < 0x20) :
    scan (.string { reversed := read })
        ('\\' :: 'u' :: '0' :: '0' :: (n / 16).digitChar :: (n % 16).digitChar :: cs) =
      scan (.string { reversed := Char.ofNat n :: read }) cs := by
  have hescape : step (.string { reversed := read }) '\\' =
      some ([], .escape { reversed := read }) := rfl
  have hunit : step (.escape { reversed := read }) 'u' =
      some ([], .unit { reversed := read } 4 0) := rfl
  have hzero : (0 : Nat).digitChar = '0' := rfl
  have hvalue : 16 * (16 * (16 * (16 * 0 + 0) + 0) + n / 16) + n % 16 = n := by omega
  have hpush : ({ reversed := read } : Reading).pushUnit n =
      { reversed := Char.ofNat n :: read } := by
    rw [Reading.pushUnit, if_neg (by omega), if_neg (by omega)]
    rfl
  rw [scan_on hescape, scan_on hunit, ← hzero, scan_unit (by decide) (by decide),
    scan_unit (by decide) (by decide), scan_unit (by omega) (by decide), scan_lastUnit (by omega),
    hvalue, hpush]

/-- The last two digits of the number of a control character. -/
theorem hex_of_lt_one (n : Nat) (hn : n < 0x10) :
    '0' :: (Text.hex n).toList = [(n / 16).digitChar, (n % 16).digitChar] := by
  rw [Text.hex, String.toList_ofList, Nat.toDigits_of_lt_base hn, Nat.div_eq_of_lt hn,
    Nat.mod_eq_of_lt hn]
  rfl

theorem hex_of_lt_two (n : Nat) (hlow : 0x10 ≤ n) (hhigh : n < 0x20) :
    (Text.hex n).toList = [(n / 16).digitChar, (n % 16).digitChar] := by
  rw [Text.hex, String.toList_ofList, Nat.toDigits_of_base_le (by decide) hlow,
    Nat.toDigits_of_lt_base (by omega)]
  rfl

/-- A character of a string is read as it was written, escaped or not. -/
theorem scan_escapeChar (read : List Char) (c : Char) (cs : List Char) :
    scan (.string { reversed := read }) ((escapeChar c).toList ++ cs) =
      scan (.string { reversed := c :: read }) cs := by
  have hcontrol (hc : c.toNat < 0x20) :
      scan (.string { reversed := read }) ('\\' :: 'u' :: '0' :: '0' ::
          ([(c.toNat / 16).digitChar, (c.toNat % 16).digitChar] ++ cs)) =
        scan (.string { reversed := c :: read }) cs :=
    by rw [List.cons_append, List.singleton_append, scan_control hc, Char.ofNat_toNat]
  unfold escapeChar
  split_ifs with hmark hslash hback hfeed hline hreturn htab hone htwo
  · exact hmark ▸ scan_escaped (e := '"') rfl (by decide)
  · exact hslash ▸ scan_escaped (e := '\\') rfl (by decide)
  · exact hback ▸ scan_escaped (e := '\x08') rfl (by decide)
  · exact hfeed ▸ scan_escaped (e := '\x0c') rfl (by decide)
  · exact hline ▸ scan_escaped (e := '\n') rfl (by decide)
  · exact hreturn ▸ scan_escaped (e := '\r') rfl (by decide)
  · exact htab ▸ scan_escaped (e := '\t') rfl (by decide)
  · rw [← hcontrol (by omega), ← hex_of_lt_one _ hone, String.toList_append]
    rfl
  · rw [← hcontrol htwo, ← hex_of_lt_two _ (by omega) htwo, String.toList_append]
    rfl
  · have hplain : step (.string { reversed := read }) c =
        some ([], .string { reversed := c :: read }) := by
      simp only [step, if_neg hmark, if_neg hslash, if_neg htwo]
      rfl
    rw [String.toList_singleton]
    exact scan_on hplain cs

/-- A string between its marks is one token. -/
theorem scan_renderString (s : String) (cs : List Char) :
    scan .between ((renderString s).toList ++ cs) =
      (scan .between cs).map (.string (some s) :: ·) := by
  have hbody (written read : List Char) (cs : List Char) :
      scan (.string { reversed := read }) (written.flatMap (fun c => (escapeChar c).toList) ++ cs) =
        scan (.string { reversed := written.reverse ++ read }) cs := by
    induction written generalizing read with
    | nil => rfl
    | cons c written ih =>
      rw [List.flatMap_cons, List.append_assoc, scan_escapeChar, ih, List.reverse_cons,
        List.append_assoc, List.singleton_append]
  have hopen : step .between '"' = some ([], .string {}) := rfl
  have hclose : step (.string { reversed := s.toList.reverse }) '"' =
      some ([.string (some s)], .between) := by
    have htext : ({ reversed := s.toList.reverse } : Reading).text = some s := by
      simp [Reading.text, Reading.settle]
    rw [step, if_pos rfl, htext]
  have htext : (renderString s).toList ++ cs =
      '"' :: (s.toList.flatMap (fun c => (escapeChar c).toList) ++ '"' :: cs) := by
    simp [renderString, String.toList_join, List.flatMap_map]
  rw [htext, scan_on hopen, hbody, List.append_nil, scan_step hclose]
  rfl

/-! ## Words and numbers -/

/-- No word and no number goes on here. -/
def Breaks (cs : List Char) : Prop :=
  ∀ c ∈ cs.head?, isWordChar c = false ∧ isNumberChar c = false

theorem breaks_cons {c : Char} (hword : isWordChar c = false) (hnumber : isNumberChar c = false) :
    Breaks (c :: cs) := by
  rintro d ⟨rfl⟩
  exact ⟨hword, hnumber⟩

/-- A token that ends where it is followed by something else, or by nothing. -/
theorem scan_ended {t : Token} (hend : finish state = some [t])
    (hnext : ∀ c ∈ cs.head?, step state c = (start c).map fun next => (t :: next.1, next.2)) :
    scan state cs = (scan .between cs).map (t :: ·) := by
  cases cs with
  | nil => exact hend
  | cons c cs =>
    have hstep := hnext c rfl
    have hbetween : step .between c = start c := rfl
    cases hstart : start c with
    | none => simp [scan, hstep, hbetween, hstart]
    | some next =>
      rw [scan_step (hstep.trans (congrArg _ hstart)), scan_step (hbetween.trans hstart),
        Option.map_map]
      rfl

/-- The further characters of a word or a number. -/
theorem scan_run {collect : List Char → State} {read : List Char}
    (h : ∀ c ∈ cs, ∀ read, step (collect read) c = some ([], collect (c :: read))) :
    scan (collect read) (cs ++ rest) = scan (collect (cs.reverse ++ read)) rest := by
  induction cs generalizing read with
  | nil => rfl
  | cons c cs ih =>
    rw [List.cons_append, scan_on (h c List.mem_cons_self read),
      ih (fun d hd => h d (List.mem_cons_of_mem c hd)), List.reverse_cons, List.append_assoc]
    rfl

theorem scan_word {word : List Char} {t : Token} (ht : wordToken? word.reverse = some t)
    (h : Breaks cs) : scan (.word word) cs = (scan .between cs).map (t :: ·) := by
  refine scan_ended (by simp [finish, ht]) ?_
  intro c hc
  simp [step, (h c hc).1, ht, Option.map_eq_bind]

/-- A word, letter by letter. -/
theorem scan_spelled (c : Char) (cs : List Char) {t : Token}
    (hstart : step .between c = some ([], .word [c]))
    (hchars : cs.all isWordChar = true) (ht : wordToken? (c :: cs) = some t)
    (hbreaks : Breaks rest) :
    scan .between (c :: cs ++ rest) = (scan .between rest).map (t :: ·) := by
  have hrun (d : Char) (hd : d ∈ cs) (read : List Char) :
      step (.word read) d = some ([], .word (d :: read)) := by
    rw [step, if_pos (List.all_eq_true.1 hchars d hd)]
  rw [List.cons_append, scan_on hstart, scan_run hrun]
  exact scan_word (by simpa using ht) hbreaks

theorem scan_number {digits : List Char} {n : Number} (hn : Number.parse? digits.reverse = some n)
    (h : Breaks cs) : scan (.number digits) cs = (scan .between cs).map (.number n :: ·) := by
  refine scan_ended (by simp [finish, hn]) ?_
  intro c hc
  simp [step, (h c hc).2, hn, Option.map_eq_bind]

end Lexer

/-! ## Numbers as they are written -/

namespace Number

/-- A number is written as it is read. -/
structure Exact (n : Number) : Prop where
  start : ∃ c cs, n.render.toList = c :: cs ∧ Lexer.start c = some ([], .number [c])
  chars : ∀ c ∈ n.render.toList, Lexer.isNumberChar c = true
  parse : parse? n.render.toList = some n

/-- A number has no needless leading zero. -/
theorem head?_toDigits {n : Nat} (hn : 0 < n) : (Nat.toDigits 10 n).head? ≠ some '0' := by
  induction n using Nat.strong_induction_on with
  | _ n ih =>
    by_cases hsmall : n < 10
    · rw [Nat.toDigits_of_lt_base hsmall]
      have hdigit : ∀ d < 10, 0 < d → d.digitChar ≠ '0' := by decide
      simpa using hdigit n hsmall hn
    · rw [Nat.toDigits_of_base_le (by decide) (Nat.le_of_not_lt hsmall),
        List.head?_append_of_ne_nil _ Nat.toDigits_ne_nil]
      exact ih (n / 10) (by omega) (by omega)

theorem takeDigits_of_forall {cs : List Char} (hsome : cs ≠ [])
    (h : ∀ c ∈ cs, c.isDigit = true) : takeDigits cs = some (cs, []) := by
  have htake : cs.takeWhile Text.isAsciiDigit = cs := List.takeWhile_eq_self_iff.2 h
  have hdrop : cs.dropWhile Text.isAsciiDigit = [] := List.dropWhile_eq_nil_iff.2 h
  rw [takeDigits, htake, hdrop]
  cases cs with
  | nil => exact absurd rfl hsome
  | cons => rfl

/-- The digits of a natural number are read without sign, point and exponent. -/
theorem parse?_toDigits (n : Nat) : parse? (Nat.toDigits 10 n) = some (.ofNat n) := by
  obtain ⟨hsome, hdigits, hvalue⟩ := digits_toDigits n
  have hplain (rest : List Char) : Nat.toDigits 10 n ≠ '-' :: rest := fun h =>
    absurd (hdigits '-' (h ▸ List.mem_cons_self)) (by decide)
  have hlead : ¬ ((Nat.toDigits 10 n).length ≠ 1 ∧ (Nat.toDigits 10 n).head? = some '0') := by
    rintro ⟨hlength, hzero⟩
    cases n with
    | zero => exact hlength rfl
    | succ n => exact head?_toDigits (Nat.succ_pos n) hzero
  unfold parse?
  split
  rename_i negative cs hsign
  split at hsign
  · exact absurd ‹_› (hplain _)
  · cases hsign
    rw [takeDigits_of_forall hsome hdigits]
    simp only [Option.bind_eq_bind, Option.bind_some]
    rw [if_neg hlead]
    simp only [parseExponent, Option.bind_some, Text.digitsValue_eq, hvalue]
    rfl

theorem start_of_isDigit {c : Char} (h : c.isDigit = true) :
    Lexer.start c = some ([], .number [c]) := by
  have hne {d : Char} (hd : d.isDigit = false) : c ≠ d := by
    rintro rfl
    exact absurd (h.symm.trans hd) (by decide)
  have hspace : Lexer.isSpace c = false := by
    simp [Lexer.isSpace, hne (d := ' ') rfl, hne (d := '\t') rfl, hne (d := '\n') rfl,
      hne (d := '\r') rfl]
  have hmark : Lexer.isMark c = false := by
    simp [Lexer.isMark, hne (d := '[') rfl, hne (d := ']') rfl, hne (d := '{') rfl,
      hne (d := '}') rfl, hne (d := ',') rfl, hne (d := ':') rfl]
  have hword : Lexer.isWordChar c = false := by
    rw [Lexer.isWordChar, Bool.and_eq_false_iff, decide_eq_false_iff_not]
    refine .inl fun hletter => absurd h ?_
    rw [← Text.isAsciiDigit_eq, Text.isAsciiDigit, Bool.not_eq_true, Bool.and_eq_false_iff,
      decide_eq_false_iff_not, decide_eq_false_iff_not]
    exact .inr fun hdigit => absurd (Char.le_trans hletter hdigit) (by decide : ¬ 'a' ≤ '9')
  have hnumber : Lexer.startsNumber c = true := by
    rw [Lexer.startsNumber, Text.isAsciiDigit_eq, h]
    rfl
  simp [Lexer.start, hspace, hmark, hne (d := '"') rfl, hword, hnumber]

/-- The integers that are not negative and fit 64 bits. -/
theorem exact_ofNat {n : Nat} (h : n < UInt64.size) : (ofNat n).Exact := by
  have hint : (ofNat n).toInt? = some (n : Int) := by simp [toInt?, ofNat, h]
  have htext : (ofNat n).render.toList = Nat.toDigits 10 n := by
    have hdigits : (toString n).toList = Nat.toDigits 10 n := by
      rw [Nat.toString_eq_ofList_toDigits, String.toList_ofList]
    rw [render, hint, ← hdigits]
    rfl
  obtain ⟨hsome, hdigits, -⟩ := digits_toDigits n
  constructor
  · obtain ⟨c, cs, hcs⟩ := List.exists_cons_of_ne_nil hsome
    exact ⟨c, cs, htext.trans hcs, start_of_isDigit (hdigits c (hcs ▸ List.mem_cons_self))⟩
  · intro c hc
    rw [Lexer.isNumberChar, Text.isAsciiDigit_eq, hdigits c (htext ▸ hc)]
    rfl
  · rw [htext]
    exact parse?_toDigits n

end Number

namespace Lexer

variable {rest : List Char}

/-- A number, character by character. -/
theorem scan_exact {n : Number} (hn : n.Exact) (hbreaks : Breaks rest) :
    scan .between (n.render.toList ++ rest) = (scan .between rest).map (.number n :: ·) := by
  obtain ⟨c, cs, htext, hstart⟩ := hn.start
  have hparse := hn.parse
  have hrun (d : Char) (hd : d ∈ cs) (read : List Char) :
      step (.number read) d = some ([], .number (d :: read)) := by
    rw [step, if_pos (hn.chars d (htext ▸ List.mem_cons_of_mem c hd))]
  rw [htext] at hparse ⊢
  have hfirst : step .between c = some ([], .number [c]) := hstart
  rw [List.cons_append, scan_on hfirst, scan_run hrun]
  exact scan_number (by simpa using hparse) hbreaks

end Lexer

end PodTunnels.Json
