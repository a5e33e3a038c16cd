import PodTunnels.Json.Parser
import PodTunnels.Proofs.Scanning

/-!
# JSON text is read back

The indented text of a value is read as the document that says just that value, if its numbers are
written as they are read (`parse?_pretty`). The way leads over the tokens of the value. The scanner
finds them in the text (`scan_indented`), and the parser makes the document of them, whatever is
open around it (`foldlM_tokens`). Both go by the shape of the value.
-/

namespace PodTunnels.Json

/-! ## The numbers and the tokens of a value -/

mutual

def numbers : Json → List Number
  | .null => []
  | .bool _ => []
  | .number n => [n]
  | .string _ => []
  | .array items => itemNumbers items
  | .object members => memberNumbers members

def itemNumbers : List Json → List Number
  | [] => []
  | v :: vs => numbers v ++ itemNumbers vs

def memberNumbers : List (String × Json) → List Number
  | [] => []
  | (_, v) :: ms => numbers v ++ memberNumbers ms

end

mutual

def tokens : Json → List Token
  | .null => [.null]
  | .bool b => [.bool b]
  | .number n => [.number n]
  | .string s => [.string (some s)]
  | .array [] => [.mark '[', .mark ']']
  | .array (v :: vs) => .mark '[' :: (tokens v ++ itemTokens vs ++ [.mark ']'])
  | .object [] => [.mark '{', .mark '}']
  | .object ((name, v) :: ms) =>
    .mark '{' :: .string (some name) :: .mark ':' ::
      (tokens v ++ memberTokens ms ++ [.mark '}'])

/-- The tokens of the items after the first, each after a comma. -/
def itemTokens : List Json → List Token
  | [] => []
  | v :: vs => .mark ',' :: (tokens v ++ itemTokens vs)

/-- The tokens of the members after the first, each after a comma. -/
def memberTokens : List (String × Json) → List Token
  | [] => []
  | (name, v) :: ms =>
    .mark ',' :: .string (some name) :: .mark ':' :: (tokens v ++ memberTokens ms)

end

/-! ## From the text to the tokens -/

namespace Lexer

variable {cs rest : List Char}

theorem scan_mark {c : Char} (h : step .between c = some ([.mark c], .between)) :
    scan .between (c :: cs) = (scan .between cs).map (.mark c :: ·) :=
  scan_step h cs

theorem scan_newLine (level : Nat) :
    scan .between ((newLine level).toList ++ cs) = scan .between cs := by
  have hblanks (n : Nat) : scan .between (List.replicate n ' ' ++ cs) = scan .between cs := by
    induction n with
    | zero => rfl
    | succ n ih => exact (scan_on rfl _).trans ih
  have htext : (newLine level).toList ++ cs = '\n' :: (List.replicate (2 * level) ' ' ++ cs) := by
    simp [newLine]
  rw [htext, scan_on rfl, hblanks]

/-- The name of a member, the colon and the blank after it. -/
theorem scan_name (name : String) :
    scan .between ((renderString name).toList ++ ':' :: ' ' :: cs) =
      (scan .between cs).map fun ts => .string (some name) :: .mark ':' :: ts := by
  have hblank : scan .between (' ' :: cs) = scan .between cs := scan_on rfl cs
  rw [scan_renderString, scan_mark rfl, hblank, Option.map_map]
  rfl

theorem breaks_newLine (level : Nat) : Breaks ((newLine level).toList ++ cs) := by
  have htext : (newLine level).toList ++ cs = '\n' :: (List.replicate (2 * level) ' ' ++ cs) := by
    simp [newLine]
  rw [htext]
  exact breaks_cons rfl rfl

theorem breaks_items (level : Nat) (vs : List Json) (h : Breaks cs) :
    Breaks ((indentedItems level vs).toList ++ cs) := by
  cases vs with
  | nil => simpa [indentedItems] using h
  | cons v vs =>
    simp only [indentedItems, String.toList_append, List.append_assoc]
    exact breaks_cons rfl rfl

theorem breaks_members (level : Nat) (ms : List (String × Json)) (h : Breaks cs) :
    Breaks ((indentedMembers level ms).toList ++ cs) := by
  cases ms with
  | nil => simpa [indentedMembers] using h
  | cons m ms =>
    simp only [indentedMembers, String.toList_append, List.append_assoc]
    exact breaks_cons rfl rfl

mutual

theorem scan_indented (level : Nat) (v : Json) {rest : List Char}
    (hexact : ∀ n ∈ v.numbers, n.Exact) (hbreaks : Breaks rest) :
    scan .between ((indented level v).toList ++ rest) =
      (scan .between rest).map (v.tokens ++ ·) := by
  match v with
  | .null =>
    rw [indented, tokens]
    exact scan_spelled 'n' ['u', 'l', 'l'] rfl rfl rfl hbreaks
  | .bool true =>
    rw [indented, tokens]
    exact scan_spelled 't' ['r', 'u', 'e'] rfl rfl rfl hbreaks
  | .bool false =>
    rw [indented, tokens]
    exact scan_spelled 'f' ['a', 'l', 's', 'e'] rfl rfl rfl hbreaks
  | .number n =>
    rw [indented, tokens]
    exact scan_exact (hexact n (by simp [numbers])) hbreaks
  | .string s =>
    rw [indented, tokens]
    exact scan_renderString s rest
  | .array [] =>
    have htext : "[]".toList ++ rest = '[' :: ']' :: rest := rfl
    rw [indented, tokens, htext, scan_mark rfl, scan_mark rfl, Option.map_map]
    rfl
  | .array (v :: vs) =>
    rw [numbers, itemNumbers, List.forall_mem_append] at hexact
    have htext : (indented level (.array (v :: vs))).toList ++ rest =
        '[' :: ((newLine (level + 1)).toList ++ ((indented (level + 1) v).toList ++
          ((indentedItems (level + 1) vs).toList ++ ((newLine level).toList ++ ']' :: rest)))) := by
      simp [indented]
    rw [htext, scan_mark rfl, scan_newLine,
      scan_indented (level + 1) v hexact.1 (breaks_items _ vs (breaks_newLine level)),
      scan_indentedItems (level + 1) vs hexact.2 (breaks_newLine level), scan_newLine,
      scan_mark rfl]
    simp [tokens, Option.map_map, Function.comp_def]
  | .object [] =>
    have htext : "\x7b\x7d".toList ++ rest = '{' :: '}' :: rest := rfl
    rw [indented, tokens, htext, scan_mark rfl, scan_mark rfl, Option.map_map]
    rfl
  | .object ((name, v) :: ms) =>
    rw [numbers, memberNumbers, List.forall_mem_append] at hexact
    have htext : (indented level (.object ((name, v) :: ms))).toList ++ rest =
        '{' :: ((newLine (level + 1)).toList ++ ((renderString name).toList ++ ':' :: ' ' ::
          ((indented (level + 1) v).toList ++ ((indentedMembers (level + 1) ms).toList ++
            ((newLine level).toList ++ '}' :: rest))))) := by
      simp [indented]
    rw [htext, scan_mark rfl, scan_newLine, scan_name,
      scan_indented (level + 1) v hexact.1 (breaks_members _ ms (breaks_newLine level)),
      scan_indentedMembers (level + 1) ms hexact.2 (breaks_newLine level), scan_newLine,
      scan_mark rfl]
    simp [tokens, Option.map_map, Function.comp_def]

theorem scan_indentedItems (level : Nat) (vs : List Json) {rest : List Char}
    (hexact : ∀ n ∈ itemNumbers vs, n.Exact) (hbreaks : Breaks rest) :
    scan .between ((indentedItems level vs).toList ++ rest) =
      (scan .between rest).map (itemTokens vs ++ ·) := by
  match vs with
  | [] => simp [indentedItems, itemTokens]
  | v :: vs =>
    rw [itemNumbers, List.forall_mem_append] at hexact
    have htext : (indentedItems level (v :: vs)).toList ++ rest =
        ',' :: ((newLine level).toList ++ ((indented level v).toList ++
          ((indentedItems level vs).toList ++ rest))) := by
      simp [indentedItems]
    rw [htext, scan_mark rfl, scan_newLine,
      scan_indented level v hexact.1 (breaks_items _ vs hbreaks),
      scan_indentedItems level vs hexact.2 hbreaks]
    simp [itemTokens, Option.map_map, Function.comp_def]

theorem scan_indentedMembers (level : Nat) (ms : List (String × Json)) {rest : List Char}
    (hexact : ∀ n ∈ memberNumbers ms, n.Exact) (hbreaks : Breaks rest) :
    scan .between ((indentedMembers level ms).toList ++ rest) =
      (scan .between rest).map (memberTokens ms ++ ·) := by
  match ms with
  | [] => simp [indentedMembers, memberTokens]
  | (name, v) :: ms =>
    rw [memberNumbers, List.forall_mem_append] at hexact
    have htext : (indentedMembers level ((name, v) :: ms)).toList ++ rest =
        ',' :: ((newLine level).toList ++ ((renderString name).toList ++ ':' :: ' ' ::
          ((indented level v).toList ++ ((indentedMembers level ms).toList ++ rest)))) := by
      simp [indentedMembers]
    rw [htext, scan_mark rfl, scan_newLine, scan_name,
      scan_indented level v hexact.1 (breaks_members _ ms hbreaks),
      scan_indentedMembers level ms hexact.2 hbreaks]
    simp [memberTokens, Option.map_map, Function.comp_def]

end

end Lexer

/-! ## From the tokens to the document -/

namespace Parser

/-- Where an array may end at once, a value begins as elsewhere. -/
theorem foldlM_firstItem (v : Json) (stack : List Frame) :
    v.tokens.foldlM step (.firstItem stack) = v.tokens.foldlM step (.value stack) := by
  match v with
  | .null => rfl
  | .bool _ => rfl
  | .number _ => rfl
  | .string _ => rfl
  | .array [] => rfl
  | .array (_ :: _) => rfl
  | .object [] => rfl
  | .object (_ :: _) => rfl

mutual

/-- The tokens of a value complete the document that says just that. -/
theorem foldlM_tokens (v : Json) (stack : List Frame) :
    v.tokens.foldlM step (.value stack) = complete v.document stack := by
  match v with
  | .null => simp [tokens, document, step, beginValue]
  | .bool _ => simp [tokens, document, step, beginValue]
  | .number _ => simp [tokens, document, step, beginValue]
  | .string _ => simp [tokens, document, step, beginValue]
  | .array [] => simp [tokens, document, documents, step, beginValue, close]
  | .array (v :: vs) =>
    have hopen : step (.value stack) (.mark '[') = some (.firstItem (.array [] :: stack)) := rfl
    have hfirst : complete v.document (.array [] :: stack) =
        some (.after (.array [v.document] :: stack)) := rfl
    simp only [tokens, List.foldlM_cons, hopen, Option.bind_eq_bind, Option.bind_some,
      List.foldlM_append, foldlM_firstItem, foldlM_tokens v, hfirst, foldlM_itemTokens vs]
    simp [step, continueFrame, close, document, documents]
  | .object [] => simp [tokens, document, memberDocuments, step, beginValue, close]
  | .object ((name, v) :: ms) =>
    have hopen : step (.value stack) (.mark '{') = some (.firstName (.object [] :: stack)) := rfl
    have hname : step (.firstName (.object [] :: stack)) (.string (some name)) =
        some (.colon (.member [] (some name) :: stack)) := rfl
    have hcolon : step (.colon (.member [] (some name) :: stack)) (.mark ':') =
        some (.value (.member [] (some name) :: stack)) := rfl
    have hfirst : complete v.document (.member [] (some name) :: stack) =
        some (.after (.object [(some name, v.document)] :: stack)) := rfl
    simp only [tokens, List.foldlM_cons, hopen, hname, hcolon, Option.bind_eq_bind,
      Option.bind_some, List.foldlM_append, foldlM_tokens v, hfirst, foldlM_memberTokens ms]
    simp [step, continueFrame, close, document, memberDocuments]

/-- The items after the first follow those that are read. -/
theorem foldlM_itemTokens (vs : List Json) (read : List Document) (stack : List Frame) :
    (itemTokens vs).foldlM step (.after (.array read :: stack)) =
      some (.after (.array ((documents vs).reverse ++ read) :: stack)) := by
  match vs with
  | [] => rfl
  | v :: vs =>
    have hcomma : step (.after (.array read :: stack)) (.mark ',') =
        some (.value (.array read :: stack)) := rfl
    simp only [itemTokens, List.foldlM_cons, hcomma, Option.bind_eq_bind, Option.bind_some,
      List.foldlM_append, foldlM_tokens v, complete, foldlM_itemTokens vs, documents]
    simp

theorem foldlM_memberTokens (ms : List (String × Json)) (read : List (Option String × Document))
    (stack : List Frame) :
    (memberTokens ms).foldlM step (.after (.object read :: stack)) =
      some (.after (.object ((memberDocuments ms).reverse ++ read) :: stack)) := by
  match ms with
  | [] => rfl
  | (name, v) :: ms =>
    have hcomma : step (.after (.object read :: stack)) (.mark ',') =
        some (.name (.object read :: stack)) := rfl
    have hname : step (.name (.object read :: stack)) (.string (some name)) =
        some (.colon (.member read (some name) :: stack)) := rfl
    have hcolon : step (.colon (.member read (some name) :: stack)) (.mark ':') =
        some (.value (.member read (some name) :: stack)) := rfl
    simp only [memberTokens, List.foldlM_cons, hcomma, hname, hcolon, Option.bind_eq_bind,
      Option.bind_some, List.foldlM_append, foldlM_tokens v, complete, foldlM_memberTokens ms,
      memberDocuments]
    simp

end

end Parser

/-- The indented text of a value is read as the document that says just that value. -/
theorem parse?_pretty {v : Json} (h : ∀ n ∈ v.numbers, n.Exact) :
    Document.parse? v.pretty = some v.document := by
  have htokens : tokens? v.pretty = some v.tokens := by
    have hend : Lexer.Breaks [] := by rintro c ⟨⟩
    have hscan := Lexer.scan_indented 0 v h hend
    simpa [tokens?, pretty, Lexer.scan, Lexer.finish] using hscan
  have hdone : v.tokens.foldlM Parser.step (.value []) = some (.done v.document) :=
    Parser.foldlM_tokens v []
  rw [Document.parse?, htokens]
  simp [hdone]

end PodTunnels.Json
