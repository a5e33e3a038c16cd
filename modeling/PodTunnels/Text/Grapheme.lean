import PodTunnels.Text.Grapheme.Table

/-!
# Graphemes

A grapheme is what a reader takes for one character: a letter with its marks, a syllable of Hangul
letters, a flag of two regional indicators, an emoji joined from several, a conjunct of consonants.
A text is read from left to right. Whether a character goes on with the grapheme before it depends
on that character and on what has been read of the grapheme so far; the latter is kept as a small
state.
-/

namespace PodTunnels.Text.Grapheme

/-- What matters about a character at the boundary of a grapheme. -/
inductive BreakClass where
  | carriageReturn
  | lineFeed
  | control
  | extend
  | joiner
  | spacing
  | prepend
  | regional
  | leading
  | vowel
  | trailing
  | openSyllable
  | closedSyllable
  | other
  deriving DecidableEq, Repr

def joiner : Char := '\u200d'

def nonJoiner : Char := '\u200c'

/-- Whether a code point is a syllable of Hangul. -/
def isSyllable (n : Nat) : Bool :=
  decide (0xAC00 ≤ n) && decide (n ≤ 0xD7A3)

/-- The class of a character. Of the syllables of Hangul every twenty-eighth is open. -/
def breakClass (c : Char) : BreakClass :=
  let n := c.toNat
  if n = 0x0D then .carriageReturn
  else if n = 0x0A then .lineFeed
  else if 0x20 ≤ n ∧ n < 0x7F then .other
  else if c = joiner then .joiner
  else if 0x1F1E6 ≤ n ∧ n ≤ 0x1F1FF then .regional
  else if isSyllable n then
    if (n - 0xAC00) % 28 = 0 then .openSyllable else .closedSyllable
  else if among controlRanges c then .control
  else if among extendRanges c then .extend
  else if among spacingRanges c then .spacing
  else if among prependRanges c then .prepend
  else if among leadingRanges c then .leading
  else if among vowelRanges c then .vowel
  else if among trailingRanges c then .trailing
  else .other

/-- Whether a class always stands alone. -/
def BreakClass.isBreak : BreakClass → Bool
  | .carriageReturn | .lineFeed | .control => true
  | _ => false

/-- Whether a class goes on with whatever stands before it. -/
def BreakClass.clings : BreakClass → Bool
  | .extend | .joiner | .spacing => true
  | _ => false

/-- Whether two classes next to each other belong to one syllable of Hangul. -/
def BreakClass.sameSyllable : BreakClass → BreakClass → Bool
  | .leading, next =>
    next = .leading || next = .vowel || next = .openSyllable || next = .closedSyllable
  | .openSyllable, next | .vowel, next => next = .vowel || next = .trailing
  | .closedSyllable, next | .trailing, next => next = .trailing
  | _, _ => false

/-- What has been read of a grapheme. -/
structure Tail where
  /-- The class of its last character. -/
  last : BreakClass
  /-- Whether it ends in a pictograph and marks. -/
  pictograph : Bool
  /-- Whether it ends in a pictograph, marks and a joiner. -/
  joined : Bool
  /-- Whether it ends in a regional indicator that is not yet one of a pair. -/
  halfFlag : Bool
  /-- Whether it ends in a consonant, and signs that do not end its conjunct. -/
  consonant : Bool
  /-- Whether one of these signs is a linker. -/
  linked : Bool

/-- Whether a character of a class goes on with a grapheme. -/
def Tail.continuedBy (t : Tail) (c : Char) (next : BreakClass) : Bool :=
  if t.last = .carriageReturn && next = .lineFeed then true
  else if t.last.isBreak || next.isBreak then false
  else
    next.clings || t.last = .prepend || t.last.sameSyllable next ||
      (t.halfFlag && next = .regional) || (t.joined && among pictographRanges c) ||
      (t.linked && among consonantRanges c)

/-- What has been read of a grapheme that one character begins. -/
def Tail.start (c : Char) (k : BreakClass) : Tail where
  last := k
  pictograph := among pictographRanges c
  joined := false
  halfFlag := k = .regional
  consonant := among consonantRanges c
  linked := false

/-- What has been read of a grapheme that a character goes on with. -/
def Tail.push (t : Tail) (c : Char) (k : BreakClass) : Tail :=
  let fresh := Tail.start c k
  let sign := among linkerRanges c || (k = .extend || k = .joiner) && c ≠ nonJoiner
  { last := k
    pictograph := fresh.pictograph || (t.pictograph && k = .extend)
    joined := t.pictograph && k = .joiner
    halfFlag := fresh.halfFlag && !t.halfFlag
    consonant := fresh.consonant || (t.consonant && sign)
    linked := !fresh.consonant && t.consonant && sign && (t.linked || among linkerRanges c) }

/-- The graphemes of what follows a begun one, whose characters are given last first. -/
def split (begun : List Char) (t : Tail) : List Char → List (List Char)
  | [] => [begun.reverse]
  | c :: rest =>
    let k := breakClass c
    if t.continuedBy c k then split (c :: begun) (t.push c k) rest
    else begun.reverse :: split [c] (Tail.start c k) rest

theorem flatten_split (begun : List Char) (t : Tail) (cs : List Char) :
    (split begun t cs).flatten = begun.reverse ++ cs := by
  induction cs generalizing begun t with
  | nil => simp [split]
  | cons c rest ih => simp only [split]; split <;> simp [ih]

theorem split_ne_nil {begun : List Char} (t : Tail) (cs : List Char) (h : begun ≠ []) :
    ∀ g ∈ split begun t cs, g ≠ [] := by
  induction cs generalizing begun t with
  | nil => simp [split, h]
  | cons c rest ih =>
    simp only [split]
    split
    · exact ih _ (by simp)
    · intro g hg
      rcases List.mem_cons.mp hg with rfl | hg
      · simpa using h
      · exact ih _ (by simp) g hg

end PodTunnels.Text.Grapheme

namespace PodTunnels.Text

/-- The graphemes of a text, each as its characters. -/
def graphemeLists : List Char → List (List Char)
  | [] => []
  | c :: rest => Grapheme.split [c] (Grapheme.Tail.start c (Grapheme.breakClass c)) rest

/-- Together the graphemes are the whole text. -/
theorem flatten_graphemeLists (cs : List Char) : (graphemeLists cs).flatten = cs := by
  cases cs <;> simp [graphemeLists, Grapheme.flatten_split]

/-- No grapheme is empty. -/
theorem graphemeLists_ne_nil (cs : List Char) : ∀ g ∈ graphemeLists cs, g ≠ [] := by
  cases cs with
  | nil => simp [graphemeLists]
  | cons c rest => exact Grapheme.split_ne_nil _ rest (by simp)

def graphemes (s : String) : List String :=
  (graphemeLists s.toList).map String.ofList

end PodTunnels.Text
