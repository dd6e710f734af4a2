import QueryConsole.Text.NormalTable
import QueryConsole.Text.Table
/-!
# The composed normal form

A letter with marks may be written in several ways that mean the same, and
`Text.normal` writes it in one: the text is taken apart, marks are put into
the order of their combining classes, and letters and marks are put
together again where Unicode has one code point for them. Syllables of
Hangul are taken apart and put together by number.
-/

namespace QueryConsole

/-! ## Syllables of Hangul -/

namespace Hangul

/-- The first syllable. -/
def syllable : Nat := 0xAC00

/-- The first leading consonant. -/
def leading : Nat := 0x1100

/-- The first vowel. -/
def vowel : Nat := 0x1161

/-- The number from which trailing consonants are counted, itself none of
them. -/
def trailing : Nat := 0x11A7

/-- Whether a number is that of a syllable. -/
def isSyllable (n : Nat) : Bool :=
  syllable ≤ n && n < syllable + 19 * 21 * 28

/-- The letters of a syllable: a consonant, a vowel, and a consonant unless
it ends in the vowel. -/
def letters (n : Nat) : List Nat :=
  let i := n - syllable
  [leading + i / (21 * 28), vowel + i % (21 * 28) / 28] ++
    if i % 28 = 0 then [] else [trailing + i % 28]

/-- The syllable of a consonant and a vowel, or of a syllable that ends in
its vowel and a consonant. -/
def join? (a b : Nat) : Option Nat :=
  if leading ≤ a ∧ a < leading + 19 ∧ vowel ≤ b ∧ b < vowel + 21 then
    some (syllable + ((a - leading) * 21 + (b - vowel)) * 28)
  else if isSyllable a ∧ (a - syllable) % 28 = 0 ∧ trailing < b ∧ b < trailing + 28 then
    some (a + (b - trailing))
  else none

end Hangul

/-! ## What is read from the tables -/

namespace NormalTable

/-- What numbers are taken apart into, one step at a time. -/
def parts : Table := .read decompositions

/-- The combining classes. -/
def orders : Table := .read classes

/-- Two numbers as one. -/
def pairKey (a b : Nat) : Nat := a * 2 ^ 21 + b

/-- What pairs are put together to. -/
def wholes : Table :=
  let apart : Table := .read separate
  let rows := parts.toList.filterMap fun row =>
    match row.value with
    | [a, b] =>
      if apart.contains row.first then none
      else some (Table.Row.mk (pairKey a b) (pairKey a b) [row.first])
    | _ => none
  (rows.mergeSort fun r s => r.first ≤ s.first).toArray

/-- The most steps in which a number is taken apart. -/
def maxSteps : Nat := 4

/-- What a number is taken apart into in so many steps. -/
def split : Nat → Nat → List Nat
  | 0, n => [n]
  | steps + 1, n =>
    match parts.find? n with
    | some ns => ns.flatMap (split steps)
    | none => [n]

/-- The number that two are put together to. -/
def join? (a b : Nat) : Option Nat :=
  match Hangul.join? a b with
  | some n => some n
  | none => (wholes.find? (pairKey a b)).bind List.head?

end NormalTable

namespace CodePoint

/-- The class that tells in which order a mark stands among others; zero
for what is no mark or keeps its place. -/
def combiningClass (p : CodePoint) : Nat :=
  ((NormalTable.orders.find? p.value).bind List.head?).getD 0

/-- A code point taken apart. -/
def decomposed (p : CodePoint) : Text :=
  (if Hangul.isSyllable p.value then Hangul.letters p.value
    else NormalTable.split NormalTable.maxSteps p.value).map ofNat

/-- The code point that two are put together to. -/
def join? (p q : CodePoint) : Option CodePoint :=
  (NormalTable.join? p.value q.value).map ofNat

end CodePoint

/-! ## The normal form -/

namespace Text

/-- Puts a mark before the marks of its class or a higher one. -/
def insertMark (p : CodePoint) : Text → Text
  | [] => [p]
  | q :: t =>
    if 0 < q.combiningClass ∧ q.combiningClass < p.combiningClass then q :: insertMark p t
    else p :: q :: t

/-- A text with its marks in the order of their classes, those of one class
in the order in which they stand. -/
def ordered : Text → Text
  | [] => []
  | p :: t => if p.combiningClass = 0 then p :: ordered t else insertMark p (ordered t)

/-- A text taken apart. -/
def decomposed (t : Text) : Text :=
  ordered (t.flatMap CodePoint.decomposed)

/-- Puts the marks that follow a code point together with it. `passed` are
the marks that were not, last one first; one of them that has the class of
the mark or a higher one keeps the two apart. -/
def composeFrom (base : CodePoint) (passed : Text) : Text → Text
  | [] => base :: passed.reverse
  | p :: t =>
    let order := p.combiningClass
    let near :=
      match passed with
      | [] => true
      | q :: _ => q.combiningClass < order
    match if near then base.join? p else none with
    | some whole => composeFrom whole passed t
    | none =>
      if order = 0 then base :: passed.reverse ++ composeFrom p [] t
      else composeFrom base (p :: passed) t

/-- A text that is taken apart, put together again. Marks at its beginning
stay as they are. -/
def composed (t : Text) : Text :=
  let marks := t.takeWhile fun p => 0 < p.combiningClass
  match t.drop marks.length with
  | [] => marks
  | p :: rest => marks ++ composeFrom p [] rest

/-- **The composed normal form of a text.** One of ASCII is that of
itself. -/
def normal (t : Text) : Text :=
  if t.isAscii then t else composed (decomposed t)

end Text

end QueryConsole
