import QueryConsole.Text.Case
import QueryConsole.Text.Direction
import QueryConsole.Text.Joining
import QueryConsole.Text.Mark
import QueryConsole.Text.Normal
import QueryConsole.Web.DomainTable
import QueryConsole.Web.Percent
import QueryConsole.Web.Punycode
/-!
# Domain names

A domain name is labels with points between them. What is typed for one is
decoded, its code points are mapped to those that they stand for, and it is
put into normal form; then each label has a form in ASCII. A label that
begins with `xn--` is such a form already, and has to be that of a label
which is left as it is. `Domain.ofText?` is the name in ASCII, if the text
is one.
-/

namespace QueryConsole.Web

namespace Domain

/-! ## Code points of names -/

/-- The code points that no name may hold. -/
def refused : Table := .read DomainTable.refused

/-- The code points that names are read without. -/
def ignored : Table := .read DomainTable.ignored

/-- The code points that stand for others. -/
def mapped : Table := .read DomainTable.mapped

/-- What a code point of a name stands for, if a name may hold it; those of
ASCII for themselves in lower case. -/
def meaning? (p : CodePoint) : Option Text :=
  if p.value < 0x80 then some p.lower
  else if refused.contains p.value then none
  else if ignored.contains p.value then some []
  else
    match mapped.find? p.value with
    | some ns => some (ns.map CodePoint.ofNat)
    | none => some [p]

/-- Whether a code point ends a part of an address, or is a control, so
that no label holds it. -/
def isDelimiter (p : CodePoint) : Bool :=
  p.value ≤ 0x20 || p.value = 0x7F || (Text.ofString "%#/:<>?@[\\]^|").contains p

end Domain

/-- A label as it is read and as it is written. -/
structure Label where
  plain : Text
  ascii : Text
  deriving DecidableEq, Repr

namespace Label

/-! ## Joiners -/

/-- The code point that keeps letters apart which would join. -/
def nonJoiner : CodePoint := .scalar '\u200C'

/-- The code point that joins letters. -/
def joiner : CodePoint := .scalar '\u200D'

/-- The combining class of the marks that take the vowel from a letter. -/
def vowelKiller : Nat := 9

/-- Whether the nearest letter joins to one of some sides. -/
def joins (sides : List Joining) (t : Text) : Bool :=
  match t.dropWhile fun p => p.joining = .transparent with
  | [] => false
  | p :: _ => sides.contains p.joining

/-- Whether a joiner has a use between what stands before it, nearest code
point first, and what follows: after a mark that takes the vowel, or, if it
keeps apart, between letters that join. -/
def fits (p : CodePoint) (before after : Text) : Bool :=
  match before with
  | [] => false
  | q :: _ =>
    q.combiningClass = vowelKiller ||
      (p = nonJoiner && joins [.left, .dual] before && joins [.right, .dual] after)

/-- Whether every joiner has a use. -/
def joinersFit (before : Text) : Text → Bool
  | [] => true
  | p :: t =>
    (if p = nonJoiner || p = joiner then fits p before t else true) && joinersFit (p :: before) t

/-! ## Directions -/

/-- Whether a code point makes a name one that is written to both sides; none
of ASCII does. -/
def turns (p : CodePoint) : Bool :=
  0x80 ≤ p.value && [Direction.right, .arabic, .arabicNumber].contains p.direction

/-- What may stand in a label of either direction. -/
def anywhere : List Direction :=
  [.number, .sign, .separator, .unit, .neutral, .boundary, .mark]

/-- Whether a label can be read in one way only among labels of either
direction: it begins with a letter, ends with a letter or a number, apart
from marks, and has only letters of one direction; if that is to the left,
it has only numbers of one kind. -/
def isDirected (plain : Text) : Bool :=
  match plain.map CodePoint.direction with
  | [] => true
  | first :: rest =>
    let rest := (rest.reverse.dropWhile (· == .mark)).reverse
    let within (allowed ends : List Direction) : Bool :=
      rest.all (fun d => allowed.contains d) && rest.getLast?.all fun d => ends.contains d
    if first = .left then within (.left :: anywhere) [.left, .number]
    else if first = .right || first = .arabic then
      within (.right :: .arabic :: .arabicNumber :: anywhere)
          [.right, .arabic, .number, .arabicNumber] &&
        !(rest.contains .number && rest.contains .arabicNumber)
    else false

/-! ## Labels -/

/-- The most code points of a label beyond ASCII. -/
def maxPlain : Nat := 1000

/-- The most code points of an ASCII form after its beginning. -/
def maxCoded : Nat := 2000

/-- Whether a text beyond ASCII may be a label. -/
def isLabel (t : Text) : Bool :=
  !(t.head?.any CodePoint.isMark) && joinersFit [] t && t.length ≤ maxPlain

/-- Whether a text is one that names are read as: it is left as it is by
mapping and normal form, and has no point. -/
def isFixed (t : Text) : Bool :=
  t.all (fun p => Domain.meaning? p == some [p] && !Domain.isDelimiter p && p != .scalar '.') &&
    t.normal == t

/-- The label that what follows `xn--` encodes. -/
def decode? (coded : Text) : Option Text :=
  if coded.getLast?.all (· == .scalar '-') || maxCoded < coded.length || !coded.isAscii then none
  else
    match Punycode.decode coded with
    | none => none
    | some plain => if isFixed plain && isLabel plain then some plain else none

/-- The label that a text is. -/
def ofText? (t : Text) : Option Label :=
  if t.any Domain.isDelimiter then none
  else
    match Text.dropStart? "xn--" t with
    | some coded => (decode? coded).map fun plain => ⟨plain, t⟩
    | none =>
      if t.isAscii then some ⟨t, t⟩
      else if isLabel t then some ⟨t, "xn--" ++ Punycode.encode t⟩
      else none

end Label

namespace Domain

/-- The labels of a text that is decoded. -/
def labels? (t : Text) : Option (List Label) :=
  match t.mapM meaning? with
  | none => none
  | some meanings =>
    ((Text.normal meanings.flatten).splitOn (.scalar '.')).mapM Label.ofText?

/-- **The domain name that a text is**, in ASCII. Where letters are written
to both sides, every label has to keep to one. -/
def ofText? (t : Text) : Option Text :=
  match Utf8.decode false 0 (decode t) with
  | .error _ => none
  | .ok decoded =>
    match labels? decoded with
    | none => none
    | some labels =>
      if labels.any (fun l => l.plain.any Label.turns) &&
          !labels.all (fun l => Label.isDirected l.plain) then none
      else some (Text.intercalate "." (labels.map Label.ascii))

end Domain

end QueryConsole.Web
