import QueryConsole.Template.Spec
import QueryConsole.Template.Thing
/-!
# Numbers in a width

Numbers laid out by a format specification. A number is first taken apart
into `Parts`: sign, base mark, the digits that may be grouped, and what
follows them. `Parts.layout` puts them into the width; zeros that fill the
width between sign and digits are grouped with the digits.
-/

namespace QueryConsole.Template

/-- Widths from this one on are refused. -/
def widthLimit : Nat := 2 ^ 36

/-- Puts a text into a width. -/
def pad (spec : Spec) (t : Text) : Except Fault Text :=
  let width := spec.width.getD 0
  if widthLimit ≤ width then .error .tooWide
  else
    let missing := width - t.length
    let before :=
      match spec.alignment with
      | .right => missing
      | .center => missing / 2
      | _ => 0
    .ok (List.replicate before spec.fill ++ t ++ List.replicate (missing - before) spec.fill)

/-- A text in a format specification, the precision of which is the most
code points that are kept. -/
def formatText (spec : Spec) (t : Text) : Except Fault Text :=
  if spec.sign = some .blank then .error .spaceOnText
  else if spec.sign.isSome then .error .signOnText
  else if spec.zeroCoercion then .error .zeroCoercionOnText
  else if spec.alternate then .error .alternateOnText
  else if spec.alignment = .afterSign then .error .signAlignmentOnText
  else pad spec (t.take (spec.precision.getD t.length))

/-- The parts of a number. -/
structure Parts where
  negative : Bool
  base : Text
  digits : Text
  tail : Text

/-- Digits, last one first, in groups of `size`; zeros are put before them
until `width` places are taken. Every group takes a place, so that `fuel`
need be no more than the digits and places together. -/
def groupDigits (separator : CodePoint) (size : Nat) : Nat → Text → Int → Text
  | 0, ds, _ => ds
  | fuel + 1, ds, width =>
    let length := min size (max (max ds.length width.toNat) 1)
    let group := ds.take length
    let zeros : Text := List.replicate (length - group.length) (.scalar '0')
    let rest := ds.drop length
    let width := width - length
    if rest.isEmpty && width ≤ 0 then group ++ zeros
    else group ++ zeros ++ separator :: groupDigits separator size fuel rest (width - 1)

namespace Parts

/-- The sign that a rule gives. -/
def signText (rule : Option SignRule) (negative : Bool) : Text :=
  if negative then "-"
  else
    match rule with
    | some .plus => "+"
    | some .blank => " "
    | _ => ""

/-- The digits with their separators and the zeros before them. -/
def grouped (grouping : Option Grouping) (digits : Text) (width : Int) : Text :=
  if digits.isEmpty then []
  else
    match grouping with
    | some g =>
      (groupDigits (.scalar g.separator) g.size (digits.length + width.toNat + 1)
        digits.reverse width).reverse
    | none => List.replicate (width.toNat - digits.length) (.scalar '0') ++ digits

/-- **A number in a format specification.** -/
def layout (spec : Spec) (parts : Parts) : Except Fault Text :=
  let width := spec.width.getD 0
  if widthLimit ≤ width then .error .tooWide
  else
    let sign := signText spec.sign parts.negative
    let fixed := sign.length + parts.base.length + parts.tail.length
    let least : Int :=
      if spec.fill = .scalar '0' ∧ spec.alignment = .afterSign then width - fixed else 0
    let digits := grouped spec.grouping parts.digits least
    let missing := width - (fixed + digits.length)
    let body := digits ++ parts.tail
    let fill (n : Nat) : Text := List.replicate n spec.fill
    .ok <|
      match spec.alignment with
      | .left => sign ++ parts.base ++ body ++ fill missing
      | .right => fill missing ++ sign ++ parts.base ++ body
      | .center =>
        fill (missing / 2) ++ sign ++ parts.base ++ body ++ fill (missing - missing / 2)
      | .afterSign => sign ++ parts.base ++ fill missing ++ body

end Parts

/-! ## Double precision numbers -/

/-- Whether two specifications' codes are the same letter, of either
case. -/
def isCode (code : Option CodePoint) (small capital : Char) : Bool :=
  code == some (.scalar small) || code == some (.scalar capital)

/-- The digits of a number around its point, and its exponent. -/
structure Shape where
  whole : List Digit
  fraction : List Digit
  exponent : Option Int

namespace Shape

/-- So many places after the point. -/
def fixed (quanta places : Nat) : Shape :=
  let ds := Digits.ofNat (Decimal.places quanta places)
  let ds := List.replicate (places + 1 - ds.length) 0 ++ ds
  ⟨ds.take (ds.length - places), ds.drop (ds.length - places), none⟩

/-- So many significant digits; zero has the exponent zero. -/
def significant (quanta count : Nat) : Decimal :=
  if quanta = 0 then ⟨List.replicate count 0, 0⟩ else Decimal.significant quanta count

/-- One digit before the point. -/
def ofDecimal (d : Decimal) : Shape :=
  ⟨d.digits.take 1, d.digits.drop 1, some d.exponent⟩

/-- The digits of a decimal around its point. -/
def positional (d : Decimal) : Shape :=
  let (whole, fraction) := Layout.positional d.digits d.exponent
  ⟨whole, fraction, none⟩

/-- So many places after the first digit. -/
def scientific (quanta places : Nat) : Shape :=
  ofDecimal (significant quanta (places + 1))

/-- Zeros at the end of the digits are dropped. -/
def dropZeros (d : Decimal) : Decimal :=
  match (d.digits.reverse.dropWhile (· == 0)).reverse with
  | [] => ⟨[0], d.exponent⟩
  | ds => ⟨ds, d.exponent⟩

/-- At least one place after the point. -/
def withPlace (s : Shape) : Shape :=
  if s.fraction.isEmpty then { s with fraction := [0] } else s

/-- So many significant digits, with an exponent only where the number is
small or has more digits before the point than that; `point` asks for a
place after the point. -/
def general (quanta count : Nat) (keepZeros point : Bool) : Shape :=
  let rounded := significant quanta (max count 1)
  let d := if keepZeros then rounded else dropZeros rounded
  let most : Int := (max count 1 : Nat) - (if point then 1 else 0)
  if d.exponent < -4 ∨ most < d.exponent + 1 then ofDecimal d
  else if point then (positional d).withPlace
  else positional d

/-- The fewest digits that read back. -/
def shortest (quanta : Nat) : Shape :=
  let d := if quanta = 0 then ⟨[0], 0⟩ else Decimal.shortest quanta
  if d.exponent < -4 ∨ 16 ≤ d.exponent then ofDecimal d else (positional d).withPlace

/-- Whether all digits are zeros. -/
def isZero (s : Shape) : Bool :=
  (s.whole ++ s.fraction).all (· == 0)

/-- What follows the digits before the point. -/
def tail (s : Shape) (keepPoint capital : Bool) : Text :=
  let fraction := s.fraction.map Digits.codePoint
  (if fraction.isEmpty && !keepPoint then [] else Text.ofChar '.' ++ fraction) ++
    match s.exponent with
    | some e => Layout.exponent (if capital then 'E' else 'e') 2 e
    | none => []

end Shape

/-- The shape of a magnitude under a code and a precision. -/
def shape (spec : Spec) (quanta : Nat) : Shape :=
  let precision := spec.precision.getD 6
  if isCode spec.code 'e' 'E' then Shape.scientific quanta precision
  else if isCode spec.code 'f' 'F' || isCode spec.code '%' '%' then Shape.fixed quanta precision
  else if spec.code.isSome then Shape.general quanta precision spec.alternate false
  else
    match spec.precision with
    | some count => Shape.general quanta count spec.alternate true
    | none => Shape.shortest quanta

/-- Whether letters are capitals under a code. -/
def isCapital (code : Option CodePoint) : Bool :=
  [some (.scalar 'E'), some (.scalar 'F'), some (.scalar 'G')].contains code

/-- A double precision number in a format specification. -/
def formatFloat (spec : Spec) (x : Binary64) : Except Fault Text :=
  if 2 ^ 31 ≤ spec.precision.getD 0 then .error .precisionTooBig
  else
    let percent := isCode spec.code '%' '%'
    let after : Text := if percent then "%" else ""
    let capital := isCapital spec.code
    match if percent then x.timesHundred else x with
    | .finite negative quanta =>
      let s := shape spec quanta
      let negative := negative && !(spec.zeroCoercion && s.isZero)
      Parts.layout spec
        ⟨negative, [], s.whole.map Digits.codePoint, s.tail spec.alternate capital ++ after⟩
    | .infinite negative =>
      Parts.layout spec ⟨negative, [], [], (if capital then "INF" else "inf") ++ after⟩
    | .nan => Parts.layout spec ⟨false, [], [], (if capital then "NAN" else "nan") ++ after⟩

/-! ## Integers -/

/-- The digits of a natural number in a base. -/
def baseDigits (base n : Nat) : Text :=
  (Nat.toDigits base n).map CodePoint.scalar

/-- An integer as the code point that it numbers. -/
def formatCharacter (spec : Spec) (n : Int) : Except Fault Text :=
  if spec.sign.isSome then .error .signOnCharacter
  else if spec.alternate then .error .alternateOnCharacter
  else if n < -0x8000000000000000 ∨ 0x8000000000000000 ≤ n then .error .characterTooLarge
  else if n < 0 then .error .characterOutOfRange
  else
    match CodePoint.ofNat? n.toNat with
    | none => .error .characterOutOfRange
    | some p => Parts.layout spec ⟨false, [], [], [p]⟩

/-- The parts of an integer under a code. -/
def integerParts (spec : Spec) (n : Int) : Except Fault Parts :=
  let negative := decide (n < 0)
  let mark (t : Text) : Text := if spec.alternate then t else []
  if isCode spec.code 'b' 'b' then .ok ⟨negative, mark "0b", baseDigits 2 n.natAbs, []⟩
  else if isCode spec.code 'o' 'o' then .ok ⟨negative, mark "0o", baseDigits 8 n.natAbs, []⟩
  else if isCode spec.code 'x' 'x' then .ok ⟨negative, mark "0x", baseDigits 16 n.natAbs, []⟩
  else if isCode spec.code 'X' 'X' then
    .ok ⟨negative, mark "0X",
      (Nat.toDigits 16 n.natAbs).map fun c => CodePoint.scalar c.toUpper, []⟩
  else
    (Value.decimalDigits n.natAbs).map fun ds => ⟨negative, [], ds.map Digits.codePoint, []⟩

/-- An integer in a format specification. -/
def formatInteger (spec : Spec) (n : Int) (typeName : String) : Except Fault Text :=
  let code := spec.code.getD (.scalar 'd')
  if (Text.ofString "bcdoxXn").contains code then
    if spec.precision.isSome then .error .precisionOnInteger
    else if spec.zeroCoercion then .error .zeroCoercionOnInteger
    else if code = .scalar 'c' then formatCharacter spec n
    else integerParts spec n >>= Parts.layout spec
  else if (Text.ofString "eEfFgG%").contains code then
    match Binary64.ofInt n with
    | .infinite _ => .error .integerTooLargeForFloat
    | x => formatFloat spec x
  else .error (.unknownCode code typeName)

/-! ## Values and other things -/

/-- **A value in a format specification.** Without one it is the text of
the value. -/
def Value.format (spec : Text) (v : Value) : Except Fault Text :=
  if spec.isEmpty then v.toText
  else
    match v with
    | .text t => do
      let s ← Spec.parse v.typeName (some (.scalar 's')) .left spec
      if s.code = some (.scalar 's') then formatText s t
      else throw (.unknownCode (s.code.getD (.scalar 's')) v.typeName)
    | .int n => do
      formatInteger (← Spec.parse v.typeName (some (.scalar 'd')) .right spec) n v.typeName
    | .bool b => do
      formatInteger (← Spec.parse v.typeName (some (.scalar 'd')) .right spec)
        (if b then 1 else 0) v.typeName
    | .float x => do
      let s ← Spec.parse v.typeName Option.none .right spec
      match s.code with
      | some p =>
        if (Text.ofString "eEfFgGn%").contains p then formatFloat s x
        else if p = .scalar '\x00' then formatFloat { s with code := Option.none } x
        else throw (.unknownCode p v.typeName)
      | Option.none => formatFloat s x
    | .none => .error (.unsupportedSpec v.typeName)

/-- What a placeholder reaches in a format specification: only values take
one. -/
def Thing.format (spec : Text) (t : Thing) : Except Fault Text :=
  match t with
  | .value v => v.format spec
  | t => if spec.isEmpty then t.toText else .error (.unsupportedSpec t.kindOf.fullName)

end QueryConsole.Template
