import QueryConsole.Template.Value
import QueryConsole.Text.DecimalDigit
/-!
# Format specifications

What follows the colon of a placeholder: fill and alignment, sign, zero
coercion, alternate form, zero padding, width, separator, precision and a
code, all optional and in this order. `Spec.parse` reads them.
-/

namespace QueryConsole.Template

/-- The greatest number that a template may hold. -/
def maxNumber : Nat := 2 ^ 63 - 1

/-- A decimal number at the beginning of a text, its value so far and
whether there was a digit. -/
def readNumber (soFar : Nat) (seen : Bool) : Text → Except Fault (Option Nat × Text)
  | [] => .ok (if seen then some soFar else none, [])
  | p :: t =>
    match p.decimalValue? with
    | some d =>
      if (maxNumber - d) / 10 < soFar then .error .tooManyDigits
      else readNumber (soFar * 10 + d) true t
    | none => .ok (if seen then some soFar else none, p :: t)

/-- Where a value stands within its width. `afterSign` puts the fill
between the sign and the digits. -/
inductive Alignment
  | left
  | right
  | center
  | afterSign
  deriving DecidableEq, Repr

/-- The alignment that a code point is for. -/
def Alignment.ofCodePoint? : CodePoint → Option Alignment
  | .scalar '<' => some left
  | .scalar '>' => some right
  | .scalar '^' => some center
  | .scalar '=' => some afterSign
  | _ => none

/-- Which numbers have a sign. -/
inductive SignRule
  | plus
  | minus
  | blank
  deriving DecidableEq, Repr

/-- The rule that a code point is for. -/
def SignRule.ofCodePoint? : CodePoint → Option SignRule
  | .scalar '+' => some plus
  | .scalar '-' => some minus
  | .scalar ' ' => some blank
  | _ => none

/-- A separator and the number of digits in a group. -/
structure Grouping where
  separator : Char
  size : Nat
  deriving DecidableEq, Repr

/-- A format specification. -/
structure Spec where
  fill : CodePoint
  alignment : Alignment
  sign : Option SignRule
  zeroCoercion : Bool
  alternate : Bool
  width : Option Nat
  grouping : Option Grouping
  precision : Option Nat
  code : Option CodePoint
  deriving DecidableEq, Repr

namespace Spec

/-- The fill, whether it was given, and the alignment, if it was given. -/
structure Placement where
  fill : CodePoint
  fillGiven : Bool
  alignment : Option Alignment

/-- Fill and alignment, or alignment alone. -/
def readPlacement (t : Text) : Placement × Text :=
  let blank := CodePoint.scalar ' '
  let alone : Placement × Text :=
    match t with
    | [] => (⟨blank, false, none⟩, [])
    | p :: rest =>
      match Alignment.ofCodePoint? p with
      | some a => (⟨blank, false, some a⟩, rest)
      | none => (⟨blank, false, none⟩, p :: rest)
  match t with
  | fill :: p :: rest =>
    match Alignment.ofCodePoint? p with
    | some a => (⟨fill, true, some a⟩, rest)
    | none => alone
  | _ => alone

/-- The sign rule, if there is one. -/
def readSign : Text → Option SignRule × Text
  | [] => (none, [])
  | p :: rest =>
    match SignRule.ofCodePoint? p with
    | some rule => (some rule, rest)
    | none => (none, p :: rest)

/-- A flag: whether a given code point comes next. -/
def readFlag (c : Char) : Text → Bool × Text
  | [] => (false, [])
  | p :: rest => if p = .scalar c then (true, rest) else (false, p :: rest)

/-- The separator: a comma or an underscore, but not both. -/
def readSeparator (t : Text) : Except Fault (Option Char × Text) :=
  let (comma, t) := readFlag ',' t
  let (underscore, t) := readFlag '_' t
  if comma && underscore then .error .commaAndUnderscore
  else if underscore then
    if (readFlag ',' t).1 then .error .commaAndUnderscore else .ok (some '_', t)
  else .ok (if comma then some ',' else none, t)

/-- The precision after a point. -/
def readPrecision (t : Text) : Except Fault (Option Nat × Text) :=
  let (point, t) := readFlag '.' t
  if point then
    match readNumber 0 false t with
    | .error f => .error f
    | .ok (none, _) => .error .missingPrecision
    | .ok (some n, rest) => .ok (some n, rest)
  else .ok (none, t)

/-- The grouping that a separator makes with a code. Commas go with
decimal codes and with the code of number zero, underscores with the
others too. -/
def grouping? (separator : Char) (code : Option CodePoint) : Except Fault Grouping :=
  match code with
  | none => .ok ⟨separator, 3⟩
  | some p =>
    if (Text.ofString "defgEG%F\x00").contains p then
      .ok ⟨separator, 3⟩
    else if separator = '_' && (Text.ofString "boxX").contains p then
      .ok ⟨separator, 4⟩
    else .error (.separatorWith separator p)

/-- **Reads a specification** for a value of a type. `code` is the one that
is meant when none is given, and `alignment` likewise; zero padding means
alignment after the sign for values that stand at the right. -/
def parse (typeName : String) (code : Option CodePoint) (alignment : Alignment) (t : Text) :
    Except Fault Spec := do
  let (placement, rest) := readPlacement t
  let (sign, rest) := readSign rest
  let (zeroCoercion, rest) := readFlag 'z' rest
  let (alternate, rest) := readFlag '#' rest
  let (padded, rest) := if placement.fillGiven then (false, rest) else readFlag '0' rest
  let (width, rest) ← readNumber 0 false rest
  let (separator, rest) ← readSeparator rest
  let (precision, rest) ← readPrecision rest
  if 1 < rest.length then throw (.invalidSpec t typeName)
  let code :=
    match rest with
    | p :: _ => some p
    | [] => code
  let grouping ←
    match separator with
    | some s => (grouping? s code).map some
    | none => pure none
  return {
    fill := if padded then .scalar '0' else placement.fill
    alignment :=
      match placement.alignment with
      | some a => a
      | none => if padded && alignment == .right then .afterSign else alignment
    sign, zeroCoercion, alternate, width, grouping, precision, code }

end Spec

end QueryConsole.Template
