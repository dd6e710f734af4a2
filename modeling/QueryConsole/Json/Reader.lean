import QueryConsole.Json.Value
import QueryConsole.Number.Numeral
/-!
# Reading JSON

`Json.read` reads a text that holds one JSON value and blanks around it.
Beside the values of the standard it reads `NaN`, `Infinity` and
`-Infinity`, and it refuses integers of more than 4300 digits. Nesting is
read down to `Reader.maxDepth`.

The reader goes down with the nesting: `value (depth + 1)` reads the items
of an array or an object with `value depth`. Each function takes a text
and gives what it read and the rest; a fault tells how much of the text
remained where it arose, from which `Fault.position` finds the place.
-/

namespace QueryConsole.Json

/-- What a text that is not JSON has where something else should stand. -/
inductive Complaint
  | noValue
  | noName
  | noColon
  | noComma
  | extraData
  | unterminatedString
  | controlCharacter
  | badEscape
  | badUnicodeEscape
  deriving DecidableEq, Repr

/-- The two kinds of values that nest. -/
inductive Bracket
  | array
  | object
  deriving DecidableEq, Repr

/-- Why a text cannot be read. `remaining` counts the code points from the
place of the complaint to the end. -/
inductive Fault
  | malformed (complaint : Complaint) (remaining : Nat)
  | integerTooLong (digits : Nat)
  | tooDeep (bracket : Bracket)
  deriving DecidableEq, Repr

/-- The wording of a complaint. -/
def Complaint.message : Complaint → String
  | noValue => "Expecting value"
  | noName => "Expecting property name enclosed in double quotes"
  | noColon => "Expecting ':' delimiter"
  | noComma => "Expecting ',' delimiter"
  | extraData => "Extra data"
  | unterminatedString => "Unterminated string starting at"
  | controlCharacter => "Invalid control character at"
  | badEscape => "Invalid \\escape"
  | badUnicodeEscape => "Invalid \\uXXXX escape"

/-- The place where `consumed` ends: its line and column, both from one,
and the number of code points before it. -/
def placeText (consumed : Text) : Text :=
  let newline := CodePoint.scalar '\n'
  let line := consumed.count newline + 1
  let column := (consumed.reverse.takeWhile (· != newline)).length + 1
  "line " ++ Text.ofNat line ++ " column " ++ Text.ofNat column ++ " (char " ++
    Text.ofNat consumed.length ++ ")"

/-- The message of a fault in a text. -/
def Fault.message (t : Text) : Fault → Text
  | .malformed complaint remaining =>
    Text.ofString complaint.message ++ ": " ++ placeText (t.take (t.length - remaining))
  | .integerTooLong digits =>
    "Exceeds the limit (4300 digits) for integer string conversion: value has " ++
      Text.ofNat digits ++ " digits; use sys.set_int_max_str_digits() to increase the limit"
  | .tooDeep .array =>
    "maximum recursion depth exceeded while decoding a JSON array from a unicode string"
  | .tooDeep .object =>
    "maximum recursion depth exceeded while decoding a JSON object from a unicode string"

namespace Reader

/-- The depth of nesting that is still read. -/
def maxDepth : Nat := 900

/-- The most digits that an integer may have. -/
def maxIntegerDigits : Nat := 4300

/-- What is read, with the rest of the text. -/
abbrev Result (α : Type) := Except Fault (α × Text)

/-- The blanks of JSON. -/
def isBlank (p : CodePoint) : Bool :=
  p = .scalar ' ' || p = .scalar '\t' || p = .scalar '\n' || p = .scalar '\r'

/-- A text without the blanks at its beginning. -/
def skipBlanks (t : Text) : Text :=
  t.dropWhile isBlank

/-- A complaint about the beginning of a text. -/
def complain {α : Type} (complaint : Complaint) (t : Text) : Result α :=
  .error (.malformed complaint t.length)

/-! ## Strings -/

/-- A code point of a string, and whether it was written as an escape by
number. -/
inductive Piece
  | plain (p : CodePoint)
  | escaped (p : CodePoint)
  deriving DecidableEq, Repr

/-- The code points of a string. A high and a low surrogate that were
escaped next to each other are one character. -/
def joinPieces : List Piece → Text
  | [] => []
  | .plain p :: rest => p :: joinPieces rest
  | [.escaped p] => [p]
  | .escaped p :: .plain q :: rest => p :: joinPieces (.plain q :: rest)
  | .escaped p :: .escaped q :: rest =>
    match CodePoint.ofPair? p q with
    | some joined => joined :: joinPieces rest
    | none => p :: joinPieces (.escaped q :: rest)

/-- The code point that a letter after a backslash stands for. -/
def simpleEscape? : CodePoint → Option CodePoint
  | .scalar '"' => some (.scalar '"')
  | .scalar '\\' => some (.scalar '\\')
  | .scalar '/' => some (.scalar '/')
  | .scalar 'b' => some (.scalar '\x08')
  | .scalar 'f' => some (.scalar '\x0c')
  | .scalar 'n' => some (.scalar '\n')
  | .scalar 'r' => some (.scalar '\r')
  | .scalar 't' => some (.scalar '\t')
  | _ => none

/-- The code point that four hexadecimal digits number. -/
def fourHex? (a b c d : CodePoint) : Option CodePoint :=
  match a.hexValue?, b.hexValue?, c.hexValue?, d.hexValue? with
  | some a, some b, some c, some d => some (.ofNat (((a * 16 + b) * 16 + c) * 16 + d))
  | _, _, _, _ => none

/-- Puts a piece before those of the rest of a string. -/
def prepend (piece : Piece) (r : Result (List Piece)) : Result (List Piece) :=
  r.map fun (pieces, rest) => (piece :: pieces, rest)

/-- The pieces of a string up to the closing quotation mark; `opening` is
the length of the text from the opening mark on. -/
def pieces (opening : Nat) : Text → Result (List Piece)
  | [] => .error (.malformed .unterminatedString opening)
  | p :: t =>
    if p = .scalar '"' then .ok ([], t)
    else if p = .scalar '\\' then
      match t with
      | [] => .error (.malformed .unterminatedString opening)
      | e :: t' =>
        if e = .scalar 'u' then
          match t' with
          | a :: b :: c :: d :: next :: t'' =>
            match fourHex? a b c d with
            | some q => prepend (.escaped q) (pieces opening (next :: t''))
            | none => complain .badUnicodeEscape (e :: t')
          | _ => complain .badUnicodeEscape (e :: t')
        else
          match simpleEscape? e with
          | some q => prepend (.plain q) (pieces opening t')
          | none => complain .badEscape (p :: t)
    else if p.value < 0x20 then complain .controlCharacter (p :: t)
    else prepend (.plain p) (pieces opening t)

/-- The rest of a string after its opening mark. -/
def string (t : Text) : Result Text :=
  (pieces (t.length + 1) t).map fun (ps, rest) => (joinPieces ps, rest)

/-! ## Numbers and the other values without parts -/

/-- The digits before the point: a zero alone, or digits that begin with
another one. -/
def wholeDigits? (t : Text) : Option (List Digit × Text) :=
  match Digits.span t with
  | ([], _) => none
  | (d :: ds, rest) => if d = 0 then some ([0], t.drop 1) else some (d :: ds, rest)

/-- The longest numeral at the beginning of a text. -/
def numeral? (t : Text) : Option (Numeral × Text) :=
  let (negative, t) := Numeral.readMinus t
  (wholeDigits? t).map fun (whole, t) =>
    let (fraction, t) := Numeral.readFraction t
    let (exponent, t) := Numeral.readExponent t
    (⟨negative, whole, fraction, exponent⟩, t)

/-- The number that a numeral writes. -/
def number (n : Numeral) : Except Fault Json :=
  if n.isInteger then
    if maxIntegerDigits < n.whole.length then .error (.integerTooLong n.whole.length)
    else .ok (.int n.toInt)
  else .ok (.float n.toBinary64)

/-- The words that are values. -/
def words : List (String × Json) :=
  [("null", .null), ("true", .bool true), ("false", .bool false), ("NaN", .float .nan),
    ("Infinity", .float (.infinite false)), ("-Infinity", .float (.infinite true))]

/-- The first word of a list that the text begins with. -/
def word? (t : Text) : List (String × Json) → Option (Json × Text)
  | [] => none
  | (name, v) :: more =>
    match Text.dropStart? (Text.ofString name) t with
    | some rest => some (v, rest)
    | none => word? t more

/-- A value without parts: a string, a word or a number. -/
def scalar (t : Text) : Result Json :=
  match t with
  | .scalar '"' :: rest => (string rest).map fun (s, rest) => (.string s, rest)
  | _ =>
    match word? t words with
    | some r => .ok r
    | none =>
      match numeral? t with
      | some (n, rest) => (number n).map fun v => (v, rest)
      | none => complain .noValue t

/-! ## Arrays and objects -/

/-- Items with commas between them, up to the closing mark. Each item takes
at least one code point, so `fuel` need not be more than the length of the
text. -/
def items {α : Type} (item : Text → Result α) (closing : CodePoint) :
    Nat → Text → Except Fault (List α × Text)
  | 0, t => complain .noValue t
  | fuel + 1, t => do
    let (first, t) ← item t
    match skipBlanks t with
    | [] => complain .noComma []
    | p :: t =>
      if p = closing then .ok ([first], t)
      else if p = .scalar ',' then
        let (others, t) ← items item closing fuel (skipBlanks t)
        .ok (first :: others, t)
      else complain .noComma (p :: t)

/-- What stands between two brackets, the opening one of which is read. -/
def bracketed {α : Type} (item : Text → Result α) (closing : CodePoint) (t : Text) :
    Result (List α) :=
  match skipBlanks t with
  | [] => items item closing 1 []
  | p :: t => if p = closing then .ok ([], t) else items item closing (t.length + 1) (p :: t)

/-- A member: a name, a colon and a value. -/
def member (value : Text → Result Json) (t : Text) : Except Fault ((Text × Json) × Text) :=
  match t with
  | .scalar '"' :: rest => do
    let (name, t) ← string rest
    match skipBlanks t with
    | .scalar ':' :: t =>
      let (v, t) ← value (skipBlanks t)
      .ok ((name, v), t)
    | t => complain .noColon t
  | _ => complain .noName t

/-- A value nested at most `depth` deep. -/
def value : Nat → Text → Result Json
  | 0, t =>
    match t with
    | .scalar '[' :: _ => .error (.tooDeep .array)
    | .scalar '{' :: _ => .error (.tooDeep .object)
    | _ => scalar t
  | depth + 1, t =>
    match t with
    | .scalar '[' :: rest =>
      (bracketed (value depth) (.scalar ']') rest).map fun (vs, rest) => (.array vs, rest)
    | .scalar '{' :: rest =>
      (bracketed (member (value depth)) (.scalar '}') rest).map fun (ms, rest) =>
        (.object (Members.ofList ms), rest)
    | _ => scalar t

end Reader

/-- The JSON value that a text holds. -/
def read (t : Text) : Except Fault Json := do
  let (v, rest) ← Reader.value Reader.maxDepth (Reader.skipBlanks t)
  match Reader.skipBlanks rest with
  | [] => .ok v
  | rest => .error (.malformed .extraData rest.length)

end QueryConsole.Json
