import QueryConsole.Json.Value
import QueryConsole.Number.Decimal
/-!
# Writing JSON

Two forms of a value. `Json.pretty` puts every item on a line of its own,
indented by two blanks for each level, and leaves all code points from the
blank on as they are; results are shown in it. `Json.compact` is one line
of ASCII; log lines are written in it. `Json.render` is what is shown of a
result, and refuses a value with an integer that is too long to be written.
Reading goes down to `Reader.maxDepth`; writing has no bound on the nesting
of a value.
-/

namespace QueryConsole.Json

namespace Printer

/-- The escapes that both forms share; `other` writes the code points that
are not among them. -/
def escape (other : CodePoint → Text) (p : CodePoint) : Text :=
  if p = .scalar '"' then "\\\""
  else if p = .scalar '\\' then "\\\\"
  else if p = .scalar '\n' then "\\n"
  else if p = .scalar '\r' then "\\r"
  else if p = .scalar '\t' then "\\t"
  else if p = .scalar '\x0c' then "\\f"
  else if p = .scalar '\x08' then "\\b"
  else if p.value < 0x20 then Text.ofString "\\u" ++ Text.hex 4 p.value
  else other p

/-- A code point of ASCII as it is, any other by its UTF-16 units. -/
def asciiOnly (p : CodePoint) : Text :=
  let n := p.value
  if n < 0x80 then [p]
  else if n < 0x10000 then Text.ofString "\\u" ++ Text.hex 4 n
  else Text.ofString "\\u" ++ Text.hex 4 (0xD800 + (n - 0x10000) / 1024) ++
    Text.ofString "\\u" ++ Text.hex 4 (0xDC00 + (n - 0x10000) % 1024)

/-- A string between quotation marks. -/
def quote (other : CodePoint → Text) (t : Text) : Text :=
  Text.ofChar '"' ++ t.flatMap (escape other) ++ Text.ofChar '"'

/-- A string as it is shown in results. -/
def quoteReadable (t : Text) : Text :=
  quote (fun p => [p]) t

/-- A string in ASCII. -/
def quoteAscii (t : Text) : Text :=
  quote asciiOnly t

/-- A double precision number. -/
def float : Binary64 → Text
  | .nan => "NaN"
  | .infinite negative => Binary64.signText negative ++ "Infinity"
  | x => x.text

/-- The end of a line and the indentation of the next. -/
def newline (level : Nat) : Text :=
  .scalar '\n' :: List.replicate (2 * level) (.scalar ' ')

end Printer

open Printer

mutual

/-- A value, each item on a line of its own, `level` levels deep. -/
def prettyAt (level : Nat) : Json → Text
  | .null => "null"
  | .bool true => "true"
  | .bool false => "false"
  | .int n => Text.ofInt n
  | .float x => Printer.float x
  | .string t => quoteReadable t
  | .array [] => "[]"
  | .array (v :: vs) =>
    Text.ofChar '[' ++ newline (level + 1) ++ prettyAt (level + 1) v ++
      prettyItems (level + 1) vs ++ newline level ++ Text.ofChar ']'
  | .object [] => Text.ofChar '{' ++ Text.ofChar '}'
  | .object ((name, v) :: ms) =>
    Text.ofChar '{' ++ newline (level + 1) ++ quoteReadable name ++ ": " ++
      prettyAt (level + 1) v ++ prettyMembers (level + 1) ms ++ newline level ++ Text.ofChar '}'

/-- The items after the first. -/
def prettyItems (level : Nat) : List Json → Text
  | [] => []
  | v :: vs => Text.ofChar ',' ++ newline level ++ prettyAt level v ++ prettyItems level vs

/-- The members after the first. -/
def prettyMembers (level : Nat) : List (Text × Json) → Text
  | [] => []
  | (name, v) :: ms =>
    Text.ofChar ',' ++ newline level ++ quoteReadable name ++ ": " ++ prettyAt level v ++
      prettyMembers level ms

end

/-- **A value as results are shown.** -/
def pretty (v : Json) : Text :=
  prettyAt 0 v

/-- The most digits that an integer is written with. -/
def maxWrittenDigits : Nat := 4300

mutual

/-- Whether every integer of a value is short enough to be written. -/
def isWritable : Json → Bool
  | .int n => (Digits.ofNat n.natAbs).length ≤ maxWrittenDigits
  | .array vs => areItemsWritable vs
  | .object ms => areMembersWritable ms
  | _ => true

/-- Whether every integer of these items is. -/
def areItemsWritable : List Json → Bool
  | [] => true
  | v :: vs => isWritable v && areItemsWritable vs

/-- Whether every integer of these members is. -/
def areMembersWritable : List (Text × Json) → Bool
  | [] => true
  | (_, v) :: ms => isWritable v && areMembersWritable ms

end

/-- **A value rendered**, or the message that one of its integers is too
long. -/
def render (v : Json) : Except Text Text :=
  if v.isWritable then .ok v.pretty
  else .error <| Text.ofString <|
    "Exceeds the limit (4300 digits) for integer string conversion; " ++
      "use sys.set_int_max_str_digits() to increase the limit"

mutual

/-- A value on one line of ASCII. -/
def compact : Json → Text
  | .null => "null"
  | .bool true => "true"
  | .bool false => "false"
  | .int n => Text.ofInt n
  | .float x => Printer.float x
  | .string t => quoteAscii t
  | .array [] => "[]"
  | .array (v :: vs) =>
    Text.ofChar '[' ++ compact v ++ compactItems vs ++ Text.ofChar ']'
  | .object [] => Text.ofChar '{' ++ Text.ofChar '}'
  | .object ((name, v) :: ms) =>
    Text.ofChar '{' ++ quoteAscii name ++ ": " ++ compact v ++ compactMembers ms ++
      Text.ofChar '}'

/-- The items after the first. -/
def compactItems : List Json → Text
  | [] => []
  | v :: vs => ", " ++ compact v ++ compactItems vs

/-- The members after the first. -/
def compactMembers : List (Text × Json) → Text
  | [] => []
  | (name, v) :: ms =>
    ", " ++ quoteAscii name ++ ": " ++ compact v ++ compactMembers ms

end

end QueryConsole.Json
