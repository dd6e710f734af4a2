import QueryConsole.Json.Value
import QueryConsole.Web.Address
/-!
# Validation

What may be wrong with the parts that something is made of. A check makes a
part of a raw value, which may be of any JSON, or names the `Rule` that the
value breaks. A `Violation` is a rule that the part at a place breaks; all
of them are reported together, one a line, in the order of their lines.
-/

namespace QueryConsole

/-- A rule that a part may break. -/
inductive Rule
  | missing
  | extra
  | frozen
  | string
  | unicode
  | literal (choices : List String)
  | enumeration (choices : List String)
  | boolean
  | booleanWord
  | number
  | numeral
  | positive
  | atMost (limit : Nat)
  | address
  | addressScheme
  | addressForm (fault : Web.Fault)
  deriving DecidableEq, Repr

namespace Rule

/-- The name of a rule. -/
def code : Rule → String
  | missing => "missing"
  | extra => "extra_forbidden"
  | frozen => "frozen_instance"
  | string => "string_type"
  | unicode => "string_unicode"
  | literal _ => "literal_error"
  | enumeration _ => "enum"
  | boolean => "bool_type"
  | booleanWord => "bool_parsing"
  | number => "float_type"
  | numeral => "float_parsing"
  | positive => "greater_than"
  | atMost _ => "less_than_equal"
  | address => "url_type"
  | addressScheme => "url_scheme"
  | addressForm _ => "url_parsing"

/-- Choices between apostrophes, the last after "or". -/
def choiceText : List String → Text
  | [] => []
  | [c] => "'" ++ Text.ofString c ++ "'"
  | [c, d] => "'" ++ Text.ofString c ++ "' or '" ++ Text.ofString d ++ "'"
  | c :: rest => "'" ++ Text.ofString c ++ "', " ++ choiceText rest

/-- What is said when a rule is broken. -/
def message : Rule → Text
  | missing => "Field required"
  | extra => "Extra inputs are not permitted"
  | frozen => "Instance is frozen"
  | string => "Input should be a valid string"
  | unicode => "Input should be a valid string, unable to parse raw data as a unicode string"
  | literal choices => "Input should be " ++ choiceText choices
  | enumeration choices => "Input should be " ++ choiceText choices
  | boolean => "Input should be a valid boolean"
  | booleanWord => "Input should be a valid boolean, unable to interpret input"
  | number => "Input should be a valid number"
  | numeral => "Input should be a valid number, unable to parse string as a number"
  | positive => "Input should be greater than 0"
  | atMost limit => "Input should be less than or equal to " ++ Text.ofNat limit
  | address => "URL input should be a string or URL"
  | addressScheme => "URL scheme should be 'http' or 'https'"
  | addressForm fault => "Input should be a valid URL, " ++ Text.ofString fault.message

end Rule

/-- A rule that the part at a place breaks. -/
structure Violation where
  place : Text
  rule : Rule
  deriving DecidableEq, Repr

namespace Violation

/-- The line for a violation. -/
def line (v : Violation) : Text :=
  v.place ++ ": " ++ Text.ofString v.rule.code ++ ": " ++ v.rule.message

/-- The lines for violations, in order. -/
def report (violations : List Violation) : Text :=
  Text.intercalate "\n" ((violations.map line).mergeSort Text.le)

end Violation

/-! ## Checks -/

/-- What a check makes of a raw value. -/
abbrev Checked (α : Type) := Except Rule α

/-- What is wrong with the part at a place. -/
def Checked.violations {α : Type} (place : String) : Checked α → List Violation
  | .ok _ => []
  | .error rule => [⟨Text.ofString place, rule⟩]

/-- A text. -/
def checkText : Json → Checked Text
  | .string t => .ok t
  | _ => .error .string

/-- A value by its word, spelled exactly; any other breaks the rule for the
words there are. -/
def checkWord {α : Type} (rule : List String → Rule) (values : List α) (word : α → String)
    (v : Json) : Checked α :=
  let refused : Checked α := .error (rule (values.map word))
  match v with
  | .string t =>
    if t.isScalar then
      match values.find? fun a => Text.ofString (word a) == t with
      | some a => .ok a
      | none => refused
    else .error .unicode
  | _ => refused

end QueryConsole
