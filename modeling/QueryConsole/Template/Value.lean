import QueryConsole.Number.Decimal
import QueryConsole.Template.Fault
import QueryConsole.Template.Kind
import QueryConsole.Text.Quoted
/-!
# Arguments of templates

The values that fill placeholders, and their texts.
-/

namespace QueryConsole.Template

/-- A value for a placeholder. -/
inductive Value
  | text (t : Text)
  | int (n : Int)
  | float (x : Binary64)
  | bool (b : Bool)
  | none
  deriving DecidableEq, Repr

namespace Value

/-- The kind of a value. -/
def kind : Value → Kind
  | text _ => .text
  | int _ => .int
  | float _ => .float
  | bool _ => .bool
  | none => .none

/-- The name of a value's kind. -/
def typeName (v : Value) : String := v.kind.name

/-- The most digits with which an integer is written. -/
def maxIntegerDigits : Nat := 4300

/-- The digits of a natural number, if they are not too many. -/
def decimalDigits (n : Nat) : Except Fault (List Digit) :=
  let ds := Digits.ofNat n
  if maxIntegerDigits < ds.length then .error .integerTooLong else .ok ds

/-- The text of an integer. -/
def intText (n : Int) : Except Fault Text :=
  (decimalDigits n.natAbs).map fun ds =>
    (if n < 0 then Text.ofChar '-' else []) ++ ds.map Digits.codePoint

/-- The text of a value. -/
def toText : Value → Except Fault Text
  | text t => .ok t
  | int n => intText n
  | float x => .ok x.text
  | bool b => .ok (if b then "True" else "False")
  | none => .ok "None"

/-- The text of a value, a text being quoted by `quote`. -/
def toQuoted (quote : Text → Text) : Value → Except Fault Text
  | text t => .ok (quote t)
  | v => v.toText

/-- The integer that a value is. -/
def toInt? : Value → Option Int
  | int n => some n
  | bool b => some (if b then 1 else 0)
  | _ => Option.none

end Value

/-- The arguments of a template, by name. -/
abbrev Arguments := List (Text × Value)

end QueryConsole.Template
