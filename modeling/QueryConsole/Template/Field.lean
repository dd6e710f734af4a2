import QueryConsole.Template.Spec
import QueryConsole.Template.Thing
/-!
# Placeholders

What stands between the braces of a placeholder: a name, a conversion
after `!`, and a specification after `:`. `Field.read` takes a placeholder
from a text, and `Field.resolve` finds the value that its name asks for: an
argument, and then attributes after points and items in brackets.
-/

namespace QueryConsole.Template

/-- A placeholder. -/
structure Field where
  name : Text
  conversion : Option CodePoint
  spec : Text
  deriving DecidableEq, Repr

/-- A brace that opens. -/
def opening : CodePoint := .scalar '\x7b'

/-- A brace that closes. -/
def closing : CodePoint := .scalar '\x7d'

namespace Field

/-- The name of a placeholder, the code point that ends it, and the rest.
Within brackets everything belongs to the name. -/
def readName (bracketed : Bool) : Text → Except Fault (Text × CodePoint × Text)
  | [] => .error .unclosedField
  | p :: t =>
    let more (bracketed : Bool) : Except Fault (Text × CodePoint × Text) :=
      (readName bracketed t).map fun (name, last, rest) => (p :: name, last, rest)
    if bracketed then more (p != .scalar ']')
    else if p = opening then .error .openInName
    else if p = closing ∨ p = .scalar ':' ∨ p = .scalar '!' then .ok ([], p, t)
    else more (p == .scalar '[')

/-- The rest of a specification, `depth` braces deep. -/
def readSpec (depth : Nat) : Text → Except Fault (Text × Text)
  | [] => .error .unclosedSpec
  | p :: t =>
    let more (depth : Nat) : Except Fault (Text × Text) :=
      (readSpec depth t).map fun (spec, rest) => (p :: spec, rest)
    if p = opening then more (depth + 1)
    else if p = closing then
      match depth with
      | 0 => .ok ([], t)
      | depth + 1 => more depth
    else more depth

/-- A conversion; the null character is none. -/
def conversionOf (p : CodePoint) : Option CodePoint :=
  if p = .scalar '\x00' then none else some p

/-- A placeholder after its opening brace, and the rest of the text. -/
def read (t : Text) : Except Fault (Field × Text) := do
  let (name, last, rest) ← readName false t
  let withSpec (conversion : Option CodePoint) (t : Text) : Except Fault (Field × Text) :=
    (readSpec 0 t).map fun (spec, rest) => (⟨name, conversion, spec⟩, rest)
  if last = closing then return (⟨name, none, []⟩, rest)
  else if last = .scalar ':' then withSpec none rest
  else
    match rest with
    | [] => throw .noConversion
    | [_] => throw .unclosedSpec
    | c :: p :: rest =>
      if p = closing then return (⟨name, conversionOf c, []⟩, rest)
      else if p = .scalar ':' then withSpec (conversionOf c) rest
      else throw .noColon

/-- The number that a part of a name is, if it is one. A number too large
is found out before a letter after it. -/
def index? (t : Text) : Except Fault (Option Nat) := do
  let (n, rest) ← readNumber 0 false t
  return if rest.isEmpty then n else none

/-- One step from a value to the next. -/
inductive Step
  | access (name : Text)
  | item (place : Text)
  deriving DecidableEq, Repr

/-- The steps after the first part of a name, up to the fault that ends
them. -/
inductive Path
  | done
  | fault (f : Fault)
  | step (s : Step) (rest : Path)
  deriving DecidableEq, Repr

/-- Whether a part of a name ends before a code point. -/
def endsPart (p : CodePoint) : Bool :=
  p == .scalar '.' || p == .scalar '['

/-- Reads the steps of a name. Each takes a code point, so that `fuel` need
be no more than the length of the text. -/
def readPath : Nat → Text → Path
  | _, [] => .done
  | 0, _ => .done
  | fuel + 1, p :: t =>
    if p = .scalar '.' then
      let name := t.takeWhile fun q => !endsPart q
      if name.isEmpty then .fault .emptyStep
      else .step (.access name) (readPath fuel (t.drop name.length))
    else if p = .scalar '[' then
      let place := t.takeWhile fun q => q != .scalar ']'
      match t.drop place.length with
      | [] => .fault .unclosedIndex
      | _ :: rest =>
        match index? place with
        | .error f => .fault f
        | .ok _ =>
          if place.isEmpty then .fault .emptyStep
          else .step (.item place) (readPath fuel rest)
    else .fault .strayAfterBracket

/-- What is at the end of a path. -/
def walk (t : Thing) : Path → Except Fault Thing
  | .done => .ok t
  | .fault f => .error f
  | .step (.access name) rest => do walk (← t.attributeOf name) rest
  | .step (.item place) rest => do walk (← t.item place (← index? place)) rest

/-- What a name asks for. There are arguments by name only, so a number or
nothing at all names none. -/
def resolve (arguments : Arguments) (name : Text) : Except Fault Thing := do
  let first := name.takeWhile fun p => !endsPart p
  let place ← index? first
  if first.isEmpty || place.isSome then throw .unfilled
  match arguments.lookup first with
  | none => throw .unfilled
  | some v => walk (.value v) (readPath name.length (name.drop first.length))

/-- A thing after a conversion: `s` for its text, `r` for it quoted, `a`
for it quoted in ASCII. -/
def convert (conversion : Option CodePoint) (t : Thing) : Except Fault Thing :=
  let text (r : Except Fault Text) : Except Fault Thing := r.map fun t => .value (.text t)
  match conversion with
  | none => .ok t
  | some p =>
    if p = .scalar 's' then text t.toText
    else if p = .scalar 'r' then text (t.toQuoted Text.quoted)
    else if p = .scalar 'a' then text (t.toQuoted Text.quotedAscii)
    else .error (.unknownConversion p)

end Field

end QueryConsole.Template
