import QueryConsole.Template.Field
import QueryConsole.Template.Number
/-!
# Filling templates

A template is text with placeholders between braces; a brace that is text
is doubled. `Markup.parse` takes a template apart, up to the first fault,
and `fill` puts arguments in. Faults come in the order of the text, so a
placeholder without an argument hides a fault that follows it.
-/

namespace QueryConsole.Template

/-- A template taken apart. -/
inductive Markup
  | done
  | fault (f : Fault)
  | literal (p : CodePoint) (rest : Markup)
  | field (f : Field) (rest : Markup)
  deriving DecidableEq, Repr

namespace Markup

/-- Takes a template apart. Each part takes a code point, so that `fuel`
need be no more than the length of the text. -/
def parseWith : Nat → Text → Markup
  | _, [] => done
  | 0, _ => done
  | fuel + 1, p :: t =>
    if p = opening then
      match t with
      | [] => fault .singleOpen
      | q :: rest =>
        if q = opening then literal opening (parseWith fuel rest)
        else
          match Field.read (q :: rest) with
          | .error f => fault f
          | .ok (f, rest) => field f (parseWith fuel rest)
    else if p = closing then
      match t with
      | [] => fault .singleClose
      | q :: rest =>
        if q = closing then literal closing (parseWith fuel rest) else fault .singleClose
    else literal p (parseWith fuel t)

/-- Takes a template apart. -/
def parse (t : Text) : Markup :=
  parseWith t.length t

/-- Puts arguments into a template that is taken apart; `nested` fills the
specification of a placeholder that has placeholders of its own. -/
def fill (arguments : Arguments) (nested : Text → Except Fault Text) :
    Markup → Except Fault Text
  | done => .ok []
  | fault f => .error f
  | literal p rest => (fill arguments nested rest).map (p :: ·)
  | field f rest => do
    let t ← Field.resolve arguments f.name
    let t ← Field.convert f.conversion t
    let spec ← if f.spec.contains opening then nested f.spec else .ok f.spec
    let shown ← t.format spec
    (fill arguments nested rest).map (shown ++ ·)

end Markup

/-- Fills a template in which specifications hold placeholders at most
`depth - 1` deep. -/
def fillTo (arguments : Arguments) : Nat → Text → Except Fault Text
  | 0, _ => .error .tooNested
  | depth + 1, t => (Markup.parse t).fill arguments (fillTo arguments depth)

/-- **A template with its placeholders filled.** -/
def fill (arguments : Arguments) (t : Text) : Except Fault Text :=
  fillTo arguments 2 t

/-- A template filled, or as it is where the arguments do not fit its
placeholders. -/
def fillOrKeep (arguments : Arguments) (t : Text) : Except Fault Text :=
  match fill arguments t with
  | .error .unfilled => .ok t
  | r => r

end QueryConsole.Template
