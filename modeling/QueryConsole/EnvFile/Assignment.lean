import QueryConsole.Number.Digits
import QueryConsole.Text.Blank
/-!
# Assignment files

A file of assignments `NAME=value`, one a line. Names may be quoted and may
follow the word `export`; values may be quoted either way, and then go
over several lines; a comment follows a hash mark. A line that cannot be
read is skipped. `Assignment.ofFile` gives the assignments in order; a
name without an equals sign has no value.
-/

namespace QueryConsole.EnvFile

/-- A name and what is assigned to it, if anything is. -/
structure Assignment where
  name : Text
  value : Option Text
  deriving DecidableEq, Repr

namespace Reader

/-- Whether a code point ends a line. -/
def endsLine (p : CodePoint) : Bool :=
  p == .scalar '\n' || p == .scalar '\r'

/-- Whether a code point is a blank within a line. -/
def isInnerBlank (p : CodePoint) : Bool :=
  p.isBlank && !endsLine p

/-- A text without the blanks at its beginning that are within its line. -/
def skipInner (t : Text) : Text :=
  t.dropWhile isInnerBlank

/-- A text after its first line. -/
def skipLine (t : Text) : Text :=
  match t.dropWhile fun p => !endsLine p with
  | .scalar '\r' :: .scalar '\n' :: rest => rest
  | _ :: rest => rest
  | [] => []

/-- A text after the end of its line, if only blanks are before that. -/
def readLineEnd? (t : Text) : Option Text :=
  match skipInner t with
  | [] => some []
  | .scalar '\r' :: .scalar '\n' :: rest => some rest
  | p :: rest => if endsLine p then some rest else none

/-- A text after the word `export` and blanks. -/
def skipExport (t : Text) : Text :=
  match Text.dropStart? "export" t with
  | some (p :: rest) => if isInnerBlank p then skipInner rest else t
  | _ => t

/-- A text after a comment, if there is one. -/
def skipComment (t : Text) : Text :=
  match skipInner t with
  | .scalar '#' :: rest => rest.dropWhile fun p => !endsLine p
  | _ => t

/-- A text within quotes and the rest. What follows a backslash belongs to
the text, a quote included. -/
def readQuoted (quote : CodePoint) : Text → Option (Text × Text)
  | [] => none
  | [p] => if p = quote then some ([], []) else none
  | p :: q :: t =>
    if p = quote then some ([], q :: t)
    else if p = .scalar '\\' then
      (readQuoted quote t).map fun (inner, rest) => (p :: q :: inner, rest)
    else (readQuoted quote (q :: t)).map fun (inner, rest) => (p :: inner, rest)

/-- A text with the escapes of a set of letters read. -/
def unescape (letter : CodePoint → Option CodePoint) : Text → Text
  | [] => []
  | [p] => [p]
  | p :: q :: t =>
    if p = .scalar '\\' then
      match letter q with
      | some plain => plain :: unescape letter t
      | none => p :: unescape letter (q :: t)
    else p :: unescape letter (q :: t)

/-- The escapes between apostrophes. -/
def singleEscape : CodePoint → Option CodePoint
  | .scalar '\\' => some (.scalar '\\')
  | .scalar '\'' => some (.scalar '\'')
  | _ => none

/-- The escapes between quotation marks. -/
def doubleEscape : CodePoint → Option CodePoint
  | .scalar '\\' => some (.scalar '\\')
  | .scalar '\'' => some (.scalar '\'')
  | .scalar '"' => some (.scalar '"')
  | .scalar 'a' => some (.scalar '\x07')
  | .scalar 'b' => some (.scalar '\x08')
  | .scalar 'f' => some (.scalar '\x0c')
  | .scalar 'n' => some (.scalar '\n')
  | .scalar 'r' => some (.scalar '\r')
  | .scalar 't' => some (.scalar '\t')
  | .scalar 'v' => some (.scalar '\x0b')
  | _ => none

/-- A text up to blanks that a hash mark follows. -/
def cutComment : Text → Text
  | [] => []
  | p :: t =>
    if p.isBlank && (t.dropWhile CodePoint.isBlank).head? == some (.scalar '#') then []
    else p :: cutComment t

/-- What came of reading a part: the part and the rest, or the place where
reading failed. -/
abbrev Outcome (α : Type) := Except Text (α × Text)

/-- A name; a comment has none. -/
def readName (t : Text) : Outcome (Option Text) :=
  match t with
  | .scalar '#' :: _ => .ok (none, t)
  | .scalar '\'' :: rest =>
    let name := rest.takeWhile (· != .scalar '\'')
    match rest.drop name.length with
    | [] => .error t
    | _ :: after => if name.isEmpty then .error t else .ok (some name, after)
  | _ =>
    let name := t.takeWhile fun p =>
      p != .scalar '=' && p != .scalar '#' && !p.isBlank
    if name.isEmpty then .error t else .ok (some name, t.drop name.length)

/-- What follows an equals sign: a quoted value, or the rest of the line
without blanks at either end and without a comment. A hash mark begins a
comment only after a blank. -/
def readValue (t : Text) : Outcome Text :=
  match skipInner t with
  | .scalar '\'' :: rest =>
    match readQuoted (.scalar '\'') rest with
    | some (inner, rest) => .ok (unescape singleEscape inner, rest)
    | none => .error (.scalar '\'' :: rest)
  | .scalar '"' :: rest =>
    match readQuoted (.scalar '"') rest with
    | some (inner, rest) => .ok (unescape doubleEscape inner, rest)
    | none => .error (.scalar '"' :: rest)
  | _ =>
    let line := t.takeWhile fun p => !endsLine p
    .ok ((cutComment line).strip, t.drop line.length)

/-- What an equals sign assigns, if there is one. -/
def readAssigned (t : Text) : Outcome (Option Text) :=
  match t with
  | .scalar '=' :: rest => (readValue rest).map fun (value, t) => (some value, t)
  | _ => .ok (none, t)

/-- One binding: a name and its value, up to the end of the line. -/
def readBinding (t : Text) : Outcome (Option Assignment) :=
  match t.dropWhile CodePoint.isBlank with
  | [] => .ok (none, [])
  | p :: t =>
    match readName (skipExport (p :: t)) with
    | .error place => .error place
    | .ok (name, t) =>
      match readAssigned (skipInner t) with
      | .error place => .error place
      | .ok (value, t) =>
        match readLineEnd? (skipComment t) with
        | none => .error (skipComment t)
        | some rest => .ok (name.map fun n => ⟨n, value⟩, rest)

/-- The bindings of a text, skipping what cannot be read. Each takes a code
point, so that `fuel` need be no more than the length of the text. -/
def bindings : Nat → Text → List Assignment
  | 0, _ => []
  | fuel + 1, t =>
    if t.isEmpty then []
    else
      match readBinding t with
      | .ok (binding, rest) => binding.toList ++ bindings fuel rest
      | .error place => bindings fuel (skipLine place)

end Reader

/-- **The assignments of a file**, a byte order mark at the beginning being
passed over. -/
def Assignment.ofFile (content : Text) : List Assignment :=
  let content :=
    match content with
    | .scalar '\uFEFF' :: rest => rest
    | _ => content
  Reader.bindings content.length content

end QueryConsole.EnvFile
