import QueryConsole.EnvFile.Assignment
/-!
# Interpolation

A value may refer to other variables: a dollar sign and the name between
braces, or the name with a default after `:-`. It gets what was assigned
to the name before, else what the environment has for it.
-/

namespace QueryConsole.EnvFile

/-- A part of a value. -/
inductive Part
  | literal (p : CodePoint)
  | reference (name : Text) (fallback : Option Text)
  deriving DecidableEq, Repr

namespace Part

/-- A reference after its opening brace: its name, its default and the
rest. -/
def readReference? (t : Text) : Option (Text × Option Text × Text) :=
  let closing := CodePoint.scalar '\x7d'
  let name := t.takeWhile fun p => p != closing && p != .scalar ':'
  match t.drop name.length with
  | [] => none
  | p :: rest =>
    if p = closing then some (name, none, rest)
    else
      match rest with
      | .scalar '-' :: rest =>
        let fallback := rest.takeWhile (· != closing)
        match rest.drop fallback.length with
        | [] => none
        | _ :: rest => some (name, some fallback, rest)
      | _ => none

/-- The parts of a value. Each takes a code point, so that `fuel` need be
no more than the length of the value. -/
def parse : Nat → Text → List Part
  | 0, _ => []
  | _, [] => []
  | fuel + 1, p :: t =>
    match t with
    | q :: rest =>
      if p = .scalar '$' ∧ q = .scalar '\x7b' then
        match readReference? rest with
        | some (name, fallback, rest) => reference name fallback :: parse fuel rest
        | none => literal p :: parse fuel t
      else literal p :: parse fuel t
    | [] => [literal p]

/-- What a part becomes. A name that has no value is empty, one that is not
there has its default. -/
def resolve (values : List (Text × Option Text)) : Part → Text
  | literal p => [p]
  | reference name fallback =>
    match values.lookup name with
    | some value => value.getD []
    | none => fallback.getD []

end Part

/-- A value with its references resolved. -/
def interpolate (values : List (Text × Option Text)) (value : Text) : Text :=
  (Part.parse value.length value).flatMap (Part.resolve values)

/-- Sets a name in a list of assigned values: in its place if it is there,
at the end otherwise. -/
def assign (name : Text) (value : Option Text) :
    List (Text × Option Text) → List (Text × Option Text)
  | [] => [(name, value)]
  | v :: rest => if v.1 = name then (name, value) :: rest else v :: assign name value rest

/-- **The values that the assignments of a file make**, each resolved with
those before it and the environment. -/
def values (environment : List (Text × Text)) (assignments : List Assignment) :
    List (Text × Option Text) :=
  assignments.foldl (fun done a =>
    let known := done ++ environment.reverse.map fun v => (v.1, some v.2)
    assign a.name (a.value.map (interpolate known)) done) []

end QueryConsole.EnvFile
