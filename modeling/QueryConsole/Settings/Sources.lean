import QueryConsole.EnvFile.Interpolation
import QueryConsole.Settings.Field
import QueryConsole.Json.Document
/-!
# Sources of settings

A field is set by an argument, by a variable of the environment, or by an
assignment in a file, and the first of these that has it counts. Variables
have the name of the field after `QUERYPAD_`, in any case. Unknown
variables of the environment mean nothing; unknown arguments, and unknown
names in the file to which something is assigned, are refused.
-/

namespace QueryConsole.Settings

/-- Where settings come from. The values of the file are by name, one for
each. -/
structure Sources where
  arguments : List (Text × Json)
  environment : List (Text × Text)
  file : List (Text × Option Text)
  deriving Repr

namespace Sources

/-- No source sets anything. -/
def none : Sources := ⟨[], [], []⟩

/-- The sources of arguments, an environment and the text of a file. -/
def ofText (arguments : List (Text × Json)) (environment : List (Text × Text))
    (content : Text) : Sources :=
  ⟨arguments, environment,
    EnvFile.values environment (EnvFile.Assignment.ofFile content)⟩

/-- The sources of arguments, an environment and the bytes of a file. -/
def ofBytes (arguments : List (Text × Json)) (environment : List (Text × Text))
    (content : Bytes) : Except DecodeFault Sources :=
  (Document.fileText content).map (ofText arguments environment)

/-- The value of a variable whose name is given in lower case; of names
that differ in case only, the last one's. -/
def fromEnvironment? (s : Sources) (name : Text) : Option Text :=
  (s.environment.reverse.find? fun v => v.1.lower == name).map (·.2)

/-- The values of the file under their names in lower case; of names that
differ in case only, the last one's. -/
def lowerFile (s : Sources) : List (Text × Option Text) :=
  s.file.foldl (fun done v => EnvFile.assign v.1.lower v.2 done) []

/-- The value that the file assigns to a name in lower case. -/
def assigned? (s : Sources) (name : Text) : Option Text :=
  (s.lowerFile.lookup name).join

/-- **The raw value of a field.** -/
def raw (s : Sources) (f : Field) : Option Json :=
  match s.arguments.lookup (Text.ofString f.name) with
  | some v => some v
  | .none =>
    match s.fromEnvironment? f.variableName with
    | some t => some (.string t)
    | .none => (s.assigned? f.variableName).map .string

/-- Whether a name is that of a field. -/
def isField (name : Text) : Bool :=
  Field.all.any fun f => Text.ofString f.name == name

/-- Whether a name is that of a field's variable. -/
def isVariable (name : Text) : Bool :=
  Field.all.any fun f => f.variableName == name

/-- The names that are refused, each once. -/
def extra (s : Sources) : List Text :=
  let arguments := (s.arguments.map (·.1)).filter fun name => !isField name
  let assigned := s.lowerFile.filterMap fun v =>
    if isField v.1 || isVariable v.1 || (v.2.getD []).isEmpty then .none else some v.1
  (arguments ++ assigned).eraseDups

/-- **The settings of the sources**, or all that is wrong with them. -/
def settings (s : Sources) : Except (List Violation) Settings :=
  ofRaw s.raw s.extra

end Sources

end QueryConsole.Settings
