import QueryConsole.Session
import QueryConsole.Settings.Sources
/-!
# The console program

The program reads its settings from the environment and from the file
`.env`, and its query from the command line or, if that is empty, from a
line of standard input. It holds no connection: the rest of standard input
is the endpoint's reply, a line with the status and then the body. What is
printed and how the program ends is `Session.transcript`.
-/

namespace QueryConsole.Console

/-- Prints a text as it stands. -/
def put (stream : IO.FS.Stream) (t : Text) : IO Unit := do
  stream.write ⟨(Utf8.encode t).toArray⟩
  stream.flush

/-- Prints a line of a session. -/
def putLine (stream : IO.FS.Stream) : Session.Line → IO Unit
  | .text t => put stream (t ++ "\n")
  | .log r => put stream (r.line ++ "\n")

/-- The bytes that are left to read. -/
partial def readRest (stream : IO.FS.Stream) (done : ByteArray) : IO ByteArray := do
  let bytes ← stream.read 65536
  if bytes.isEmpty then return done else readRest stream (done ++ bytes)

/-- A line without its end, if there is one to read. -/
def readLine? (stream : IO.FS.Stream) : IO (Option String) := do
  let line ← stream.getLine
  return if line.isEmpty then none else some ((line.dropEndWhile fun c => c == '\n').toString)

/-- The reply on standard input; a connection that says nothing is closed. -/
def readReply (stream : IO.FS.Stream) : IO Reply := do
  match (← readLine? stream).bind String.toInt? with
  | none => return .broken "ReadError" []
  | some status => return .response status (← readRest stream .empty).toList

/-- The variables of the environment that set fields. -/
def readEnvironment : IO (List (Text × Text)) :=
  Settings.Field.all.filterMapM fun field => do
    match field.variableName.upper.toString? with
    | none => return none
    | some name => return (← IO.getEnv name).map fun value => (name, value)

/-- The bytes of the settings file; a file that cannot be read is empty. -/
def readFile : IO Bytes := do
  try
    return (← IO.FS.readBinFile ".env").toList
  catch _ =>
    return []

/-- Runs a session with given settings. -/
def runWith (settings : Settings) (arguments : List Text) : IO UInt32 := do
  let stdin ← IO.getStdin
  let stdout ← IO.getStdout
  let stderr ← IO.getStderr
  if arguments.isEmpty then
    if let .ok prompt := Session.promptText settings then put stdout prompt
  let entered ← if arguments.isEmpty then readLine? stdin else pure none
  let isEnded := arguments.isEmpty && entered.isNone
  let reply ← if isEnded then pure (.broken "ReadError" []) else readReply stdin
  let session :=
    Session.transcript settings ⟨arguments, entered.map Text.ofString⟩ reply
  session.lines.forM (putLine stdout)
  match session.ending with
  | .exit code => return code.toUInt32
  | ending =>
    put stderr (ending.message ++ "\n")
    return 1

/-- Runs the program: a session with the settings of the sources, if they
are right. -/
def run (arguments : List Text) : IO UInt32 := do
  let stderr ← IO.getStderr
  match Settings.Sources.ofBytes [] (← readEnvironment) (← readFile) with
  | .error fault =>
    put stderr (fault.message ++ "\n")
    return 1
  | .ok sources =>
    match sources.settings with
    | .error violations =>
      put stderr (Violation.report violations ++ "\n")
      return 1
    | .ok settings => runWith settings arguments

end QueryConsole.Console

/-- The program. -/
def main (arguments : List String) : IO UInt32 :=
  QueryConsole.Console.run (arguments.map QueryConsole.Text.ofString)
