import QueryConsole.Json.Reader
import QueryConsole.Text.Encoding
/-!
# JSON documents

A JSON value in bytes: `Document.read` finds the encoding of a body by its
first bytes, and `Document.readFile` reads the bytes of a file, which are
UTF-8 with any of the three ends of line.
-/

namespace QueryConsole

/-- Why bytes are no JSON document. -/
inductive Document.Fault
  | undecodable (fault : DecodeFault)
  | unreadable (t : Text) (fault : Json.Fault)
  | marked
  deriving DecidableEq, Repr

namespace Document

/-- The message for bytes that are no document. -/
def Fault.message : Fault → Text
  | undecodable fault => fault.message
  | unreadable t fault => fault.message t
  | marked =>
    "Unexpected UTF-8 BOM (decode using utf-8-sig): line 1 column 1 (char 0)"

/-- Whether the document was refused because it nests too deep. -/
def Fault.isTooDeep : Fault → Bool
  | unreadable _ (.tooDeep _) => true
  | _ => false

/-- The value of a body. -/
def read (body : Bytes) : Except Fault Json :=
  match Encoding.decodeBody body with
  | .error fault => .error (.undecodable fault)
  | .ok t => (Json.read t).mapError (Fault.unreadable t)

/-- A text with every end of line, be it one or two code points, as one
line feed. -/
def unifyNewlines : Text → Text
  | [] => []
  | .scalar '\r' :: .scalar '\n' :: t => .scalar '\n' :: unifyNewlines t
  | .scalar '\r' :: t => .scalar '\n' :: unifyNewlines t
  | p :: t => p :: unifyNewlines t

/-- The text of the bytes of a file. -/
def fileText (content : Bytes) : Except DecodeFault Text :=
  (Utf8.decode false 0 content).map unifyNewlines

/-- The value in a file; a byte order mark is refused. -/
def readFile (content : Bytes) : Except Fault Json :=
  match fileText content with
  | .error fault => .error (.undecodable fault)
  | .ok t =>
    match t with
    | .scalar '\uFEFF' :: _ => .error .marked
    | _ => (Json.read t).mapError (Fault.unreadable t)

end Document

end QueryConsole
