import QueryConsole.Number.Binary64
/-!
# JSON values

The values that a reply may hold. Integers and double precision numbers
are apart, and the members of an object stand in order; `Members.put`
keeps one member for each name, at the place where the name first stood.
-/

namespace QueryConsole

/-- A JSON value. -/
inductive Json
  | null
  | bool (b : Bool)
  | int (n : Int)
  | float (x : Binary64)
  | string (t : Text)
  | array (items : List Json)
  | object (members : List (Text × Json))
  deriving Repr, Inhabited

namespace Json

/-- The name of a value's type, as messages give it. -/
def typeName : Json → String
  | null => "NoneType"
  | bool _ => "bool"
  | int _ => "int"
  | float _ => "float"
  | string _ => "str"
  | array _ => "list"
  | object _ => "dict"

/-- The members of an object, in order. -/
abbrev Members := List (Text × Json)

namespace Members

/-- Sets the value of a name: in its place if it is there, at the end
otherwise. -/
def put (name : Text) (value : Json) : Members → Members
  | [] => [(name, value)]
  | (n, v) :: rest => if n = name then (n, value) :: rest else (n, v) :: put name value rest

/-- The members that remain of a list in which names may stand twice: each
name at its first place, with its last value. -/
def ofList (pairs : List (Text × Json)) : Members :=
  pairs.foldl (fun members pair => put pair.1 pair.2 members) []

/-- The value of a name. -/
def find? (name : Text) (members : Members) : Option Json :=
  members.lookup name

end Members

/-- The value of a name in an object. -/
def field? (v : Json) (name : Text) : Option Json :=
  match v with
  | object members => Members.find? name members
  | _ => none

end Json

end QueryConsole
