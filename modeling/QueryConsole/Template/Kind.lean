import QueryConsole.Text.CodePoint
/-!
# Kinds

Everything that a placeholder may show is of a kind: the values that are
given for it, the kinds themselves, and what kinds have as members. A kind
has a name, the kinds above it, from which it has members too, and a
layout.
-/

namespace QueryConsole.Template

/-- The kinds. From `function` on they are those of members: of functions
that are bound to a value, of slots, which stand behind operators, and of
what a kind keeps of methods, attributes and the like. -/
inductive Kind
  | object
  | kind
  | text
  | int
  | float
  | bool
  | none
  | sequence
  | dictionary
  | view
  | function
  | wrapper
  | slot
  | method
  | kindMethod
  | static
  | getter
  | member
  | applied
  deriving DecidableEq, Repr

namespace Kind

/-- The name of a kind within its module. -/
def name : Kind → String
  | object => "object"
  | kind => "type"
  | text => "str"
  | int => "int"
  | float => "float"
  | bool => "bool"
  | none => "NoneType"
  | sequence => "tuple"
  | dictionary => "dict"
  | view => "mappingproxy"
  | function => "builtin_function_or_method"
  | wrapper => "method-wrapper"
  | slot => "wrapper_descriptor"
  | method => "method_descriptor"
  | kindMethod => "classmethod_descriptor"
  | static => "staticmethod"
  | getter => "getset_descriptor"
  | member => "member_descriptor"
  | applied => "GenericAlias"

/-- The name of the module that a kind is in. -/
def moduleName : Kind → String
  | applied => "types"
  | _ => "builtins"

/-- The name that messages have for a kind. -/
def fullName : Kind → String
  | applied => "types.GenericAlias"
  | k => k.name

/-- The kind above a kind. -/
def base? : Kind → Option Kind
  | object => Option.none
  | bool => some int
  | _ => some object

/-- A kind and the kinds above it. -/
def lineage : Kind → List Kind
  | object => [object]
  | bool => [bool, int, object]
  | k => [k, object]

/-- How a kind lays out what is of it: sizes in bytes, flags, and where a
dictionary and references stand. -/
structure Layout where
  basicSize : Nat
  itemSize : Nat
  flags : Nat
  dictionaryOffset : Nat
  referenceOffset : Nat
  deriving DecidableEq, Repr

/-- The layout of a kind. -/
def layout : Kind → Layout
  | object => ⟨16, 0, 0x81500, 0, 0⟩
  | kind => ⟨904, 40, 0x80085D00, 264, 368⟩
  | text => ⟨80, 0, 0x10481500, 0, 0⟩
  | int => ⟨24, 4, 0x1481500, 0, 0⟩
  | float => ⟨24, 0, 0x481500, 0, 0⟩
  | bool => ⟨32, 4, 0x1481100, 0, 0⟩
  | none => ⟨16, 0, 0x81100, 0, 0⟩
  | sequence => ⟨24, 8, 0x4485520, 0, 0⟩
  | dictionary => ⟨48, 0, 0x20485540, 0, 0⟩
  | view => ⟨24, 0, 0x85140, 0, 0⟩
  | function => ⟨56, 0, 0x85980, 0, 40⟩
  | wrapper => ⟨32, 0, 0x85180, 0, 0⟩
  | slot => ⟨56, 0, 0xA5180, 0, 0⟩
  | method => ⟨56, 0, 0xA5980, 0, 0⟩
  | kindMethod => ⟨56, 0, 0x85180, 0, 0⟩
  | static => ⟨32, 0, 0x85500, 24, 0⟩
  | getter => ⟨48, 0, 0x85180, 0, 0⟩
  | member => ⟨48, 0, 0x85180, 0, 0⟩
  | applied => ⟨64, 0, 0x85D00, 0, 40⟩

/-- A kind as it is shown. -/
def shown (k : Kind) : Text :=
  "<class '" ++ Text.ofString k.fullName ++ "'>"

end Kind

end QueryConsole.Template
