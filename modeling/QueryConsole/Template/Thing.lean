import QueryConsole.Template.ManualTable
import QueryConsole.Template.Member
import QueryConsole.Template.Value
/-!
# What placeholders reach

A placeholder may ask an argument for attributes and items, and these for
further ones, so that it reaches more than the values it is given: kinds,
their members, members bound to what they are asked of, and rows and views
of these. A `Thing` is anything that is reached. `Thing.attributeOf` and
`Thing.item` are the two steps, and `Thing.toText` is how a thing is shown.
-/

namespace QueryConsole.Template

/-- Anything that a placeholder reaches. `function` and `wrapper` are
members bound to a thing, `view` is what a kind has under its names, and
`applied` is a kind with an item. -/
inductive Thing
  | value (v : Value)
  | kind (k : Kind)
  | member (m : Member)
  | function (m : Member) (self : Thing)
  | wrapper (m : Member) (self : Thing)
  | kinds (ks : List Kind)
  | values (vs : List Value)
  | view (k : Kind)
  | dictionary
  | applied (origin : Kind) (item : Value)
  deriving DecidableEq, Repr

namespace Thing

/-- A text as a thing. -/
def ofString (s : String) : Thing := .value (.text (Text.ofString s))

/-- A number as a thing. -/
def ofNat (n : Nat) : Thing := .value (.int n)

/-- Nothing as a thing. -/
def nothing : Thing := .value .none

/-- The kind of a member by its role. Makers are functions already. -/
def kindOfRole : Role → Kind
  | .maker => .function
  | .slot => .slot
  | .method => .method
  | .kindMethod => .kindMethod
  | .static => .static
  | .getter => .getter
  | .stored => .member
  | .constant => .object

/-- The kind of a thing. -/
def kindOf : Thing → Kind
  | .value v => v.kind
  | .kind _ => .kind
  | .member m => kindOfRole m.role
  | .function _ _ => .function
  | .wrapper _ _ => .wrapper
  | .kinds _ => .sequence
  | .values _ => .sequence
  | .view _ => .view
  | .dictionary => .dictionary
  | .applied _ _ => .applied

/-! ## The manual -/

/-- What is said of a member: its signature and its text, if they are
given. -/
def manual? (m : Member) : Option (String × Option String) :=
  let text (lines : List String) : Option String :=
    if lines.isEmpty then none else some ("\n".intercalate lines)
  if m.role = .maker then
    some ("($type, *args, **kwargs)",
      some "Create and return a new object.  See help(type) for accurate signature.")
  else if m.role = .slot then
    (ManualTable.slots.find? fun e => e.name == m.name).map fun e => (e.signature, text e.lines)
  else
    (ManualTable.entries.find? fun e => e.owner == m.owner && e.name == m.name).map fun e =>
      (e.signature, text e.lines)

/-- The text on a member. -/
def manualText (m : Member) : Thing :=
  match (manual? m).bind (·.2) with
  | some t => ofString t
  | none => nothing

/-- The signature of a member. -/
def manualSignature (m : Member) : Thing :=
  match manual? m with
  | some (signature, _) => if signature.isEmpty then nothing else ofString signature
  | none => nothing

/-! ## Members as they are found -/

/-- A constant: the text of a kind, or nothing. -/
def constant (m : Member) : Thing :=
  if m.name = "__doc__" then manualText m else nothing

/-- A member as its kind keeps it. -/
def kept (m : Member) : Thing :=
  match m.role with
  | .maker => .function m (.kind m.owner)
  | .constant => constant m
  | _ => .member m

/-- A member that is found in a kind, asked of the kind itself. -/
def ofKind (k : Kind) (m : Member) : Thing :=
  match m.role with
  | .kindMethod => .function m (.kind k)
  | .static => .function m (.kind m.owner)
  | _ => kept m

/-- A member that is no attribute, asked of a thing. -/
def bind (m : Member) (self : Thing) : Thing :=
  match m.role with
  | .slot => .wrapper m self
  | .method => .function m self
  | _ => ofKind self.kindOf m

/-! ## Attributes -/

/-- The name of a bound function with what it belongs to. -/
def functionPath (m : Member) (self : Thing) : String :=
  match self with
  | .kind k => k.name ++ "." ++ m.name
  | t => t.kindOf.name ++ "." ++ m.name

/-- An attribute that all members have, however they are bound. -/
def manualAttribute? (m : Member) (name : String) : Option Thing :=
  match name with
  | "__name__" => some (ofString m.name)
  | "__doc__" => some (manualText m)
  | "__text_signature__" => some (manualSignature m)
  | _ => none

/-- What is said of the kind of kinds, whose member for such a text computes
it for every kind. -/
def kindText : String :=
  "type(object) -> the object's type\ntype(name, bases, dict, **kwds) -> a new type"

/-- An attribute of a kind. -/
def kindAttribute (k : Kind) (name : String) : Except Fault Thing :=
  match name with
  | "__name__" => .ok (ofString k.name)
  | "__qualname__" => .ok (ofString k.name)
  | "__module__" => .ok (ofString k.moduleName)
  | "__base__" => .ok ((k.base?.map Thing.kind).getD nothing)
  | "__bases__" => .ok (.kinds k.base?.toList)
  | "__mro__" => .ok (.kinds k.lineage)
  | "__dict__" => .ok (.view k)
  | "__doc__" =>
    .ok (if k = .kind then ofString kindText
      else (k.member? "__doc__").elim nothing kept)
  | "__text_signature__" =>
    .ok (match k.member? "__doc__" with
      | some m => if m.role = .constant then manualSignature m else nothing
      | none => nothing)
  | "__basicsize__" => .ok (ofNat k.layout.basicSize)
  | "__itemsize__" => .ok (ofNat k.layout.itemSize)
  | "__flags__" => .ok (ofNat k.layout.flags)
  | "__dictoffset__" => .ok (ofNat k.layout.dictionaryOffset)
  | "__weakrefoffset__" => .ok (ofNat k.layout.referenceOffset)
  | "__abstractmethods__" => .error (.absentAttribute "__abstractmethods__")
  | _ => .error (.noKindAttribute k.fullName (Text.ofString name))

/-- An attribute of a value that is a number. -/
def numberAttribute? (v : Value) (name : String) : Option Thing :=
  match v, name with
  | .float x, "real" => some (.value (.float x))
  | .float _, "imag" => some (.value (.float .zero))
  | v, "real" => v.toInt?.map fun n => .value (.int n)
  | v, "numerator" => v.toInt?.map fun n => .value (.int n)
  | v, "imag" => v.toInt?.map fun _ => ofNat 0
  | v, "denominator" => v.toInt?.map fun _ => ofNat 1
  | _, _ => none

/-- An attribute of a thing: what the member found for its name computes
or stores. -/
def read (t : Thing) (m : Member) : Except Fault Thing :=
  let absent : Except Fault Thing :=
    .error (.noAttribute t.kindOf.fullName (Text.ofString m.name))
  let found (o : Option Thing) : Except Fault Thing := o.elim absent .ok
  if m.owner = .object then .ok (.kind t.kindOf)
  else
    match t with
    | .value v => found (numberAttribute? v m.name)
    | .kind k => kindAttribute k m.name
    | .member d =>
      match m.name with
      | "__objclass__" => .ok (.kind d.owner)
      | "__qualname__" => .ok (ofString (d.owner.name ++ "." ++ d.name))
      | "__func__" => .ok (.function d (.kind d.owner))
      | "__wrapped__" => .ok (.function d (.kind d.owner))
      | "__isabstractmethod__" => .ok (.value (.bool false))
      | "__dict__" => .ok .dictionary
      | name => found (manualAttribute? d name)
    | .function d self =>
      match m.name with
      | "__self__" => .ok (if d.role = .static then nothing else self)
      | "__qualname__" => .ok (ofString (functionPath d self))
      | "__module__" => .ok nothing
      | name => found (manualAttribute? d name)
    | .wrapper d self =>
      match m.name with
      | "__self__" => .ok self
      | "__objclass__" => .ok (.kind d.owner)
      | "__qualname__" => .ok (ofString (d.owner.name ++ "." ++ d.name))
      | name => found (manualAttribute? d name)
    | .applied origin item =>
      match m.name with
      | "__origin__" => .ok (.kind origin)
      | "__args__" => .ok (.values [item])
      | "__parameters__" => .ok (.values [])
      | "__unpacked__" => .ok (.value (.bool false))
      | "__typing_unpacked_tuple_args__" => .ok nothing
      | _ => absent
    | _ => absent

/-- The attribute of a kind under a name: an attribute of all kinds goes
before the kind's own member, and any other member of all kinds after
it. -/
def attributeOfKind (k : Kind) (name : Text) : Except Fault Thing :=
  match Kind.kind.find? name, k.find? name with
  | some m, own =>
    if m.role.isAttribute then read (.kind k) m
    else .ok (own.elim (bind m (.kind k)) (ofKind k))
  | none, some m => .ok (ofKind k m)
  | none, none => .error (.noKindAttribute k.fullName name)

/-- The attribute of a thing that is no kind. -/
def attributeOfOther (t : Thing) (name : Text) : Except Fault Thing :=
  match t.kindOf.find? name with
  | some m => if m.role.isAttribute then t.read m else .ok (bind m t)
  | none => .error (.noAttribute t.kindOf.fullName name)

/-- The attributes that a kind with an item has of its own; all others are
those of the kind. -/
def appliedNames : List Text :=
  ["__class__", "__origin__", "__args__", "__unpacked__", "__parameters__",
    "__typing_unpacked_tuple_args__", "__mro_entries__", "__reduce_ex__", "__reduce__",
    "__copy__", "__deepcopy__"]

/-- **The attribute of a thing under a name.** -/
def attributeOf (t : Thing) (name : Text) : Except Fault Thing :=
  match t with
  | .kind k => attributeOfKind k name
  | .applied origin _ =>
    if appliedNames.contains name then attributeOfOther t name else attributeOfKind origin name
  | t => attributeOfOther t name

/-! ## Texts -/

/-- The parts of a row between parentheses; one alone has a comma after
it. -/
def rowText (parts : List Text) : Text :=
  match parts with
  | [t] => "(" ++ t ++ ",)"
  | ts => "(" ++ Text.intercalate ", " ts ++ ")"

/-- A member as it is shown. -/
def memberText (m : Member) : Text :=
  let of (word : String) : Text :=
    "<" ++ Text.ofString word ++ " '" ++ Text.ofString m.name ++ "' of '" ++
      Text.ofString m.owner.fullName ++ "' objects>"
  match m.role with
  | .slot => of "slot wrapper"
  | .getter => of "attribute"
  | .stored => of "member"
  | .static =>
    "<staticmethod(<built-in method " ++ Text.ofString m.name ++ " of type object>)>"
  | _ => of "method"

/-- A function bound to a thing of a kind, as it is shown. -/
def functionText (m : Member) (self : Kind) : Text :=
  "<built-in method " ++ Text.ofString m.name ++ " of " ++ Text.ofString self.fullName ++
    " object>"

/-- What a kind has under its names, as it is shown. -/
def viewText (k : Kind) : Text :=
  let one (m : Member) : Text :=
    let shown :=
      match kept m with
      | .value (.text t) => t.quoted
      | .value _ => Text.ofString "None"
      | .function m self => functionText m self.kindOf
      | _ => memberText m
    (Text.ofString m.name).quoted ++ ": " ++ shown
  "\x7b" ++ Text.intercalate ", " (k.members.map one) ++ "\x7d"

/-- The text of a thing within a message or a row, where texts are quoted
by `quote`. -/
def toQuoted (quote : Text → Text) : Thing → Except Fault Text
  | .value v => v.toQuoted quote
  | .kind k => .ok k.shown
  | .member m => .ok (memberText m)
  | .function m self => .ok (functionText m self.kindOf)
  | .wrapper m self =>
    .ok ("<method-wrapper '" ++ Text.ofString m.name ++ "' of " ++
      Text.ofString self.kindOf.fullName ++ " object>")
  | .kinds ks => .ok (rowText (ks.map Kind.shown))
  | .values vs => (vs.mapM (Value.toQuoted quote)).map rowText
  | .view k => .ok ("mappingproxy(" ++ viewText k ++ ")")
  | .dictionary => .ok "\x7b\x7d"
  | .applied origin item =>
    (item.toQuoted quote).map fun t => Text.ofString origin.fullName ++ "[" ++ t ++ "]"

/-- **The text of a thing.** -/
def toText : Thing → Except Fault Text
  | .value v => v.toText
  | .view k => .ok (viewText k)
  | t => t.toQuoted Text.quoted

/-! ## Items -/

/-- The place of an item as a value: a number, or a word. -/
def placeValue (place : Text) (number : Option Nat) : Value :=
  match number with
  | some n => .int n
  | none => .text place

/-- Whether a kind may be given an item. -/
def takesItem (k : Kind) : Bool :=
  k = .kind || (k.find? "__class_getitem__").isSome

/-- The item of a list at a place. -/
def itemAt {α : Type} (items : List α) (make : α → Thing) (wrong : Fault) (number : Option Nat) :
    Except Fault Thing :=
  match number with
  | none => .error wrong
  | some n =>
    match items[n]? with
    | some a => .ok (make a)
    | none => .error .unfilled

/-- **The item of a thing at a place**, which is a number if `number` is
given, and a word otherwise. -/
def item (t : Thing) (place : Text) (number : Option Nat) : Except Fault Thing :=
  match t with
  | .value (.text u) => itemAt u (fun p => .value (.text [p])) .textIndex number
  | .kinds ks => itemAt ks .kind .sequenceIndex number
  | .values vs => itemAt vs .value .sequenceIndex number
  | .kind k =>
    if takesItem k then .ok (.applied k (placeValue place number))
    else .error (.kindNotIndexable k.fullName)
  | .view k =>
    match number, k.member? place with
    | none, some m => .ok (kept m)
    | _, _ => .error .unfilled
  | .dictionary => .error .unfilled
  | .applied _ _ => do throw (.notGeneric (← t.toQuoted Text.quoted))
  | t => .error (.notIndexable t.kindOf.fullName)

end Thing

end QueryConsole.Template
