import QueryConsole.Template.Kind
/-!
# Members of kinds

What a kind has under each name, in order: slots, which stand behind
operators, methods, attributes that are computed or stored, and constants.
`Kind.find?` looks a name up in a kind and the kinds above it.
-/

namespace QueryConsole.Template

/-- What a kind may have under a name. -/
inductive Role
  | maker
  | slot
  | method
  | kindMethod
  | static
  | getter
  | stored
  | constant
  deriving DecidableEq, Repr

namespace Role

/-- The role that a letter is for. -/
def ofLetter? : String → Option Role
  | "n" => some maker
  | "s" => some slot
  | "m" => some method
  | "c" => some kindMethod
  | "t" => some static
  | "g" => some getter
  | "d" => some stored
  | "x" => some constant
  | _ => none

/-- Whether a member of this role goes before what a value has itself. -/
def isAttribute : Role → Bool
  | getter => true
  | stored => true
  | _ => false

end Role

/-- A member of a kind. -/
structure Member where
  owner : Kind
  name : String
  role : Role
  deriving DecidableEq, Repr

namespace Member

/-- The members of each kind: a letter for the role, and the name. -/
def table : Kind → String
  | .object =>
    "n:__new__ s:__repr__ s:__hash__ s:__str__ s:__getattribute__ s:__setattr__ s:__delattr__
     s:__lt__ s:__le__ s:__eq__ s:__ne__ s:__gt__ s:__ge__ s:__init__ m:__reduce_ex__
     m:__reduce__ m:__getstate__ c:__subclasshook__ c:__init_subclass__ m:__format__
     m:__sizeof__ m:__dir__ g:__class__ x:__doc__"
  | .kind =>
    "n:__new__ s:__repr__ s:__call__ s:__getattribute__ s:__setattr__ s:__delattr__ s:__init__
     s:__or__ s:__ror__ m:mro m:__subclasses__ c:__prepare__ m:__instancecheck__
     m:__subclasscheck__ m:__dir__ m:__sizeof__ d:__basicsize__ d:__itemsize__ d:__flags__
     d:__weakrefoffset__ d:__base__ d:__dictoffset__ d:__mro__ g:__name__ g:__qualname__
     g:__bases__ g:__module__ g:__abstractmethods__ g:__dict__ g:__doc__ g:__text_signature__
     g:__annotations__"
  | .text =>
    "n:__new__ s:__repr__ s:__hash__ s:__str__ s:__getattribute__ s:__lt__ s:__le__ s:__eq__
     s:__ne__ s:__gt__ s:__ge__ s:__iter__ s:__mod__ s:__rmod__ s:__len__ s:__getitem__
     s:__add__ s:__mul__ s:__rmul__ s:__contains__ m:encode m:replace m:split m:rsplit m:join
     m:capitalize m:casefold m:title m:center m:count m:expandtabs m:find m:partition m:index
     m:ljust m:lower m:lstrip m:rfind m:rindex m:rjust m:rstrip m:rpartition m:splitlines
     m:strip m:swapcase m:translate m:upper m:startswith m:endswith m:removeprefix
     m:removesuffix m:isascii m:islower m:isupper m:istitle m:isspace m:isdecimal m:isdigit
     m:isnumeric m:isalpha m:isalnum m:isidentifier m:isprintable m:zfill m:format m:format_map
     m:__format__ t:maketrans m:__sizeof__ m:__getnewargs__ x:__doc__"
  | .int =>
    "n:__new__ s:__repr__ s:__hash__ s:__getattribute__ s:__lt__ s:__le__ s:__eq__ s:__ne__
     s:__gt__ s:__ge__ s:__add__ s:__radd__ s:__sub__ s:__rsub__ s:__mul__ s:__rmul__ s:__mod__
     s:__rmod__ s:__divmod__ s:__rdivmod__ s:__pow__ s:__rpow__ s:__neg__ s:__pos__ s:__abs__
     s:__bool__ s:__invert__ s:__lshift__ s:__rlshift__ s:__rshift__ s:__rrshift__ s:__and__
     s:__rand__ s:__xor__ s:__rxor__ s:__or__ s:__ror__ s:__int__ s:__float__ s:__floordiv__
     s:__rfloordiv__ s:__truediv__ s:__rtruediv__ s:__index__ m:conjugate m:bit_length
     m:bit_count m:to_bytes c:from_bytes m:as_integer_ratio m:__trunc__ m:__floor__ m:__ceil__
     m:__round__ m:__getnewargs__ m:__format__ m:__sizeof__ g:real g:imag g:numerator
     g:denominator x:__doc__"
  | .float =>
    "n:__new__ s:__repr__ s:__hash__ s:__getattribute__ s:__lt__ s:__le__ s:__eq__ s:__ne__
     s:__gt__ s:__ge__ s:__add__ s:__radd__ s:__sub__ s:__rsub__ s:__mul__ s:__rmul__ s:__mod__
     s:__rmod__ s:__divmod__ s:__rdivmod__ s:__pow__ s:__rpow__ s:__neg__ s:__pos__ s:__abs__
     s:__bool__ s:__int__ s:__float__ s:__floordiv__ s:__rfloordiv__ s:__truediv__
     s:__rtruediv__ m:conjugate m:__trunc__ m:__floor__ m:__ceil__ m:__round__
     m:as_integer_ratio c:fromhex m:hex m:is_integer m:__getnewargs__ c:__getformat__
     m:__format__ g:real g:imag x:__doc__"
  | .bool =>
    "n:__new__ s:__repr__ s:__and__ s:__rand__ s:__xor__ s:__rxor__ s:__or__ s:__ror__ x:__doc__"
  | .none =>
    "n:__new__ s:__repr__ s:__bool__ x:__doc__"
  | .sequence =>
    "n:__new__ s:__repr__ s:__hash__ s:__getattribute__ s:__lt__ s:__le__ s:__eq__ s:__ne__
     s:__gt__ s:__ge__ s:__iter__ s:__len__ s:__getitem__ s:__add__ s:__mul__ s:__rmul__
     s:__contains__ m:__getnewargs__ m:index m:count c:__class_getitem__ x:__doc__"
  | .dictionary =>
    "n:__new__ s:__repr__ x:__hash__ s:__getattribute__ s:__lt__ s:__le__ s:__eq__ s:__ne__
     s:__gt__ s:__ge__ s:__iter__ s:__init__ s:__or__ s:__ror__ s:__ior__ s:__len__
     m:__getitem__ s:__setitem__ s:__delitem__ m:__contains__ m:__sizeof__ m:get m:setdefault
     m:pop m:popitem m:keys m:items m:values m:update c:fromkeys m:clear m:copy m:__reversed__
     c:__class_getitem__ x:__doc__"
  | .view =>
    "n:__new__ s:__repr__ s:__str__ s:__getattribute__ s:__lt__ s:__le__ s:__eq__ s:__ne__
     s:__gt__ s:__ge__ s:__iter__ s:__or__ s:__ror__ s:__ior__ s:__len__ s:__getitem__
     s:__contains__ m:get m:keys m:values m:items m:copy c:__class_getitem__ m:__reversed__
     x:__doc__ x:__hash__"
  | .function =>
    "s:__repr__ s:__hash__ s:__call__ s:__getattribute__ s:__lt__ s:__le__ s:__eq__ s:__ne__
     s:__gt__ s:__ge__ m:__reduce__ d:__module__ g:__doc__ g:__name__ g:__qualname__ g:__self__
     g:__text_signature__"
  | .wrapper =>
    "s:__repr__ s:__hash__ s:__call__ s:__getattribute__ s:__lt__ s:__le__ s:__eq__ s:__ne__
     s:__gt__ s:__ge__ m:__reduce__ d:__self__ g:__objclass__ g:__name__ g:__qualname__
     g:__doc__ g:__text_signature__"
  | .slot =>
    "s:__repr__ s:__call__ s:__getattribute__ s:__get__ m:__reduce__ d:__objclass__ d:__name__
     g:__doc__ g:__qualname__ g:__text_signature__"
  | .method =>
    "s:__repr__ s:__call__ s:__getattribute__ s:__get__ m:__reduce__ d:__objclass__ d:__name__
     g:__doc__ g:__qualname__ g:__text_signature__"
  | .kindMethod =>
    "s:__repr__ s:__call__ s:__getattribute__ s:__get__ d:__objclass__ d:__name__ g:__doc__
     g:__qualname__ g:__text_signature__"
  | .static =>
    "n:__new__ s:__repr__ s:__call__ s:__get__ s:__init__ d:__func__ d:__wrapped__
     g:__isabstractmethod__ g:__dict__ x:__doc__"
  | .getter =>
    "s:__repr__ s:__getattribute__ s:__get__ s:__set__ s:__delete__ d:__objclass__ d:__name__
     g:__doc__ g:__qualname__"
  | .member =>
    "s:__repr__ s:__getattribute__ s:__get__ s:__set__ s:__delete__ m:__reduce__ d:__objclass__
     d:__name__ g:__doc__ g:__qualname__"
  | .applied =>
    "n:__new__ s:__repr__ s:__hash__ s:__call__ s:__getattribute__ s:__lt__ s:__le__ s:__eq__
     s:__ne__ s:__gt__ s:__ge__ s:__iter__ s:__or__ s:__ror__ s:__getitem__ m:__mro_entries__
     m:__instancecheck__ m:__subclasscheck__ m:__reduce__ m:__dir__ d:__origin__ d:__args__
     d:__unpacked__ g:__parameters__ g:__typing_unpacked_tuple_args__ x:__doc__"

/-- The members of a kind that a text lists. -/
def read (owner : Kind) (s : String) : List Member :=
  let words := ((s.map fun c => if c.isWhitespace then ' ' else c).splitOn " ").filter
    fun word => !word.isEmpty
  words.filterMap fun word =>
    match word.splitOn ":" with
    | [letter, name] => (Role.ofLetter? letter).map fun role => ⟨owner, name, role⟩
    | _ => none

end Member

namespace Kind

/-- The members that a kind has itself. -/
def members (k : Kind) : List Member :=
  Member.read k (Member.table k)

/-- The member that a kind has itself under a name. -/
def member? (k : Kind) (name : Text) : Option Member :=
  k.members.find? fun m => Text.ofString m.name == name

/-- **The member that a name is for in a kind**: that of the kind itself,
or else of the nearest kind above it that has one. -/
def find? (k : Kind) (name : Text) : Option Member :=
  k.lineage.findSome? fun k => k.member? name

end Kind

end QueryConsole.Template
