import QueryConsole.Template.Kind
/-!
# The manual of members

What is said of the members of kinds: what they take, as a signature, and
what they do, in lines. Slots of one name say the same in all kinds.
-/

namespace QueryConsole.Template.ManualTable

/-- What is said of a slot. -/
structure SlotEntry where
  name : String
  signature : String
  lines : List String

/-- What is said of another member. Where the signature is nothing, none is
given. -/
structure Entry where
  owner : Kind
  name : String
  signature : String
  lines : List String

/-- What is said of slots. -/
def slots : List SlotEntry := [
  ⟨"__repr__", "($self, /)", ["Return repr(self)."]⟩,
  ⟨"__hash__", "($self, /)", ["Return hash(self)."]⟩,
  ⟨"__str__", "($self, /)", ["Return str(self)."]⟩,
  ⟨"__getattribute__", "($self, name, /)", ["Return getattr(self, name)."]⟩,
  ⟨"__setattr__", "($self, name, value, /)", ["Implement setattr(self, name, value)."]⟩,
  ⟨"__delattr__", "($self, name, /)", ["Implement delattr(self, name)."]⟩,
  ⟨"__lt__", "($self, value, /)", ["Return self<value."]⟩,
  ⟨"__le__", "($self, value, /)", ["Return self<=value."]⟩,
  ⟨"__eq__", "($self, value, /)", ["Return self==value."]⟩,
  ⟨"__ne__", "($self, value, /)", ["Return self!=value."]⟩,
  ⟨"__gt__", "($self, value, /)", ["Return self>value."]⟩,
  ⟨"__ge__", "($self, value, /)", ["Return self>=value."]⟩,
  ⟨"__init__", "($self, /, *args, **kwargs)", [
      "Initialize self.  See help(type(self)) for accurate signature."]⟩,
  ⟨"__call__", "($self, /, *args, **kwargs)", ["Call self as a function."]⟩,
  ⟨"__or__", "($self, value, /)", ["Return self|value."]⟩,
  ⟨"__ror__", "($self, value, /)", ["Return value|self."]⟩,
  ⟨"__iter__", "($self, /)", ["Implement iter(self)."]⟩,
  ⟨"__mod__", "($self, value, /)", ["Return self%value."]⟩,
  ⟨"__rmod__", "($self, value, /)", ["Return value%self."]⟩,
  ⟨"__len__", "($self, /)", ["Return len(self)."]⟩,
  ⟨"__getitem__", "($self, key, /)", ["Return self[key]."]⟩,
  ⟨"__add__", "($self, value, /)", ["Return self+value."]⟩,
  ⟨"__mul__", "($self, value, /)", ["Return self*value."]⟩,
  ⟨"__rmul__", "($self, value, /)", ["Return value*self."]⟩,
  ⟨"__contains__", "($self, key, /)", ["Return key in self."]⟩,
  ⟨"__radd__", "($self, value, /)", ["Return value+self."]⟩,
  ⟨"__sub__", "($self, value, /)", ["Return self-value."]⟩,
  ⟨"__rsub__", "($self, value, /)", ["Return value-self."]⟩,
  ⟨"__divmod__", "($self, value, /)", ["Return divmod(self, value)."]⟩,
  ⟨"__rdivmod__", "($self, value, /)", ["Return divmod(value, self)."]⟩,
  ⟨"__pow__", "($self, value, mod=None, /)", ["Return pow(self, value, mod)."]⟩,
  ⟨"__rpow__", "($self, value, mod=None, /)", ["Return pow(value, self, mod)."]⟩,
  ⟨"__neg__", "($self, /)", ["-self"]⟩,
  ⟨"__pos__", "($self, /)", ["+self"]⟩,
  ⟨"__abs__", "($self, /)", ["abs(self)"]⟩,
  ⟨"__bool__", "($self, /)", ["True if self else False"]⟩,
  ⟨"__invert__", "($self, /)", ["~self"]⟩,
  ⟨"__lshift__", "($self, value, /)", ["Return self<<value."]⟩,
  ⟨"__rlshift__", "($self, value, /)", ["Return value<<self."]⟩,
  ⟨"__rshift__", "($self, value, /)", ["Return self>>value."]⟩,
  ⟨"__rrshift__", "($self, value, /)", ["Return value>>self."]⟩,
  ⟨"__and__", "($self, value, /)", ["Return self&value."]⟩,
  ⟨"__rand__", "($self, value, /)", ["Return value&self."]⟩,
  ⟨"__xor__", "($self, value, /)", ["Return self^value."]⟩,
  ⟨"__rxor__", "($self, value, /)", ["Return value^self."]⟩,
  ⟨"__int__", "($self, /)", ["int(self)"]⟩,
  ⟨"__float__", "($self, /)", ["float(self)"]⟩,
  ⟨"__floordiv__", "($self, value, /)", ["Return self//value."]⟩,
  ⟨"__rfloordiv__", "($self, value, /)", ["Return value//self."]⟩,
  ⟨"__truediv__", "($self, value, /)", ["Return self/value."]⟩,
  ⟨"__rtruediv__", "($self, value, /)", ["Return value/self."]⟩,
  ⟨"__index__", "($self, /)", [
      "Return self converted to an integer, if self is suitable for use as an index into a list."]⟩,
  ⟨"__ior__", "($self, value, /)", ["Return self|=value."]⟩,
  ⟨"__setitem__", "($self, key, value, /)", ["Set self[key] to value."]⟩,
  ⟨"__delitem__", "($self, key, /)", ["Delete self[key]."]⟩,
  ⟨"__get__", "($self, instance, owner=None, /)", [
      "Return an attribute of instance, which is of type owner."]⟩,
  ⟨"__set__", "($self, instance, value, /)", ["Set an attribute of instance to value."]⟩,
  ⟨"__delete__", "($self, instance, /)", ["Delete an attribute of instance."]⟩]

/-- What is said of other members; of a constant this is what it is. -/
def entries : List Entry := [
  ⟨.object, "__reduce_ex__", "($self, protocol, /)", ["Helper for pickle."]⟩,
  ⟨.object, "__reduce__", "($self, /)", ["Helper for pickle."]⟩,
  ⟨.object, "__getstate__", "($self, /)", ["Helper for pickle."]⟩,
  ⟨.object, "__subclasshook__", "", [
      "Abstract classes can override this to customize issubclass().", "",
      "This is invoked early on by abc.ABCMeta.__subclasscheck__().",
      "It should return True, False or NotImplemented.  If it returns",
      "NotImplemented, the normal algorithm is used.  Otherwise, it",
      "overrides the normal algorithm (and the outcome is cached).", ""]⟩,
  ⟨.object, "__init_subclass__", "", [
      "This method is called when a class is subclassed.", "",
      "The default implementation does nothing. It may be", "overridden to extend subclasses.",
      ""]⟩,
  ⟨.object, "__format__", "($self, format_spec, /)", ["Default object formatter."]⟩,
  ⟨.object, "__sizeof__", "($self, /)", ["Size of object in memory, in bytes."]⟩,
  ⟨.object, "__dir__", "($self, /)", ["Default dir() implementation."]⟩,
  ⟨.object, "__class__", "", ["the object's class"]⟩,
  ⟨.object, "__doc__", "()", [
      "The base class of the class hierarchy.", "",
      "When called, it accepts no arguments and returns a new featureless",
      "instance that has no instance attributes and cannot be given any.", ""]⟩,
  ⟨.kind, "mro", "($self, /)", ["Return a type's method resolution order."]⟩,
  ⟨.kind, "__subclasses__", "($self, /)", ["Return a list of immediate subclasses."]⟩,
  ⟨.kind, "__prepare__", "", [
      "__prepare__() -> dict", "used to create the namespace for the class statement"]⟩,
  ⟨.kind, "__instancecheck__", "($self, instance, /)", ["Check if an object is an instance."]⟩,
  ⟨.kind, "__subclasscheck__", "($self, subclass, /)", ["Check if a class is a subclass."]⟩,
  ⟨.kind, "__dir__", "($self, /)", ["Specialized __dir__ implementation for types."]⟩,
  ⟨.kind, "__sizeof__", "($self, /)", ["Return memory consumption of the type object."]⟩,
  ⟨.text, "encode", "($self, /, encoding='utf-8', errors='strict')", [
      "Encode the string using the codec registered for encoding.", "", "  encoding",
      "    The encoding in which to encode the string.", "  errors",
      "    The error handling scheme to use for encoding errors.",
      "    The default is 'strict' meaning that encoding errors raise a",
      "    UnicodeEncodeError.  Other possible values are 'ignore', 'replace' and",
      "    'xmlcharrefreplace' as well as any other name registered with",
      "    codecs.register_error that can handle UnicodeEncodeErrors."]⟩,
  ⟨.text, "replace", "($self, old, new, count=-1, /)", [
      "Return a copy with all occurrences of substring old replaced by new.", "", "  count",
      "    Maximum number of occurrences to replace.",
      "    -1 (the default value) means replace all occurrences.", "",
      "If the optional argument count is given, only the first count occurrences are",
      "replaced."]⟩,
  ⟨.text, "split", "($self, /, sep=None, maxsplit=-1)", [
      "Return a list of the substrings in the string, using sep as the separator string.", "",
      "  sep", "    The separator used to split the string.", "",
      "    When set to None (the default value), will split on any whitespace",
      "    character (including \\n \\r \\t \\f and spaces) and will discard",
      "    empty strings from the result.", "  maxsplit", "    Maximum number of splits.",
      "    -1 (the default value) means no limit.", "",
      "Splitting starts at the front of the string and works to the end.", "",
      "Note, str.split() is mainly useful for data that has been intentionally",
      "delimited.  With natural text that includes punctuation, consider using",
      "the regular expression module."]⟩,
  ⟨.text, "rsplit", "($self, /, sep=None, maxsplit=-1)", [
      "Return a list of the substrings in the string, using sep as the separator string.", "",
      "  sep", "    The separator used to split the string.", "",
      "    When set to None (the default value), will split on any whitespace",
      "    character (including \\n \\r \\t \\f and spaces) and will discard",
      "    empty strings from the result.", "  maxsplit", "    Maximum number of splits.",
      "    -1 (the default value) means no limit.", "",
      "Splitting starts at the end of the string and works to the front."]⟩,
  ⟨.text, "join", "($self, iterable, /)", [
      "Concatenate any number of strings.", "",
      "The string whose method is called is inserted in between each given string.",
      "The result is returned as a new string.", "",
      "Example: '.'.join(['ab', 'pq', 'rs']) -> 'ab.pq.rs'"]⟩,
  ⟨.text, "capitalize", "($self, /)", [
      "Return a capitalized version of the string.", "",
      "More specifically, make the first character have upper case and the rest lower", "case."]⟩,
  ⟨.text, "casefold", "($self, /)", [
      "Return a version of the string suitable for caseless comparisons."]⟩,
  ⟨.text, "title", "($self, /)", [
      "Return a version of the string where each word is titlecased.", "",
      "More specifically, words start with uppercased characters and all remaining",
      "cased characters have lower case."]⟩,
  ⟨.text, "center", "($self, width, fillchar=' ', /)", [
      "Return a centered string of length width.", "",
      "Padding is done using the specified fill character (default is a space)."]⟩,
  ⟨.text, "count", "", [
      "S.count(sub[, start[, end]]) -> int", "",
      "Return the number of non-overlapping occurrences of substring sub in",
      "string S[start:end].  Optional arguments start and end are",
      "interpreted as in slice notation."]⟩,
  ⟨.text, "expandtabs", "($self, /, tabsize=8)", [
      "Return a copy where all tab characters are expanded using spaces.", "",
      "If tabsize is not given, a tab size of 8 characters is assumed."]⟩,
  ⟨.text, "find", "", [
      "S.find(sub[, start[, end]]) -> int", "",
      "Return the lowest index in S where substring sub is found,",
      "such that sub is contained within S[start:end].  Optional",
      "arguments start and end are interpreted as in slice notation.", "",
      "Return -1 on failure."]⟩,
  ⟨.text, "partition", "($self, sep, /)", [
      "Partition the string into three parts using the given separator.", "",
      "This will search for the separator in the string.  If the separator is found,",
      "returns a 3-tuple containing the part before the separator, the separator",
      "itself, and the part after it.", "",
      "If the separator is not found, returns a 3-tuple containing the original string",
      "and two empty strings."]⟩,
  ⟨.text, "index", "", [
      "S.index(sub[, start[, end]]) -> int", "",
      "Return the lowest index in S where substring sub is found,",
      "such that sub is contained within S[start:end].  Optional",
      "arguments start and end are interpreted as in slice notation.", "",
      "Raises ValueError when the substring is not found."]⟩,
  ⟨.text, "ljust", "($self, width, fillchar=' ', /)", [
      "Return a left-justified string of length width.", "",
      "Padding is done using the specified fill character (default is a space)."]⟩,
  ⟨.text, "lower", "($self, /)", ["Return a copy of the string converted to lowercase."]⟩,
  ⟨.text, "lstrip", "($self, chars=None, /)", [
      "Return a copy of the string with leading whitespace removed.", "",
      "If chars is given and not None, remove characters in chars instead."]⟩,
  ⟨.text, "rfind", "", [
      "S.rfind(sub[, start[, end]]) -> int", "",
      "Return the highest index in S where substring sub is found,",
      "such that sub is contained within S[start:end].  Optional",
      "arguments start and end are interpreted as in slice notation.", "",
      "Return -1 on failure."]⟩,
  ⟨.text, "rindex", "", [
      "S.rindex(sub[, start[, end]]) -> int", "",
      "Return the highest index in S where substring sub is found,",
      "such that sub is contained within S[start:end].  Optional",
      "arguments start and end are interpreted as in slice notation.", "",
      "Raises ValueError when the substring is not found."]⟩,
  ⟨.text, "rjust", "($self, width, fillchar=' ', /)", [
      "Return a right-justified string of length width.", "",
      "Padding is done using the specified fill character (default is a space)."]⟩,
  ⟨.text, "rstrip", "($self, chars=None, /)", [
      "Return a copy of the string with trailing whitespace removed.", "",
      "If chars is given and not None, remove characters in chars instead."]⟩,
  ⟨.text, "rpartition", "($self, sep, /)", [
      "Partition the string into three parts using the given separator.", "",
      "This will search for the separator in the string, starting at the end. If",
      "the separator is found, returns a 3-tuple containing the part before the",
      "separator, the separator itself, and the part after it.", "",
      "If the separator is not found, returns a 3-tuple containing two empty strings",
      "and the original string."]⟩,
  ⟨.text, "splitlines", "($self, /, keepends=False)", [
      "Return a list of the lines in the string, breaking at line boundaries.", "",
      "Line breaks are not included in the resulting list unless keepends is given and", "true."]⟩,
  ⟨.text, "strip", "($self, chars=None, /)", [
      "Return a copy of the string with leading and trailing whitespace removed.", "",
      "If chars is given and not None, remove characters in chars instead."]⟩,
  ⟨.text, "swapcase", "($self, /)", [
      "Convert uppercase characters to lowercase and lowercase characters to uppercase."]⟩,
  ⟨.text, "translate", "($self, table, /)", [
      "Replace each character in the string using the given translation table.", "", "  table",
      "    Translation table, which must be a mapping of Unicode ordinals to",
      "    Unicode ordinals, strings, or None.", "",
      "The table must implement lookup/indexing via __getitem__, for instance a",
      "dictionary or list.  If this operation raises LookupError, the character is",
      "left untouched.  Characters mapped to None are deleted."]⟩,
  ⟨.text, "upper", "($self, /)", ["Return a copy of the string converted to uppercase."]⟩,
  ⟨.text, "startswith", "", [
      "S.startswith(prefix[, start[, end]]) -> bool", "",
      "Return True if S starts with the specified prefix, False otherwise.",
      "With optional start, test S beginning at that position.",
      "With optional end, stop comparing S at that position.",
      "prefix can also be a tuple of strings to try."]⟩,
  ⟨.text, "endswith", "", [
      "S.endswith(suffix[, start[, end]]) -> bool", "",
      "Return True if S ends with the specified suffix, False otherwise.",
      "With optional start, test S beginning at that position.",
      "With optional end, stop comparing S at that position.",
      "suffix can also be a tuple of strings to try."]⟩,
  ⟨.text, "removeprefix", "($self, prefix, /)", [
      "Return a str with the given prefix string removed if present.", "",
      "If the string starts with the prefix string, return string[len(prefix):].",
      "Otherwise, return a copy of the original string."]⟩,
  ⟨.text, "removesuffix", "($self, suffix, /)", [
      "Return a str with the given suffix string removed if present.", "",
      "If the string ends with the suffix string and that suffix is not empty,",
      "return string[:-len(suffix)]. Otherwise, return a copy of the original", "string."]⟩,
  ⟨.text, "isascii", "($self, /)", [
      "Return True if all characters in the string are ASCII, False otherwise.", "",
      "ASCII characters have code points in the range U+0000-U+007F.",
      "Empty string is ASCII too."]⟩,
  ⟨.text, "islower", "($self, /)", [
      "Return True if the string is a lowercase string, False otherwise.", "",
      "A string is lowercase if all cased characters in the string are lowercase and",
      "there is at least one cased character in the string."]⟩,
  ⟨.text, "isupper", "($self, /)", [
      "Return True if the string is an uppercase string, False otherwise.", "",
      "A string is uppercase if all cased characters in the string are uppercase and",
      "there is at least one cased character in the string."]⟩,
  ⟨.text, "istitle", "($self, /)", [
      "Return True if the string is a title-cased string, False otherwise.", "",
      "In a title-cased string, upper- and title-case characters may only",
      "follow uncased characters and lowercase characters only cased ones."]⟩,
  ⟨.text, "isspace", "($self, /)", [
      "Return True if the string is a whitespace string, False otherwise.", "",
      "A string is whitespace if all characters in the string are whitespace and there",
      "is at least one character in the string."]⟩,
  ⟨.text, "isdecimal", "($self, /)", [
      "Return True if the string is a decimal string, False otherwise.", "",
      "A string is a decimal string if all characters in the string are decimal and",
      "there is at least one character in the string."]⟩,
  ⟨.text, "isdigit", "($self, /)", [
      "Return True if the string is a digit string, False otherwise.", "",
      "A string is a digit string if all characters in the string are digits and there",
      "is at least one character in the string."]⟩,
  ⟨.text, "isnumeric", "($self, /)", [
      "Return True if the string is a numeric string, False otherwise.", "",
      "A string is numeric if all characters in the string are numeric and there is at",
      "least one character in the string."]⟩,
  ⟨.text, "isalpha", "($self, /)", [
      "Return True if the string is an alphabetic string, False otherwise.", "",
      "A string is alphabetic if all characters in the string are alphabetic and there",
      "is at least one character in the string."]⟩,
  ⟨.text, "isalnum", "($self, /)", [
      "Return True if the string is an alpha-numeric string, False otherwise.", "",
      "A string is alpha-numeric if all characters in the string are alpha-numeric and",
      "there is at least one character in the string."]⟩,
  ⟨.text, "isidentifier", "($self, /)", [
      "Return True if the string is a valid Python identifier, False otherwise.", "",
      "Call keyword.iskeyword(s) to test whether string s is a reserved identifier,",
      "such as \"def\" or \"class\"."]⟩,
  ⟨.text, "isprintable", "($self, /)", [
      "Return True if the string is printable, False otherwise.", "",
      "A string is printable if all of its characters are considered printable in",
      "repr() or if it is empty."]⟩,
  ⟨.text, "zfill", "($self, width, /)", [
      "Pad a numeric string with zeros on the left, to fill a field of the given width.", "",
      "The string is never truncated."]⟩,
  ⟨.text, "format", "", [
      "S.format(*args, **kwargs) -> str", "",
      "Return a formatted version of S, using substitutions from args and kwargs.",
      "The substitutions are identified by braces ('\x7b' and '\x7d')."]⟩,
  ⟨.text, "format_map", "", [
      "S.format_map(mapping) -> str", "",
      "Return a formatted version of S, using substitutions from mapping.",
      "The substitutions are identified by braces ('\x7b' and '\x7d')."]⟩,
  ⟨.text, "__format__", "($self, format_spec, /)", [
      "Return a formatted version of the string as described by format_spec."]⟩,
  ⟨.text, "maketrans", "(x, y=<unrepresentable>, z=<unrepresentable>, /)", [
      "Return a translation table usable for str.translate().", "",
      "If there is only one argument, it must be a dictionary mapping Unicode",
      "ordinals (integers) or characters to Unicode ordinals, strings or None.",
      "Character keys will be then converted to ordinals.",
      "If there are two arguments, they must be strings of equal length, and",
      "in the resulting dictionary, each character in x will be mapped to the",
      "character at the same position in y. If there is a third argument, it",
      "must be a string, whose characters will be mapped to None in the result."]⟩,
  ⟨.text, "__sizeof__", "($self, /)", ["Return the size of the string in memory, in bytes."]⟩,
  ⟨.text, "__doc__", "", [
      "str(object='') -> str", "str(bytes_or_buffer[, encoding[, errors]]) -> str", "",
      "Create a new string object from the given object. If encoding or",
      "errors is specified, then the object must expose a data buffer",
      "that will be decoded using the given encoding and error handler.",
      "Otherwise, returns the result of object.__str__() (if defined)", "or repr(object).",
      "encoding defaults to sys.getdefaultencoding().", "errors defaults to 'strict'."]⟩,
  ⟨.int, "conjugate", "", ["Returns self, the complex conjugate of any int."]⟩,
  ⟨.int, "bit_length", "($self, /)", [
      "Number of bits necessary to represent self in binary.", "", ">>> bin(37)", "'0b100101'",
      ">>> (37).bit_length()", "6"]⟩,
  ⟨.int, "bit_count", "($self, /)", [
      "Number of ones in the binary representation of the absolute value of self.", "",
      "Also known as the population count.", "", ">>> bin(13)", "'0b1101'", ">>> (13).bit_count()",
      "3"]⟩,
  ⟨.int, "to_bytes", "($self, /, length=1, byteorder='big', *, signed=False)", [
      "Return an array of bytes representing an integer.", "", "  length",
      "    Length of bytes object to use.  An OverflowError is raised if the",
      "    integer is not representable with the given number of bytes.  Default",
      "    is length 1.", "  byteorder",
      "    The byte order used to represent the integer.  If byteorder is 'big',",
      "    the most significant byte is at the beginning of the byte array.  If",
      "    byteorder is 'little', the most significant byte is at the end of the",
      "    byte array.  To request the native byte order of the host system, use",
      "    \x60sys.byteorder' as the byte order value.  Default is to use 'big'.", "  signed",
      "    Determines whether two's complement is used to represent the integer.",
      "    If signed is False and a negative integer is given, an OverflowError",
      "    is raised."]⟩,
  ⟨.int, "from_bytes", "($type, /, bytes, byteorder='big', *, signed=False)", [
      "Return the integer represented by the given array of bytes.", "", "  bytes",
      "    Holds the array of bytes to convert.  The argument must either",
      "    support the buffer protocol or be an iterable object producing bytes.",
      "    Bytes and bytearray are examples of built-in objects that support the",
      "    buffer protocol.", "  byteorder",
      "    The byte order used to represent the integer.  If byteorder is 'big',",
      "    the most significant byte is at the beginning of the byte array.  If",
      "    byteorder is 'little', the most significant byte is at the end of the",
      "    byte array.  To request the native byte order of the host system, use",
      "    \x60sys.byteorder' as the byte order value.  Default is to use 'big'.", "  signed",
      "    Indicates whether two's complement is used to represent the integer."]⟩,
  ⟨.int, "as_integer_ratio", "($self, /)", [
      "Return integer ratio.", "",
      "Return a pair of integers, whose ratio is exactly equal to the original int",
      "and with a positive denominator.", "", ">>> (10).as_integer_ratio()", "(10, 1)",
      ">>> (-10).as_integer_ratio()", "(-10, 1)", ">>> (0).as_integer_ratio()", "(0, 1)"]⟩,
  ⟨.int, "__trunc__", "", ["Truncating an Integral returns itself."]⟩,
  ⟨.int, "__floor__", "", ["Flooring an Integral returns itself."]⟩,
  ⟨.int, "__ceil__", "", ["Ceiling of an Integral returns itself."]⟩,
  ⟨.int, "__round__", "($self, ndigits=<unrepresentable>, /)", [
      "Rounding an Integral returns itself.", "",
      "Rounding with an ndigits argument also returns an integer."]⟩,
  ⟨.int, "__getnewargs__", "($self, /)", []⟩,
  ⟨.int, "__format__", "($self, format_spec, /)", []⟩,
  ⟨.int, "__sizeof__", "($self, /)", ["Returns size in memory, in bytes."]⟩,
  ⟨.int, "real", "", ["the real part of a complex number"]⟩,
  ⟨.int, "imag", "", ["the imaginary part of a complex number"]⟩,
  ⟨.int, "numerator", "", ["the numerator of a rational number in lowest terms"]⟩,
  ⟨.int, "denominator", "", ["the denominator of a rational number in lowest terms"]⟩,
  ⟨.int, "__doc__", "", [
      "int([x]) -> integer", "int(x, base=10) -> integer", "",
      "Convert a number or string to an integer, or return 0 if no arguments",
      "are given.  If x is a number, return x.__int__().  For floating point",
      "numbers, this truncates towards zero.", "",
      "If x is not a number or if base is given, then x must be a string,",
      "bytes, or bytearray instance representing an integer literal in the",
      "given base.  The literal can be preceded by '+' or '-' and be surrounded",
      "by whitespace.  The base defaults to 10.  Valid bases are 0 and 2-36.",
      "Base 0 means to interpret the base from the string as an integer literal.",
      ">>> int('0b100', base=0)", "4"]⟩,
  ⟨.float, "conjugate", "($self, /)", ["Return self, the complex conjugate of any float."]⟩,
  ⟨.float, "__trunc__", "($self, /)", ["Return the Integral closest to x between 0 and x."]⟩,
  ⟨.float, "__floor__", "($self, /)", ["Return the floor as an Integral."]⟩,
  ⟨.float, "__ceil__", "($self, /)", ["Return the ceiling as an Integral."]⟩,
  ⟨.float, "__round__", "($self, ndigits=None, /)", [
      "Return the Integral closest to x, rounding half toward even.", "",
      "When an argument is passed, work like built-in round(x, ndigits)."]⟩,
  ⟨.float, "as_integer_ratio", "($self, /)", [
      "Return integer ratio.", "",
      "Return a pair of integers, whose ratio is exactly equal to the original float",
      "and with a positive denominator.", "",
      "Raise OverflowError on infinities and a ValueError on NaNs.", "",
      ">>> (10.0).as_integer_ratio()", "(10, 1)", ">>> (0.0).as_integer_ratio()", "(0, 1)",
      ">>> (-.25).as_integer_ratio()", "(-1, 4)"]⟩,
  ⟨.float, "fromhex", "($type, string, /)", [
      "Create a floating-point number from a hexadecimal string.", "",
      ">>> float.fromhex('0x1.ffffp10')", "2047.984375", ">>> float.fromhex('-0x1p-1074')",
      "-5e-324"]⟩,
  ⟨.float, "hex", "($self, /)", [
      "Return a hexadecimal representation of a floating-point number.", "", ">>> (-0.1).hex()",
      "'-0x1.999999999999ap-4'", ">>> 3.14159.hex()", "'0x1.921f9f01b866ep+1'"]⟩,
  ⟨.float, "is_integer", "($self, /)", ["Return True if the float is an integer."]⟩,
  ⟨.float, "__getnewargs__", "($self, /)", []⟩,
  ⟨.float, "__getformat__", "($type, typestr, /)", [
      "You probably don't want to use this function.", "", "  typestr",
      "    Must be 'double' or 'float'.", "",
      "It exists mainly to be used in Python's test suite.", "",
      "This function returns whichever of 'unknown', 'IEEE, big-endian' or 'IEEE,",
      "little-endian' best describes the format of floating point numbers used by the",
      "C type named by typestr."]⟩,
  ⟨.float, "__format__", "($self, format_spec, /)", [
      "Formats the float according to format_spec."]⟩,
  ⟨.float, "real", "", ["the real part of a complex number"]⟩,
  ⟨.float, "imag", "", ["the imaginary part of a complex number"]⟩,
  ⟨.float, "__doc__", "(x=0, /)", [
      "Convert a string or number to a floating point number, if possible."]⟩,
  ⟨.bool, "__doc__", "", [
      "bool(x) -> bool", "", "Returns True when the argument x is true, False otherwise.",
      "The builtins True and False are the only two instances of the class bool.",
      "The class bool is a subclass of the class int, and cannot be subclassed."]⟩,
  ⟨.sequence, "__getnewargs__", "($self, /)", []⟩,
  ⟨.sequence, "index", "($self, value, start=0, stop=sys.maxsize, /)", [
      "Return first index of value.", "", "Raises ValueError if the value is not present."]⟩,
  ⟨.sequence, "count", "($self, value, /)", ["Return number of occurrences of value."]⟩,
  ⟨.sequence, "__class_getitem__", "", ["See PEP 585"]⟩,
  ⟨.sequence, "__doc__", "(iterable=(), /)", [
      "Built-in immutable sequence.", "",
      "If no argument is given, the constructor returns an empty tuple.",
      "If iterable is specified the tuple is initialized from iterable's items.", "",
      "If the argument is a tuple, the return value is the same object."]⟩,
  ⟨.dictionary, "__getitem__", "", ["x.__getitem__(y) <==> x[y]"]⟩,
  ⟨.dictionary, "__contains__", "($self, key, /)", [
      "True if the dictionary has the specified key, else False."]⟩,
  ⟨.dictionary, "__sizeof__", "", ["D.__sizeof__() -> size of D in memory, in bytes"]⟩,
  ⟨.dictionary, "get", "($self, key, default=None, /)", [
      "Return the value for key if key is in the dictionary, else default."]⟩,
  ⟨.dictionary, "setdefault", "($self, key, default=None, /)", [
      "Insert key with a value of default if key is not in the dictionary.", "",
      "Return the value for key if key is in the dictionary, else default."]⟩,
  ⟨.dictionary, "pop", "($self, key, default=<unrepresentable>, /)", [
      "D.pop(k[,d]) -> v, remove specified key and return the corresponding value.", "",
      "If the key is not found, return the default if given; otherwise,", "raise a KeyError."]⟩,
  ⟨.dictionary, "popitem", "($self, /)", [
      "Remove and return a (key, value) pair as a 2-tuple.", "",
      "Pairs are returned in LIFO (last-in, first-out) order.",
      "Raises KeyError if the dict is empty."]⟩,
  ⟨.dictionary, "keys", "", ["D.keys() -> a set-like object providing a view on D's keys"]⟩,
  ⟨.dictionary, "items", "", ["D.items() -> a set-like object providing a view on D's items"]⟩,
  ⟨.dictionary, "values", "", ["D.values() -> an object providing a view on D's values"]⟩,
  ⟨.dictionary, "update", "", [
      "D.update([E, ]**F) -> None.  Update D from dict/iterable E and F.",
      "If E is present and has a .keys() method, then does:  for k in E: D[k] = E[k]",
      "If E is present and lacks a .keys() method, then does:  for k, v in E: D[k] = v",
      "In either case, this is followed by: for k in F:  D[k] = F[k]"]⟩,
  ⟨.dictionary, "fromkeys", "($type, iterable, value=None, /)", [
      "Create a new dictionary with keys from iterable and values set to value."]⟩,
  ⟨.dictionary, "clear", "", ["D.clear() -> None.  Remove all items from D."]⟩,
  ⟨.dictionary, "copy", "", ["D.copy() -> a shallow copy of D"]⟩,
  ⟨.dictionary, "__reversed__", "($self, /)", ["Return a reverse iterator over the dict keys."]⟩,
  ⟨.dictionary, "__class_getitem__", "", ["See PEP 585"]⟩,
  ⟨.dictionary, "__doc__", "", [
      "dict() -> new empty dictionary",
      "dict(mapping) -> new dictionary initialized from a mapping object's",
      "    (key, value) pairs", "dict(iterable) -> new dictionary initialized as if via:",
      "    d = \x7b\x7d", "    for k, v in iterable:", "        d[k] = v",
      "dict(**kwargs) -> new dictionary initialized with the name=value pairs",
      "    in the keyword argument list.  For example:  dict(one=1, two=2)"]⟩,
  ⟨.view, "get", "", ["D.get(k[,d]) -> D[k] if k in D, else d.  d defaults to None."]⟩,
  ⟨.view, "keys", "", ["D.keys() -> a set-like object providing a view on D's keys"]⟩,
  ⟨.view, "values", "", ["D.values() -> an object providing a view on D's values"]⟩,
  ⟨.view, "items", "", ["D.items() -> a set-like object providing a view on D's items"]⟩,
  ⟨.view, "copy", "", ["D.copy() -> a shallow copy of D"]⟩,
  ⟨.view, "__class_getitem__", "", ["See PEP 585"]⟩,
  ⟨.view, "__reversed__", "", ["D.__reversed__() -> reverse iterator"]⟩,
  ⟨.static, "__doc__", "", [
      "staticmethod(function) -> method", "", "Convert a function to be a static method.", "",
      "A static method does not receive an implicit first argument.",
      "To declare a static method, use this idiom:", "", "     class C:", "         @staticmethod",
      "         def f(arg1, arg2, argN):", "             ...", "",
      "It can be called either on the class (e.g. C.f()) or on an instance",
      "(e.g. C().f()). Both the class and the instance are ignored, and",
      "neither is passed implicitly as the first argument to the method.", "",
      "Static methods in Python are similar to those found in Java or C++.",
      "For a more advanced concept, see the classmethod builtin."]⟩,
  ⟨.applied, "__parameters__", "", ["Type variables in the GenericAlias."]⟩,
  ⟨.applied, "__doc__", "", [
      "Represent a PEP 585 generic type", "",
      "E.g. for t = list[int], t.__origin__ is list and t.__args__ is (int,)."]⟩]

end QueryConsole.Template.ManualTable
