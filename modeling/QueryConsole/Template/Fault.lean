import QueryConsole.Text.CodePoint
import QueryConsole.Number.Digits
/-!
# Faults of templates

Why a template cannot be filled. `unfilled` stands apart: the template has
a placeholder for which there is no argument, and is then shown as it is.
Every other fault has a message.
-/

namespace QueryConsole.Template

/-- What is wrong with a template or with an argument in it. -/
inductive Fault
  | unfilled
  | singleOpen
  | singleClose
  | unclosedField
  | openInName
  | noConversion
  | noColon
  | unclosedSpec
  | tooNested
  | unknownConversion (p : CodePoint)
  | emptyStep
  | strayAfterBracket
  | unclosedIndex
  | tooManyDigits
  | noAttribute (typeName : String) (name : Text)
  | noKindAttribute (typeName : String) (name : Text)
  | absentAttribute (name : Text)
  | textIndex
  | sequenceIndex
  | notIndexable (typeName : String)
  | kindNotIndexable (typeName : String)
  | notGeneric (shown : Text)
  | commaAndUnderscore
  | missingPrecision
  | invalidSpec (spec : Text) (typeName : String)
  | separatorWith (separator : Char) (code : CodePoint)
  | unknownCode (code : CodePoint) (typeName : String)
  | unsupportedSpec (typeName : String)
  | spaceOnText
  | signOnText
  | zeroCoercionOnText
  | alternateOnText
  | signAlignmentOnText
  | precisionOnInteger
  | zeroCoercionOnInteger
  | signOnCharacter
  | alternateOnCharacter
  | characterOutOfRange
  | characterTooLarge
  | precisionTooBig
  | integerTooLargeForFloat
  | integerTooLong
  | tooWide
  deriving DecidableEq, Repr

namespace Fault

/-- What a fault is about. -/
inductive Category
  | value
  | type
  | access
  | overflow
  | memory
  deriving DecidableEq, Repr

/-- What each fault is about. -/
def category : Fault → Category
  | noAttribute _ _ => .access
  | noKindAttribute _ _ => .access
  | absentAttribute _ => .access
  | textIndex => .type
  | sequenceIndex => .type
  | notIndexable _ => .type
  | kindNotIndexable _ => .type
  | notGeneric _ => .type
  | unsupportedSpec _ => .type
  | characterOutOfRange => .overflow
  | characterTooLarge => .overflow
  | integerTooLargeForFloat => .overflow
  | tooWide => .memory
  | _ => .value

/-- The number of a code point in as few hexadecimal digits as it needs. -/
def shortHex (n : Nat) : Text :=
  Text.hex (n.log2 / 4 + 1) n

/-- A code as it is named: itself if it is visible ASCII, its number
otherwise; `limit` is the first number that is not itself. -/
def codeText (limit : Nat) (p : CodePoint) : Text :=
  if 32 < p.value ∧ p.value < limit then [p] else Text.ofString "\\x" ++ shortHex p.value

/-- The message of a fault. -/
def message : Fault → Text
  | unfilled => ""
  | singleOpen => "Single '\x7b' encountered in format string"
  | singleClose => "Single '\x7d' encountered in format string"
  | unclosedField => "expected '\x7d' before end of string"
  | openInName => "unexpected '\x7b' in field name"
  | noConversion => "end of string while looking for conversion specifier"
  | noColon => "expected ':' after conversion specifier"
  | unclosedSpec => "unmatched '\x7b' in format spec"
  | tooNested => "Max string recursion exceeded"
  | unknownConversion p => "Unknown conversion specifier " ++ codeText 127 p
  | emptyStep => "Empty attribute in format string"
  | strayAfterBracket => "Only '.' or '[' may follow ']' in format field specifier"
  | unclosedIndex => "Missing ']' in format string"
  | tooManyDigits => "Too many decimal digits in format string"
  | noAttribute typeName name =>
    "'" ++ Text.ofString typeName ++ "' object has no attribute '" ++ name ++ "'"
  | noKindAttribute typeName name =>
    "type object '" ++ Text.ofString typeName ++ "' has no attribute '" ++ name ++ "'"
  | absentAttribute name => name
  | sequenceIndex => "tuple indices must be integers or slices, not str"
  | textIndex => "string indices must be integers, not 'str'"
  | notIndexable typeName => "'" ++ Text.ofString typeName ++ "' object is not subscriptable"
  | kindNotIndexable typeName => "type '" ++ Text.ofString typeName ++ "' is not subscriptable"
  | notGeneric shown => shown ++ " is not a generic class"
  | commaAndUnderscore => "Cannot specify both ',' and '_'."
  | missingPrecision => "Format specifier missing precision"
  | invalidSpec spec typeName =>
    "Invalid format specifier '" ++ spec ++ "' for object of type '" ++
      Text.ofString typeName ++ "'"
  | separatorWith separator code =>
    "Cannot specify '" ++ Text.ofChar separator ++ "' with '" ++ codeText 128 code ++ "'."
  | unknownCode code typeName =>
    "Unknown format code '" ++ codeText 128 code ++ "' for object of type '" ++
      Text.ofString typeName ++ "'"
  | unsupportedSpec typeName =>
    "unsupported format string passed to " ++ Text.ofString typeName ++ ".__format__"
  | spaceOnText => "Space not allowed in string format specifier"
  | signOnText => "Sign not allowed in string format specifier"
  | zeroCoercionOnText => "Negative zero coercion (z) not allowed in string format specifier"
  | alternateOnText => "Alternate form (#) not allowed in string format specifier"
  | signAlignmentOnText => "'=' alignment not allowed in string format specifier"
  | precisionOnInteger => "Precision not allowed in integer format specifier"
  | zeroCoercionOnInteger => "Negative zero coercion (z) not allowed in integer format specifier"
  | signOnCharacter => "Sign not allowed with integer format specifier 'c'"
  | alternateOnCharacter => "Alternate form (#) not allowed with integer format specifier 'c'"
  | characterOutOfRange => "%c arg not in range(0x110000)"
  | characterTooLarge => "Python int too large to convert to C long"
  | precisionTooBig => "precision too big"
  | integerTooLargeForFloat => "int too large to convert to float"
  | integerTooLong =>
    "Exceeds the limit (4300 digits) for integer string conversion; " ++
      "use sys.set_int_max_str_digits() to increase the limit"
  | tooWide => ""

end Fault

end QueryConsole.Template
