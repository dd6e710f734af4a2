import QueryConsole.Number.Digits
/-!
# Unicode encodings

Bytes and the texts they encode. A body names its encoding by its mark
(`Encoding.marked?`) or, without one, by its first bytes
(`Encoding.unmarked`); `Encoding.decode` reads it, letting surrogates without
a partner through, and `Encoding.encode` writes it. A body that
does not decode gives the first `DecodeFault`, whose position counts
bytes; a text that UTF-8 proper cannot encode gives an `EncodeFault`.
-/

namespace QueryConsole

/-- A sequence of bytes. -/
abbrev Bytes := List UInt8

/-- Which byte of a unit comes first. -/
inductive ByteOrder
  | little
  | big
  deriving DecidableEq, Repr

/-- The Unicode encoding forms. -/
inductive Encoding
  | utf8
  | utf16 (order : ByteOrder)
  | utf32 (order : ByteOrder)
  deriving DecidableEq, Repr

namespace Encoding

/-- The name of an encoding in messages. -/
def name : Encoding → String
  | utf8 => "utf-8"
  | utf16 .little => "utf-16-le"
  | utf16 .big => "utf-16-be"
  | utf32 .little => "utf-32-le"
  | utf32 .big => "utf-32-be"

/-- The byte order mark of an encoding. -/
def mark : Encoding → Bytes
  | utf8 => [0xEF, 0xBB, 0xBF]
  | utf16 .little => [0xFF, 0xFE]
  | utf16 .big => [0xFE, 0xFF]
  | utf32 .little => [0xFF, 0xFE, 0, 0]
  | utf32 .big => [0, 0, 0xFE, 0xFF]

/-- The encoding whose mark the bytes begin with. The longer marks are
looked for first, since one of the short ones begins one of them. -/
def marked? (bytes : Bytes) : Option Encoding :=
  [utf32 .big, utf32 .little, utf16 .big, utf16 .little, utf8].find? fun e =>
    e.mark.isPrefixOf bytes

/-- The encoding of bytes without a mark, by the zero bytes among the
first four: the text begins with two characters of ASCII, or is one. -/
def unmarked : Bytes → Encoding
  | b0 :: b1 :: b2 :: b3 :: _ =>
    if b0 = 0 then if b1 = 0 then utf32 .big else utf16 .big
    else if b1 = 0 then if b2 = 0 ∧ b3 = 0 then utf32 .little else utf16 .little
    else utf8
  | [b0, b1] => if b0 = 0 then utf16 .big else if b1 = 0 then utf16 .little else utf8
  | _ => utf8

end Encoding

/-- Why bytes do not decode. -/
inductive DecodeFault.Reason
  | invalidStart
  | invalidContinuation
  | unexpectedEnd
  | truncated
  | outOfRange
  deriving DecidableEq, Repr

/-- Bytes that do not decode: the first of them stands at `start`, counted
from zero, and `others` follow it. -/
structure DecodeFault where
  encoding : Encoding
  start : Nat
  first : UInt8
  others : Bytes
  reason : DecodeFault.Reason
  deriving DecidableEq, Repr

namespace DecodeFault

/-- The wording of a reason. -/
def Reason.message : Reason → String
  | invalidStart => "invalid start byte"
  | invalidContinuation => "invalid continuation byte"
  | unexpectedEnd => "unexpected end of data"
  | truncated => "truncated data"
  | outOfRange => "code point not in range(0x110000)"

/-- The message for bytes that do not decode. -/
def message (f : DecodeFault) : Text :=
  let place : Text :=
    if f.others.isEmpty then
      "byte 0x" ++ Text.hex 2 f.first.toNat ++ " in position " ++ Text.ofNat f.start
    else
      "bytes in position " ++ Text.ofNat f.start ++ "-" ++
        Text.ofNat (f.start + f.others.length)
  "'" ++ Text.ofString f.encoding.name ++ "' codec can't decode " ++ place ++ ": " ++
    Text.ofString f.reason.message

end DecodeFault

/-- Surrogates that have no encoding: `run` is the first and those that
follow it directly. -/
structure EncodeFault where
  start : Nat
  first : CodePoint
  others : Text
  deriving DecidableEq, Repr

/-- The message for surrogates that have no encoding. -/
def EncodeFault.message (f : EncodeFault) : Text :=
  let place : Text :=
    if f.others.isEmpty then
      "character '" ++ Text.ofString "\\u" ++ Text.hex 4 f.first.value ++ "' in position " ++
        Text.ofNat f.start
    else
      "characters in position " ++ Text.ofNat f.start ++ "-" ++
        Text.ofNat (f.start + f.others.length)
  "'utf-8' codec can't encode " ++ place ++ ": surrogates not allowed"

namespace Utf8

/-- Whether a byte continues a sequence. -/
def isContinuation (b : UInt8) : Bool :=
  0x80 ≤ b && b < 0xC0

/-- Whether a second byte may follow a first one of three: no overlong
form, and surrogates only where they are let through. -/
def mayFollowOfThree (surrogates : Bool) (first second : UInt8) : Bool :=
  isContinuation second && !(first = 0xE0 && second < 0xA0) &&
    !(first = 0xED && 0xA0 ≤ second && !surrogates)

/-- Whether a second byte may follow a first one of four: no overlong form
and nothing beyond the last code point. -/
def mayFollowOfFour (first second : UInt8) : Bool :=
  isContinuation second && !(first = 0xF0 && second < 0x90) && !(first = 0xF4 && 0x90 ≤ second)

/-- The six bits that a continuation byte carries. -/
def payload (b : UInt8) : Nat :=
  b.toNat % 64

/-- Reads bytes, the first of which stands at `at`. With `surrogates`, the
three bytes that would encode a surrogate are read as one. -/
def decode (surrogates : Bool) (start : Nat) : Bytes → Except DecodeFault Text
  | [] => .ok []
  | b0 :: rest0 =>
    let fault (others : Bytes) (reason : DecodeFault.Reason) : Except DecodeFault Text :=
      .error ⟨.utf8, start, b0, others, reason⟩
    if b0 < 0x80 then (decode surrogates (start + 1) rest0).map (CodePoint.ofNat b0.toNat :: ·)
    else if b0 < 0xC2 then fault [] .invalidStart
    else if b0 < 0xE0 then
      match rest0 with
      | [] => fault [] .unexpectedEnd
      | b1 :: rest1 =>
        if isContinuation b1 then
          (decode surrogates (start + 2) rest1).map
            (CodePoint.ofNat (b0.toNat % 32 * 64 + payload b1) :: ·)
        else fault [] .invalidContinuation
    else if b0 < 0xF0 then
      match rest0 with
      | [] => fault [] .unexpectedEnd
      | b1 :: rest1 =>
        if mayFollowOfThree surrogates b0 b1 then
          match rest1 with
          | [] =>
            if mayFollowOfThree false b0 b1 then fault [b1] .unexpectedEnd
            else fault [] .invalidContinuation
          | b2 :: rest2 =>
            if isContinuation b2 then
              (decode surrogates (start + 3) rest2).map
                (CodePoint.ofNat (b0.toNat % 16 * 4096 + payload b1 * 64 + payload b2) :: ·)
            else if mayFollowOfThree false b0 b1 then fault [b1] .invalidContinuation
            else fault [] .invalidContinuation
        else fault [] .invalidContinuation
    else if b0 < 0xF5 then
      match rest0 with
      | [] => fault [] .unexpectedEnd
      | b1 :: rest1 =>
        if mayFollowOfFour b0 b1 then
          match rest1 with
          | [] => fault [b1] .unexpectedEnd
          | b2 :: rest2 =>
            if isContinuation b2 then
              match rest2 with
              | [] => fault [b1, b2] .unexpectedEnd
              | b3 :: rest3 =>
                if isContinuation b3 then
                  (decode surrogates (start + 4) rest3).map
                    (CodePoint.ofNat (b0.toNat % 8 * 262144 + payload b1 * 4096 +
                      payload b2 * 64 + payload b3) :: ·)
                else fault [b1, b2] .invalidContinuation
            else fault [b1] .invalidContinuation
        else fault [] .invalidContinuation
    else fault [] .invalidStart

/-- The bytes of the code point with a given number. -/
def encodeValue (n : Nat) : Bytes :=
  if n < 0x80 then [UInt8.ofNat n]
  else if n < 0x800 then [UInt8.ofNat (0xC0 + n / 64), UInt8.ofNat (0x80 + n % 64)]
  else if n < 0x10000 then
    [UInt8.ofNat (0xE0 + n / 4096), UInt8.ofNat (0x80 + n / 64 % 64),
      UInt8.ofNat (0x80 + n % 64)]
  else
    [UInt8.ofNat (0xF0 + n / 262144), UInt8.ofNat (0x80 + n / 4096 % 64),
      UInt8.ofNat (0x80 + n / 64 % 64), UInt8.ofNat (0x80 + n % 64)]

/-- The bytes of a text, surrogates encoded like the code points around
them. -/
def encode (t : Text) : Bytes :=
  t.flatMap fun p => encodeValue p.value

/-- The bytes of a text of scalar values, or its first surrogates. -/
def encodeScalars (t : Text) : Except EncodeFault Bytes :=
  match t.dropWhile fun p => !p.isSurrogate with
  | [] => .ok (encode t)
  | p :: rest =>
    .error ⟨(t.takeWhile fun p => !p.isSurrogate).length, p,
      rest.takeWhile CodePoint.isSurrogate⟩

end Utf8

namespace Utf16

/-- The number that two bytes make. -/
def unit : ByteOrder → UInt8 → UInt8 → Nat
  | .little, b0, b1 => b1.toNat * 256 + b0.toNat
  | .big, b0, b1 => b0.toNat * 256 + b1.toNat

/-- Reads the units of a text, each as a code point of its own. -/
def units (order : ByteOrder) (start : Nat) : Bytes → Except DecodeFault Text
  | [] => .ok []
  | [b] => .error ⟨.utf16 order, start, b, [], .truncated⟩
  | b0 :: b1 :: rest =>
    (units order (start + 2) rest).map (CodePoint.ofNat (unit order b0 b1) :: ·)

/-- The two bytes of a unit. -/
def unitBytes : ByteOrder → Nat → Bytes
  | .little, n => [UInt8.ofNat (n % 256), UInt8.ofNat (n / 256)]
  | .big, n => [UInt8.ofNat (n / 256), UInt8.ofNat (n % 256)]

/-- The bytes of the code point with a given number: one unit, or two
beyond the first 65536. -/
def encodeValue (order : ByteOrder) (n : Nat) : Bytes :=
  if n < 0x10000 then unitBytes order n
  else unitBytes order (0xD800 + (n - 0x10000) / 1024) ++
    unitBytes order (0xDC00 + (n - 0x10000) % 1024)

end Utf16

namespace Utf32

/-- The number that four bytes make. -/
def unit : ByteOrder → UInt8 → UInt8 → UInt8 → UInt8 → Nat
  | .little, b0, b1, b2, b3 =>
    ((b3.toNat * 256 + b2.toNat) * 256 + b1.toNat) * 256 + b0.toNat
  | .big, b0, b1, b2, b3 => ((b0.toNat * 256 + b1.toNat) * 256 + b2.toNat) * 256 + b3.toNat

/-- Reads bytes four at a time. -/
def decode (order : ByteOrder) (start : Nat) : Bytes → Except DecodeFault Text
  | [] => .ok []
  | b0 :: b1 :: b2 :: b3 :: rest =>
    match CodePoint.ofNat? (unit order b0 b1 b2 b3) with
    | some p => (decode order (start + 4) rest).map (p :: ·)
    | none => .error ⟨.utf32 order, start, b0, [b1, b2, b3], .outOfRange⟩
  | b0 :: rest => .error ⟨.utf32 order, start, b0, rest, .truncated⟩

/-- The four bytes of the code point with a given number. -/
def encodeValue : ByteOrder → Nat → Bytes
  | .little, n =>
    [UInt8.ofNat (n % 256), UInt8.ofNat (n / 256 % 256), UInt8.ofNat (n / 65536 % 256),
      UInt8.ofNat (n / 16777216)]
  | .big, n =>
    [UInt8.ofNat (n / 16777216), UInt8.ofNat (n / 65536 % 256), UInt8.ofNat (n / 256 % 256),
      UInt8.ofNat (n % 256)]

end Utf32

namespace Encoding

/-- Reads bytes in an encoding, letting surrogates through; the first byte
stands at `start`. -/
def decode (start : Nat) : Encoding → Bytes → Except DecodeFault Text
  | utf8, bytes => Utf8.decode true start bytes
  | utf16 order, bytes => (Utf16.units order start bytes).map Text.joinPairs
  | utf32 order, bytes => Utf32.decode order start bytes

/-- The bytes of a text in an encoding. -/
def encode : Encoding → Text → Bytes
  | utf8, t => Utf8.encode t
  | utf16 order, t => t.flatMap fun p => Utf16.encodeValue order p.value
  | utf32 order, t => t.flatMap fun p => Utf32.encodeValue order p.value

/-- Where the byte after the mark stands: positions in UTF-8 are counted
after the mark, in the wider forms from the mark on. -/
def startAfterMark : Encoding → Nat
  | utf8 => 0
  | e => e.mark.length

/-- The text of a body in the encoding that its first bytes show. -/
def decodeBody (body : Bytes) : Except DecodeFault Text :=
  match marked? body with
  | some e => e.decode e.startAfterMark (body.drop e.mark.length)
  | none => (unmarked body).decode 0 body

end Encoding

end QueryConsole
