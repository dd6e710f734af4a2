import QueryConsole.Text.Encoding
/-!
# Percent encoding

Bytes written as a percent sign and two hexadecimal digits, and the sets of
ASCII characters that are written so in each part of a web address. All
bytes beyond ASCII are.
-/

namespace QueryConsole.Web

/-- The capital hexadecimal digit of a number below sixteen. -/
def capitalHex (n : Nat) : CodePoint :=
  .scalar (if n < 10 then Char.ofNat (48 + n) else Char.ofNat (55 + n))

/-- Controls and bytes beyond ASCII. -/
def isControl (b : UInt8) : Bool :=
  b < 0x20 || 0x7F ≤ b

/-- Whether a byte is one of the characters of a string. -/
def isOneOf (characters : String) (b : UInt8) : Bool :=
  characters.toList.any fun c => c.toNat = b.toNat

/-- What is encoded in a fragment. -/
def inFragment (b : UInt8) : Bool :=
  isControl b || isOneOf " \"<>\x60" b

/-- What is encoded in a path. -/
def inPath (b : UInt8) : Bool :=
  inFragment b || isOneOf "#?\x7b\x7d" b

/-- What is encoded in a user name and a password. -/
def inUser (b : UInt8) : Bool :=
  inPath b || isOneOf "/:;=@[\\]^|" b

/-- What is encoded in a query. -/
def inQuery (b : UInt8) : Bool :=
  isControl b || isOneOf " \"#<>'" b

/-- A text with the bytes of a set encoded. -/
def encode (isEncoded : UInt8 → Bool) (t : Text) : Text :=
  (Utf8.encode t).flatMap fun b =>
    if isEncoded b then
      [.scalar '%', capitalHex (b.toNat / 16), capitalHex (b.toNat % 16)]
    else [CodePoint.ofNat b.toNat]

/-- The bytes of a text, a percent sign with two digits being one byte. -/
def decode : Text → Bytes
  | [] => []
  | .scalar '%' :: a :: b :: t =>
    match a.hexValue?, b.hexValue? with
    | some high, some low => UInt8.ofNat (high * 16 + low) :: decode t
    | _, _ => UInt8.ofNat '%'.toNat :: decode (a :: b :: t)
  | p :: t => Utf8.encodeValue p.value ++ decode t

end QueryConsole.Web
