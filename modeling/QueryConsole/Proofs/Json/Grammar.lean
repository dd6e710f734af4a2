import QueryConsole.Json.Reader
/-!
# The grammar of JSON

Which texts hold a JSON value, and which value each of them holds. The
grammar is that of the standard with three words more, `NaN`, `Infinity`
and `-Infinity`, and with one bound, since an integer has at most 4300
digits. It says nothing of how a text is read.

`Derives` relates a text to what it denotes. A string denotes its code
points, where two escaped surrogates next to each other that make a pair
are one; a number with neither fraction nor exponent denotes an integer
and any other the nearest double precision number; an object denotes each
of its names once (`Merged`). `Document` adds the blanks around a value.
-/

namespace QueryConsole.Json.Grammar

/-- Blanks, tabs and ends of lines. -/
def Blanks (t : Text) : Prop :=
  ∀ p ∈ t, p ∈ Text.ofString " \t\n\r"

/-! ## Strings -/

/-- A hexadecimal digit of either case and its value. -/
inductive HexDigit : CodePoint → Nat → Prop
  | decimal (n : Fin 10) : HexDigit (.scalar (Char.ofNat (0x30 + n))) n
  | small (n : Fin 6) : HexDigit (.scalar (Char.ofNat (0x61 + n))) (10 + n)
  | capital (n : Fin 6) : HexDigit (.scalar (Char.ofNat (0x41 + n))) (10 + n)

/-- An escape by number: `\u` and four hexadecimal digits. -/
inductive Numbered : Text → CodePoint → Prop
  | mk {a b c d p : CodePoint} {i j k l : Nat} :
      HexDigit a i → HexDigit b j → HexDigit c k → HexDigit d l →
      p.value = ((i * 16 + j) * 16 + k) * 16 + l →
      Numbered [.scalar '\\', .scalar 'u', a, b, c, d] p

/-- The letters that may follow a backslash, each with its character. -/
def escapes : List (Char × Char) :=
  [('"', '"'), ('\\', '\\'), ('/', '/'), ('b', '\x08'), ('f', '\x0c'), ('n', '\n'),
    ('r', '\r'), ('t', '\t')]

/-- What stands between the quotation marks of a string, and the text that
the string denotes. -/
inductive Chars : Text → Text → Prop
  | nil : Chars [] []
  /-- A code point stands for itself, unless it is one of the two marks or
  a control character. -/
  | plain {p : CodePoint} {u t : Text} :
      p ≠ .scalar '"' → p ≠ .scalar '\\' → 0x20 ≤ p.value → Chars u t →
      Chars (p :: u) (p :: t)
  /-- An escape by letter. -/
  | lettered {c d : Char} {u t : Text} :
      (c, d) ∈ escapes → Chars u t → Chars (.scalar '\\' :: .scalar c :: u) (.scalar d :: t)
  /-- An escaped high surrogate and, directly after it, an escaped low one
  are one character. -/
  | pair {e f : Text} {high low joined : CodePoint} {u t : Text} :
      Numbered e high → Numbered f low → high.isHigh = true → low.isLow = true →
      joined.value = 0x10000 + (high.value - 0xD800) * 1024 + (low.value - 0xDC00) →
      Chars u t → Chars (e ++ (f ++ u)) (joined :: t)
  /-- Any other escape by number is the code point with that number. -/
  | numbered {e : Text} {p : CodePoint} {u t : Text} :
      Numbered e p →
      (∀ f low w, u = f ++ w → Numbered f low → p.isHigh = true → low.isLow = false) →
      Chars u t → Chars (e ++ u) (p :: t)

/-! ## Numbers -/

/-- The digits before the point: a zero alone, or digits that begin with
another one. -/
inductive Whole : List Digit → Prop
  | zero : Whole [0]
  | positive {d : Digit} {ds : List Digit} : d ≠ 0 → Whole (d :: ds)

/-- The sign of a numeral. -/
inductive Minus : Text → Bool → Prop
  | absent : Minus [] false
  | minus : Minus [.scalar '-'] true

/-- The sign of an exponent. -/
inductive Sign : Text → Bool → Prop
  | absent : Sign [] false
  | plus : Sign [.scalar '+'] false
  | minus : Sign [.scalar '-'] true

/-- A fraction, or none. -/
inductive Fraction : Text → List Digit → Prop
  | absent : Fraction [] []
  | present {ds : List Digit} : ds ≠ [] →
      Fraction (.scalar '.' :: ds.map Digits.codePoint) ds

/-- An exponent, or none. -/
inductive Exponent : Text → Option Int → Prop
  | absent : Exponent [] none
  | present {mark : CodePoint} {s : Text} {negative : Bool} {ds : List Digit} :
      mark = .scalar 'e' ∨ mark = .scalar 'E' → Sign s negative → ds ≠ [] →
      Exponent (mark :: (s ++ ds.map Digits.codePoint))
        (some (if negative then -(Digits.toNat ds : Int) else Digits.toNat ds))

/-- A numeral as it is written. -/
inductive Number : Text → Numeral → Prop
  | mk {m f x : Text} {negative : Bool} {whole fraction : List Digit} {exponent : Option Int} :
      Minus m negative → Whole whole → Fraction f fraction → Exponent x exponent →
      Number (m ++ (whole.map Digits.codePoint ++ (f ++ x))) ⟨negative, whole, fraction, exponent⟩

/-- The value of a numeral. -/
inductive Amount : Numeral → Json → Prop
  | integer {n : Numeral} : n.fraction = [] → n.exponent = none → n.whole.length ≤ 4300 →
      Amount n (.int n.toInt)
  | float {n : Numeral} : n.fraction ≠ [] ∨ n.exponent ≠ none → Amount n (.float n.toBinary64)

/-! ## Values -/

/-- The words that are values. -/
def words : List (String × Json) :=
  [("null", .null), ("true", .bool true), ("false", .bool false), ("NaN", .float .nan),
    ("Infinity", .float (.infinite false)), ("-Infinity", .float (.infinite true))]

/-- The members that an object has of those that are written: the names in
the order in which they first stand, each with the value that stands last. -/
structure Merged (written members : Members) : Prop where
  names : members.map Prod.fst = (written.map Prod.fst).eraseDups
  values : ∀ m ∈ members, written.reverse.lookup m.1 = some m.2

/-- What a part of a document denotes. -/
inductive Phrase
  | value (v : Json)
  | items (vs : List Json)
  | member (m : Text × Json)
  | members (ms : Members)

/-- **The grammar**: a text that derives a part of a document, with what
the part denotes. -/
inductive Derives : Text → Phrase → Prop
  | word {name : String} {v : Json} : (name, v) ∈ words →
      Derives (Text.ofString name) (.value v)
  | number {u : Text} {n : Numeral} {v : Json} : Number u n → Amount n v → Derives u (.value v)
  | string {u t : Text} : Chars u t →
      Derives (.scalar '"' :: (u ++ [.scalar '"'])) (.value (.string t))
  | emptyArray {b : Text} : Blanks b →
      Derives (.scalar '[' :: (b ++ [.scalar ']'])) (.value (.array []))
  | array {b u : Text} {vs : List Json} : Blanks b → Derives u (.items vs) →
      Derives (.scalar '[' :: (b ++ (u ++ [.scalar ']']))) (.value (.array vs))
  | emptyObject {b : Text} : Blanks b →
      Derives (.scalar '{' :: (b ++ [.scalar '}'])) (.value (.object []))
  | object {b u : Text} {written members : Members} : Blanks b →
      Derives u (.members written) → Merged written members →
      Derives (.scalar '{' :: (b ++ (u ++ [.scalar '}']))) (.value (.object members))
  /-- The last item of an array, and the blanks after it. -/
  | lastItem {u a : Text} {v : Json} : Derives u (.value v) → Blanks a →
      Derives (u ++ a) (.items [v])
  /-- An item, a comma and the items after it. -/
  | item {u a b r : Text} {v : Json} {vs : List Json} : Derives u (.value v) → Blanks a →
      Blanks b → Derives r (.items vs) →
      Derives (u ++ (a ++ .scalar ',' :: (b ++ r))) (.items (v :: vs))
  /-- A name, a colon and a value. -/
  | member {u a b r name : Text} {v : Json} : Chars u name → Blanks a → Blanks b →
      Derives r (.value v) →
      Derives (.scalar '"' :: (u ++ .scalar '"' :: (a ++ .scalar ':' :: (b ++ r))))
        (.member (name, v))
  /-- The last member of an object, and the blanks after it. -/
  | lastMember {u a : Text} {m : Text × Json} : Derives u (.member m) → Blanks a →
      Derives (u ++ a) (.members [m])
  /-- A member, a comma and the members after it. -/
  | nextMember {u a b r : Text} {m : Text × Json} {ms : Members} : Derives u (.member m) →
      Blanks a → Blanks b → Derives r (.members ms) →
      Derives (u ++ (a ++ .scalar ',' :: (b ++ r))) (.members (m :: ms))

/-- A text that holds one value, and blanks around it. -/
inductive Document : Text → Json → Prop
  | mk {b u a : Text} {v : Json} : Blanks b → Derives u (.value v) → Blanks a →
      Document (b ++ (u ++ a)) v

end QueryConsole.Json.Grammar
