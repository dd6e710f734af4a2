import QueryConsole.Number.Digits
/-!
# Tables over code points

What a standard says of ranges of code points. A `Table` holds rows of
increasing ranges; `Table.find?` is the value of the range that holds a
number. `Table.read` reads a table from text: rows end in semicolons, and
a row is a range of hexadecimal numbers alone, a range with a value, or
one number with the values of the numbers from it on. A value is a list of
numbers, written as a sum; blanks and ends of lines mean nothing.
-/

namespace QueryConsole

/-- A range of numbers and what belongs to it. -/
structure Table.Row where
  first : Nat
  last : Nat
  value : List Nat
  deriving DecidableEq, Repr, Inhabited

/-- Rows in increasing order. -/
abbrev Table := Array Table.Row

namespace Table

/-! ## Looking up -/

/-- The value of the row from place `low` up to place `high` that holds a
number. -/
def search (t : Table) (n low high : Nat) : Option (List Nat) :=
  if low < high then
    let middle := (low + high) / 2
    match t[middle]? with
    | none => none
    | some row =>
      if n < row.first then t.search n low middle
      else if row.last < n then t.search n (middle + 1) high
      else some row.value
  else none
termination_by high - low

/-- **The value that a number has in a table.** -/
def find? (t : Table) (n : Nat) : Option (List Nat) :=
  t.search n 0 t.size

/-- Whether a table has a number. -/
def contains (t : Table) (n : Nat) : Bool :=
  (t.find? n).isSome

/-! ## Reading -/

/-- A hexadecimal number. -/
def number (s : String) : Nat :=
  s.toList.foldl (fun n c => 16 * n + ((CodePoint.scalar c).hexValue?).getD 0) 0

/-- The numbers of a sum. -/
def numbers (s : String) : List Nat :=
  (s.splitOn "+").map number

/-- The rows that are written as one. -/
def readRow (s : String) : List Row :=
  match s.splitOn ":" with
  | [range] =>
    match range.splitOn "-" with
    | [first, last] => [⟨number first, number last, []⟩]
    | _ => if range.isEmpty then [] else [⟨number range, number range, []⟩]
  | [range, values] =>
    match range.splitOn "-" with
    | [first, last] => [⟨number first, number last, numbers values⟩]
    | _ =>
      (values.splitOn ",").zipIdx.map fun (value, i) =>
        ⟨number range + i, number range + i, numbers value⟩
  | _ => []

/-- The table that a text is. -/
def read (s : String) : Table :=
  let rows := String.ofList (s.toList.filter fun c => !c.isWhitespace)
  ((rows.splitOn ";").flatMap readRow).toArray

end Table

end QueryConsole
