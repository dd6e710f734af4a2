import QueryConsole.Web.Domain
/-!
# Hosts

A host is a domain name or a numeric address. A name whose last label is a
number has to be an address of four bytes, which may be written in fewer
parts and in other bases. `Host.text` is the one written form of a host.
-/

namespace QueryConsole.Web

/-- Why a text is no web address. -/
inductive Fault
  | empty
  | relative
  | emptyHost
  | badIpv4
  | badIpv6
  | badPort
  | badDomain
  | badDomainCharacter
  | otherScheme
  deriving DecidableEq, Repr

/-- A host. -/
inductive Host
  | domain (name : Text)
  | ipv4 (number : Nat)
  | ipv6 (pieces : List Nat)
  deriving DecidableEq, Repr

/-! ## Four bytes -/

namespace Ipv4

/-- The number that digits of a base make. -/
def ofDigits? (base : Nat) (t : Text) : Option Nat :=
  t.foldl (fun n p =>
    match n, p.hexValue? with
    | some n, some d => if d < base then some (n * base + d) else none
    | _, _ => none) (some 0)

/-- One part of an address: hexadecimal after `0x`, octal after `0`. -/
def part? (t : Text) : Option Nat :=
  match t with
  | [] => none
  | .scalar '0' :: .scalar 'x' :: rest => ofDigits? 16 rest
  | .scalar '0' :: .scalar 'X' :: rest => ofDigits? 16 rest
  | .scalar '0' :: p :: rest => ofDigits? 8 (p :: rest)
  | t => ofDigits? 10 t

/-- The parts of a name between points, without an empty one at the end. -/
def parts (name : Text) : List Text :=
  let all := name.splitOn (.scalar '.')
  if 1 < all.length && all.getLast? == some [] then all.dropLast else all

/-- Whether the last part of a name is a number. -/
def isMeant (name : Text) : Bool :=
  match (parts name).getLast? with
  | none => false
  | some last =>
    (!last.isEmpty && last.all fun p => (Digits.digit? p).isSome) || (part? last).isSome

/-- The address that a name is: each part one byte, the last one all the
bytes that remain. -/
def parse (name : Text) : Except Fault Nat :=
  let all := parts name
  if 4 < all.length then .error .badIpv4
  else
    match all.mapM part? with
    | none => .error .badIpv4
    | some numbers =>
      match numbers.getLast? with
      | none => .error .badIpv4
      | some last =>
        let bytes := numbers.dropLast
        if bytes.any (255 < ·) || 256 ^ (4 - bytes.length) ≤ last then .error .badIpv4
        else .ok (bytes.zipIdx.foldl (fun n (b, i) => n + b * 256 ^ (3 - i)) last)

/-- Four bytes with points between them. -/
def text (n : Nat) : Text :=
  Text.intercalate "." ([3, 2, 1, 0].map fun i => Text.ofNat (n / 256 ^ i % 256))

end Ipv4

/-! ## Eight pieces -/

namespace Ipv6

/-- A piece of at most four digits. -/
def piece? (t : Text) : Option Nat :=
  if t.isEmpty || 4 < t.length then none else Ipv4.ofDigits? 16 t

/-- One byte in decimal without zeros before it. -/
def byte? (t : Text) : Option Nat :=
  match t with
  | [] => none
  | p :: rest =>
    if p = .scalar '0' ∧ !rest.isEmpty then none
    else
      match Ipv4.ofDigits? 10 t with
      | some n => if n ≤ 255 then some n else none
      | none => none

/-- Two pieces written as four bytes. -/
def bytePieces? (t : Text) : Option (List Nat) :=
  match (t.splitOn (.scalar '.')).mapM byte? with
  | some [a, b, c, d] => some [a * 256 + b, c * 256 + d]
  | _ => none

/-- The pieces between colons; the last may be four bytes if `bytes`. -/
def pieces? (bytes : Bool) : List Text → Option (List Nat)
  | [] => some []
  | [t] => if bytes && t.contains (.scalar '.') then bytePieces? t else (piece? t).map ([·])
  | t :: rest => do
    let n ← piece? t
    let ns ← pieces? bytes rest
    return n :: ns

/-- The texts before and after the first two colons in a row. -/
def cut? : Text → Option (Text × Text)
  | [] => none
  | [_] => none
  | p :: q :: t =>
    if p = .scalar ':' ∧ q = .scalar ':' then some ([], t)
    else (cut? (q :: t)).map fun (before, after) => (p :: before, after)

/-- The pieces of a text that may be empty. -/
def side? (bytes : Bool) (t : Text) : Option (List Nat) :=
  if t.isEmpty then some [] else pieces? bytes (t.splitOn (.scalar ':'))

/-- The pieces of an address; two colons stand for the zeros that are
missing. -/
def parse (t : Text) : Except Fault (List Nat) :=
  let found : Option (List Nat) :=
    match cut? t with
    | none =>
      match side? true t with
      | some ns => if ns.length = 8 then some ns else none
      | none => none
    | some (before, after) =>
      match side? false before, side? true after with
      | some ns, some ms =>
        if ns.length + ms.length ≤ 7 then
          some (ns ++ List.replicate (8 - ns.length - ms.length) 0 ++ ms)
        else none
      | _, _ => none
  match found with
  | some ns => .ok ns
  | none => .error .badIpv6

/-- The length of the run of zeros at the beginning. -/
def zeros (ns : List Nat) : Nat :=
  (ns.takeWhile (· == 0)).length

/-- Where the longest run of zeros begins, and its length; the first of
several. -/
def longestRun (ns : List Nat) : Nat × Nat :=
  (List.range ns.length).foldl (fun best i =>
    let n := zeros (ns.drop i)
    if best.2 < n then (i, n) else best) (0, 0)

/-- A piece in as few digits as it needs. -/
def pieceText (n : Nat) : Text :=
  Text.hex (n.log2 / 4 + 1) n

/-- The pieces between colons, two colons for the longest run of at least
two zeros. -/
def text (ns : List Nat) : Text :=
  let (start, count) := longestRun ns
  let join (ns : List Nat) : Text := Text.intercalate ":" (ns.map pieceText)
  if count < 2 then join ns
  else join (ns.take start) ++ "::" ++ join (ns.drop (start + count))

end Ipv6

/-! ## Hosts -/

namespace Host

/-- The host that a text names. -/
def parse (t : Text) : Except Fault Host :=
  match t with
  | .scalar '[' :: rest =>
    if rest.getLast? = some (.scalar ']') then (Ipv6.parse rest.dropLast).map ipv6
    else .error .badIpv6
  | _ => do
    let some name := Domain.ofText? t | throw .badDomain
    if name.isEmpty then throw .emptyHost
    if Ipv4.isMeant name then (Ipv4.parse name).map ipv4 else return domain name

/-- The written form of a host. -/
def text : Host → Text
  | domain name => name
  | ipv4 number => Ipv4.text number
  | ipv6 pieces => Text.ofChar '[' ++ Ipv6.text pieces ++ Text.ofChar ']'

/-- Refuses a host of a scheme whose hosts are not looked into. -/
def checkOpaque (t : Text) : Except Fault Unit :=
  match t with
  | .scalar '[' :: rest =>
    if rest.getLast? = some (.scalar ']') then (Ipv6.parse rest.dropLast).map fun _ => ()
    else .error .badIpv6
  | _ =>
    if t.any fun p => (Text.ofString "\x00\t\n\r #/:<>?@[\\]^|").contains p then
      .error .badDomainCharacter
    else .ok ()

end Host

end QueryConsole.Web
