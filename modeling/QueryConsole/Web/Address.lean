import QueryConsole.Text.Case
import QueryConsole.Web.Host
/-!
# Web addresses

An `Address` is a web address taken apart: scheme, user, host, port, path,
query and fragment. `Address.parse` reads what is commonly typed for one,
with slashes either way and any number of them after the scheme, and
`Address.text` writes it in its one normal form. Addresses of other schemes
are refused, for what is wrong with them first.
-/

namespace QueryConsole.Web

/-- The schemes of web addresses. -/
inductive Scheme
  | http
  | https
  deriving DecidableEq, Repr

namespace Scheme

/-- The name of a scheme. -/
def name : Scheme → String
  | http => "http"
  | https => "https"

/-- The port that is meant when none is given. -/
def defaultPort : Scheme → Nat
  | http => 80
  | https => 443

end Scheme

/-- A web address. `user` is what stands before the `@`, encoded. -/
structure Address where
  scheme : Scheme
  user : Text
  host : Host
  port : Option Nat
  path : List Text
  query : Option Text
  fragment : Option Text
  deriving DecidableEq, Repr

namespace Address

/-! ## Reading -/

/-- The input without controls and blanks at its ends, and without ends of
line and tabs. -/
def clean (t : Text) : Text :=
  let isEdge (p : CodePoint) : Bool := p.value ≤ 0x20
  let inner := ((t.dropWhile isEdge).reverse.dropWhile isEdge).reverse
  inner.filter fun p => p != .scalar '\t' && p != .scalar '\n' && p != .scalar '\r'

/-- Whether a code point is a letter of ASCII. -/
def isLetter (p : CodePoint) : Bool :=
  let n := p.value
  (65 ≤ n && n ≤ 90) || (97 ≤ n && n ≤ 122)

/-- The scheme before the colon, in lower case, and the rest. -/
def splitScheme? (t : Text) : Option (Text × Text) :=
  let isPart (p : CodePoint) : Bool :=
    isLetter p || (Digits.digit? p).isSome || (Text.ofString "+-.").contains p
  let name := t.takeWhile isPart
  match name.head?, t.drop name.length with
  | some first, .scalar ':' :: rest =>
    if isLetter first then some (name.flatMap CodePoint.lower, rest) else none
  | _, _ => none

/-- A slash of either direction. -/
def isSlash (p : CodePoint) : Bool :=
  p == .scalar '/' || p == .scalar '\\'

/-- What ends the part of an address that names the host. -/
def endsAuthority (backslash : Bool) (p : CodePoint) : Bool :=
  p == .scalar '/' || p == .scalar '?' || p == .scalar '#' || (backslash && p == .scalar '\\')

/-- What stands before the last `@`, if there is one, and what follows
it. -/
def splitUser (authority : Text) : Option Text × Text :=
  let mark := CodePoint.scalar '@'
  if authority.contains mark then
    let rest := (authority.reverse.takeWhile (· != mark)).reverse
    (some (authority.take (authority.length - rest.length - 1)), rest)
  else (none, authority)

/-- A user name, and a password after a colon; an empty password is
dropped. -/
def userText (t : Text) : Text :=
  let name := t.takeWhile (· != .scalar ':')
  let password := t.drop (name.length + 1)
  encode inUser name ++
    if password.isEmpty then [] else Text.ofChar ':' ++ encode inUser password

/-- The host, up to a colon outside of brackets, and the rest. -/
def splitHost (bracketed : Bool) : Text → Text × Text
  | [] => ([], [])
  | p :: t =>
    if p = .scalar ':' ∧ !bracketed then ([], p :: t)
    else
      let (host, rest) :=
        splitHost (p == .scalar '[' || (bracketed && p != .scalar ']')) t
      (p :: host, rest)

/-- A port after a colon: digits or nothing. -/
def readPort (t : Text) : Except Fault (Option Nat) :=
  match t with
  | [] => .ok none
  | _ :: digits =>
    if digits.isEmpty then .ok none
    else
      match Digits.span digits with
      | (ds, []) =>
        if Digits.toNat ds ≤ 65535 then .ok (some (Digits.toNat ds)) else .error .badPort
      | _ => .error .badPort

/-- Whether a segment stands for the directory that it is in. -/
def isDot (segment : Text) : Bool :=
  [".", "%2e"].any fun s => Text.ofString s == segment.flatMap CodePoint.lower

/-- Whether a segment stands for the directory above. -/
def isDoubleDot (segment : Text) : Bool :=
  ["..", "%2e.", ".%2e", "%2e%2e"].any fun s =>
    Text.ofString s == segment.flatMap CodePoint.lower

/-- Whether a segment names a drive, above which no path leads. -/
def isDrive : Text → Bool
  | [p, q] => isLetter p && (q == .scalar ':' || q == .scalar '|')
  | _ => false

/-- The segments so far, last one first, without the last. -/
def up : List Text → List Text
  | [] => []
  | s :: rest => if isDrive s then s :: rest else rest

/-- The segments of a path with the dots resolved; `before` are those so
far, last one first. -/
def resolve (before : List Text) : List Text → List Text
  | [] => before.reverse
  | [s] =>
    if isDoubleDot s then ([] :: up before).reverse
    else if isDot s then ([] :: before).reverse
    else (encode inPath s :: before).reverse
  | s :: rest =>
    if isDoubleDot s then resolve (up before) rest
    else if isDot s then resolve before rest
    else resolve (encode inPath s :: before) rest

/-- The segments of a path, the first slash of which means nothing. -/
def segments (path : Text) : List Text :=
  let path := path.map fun p => if isSlash p then .scalar '/' else p
  let path :=
    match path with
    | .scalar '/' :: rest => rest
    | _ => path
  resolve [] (path.splitOn (.scalar '/'))

/-- The authority of an address, taken apart. -/
def authority (t : Text) : Except Fault (Text × Host × Option Nat) := do
  let (user, rest) := splitUser t
  let (host, rest) := splitHost false rest
  if host.isEmpty then throw .emptyHost
  let host ← Host.parse host
  let port ← readPort rest
  return ((user.map userText).getD [], host, port)

/-- Looks through what follows the two slashes of an address whose scheme
is none of the web's. A host may be left out, unless there is a user or a
port. -/
def checkOpaque (t : Text) : Except Fault Unit := do
  let place := t.takeWhile fun p => !endsAuthority false p
  let (user, rest) := splitUser place
  if user == some [] && rest.isEmpty && place.length < t.length then throw .emptyHost
  let (host, port) := splitHost false rest
  Host.checkOpaque host
  if host.isEmpty && !port.isEmpty then throw .emptyHost
  let _ ← readPort (port.takeWhile (· != .scalar '\\'))
  if host.isEmpty && !((user.map userText).getD []).isEmpty then throw .emptyHost

/-- Looks through what follows the two slashes of a file's address: a host,
unless it is a drive. -/
def checkFile (t : Text) : Except Fault Unit := do
  let host := t.takeWhile fun p => !endsAuthority true p
  if host.isEmpty || isDrive host then return
  let _ ← Host.parse host

/-- Looks through an address of another scheme. -/
def checkOther (scheme rest : Text) : Except Fault Unit :=
  if scheme = "ftp" ∨ scheme = "ws" ∨ scheme = "wss" then
    (authority ((rest.dropWhile isSlash).takeWhile fun p => !endsAuthority true p)).map
      fun _ => ()
  else
    match rest with
    | p :: q :: rest =>
      if scheme = "file" then
        if isSlash p && isSlash q then checkFile rest else .ok ()
      else if p = .scalar '/' ∧ q = .scalar '/' then checkOpaque rest
      else .ok ()
    | _ => .ok ()

/-- What is wrong with an address of another scheme: that it is one, unless
its host or port is no host or port. -/
def refuse (scheme rest : Text) : Fault :=
  match checkOther scheme rest with
  | .ok _ => .otherScheme
  | .error fault => fault

/-- The address after its scheme. -/
def ofRest (scheme : Scheme) (t : Text) : Except Fault Address := do
  let t := t.dropWhile isSlash
  let place := t.takeWhile fun p => !endsAuthority true p
  let rest := t.drop place.length
  let (user, host, port) ← authority place
  let path := rest.takeWhile fun p => p != .scalar '?' && p != .scalar '#'
  let rest := rest.drop path.length
  let (query, rest) :=
    match rest with
    | .scalar '?' :: rest =>
      let query := rest.takeWhile (· != .scalar '#')
      (some (encode inQuery query), rest.drop query.length)
    | _ => (none, rest)
  let fragment :=
    match rest with
    | _ :: rest => some (encode inFragment rest)
    | [] => none
  return {
    scheme, user, host
    port := if port = some scheme.defaultPort then none else port
    path := segments path
    query, fragment }

/-- **The web address that a text is.** -/
def parse (t : Text) : Except Fault Address :=
  if t.isEmpty then .error .empty
  else
    match splitScheme? (clean t) with
    | none => .error .relative
    | some (scheme, rest) =>
      if scheme = "http" then ofRest .http rest
      else if scheme = "https" then ofRest .https rest
      else .error (refuse scheme rest)

/-! ## Writing -/

/-- **The normal form of an address.** -/
def text (a : Address) : Text :=
  Text.ofString a.scheme.name ++ "://" ++
    (if a.user.isEmpty then [] else a.user ++ Text.ofChar '@') ++ a.host.text ++
    (match a.port with
      | some port => Text.ofChar ':' ++ Text.ofNat port
      | none => []) ++
    Text.ofChar '/' ++ Text.intercalate "/" a.path ++
    (match a.query with
      | some query => Text.ofChar '?' ++ query
      | none => []) ++
    (match a.fragment with
      | some fragment => Text.ofChar '#' ++ fragment
      | none => [])

end Address

namespace Fault

/-- What a fault says of an address. -/
def message : Fault → String
  | empty => "input is empty"
  | relative => "relative URL without a base"
  | emptyHost => "empty host"
  | badIpv4 => "invalid IPv4 address"
  | badIpv6 => "invalid IPv6 address"
  | badPort => "invalid port number"
  | badDomain => "invalid international domain name"
  | badDomainCharacter => "invalid domain character"
  | otherScheme => ""

end Fault

end QueryConsole.Web
