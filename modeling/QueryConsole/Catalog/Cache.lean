import QueryConsole.Catalog.Messages
/-!
# The catalog cache

Services that look messages up share a cache of the sixteen catalogs used
last. A `Cache` lists them, latest first, each under the service and the
language that asked for it. A catalog that cannot be loaded is not kept.
`Service.get` gives what `Messages.get` gives as long as the directory
does not change.
-/

namespace QueryConsole.Catalog

/-- Who asked for a catalog, and of which language. -/
structure Cache.Key where
  service : Nat
  language : Text
  deriving DecidableEq, Repr

/-- The catalogs used last, latest first. -/
abbrev Cache := List (Cache.Key × Json)

namespace Cache

/-- The number of catalogs that are kept. -/
def capacity : Nat := 16

/-- The cache without the catalog of a key. -/
def without (key : Key) (c : Cache) : Cache :=
  c.filter fun e => e.1 != key

/-- The catalog of a key: the kept one, or else a newly loaded one. Either
is then the latest. -/
def lookup (d : Directory) (key : Key) (c : Cache) : Except Document.Fault Json × Cache :=
  match List.lookup key c with
  | some catalog => (.ok catalog, (key, catalog) :: c.without key)
  | none =>
    match d.load key.language with
    | .ok catalog => (.ok catalog, ((key, catalog) :: c).take capacity)
    | .error fault => (.error fault, c)

end Cache

/-- One of the services that look messages up. -/
structure Service where
  number : Nat
  defaultLanguage : Text
  deriving DecidableEq, Repr

namespace Service

/-- The message of a key in the first of some languages that has it. -/
def find (s : Service) (d : Directory) (key : Text) :
    List Text → Cache → Except Fault Json × Cache
  | [], c => (.ok (.string key), c)
  | language :: rest, c =>
    match Cache.lookup d ⟨s.number, language⟩ c with
    | (.error fault, c) => (.error (.document fault), c)
    | (.ok catalog, c) =>
      match entry? key catalog with
      | .error fault => (.error fault, c)
      | .ok (some message) => (.ok message, c)
      | .ok none => s.find d key rest c

/-- **The message of a key**, with arguments put in. -/
def get (s : Service) (d : Directory) (key : Text) (locale : Option Text)
    (arguments : Template.Arguments) (c : Cache) : Except Fault Json × Cache :=
  match s.find d key [firstLanguage s.defaultLanguage locale, s.defaultLanguage] c with
  | (.error fault, c) => (.error fault, c)
  | (.ok message, c) => (present arguments message, c)

end Service

end QueryConsole.Catalog
