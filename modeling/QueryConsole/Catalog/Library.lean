import QueryConsole.Catalog.Cache
/-!
# Catalog libraries

A `Library` is a directory of catalogs with the services that look messages
up in it and the cache that all of them share. Services are numbered in the
order they are opened. `Library.perform` does one thing to a library, and
`Library.runFrom` one after another, files being written and taken out in
between.
-/

namespace QueryConsole.Catalog

/-- A directory of catalogs, its services, and their cache. -/
structure Library where
  directory : Directory
  services : List Service
  cache : Cache
  deriving Repr

/-- What may be done to a library. -/
inductive Library.Action
  | get (service : Nat) (key : Text) (locale : Option Text) (arguments : Template.Arguments)
  | write (path : Text) (content : Bytes)
  | delete (path : Text)
  | openService (defaultLocale : Text)
  deriving Repr

namespace Library

/-- A directory that no service has looked into. -/
def new (directory : Directory) : Library :=
  ⟨directory, [], []⟩

/-- Opens a service with a default locale. -/
def openService (defaultLocale : Text) (l : Library) : Library :=
  { l with services := l.services ++ [⟨l.services.length, language defaultLocale⟩] }

/-- The message that a service gives for a key, if the arguments have names
of their own; a service that was not opened gives none. -/
def get (service : Nat) (key : Text) (locale : Option Text) (arguments : Template.Arguments)
    (l : Library) : Option (Except Fault Json) × Library :=
  match l.services[service]? with
  | none => (none, l)
  | some s =>
    match namingFault? arguments with
    | some fault => (some (.error fault), l)
    | none =>
      let (message, cache) := s.get l.directory key locale arguments l.cache
      (some message, { l with cache })

/-- Performs an action. -/
def perform (l : Library) : Action → Library
  | .get service key locale arguments => (l.get service key locale arguments).2
  | .write path content => { l with directory := l.directory.write path content }
  | .delete path => { l with directory := l.directory.delete path }
  | .openService defaultLocale => l.openService defaultLocale

/-- Performs actions one after another. -/
def runFrom (l : Library) (actions : List Action) : Library :=
  actions.foldl perform l

end Library

end QueryConsole.Catalog
