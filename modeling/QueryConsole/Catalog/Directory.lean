import QueryConsole.Json.Document
/-!
# Catalog directories

A `Directory` holds the files of message catalogs, one for each language,
under paths of names. `Directory.find?` follows a path as a file system
does: empty names and single dots are passed over, and two dots lead from
a directory that is there to the one above it. A directory that is there
stays, whatever becomes of its files. `Directory.load` reads the
catalog of a language; where there is no file the catalog is empty.
-/

namespace QueryConsole.Catalog

/-- A directory with files. `location` are the names that lead to it from
the highest directory that a path may lead back to, and `folders` are
directories that are there, each by its names from that one on. The paths
of the files begin in the directory itself. -/
structure Directory where
  location : List Text
  folders : List (List Text)
  files : List (List Text × Bytes)
  deriving Repr

namespace Directory

/-- The names of a path, without those that lead nowhere. -/
def names (path : Text) : List Text :=
  (path.splitOn (.scalar '/')).filter fun name => !name.isEmpty && name != "."

/-- An empty directory. -/
def empty : Directory :=
  ⟨[], [], []⟩

/-- Puts a file into a directory, in the place of one of the same path, and
with it the directories on the way. -/
def write (path : Text) (content : Bytes) (d : Directory) : Directory :=
  { d with
    folders := (d.location ++ (names path).dropLast) :: d.folders
    files := (names path, content) :: d.files.filter fun f => f.1 != names path }

/-- The directory with files under given paths. -/
def ofFiles (files : List (Text × Bytes)) : Directory :=
  files.foldl (fun d f => d.write f.1 f.2) empty

/-- Takes a file out of a directory; the directories on the way to it
stay. -/
def delete (path : Text) (d : Directory) : Directory :=
  { d with files := d.files.filter fun f => f.1 != names path }

/-- Every file with all the names on the way to it. -/
def entries (d : Directory) : List (List Text × Bytes) :=
  d.files.map fun f => (d.location ++ f.1, f.2)

/-- Whether names lead to a directory. -/
def isDirectory (d : Directory) (path : List Text) : Bool :=
  path.isPrefixOf d.location || d.folders.any fun folder => path.isPrefixOf folder

/-- The content of the file that further names lead to from a place. -/
def follow? (d : Directory) (place : List Text) : List Text → Option Bytes
  | [] => none
  | [name] => d.entries.lookup (place ++ [name])
  | name :: rest =>
    if name = ".." then
      if place.isEmpty then none else d.follow? place.dropLast rest
    else if d.isDirectory (place ++ [name]) then d.follow? (place ++ [name]) rest
    else none

/-- The content of the file at a path, if there is one. -/
def find? (d : Directory) (path : Text) : Option Bytes :=
  match path with
  | .scalar '/' :: _ => none
  | _ => d.follow? d.location (names path)

/-- **The catalog of a language.** -/
def load (d : Directory) (language : Text) : Except Document.Fault Json :=
  match d.find? (language ++ ".json") with
  | none => .ok (.object [])
  | some content => Document.readFile content

end Directory

end QueryConsole.Catalog
