import QueryConsole.Catalog.Directory
import QueryConsole.Catalog.Locale
import QueryConsole.Template.Format
/-!
# Messages

`Messages` looks up the message of a key: in the catalog of the locale
asked for, else in that of the default locale, else the key itself is the
message. With arguments the message is a template that they fill. A
catalog may hold any JSON; what is not text is shown only where there are
no arguments.
-/

namespace QueryConsole.Catalog

/-- Why there is no message: the catalog or the template is at fault, or an
argument has the name of something that a lookup is given already. -/
inductive Fault
  | named (name : Text)
  | document (fault : Document.Fault)
  | notCatalog (typeName : String)
  | notTemplate (typeName : String)
  | template (fault : Template.Fault)
  deriving DecidableEq, Repr

/-- The message of a fault. -/
def Fault.message : Fault → Text
  | named name =>
    if name = "locale" then
      "querypad.i18n.catalog.I18nService.gettext() got multiple values for keyword argument '" ++
        name ++ "'"
    else "I18nService.gettext() got multiple values for argument '" ++ name ++ "'"
  | document fault => fault.message
  | notCatalog typeName => "'" ++ Text.ofString typeName ++ "' object has no attribute 'get'"
  | notTemplate typeName =>
    "'" ++ Text.ofString typeName ++ "' object has no attribute 'format'"
  | template fault => fault.message

/-- The entry of a key in a catalog; null is none. -/
def entry? (key : Text) (catalog : Json) : Except Fault (Option Json) :=
  match catalog with
  | .object members =>
    match Json.Members.find? key members with
    | some .null => .ok none
    | found => .ok found
  | other => .error (.notCatalog other.typeName)

/-- A message that arguments fill: it has to be text. -/
def fillMessage (arguments : Template.Arguments) (message : Json) : Except Fault Text :=
  match message with
  | .string t =>
    match Template.fillOrKeep arguments t with
    | .ok shown => .ok shown
    | .error fault => .error (.template fault)
  | other => .error (.notTemplate other.typeName)

/-- A message with arguments put in; without any it stands as it is. -/
def present (arguments : Template.Arguments) (message : Json) : Except Fault Json :=
  if arguments.isEmpty then .ok message else (fillMessage arguments message).map Json.string

/-- The fault of arguments of which one has a name that a lookup does not
leave to them. The locale, which is given by name too, is looked at first. -/
def namingFault? (arguments : Template.Arguments) : Option Fault :=
  let names : List Text := arguments.map (·.1)
  let given : List Text := ["self", "key"]
  if names.contains (Text.ofString "locale") then some (.named "locale")
  else (names.find? given.contains).map .named

/-- The locale to look in first. -/
def firstLanguage (defaultLanguage : Text) (locale : Option Text) : Text :=
  match locale with
  | none => defaultLanguage
  | some [] => defaultLanguage
  | some locale => language locale

/-- The catalogs of a directory, read anew for each message. -/
structure Messages where
  directory : Directory
  defaultLanguage : Text
  deriving Repr

namespace Messages

/-- The messages of a directory under a default locale. -/
def new (directory : Directory) (defaultLocale : Text) : Messages :=
  ⟨directory, language defaultLocale⟩

/-- The message of a key in the first of some languages that has it. -/
def find (m : Messages) (key : Text) : List Text → Except Fault Json
  | [] => .ok (.string key)
  | language :: rest =>
    match m.directory.load language with
    | .error fault => .error (.document fault)
    | .ok catalog =>
      match entry? key catalog with
      | .error fault => .error fault
      | .ok (some message) => .ok message
      | .ok none => m.find key rest

/-- The languages in which a key is looked up. -/
def languages (m : Messages) (locale : Option Text) : List Text :=
  [firstLanguage m.defaultLanguage locale, m.defaultLanguage]

/-- **The message of a key**, with arguments put in. -/
def get (m : Messages) (key : Text) (locale : Option Text) (arguments : Template.Arguments) :
    Except Fault Json :=
  match m.find key (m.languages locale) with
  | .error fault => .error fault
  | .ok message => present arguments message

/-- The text that the message of a key becomes when arguments fill it. -/
def describe (m : Messages) (key : Text) (locale : Option Text)
    (arguments : Template.Arguments) : Except Fault Text :=
  match m.find key (m.languages locale) with
  | .error fault => .error fault
  | .ok message => fillMessage arguments message

end Messages

end QueryConsole.Catalog
