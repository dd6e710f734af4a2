import QueryConsole.Catalog.Messages
import QueryConsole.Query.View
import QueryConsole.Validation
/-!
# Presentation of views

`View.shown` is what a console prints for a view, in the words of a
catalog. `View.ofParts` makes a view of parts given by name, which may be
of any JSON, and reports everything that is wrong with them.
-/

namespace QueryConsole.Query.View

/-- **What is printed for a view.** The message of an error stands in the
words of the catalog, a result stands alone. -/
def shown (messages : Catalog.Messages) (v : View) : Except Catalog.Fault Json :=
  if v.isLoading then messages.get "status.loading" none []
  else
    match v.status, v.resultText with
    | .error, _ =>
      let message : Template.Value :=
        match v.errorMessage with
        | some t => .text t
        | none => .none
      messages.get "ui.error" none [("message", message)]
    | .success, some t => .ok (.string t)
    | _, _ => messages.get "status.idle" none []

/-! ## Views of given parts -/

/-- A part that has to be there. -/
def required {α : Type} (check : Json → Checked α) : Option Json → Checked α
  | some v => check v
  | none => .error .missing

/-- A part that may be null or missing. -/
def optional {α : Type} (check : Json → Checked α) : Option Json → Checked (Option α)
  | some .null => .ok none
  | some v => (check v).map some
  | none => .ok none

/-- The word for a status. -/
def checkStatus : Json → Checked Status :=
  checkWord .enumeration Status.all Status.word

/-- The words for yes. -/
def trueWords : List Text := ["1", "on", "t", "true", "y", "yes"]

/-- The words for no. -/
def falseWords : List Text := ["0", "off", "f", "false", "n", "no"]

/-- The bound of the numbers that are compared with one and zero: what does
not fit into eight bytes with a sign is taken for no number. -/
def wordBound : Int := 0x8000000000000000

/-- Yes or no by a number, which is one or zero. -/
def checkWhole (n : Int) : Checked Bool :=
  if n = 1 then .ok true
  else if n = 0 then .ok false
  else if -wordBound ≤ n ∧ n < wordBound then .error .booleanWord
  else .error .boolean

/-- Yes or no by a number with a point, which is one or zero. -/
def checkFloat (x : Binary64) : Checked Bool :=
  if x.isIntegral && (Binary64.ofInt (-wordBound)).lt x && x.lt (Binary64.ofInt wordBound) then
    if x = .one then .ok true
    else if x = .zero ∨ x = .finite true 0 then .ok false
    else .error .booleanWord
  else .error .boolean

/-- Yes or no by a word, in any case of ASCII. -/
def checkBoolWord (t : Text) : Checked Bool :=
  let word := t.flatMap fun p => if p.value < 128 then p.lower else [p]
  if trueWords.contains word then .ok true
  else if falseWords.contains word then .ok false
  else .error .booleanWord

/-- Yes or no, which may be a word or a number. -/
def checkBool : Json → Checked Bool
  | .bool b => .ok b
  | .int n => checkWhole n
  | .float x => checkFloat x
  | .string t => if t.isScalar then checkBoolWord t else .error .unicode
  | _ => .error .boolean

/-- **The view of given parts**, or all that is wrong with them. -/
def ofParts (parts : List (Text × Json)) : Except (List Violation) View :=
  let part (name : String) : Option Json := parts.lookup (Text.ofString name)
  let queryText := required checkText (part "query_text")
  let status := required checkStatus (part "status")
  let isLoading := required checkBool (part "is_loading")
  let resultText := optional checkText (part "result_text")
  let errorMessage := optional checkText (part "error_message")
  match queryText, status, isLoading, resultText, errorMessage with
  | .ok queryText, .ok status, .ok isLoading, .ok resultText, .ok errorMessage =>
    .ok { queryText, status, isLoading, resultText, errorMessage }
  | _, _, _, _, _ =>
    .error (queryText.violations "query_text" ++ status.violations "status" ++
      isLoading.violations "is_loading" ++ resultText.violations "result_text" ++
      errorMessage.violations "error_message")

/-! ## Setting parts of a view -/

/-- Why a part of a view cannot be set. -/
inductive AssignmentFault
  | frozen (name : Text)
  | shared (name : Text)
  | notKind (typeName : String)
  | notMembers (typeName : String)
  | notWritable (name : Text)
  | noSetter (name : Text)
  deriving DecidableEq, Repr

/-- The message for a part that cannot be set. -/
def AssignmentFault.message : AssignmentFault → Text
  | frozen name => Violation.report [⟨name, .frozen⟩]
  | shared name =>
    name.quoted ++ " is a ClassVar of \x60QueryView\x60 and cannot be set on an instance. " ++
      "If you want to set a value on the class, use \x60QueryView." ++ name ++ " = value\x60."
  | notKind typeName =>
    "__class__ must be set to a class, not '" ++ Text.ofString typeName ++ "' object"
  | notMembers typeName =>
    "__dict__ must be set to a dictionary, not a '" ++ Text.ofString typeName ++ "'"
  | notWritable name =>
    "attribute '" ++ name ++ "' of 'QueryView' objects is not writable"
  | noSetter name => "property '" ++ name ++ "' of 'QueryView' object has no setter"

/-- The names of what all views share. -/
def sharedNames : List Text :=
  ["__class_vars__", "__private_attributes__", "__signature__", "__pydantic_complete__",
    "__pydantic_core_schema__", "__pydantic_custom_init__", "__pydantic_decorators__",
    "__pydantic_generic_metadata__", "__pydantic_parent_namespace__",
    "__pydantic_post_init__", "__pydantic_root_model__", "__pydantic_serializer__",
    "__pydantic_validator__", "__pydantic_fields__", "__pydantic_setattr_handlers__",
    "__pydantic_computed_fields__"]

/-- What is wrong with setting a part of a view. A view does not change,
but names that begin with an underscore are no parts of it; all but a few
of these may be set to anything. -/
def assignmentFault? (name : Text) (value : Json) : Option AssignmentFault :=
  if sharedNames.contains name then some (.shared name)
  else if name.head? ≠ some (.scalar '_') then some (.frozen name)
  else if name = "__class__" then some (.notKind value.typeName)
  else if name = "__dict__" then
    match value with
    | .object _ => none
    | _ => some (.notMembers value.typeName)
  else if name = "__weakref__" then some (.notWritable name)
  else if name = "__fields_set__" then some (.noSetter name)
  else none

end QueryConsole.Query.View
