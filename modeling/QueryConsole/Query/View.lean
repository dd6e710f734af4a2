import QueryConsole.Query.State
import QueryConsole.Json.Printer
/-!
# Views

A `Query.View` is what a presentation shows of a state: its result is
rendered. A view may also be put together from parts that belong to no
state, so its fields are independent of each other.
-/

namespace QueryConsole.Query

/-- A snapshot of a state for presentation. -/
structure View where
  queryText : Text
  status : Status
  isLoading : Bool
  resultText : Option Text
  errorMessage : Option Text
  deriving DecidableEq, Repr

/-- The view of a state; a result is shown as indented JSON. -/
def State.view (s : State) : View :=
  { queryText := s.queryText
    status := s.status
    isLoading := s.isLoading
    resultText := s.outcome.result?.map Json.pretty
    errorMessage := s.outcome.errorMessage? }

end QueryConsole.Query
