import QueryConsole.Json.Value
import QueryConsole.Log.Level
import QueryConsole.Number.Typed
import QueryConsole.Query.State
import QueryConsole.Text.Blank
import QueryConsole.Validation
/-!
# Settings and their fields

`Settings` are what a console is set up with. Each `Field` has a name, a
default, and a rule that makes the setting of a raw value or refuses it;
the raw value may be any JSON value. `Settings.ofRaw` takes the six fields
together and reports everything that is wrong with them.
-/

namespace QueryConsole

/-- Where a console runs. -/
inductive Environment
  | dev
  | staging
  | prod
  deriving DecidableEq, Repr

namespace Environment

/-- All environments. -/
def all : List Environment := [dev, staging, prod]

/-- The word for an environment. -/
def word : Environment → String
  | dev => "dev"
  | staging => "staging"
  | prod => "prod"

end Environment

/-- The log levels that may be configured. -/
inductive Verbosity
  | debug
  | info
  | warning
  | error
  deriving DecidableEq, Repr

namespace Verbosity

/-- All log levels that may be configured. -/
def all : List Verbosity := [debug, info, warning, error]

/-- The word for a log level. -/
def word : Verbosity → String
  | debug => "DEBUG"
  | info => "INFO"
  | warning => "WARNING"
  | error => "ERROR"

/-- The least level that is logged. -/
def level : Verbosity → Log.Level
  | debug => .debug
  | info => .info
  | warning => .warning
  | error => .error

/-- What a log is configured with. -/
def threshold (v : Verbosity) : Log.Threshold :=
  .level v.level

end Verbosity

/-- What a console is set up with. -/
structure Settings where
  environment : Environment
  endpoint : Text
  timeout : Binary64
  initialQuery : Text
  defaultLanguage : Text
  verbosity : Verbosity
  deriving DecidableEq, Repr

namespace Settings

/-- The fields of the settings. -/
inductive Field
  | environment
  | endpoint
  | timeout
  | initialQuery
  | defaultLanguage
  | verbosity
  deriving DecidableEq, Repr

namespace Field

/-- All fields. -/
def all : List Field :=
  [environment, endpoint, timeout, initialQuery, defaultLanguage, verbosity]

/-- The name of a field. -/
def name : Field → String
  | environment => "environment"
  | endpoint => "endpoint_url"
  | timeout => "request_timeout_seconds"
  | initialQuery => "initial_query"
  | defaultLanguage => "default_language"
  | verbosity => "log_level"

/-- The name of the variable that sets a field, in lower case. -/
def variableName (f : Field) : Text :=
  "querypad_" ++ Text.ofString f.name

end Field

/-- The address that queries go to unless another is set. -/
def defaultEndpoint : Text := "http://localhost:8080/compiler/plainText"

/-- The settings of a console for which nothing is set. -/
def default : Settings :=
  { environment := .dev
    endpoint := defaultEndpoint
    timeout := Binary64.ofInt 30
    initialQuery := Query.initialText
    defaultLanguage := "en"
    verbosity := .info }

/-! ## The rule of each field -/

/-- The word for an environment. -/
def checkEnvironment : Json → Checked Environment :=
  checkWord .literal Environment.all Environment.word

/-- A web address, in its normal form. -/
def checkEndpoint : Json → Checked Text
  | .string t =>
    if t.isScalar then
      match Web.Address.parse t with
      | .ok a => .ok a.text
      | .error .otherScheme => .error .addressScheme
      | .error fault => .error (.addressForm fault)
    else .error .unicode
  | _ => .error .address

/-- A number of any spelling. -/
def checkNumber : Json → Checked Binary64
  | .bool b => .ok (if b then .one else .zero)
  | .int n =>
    match Binary64.ofInt n with
    | .infinite _ => .error .number
    | x => .ok x
  | .float x => .ok x
  | .string t =>
    if t.isScalar then
      match Binary64.ofTyped? t with
      | some x => .ok x
      | none => .error .numeral
    else .error .unicode
  | _ => .error .number

/-- The greatest number of seconds. -/
def maxSeconds : Nat := 600

/-- A number of seconds, above zero and no more than ten minutes. What is
no number is not at most ten minutes. -/
def checkSeconds (v : Json) : Checked Binary64 := do
  let x ← checkNumber v
  if !x.le (Binary64.ofInt maxSeconds) then throw (.atMost maxSeconds)
  if !Binary64.zero.lt x then throw .positive
  return x

/-- A log level, in any case and with blanks around it. -/
def checkVerbosity (v : Json) : Checked Verbosity :=
  checkWord .literal Verbosity.all Verbosity.word <|
    match v with
    | .string t => .string t.strip.upper
    | v => v

/-! ## All fields together -/

/-- A setting of a field: that of its raw value, or the default where there
is none. -/
def setting {α : Type} (check : Json → Checked α) (default : α) : Option Json → Checked α
  | some v => check v
  | none => .ok default

/-- What is wrong with a field. -/
def Field.violations {α : Type} (f : Field) (c : Checked α) : List Violation :=
  c.violations f.name

/-- **The settings that raw values make**, or all that is wrong with them;
`extra` are names that are not those of fields. -/
def ofRaw (raw : Field → Option Json) (extra : List Text) : Except (List Violation) Settings :=
  let environment := setting checkEnvironment default.environment (raw .environment)
  let endpoint := setting checkEndpoint default.endpoint (raw .endpoint)
  let timeout := setting checkSeconds default.timeout (raw .timeout)
  let initialQuery := setting checkText default.initialQuery (raw .initialQuery)
  let defaultLanguage := setting checkText default.defaultLanguage (raw .defaultLanguage)
  let verbosity := setting checkVerbosity default.verbosity (raw .verbosity)
  let violations :=
    Field.environment.violations environment ++ Field.endpoint.violations endpoint ++
      Field.timeout.violations timeout ++ Field.initialQuery.violations initialQuery ++
      Field.defaultLanguage.violations defaultLanguage ++
      Field.verbosity.violations verbosity ++
      extra.map fun name => ⟨name, .extra⟩
  match environment, endpoint, timeout, initialQuery, defaultLanguage, verbosity with
  | .ok environment, .ok endpoint, .ok timeout, .ok initialQuery, .ok defaultLanguage,
      .ok verbosity =>
    if extra.isEmpty then
      .ok { environment, endpoint, timeout, initialQuery, defaultLanguage, verbosity }
    else .error violations
  | _, _, _, _, _, _ => .error violations

end Settings

end QueryConsole
