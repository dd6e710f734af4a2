import QueryConsole.Text.Case
import QueryConsole.Text.Quoted
/-!
# Log levels

A `Log.Level` is how much a log event matters. A `Log.Threshold` is what a
log is configured with: the levels from it on are written. Thresholds are
named by words in any case, or numbered in tens.
-/

namespace QueryConsole.Log

/-- How much an event matters. -/
inductive Level
  | debug
  | info
  | warning
  | error
  | critical
  deriving DecidableEq, Repr

namespace Level

/-- The word that a log line has for a level. -/
def word : Level → String
  | debug => "debug"
  | info => "info"
  | warning => "warning"
  | error => "error"
  | critical => "critical"

/-- The word for a level as a title. -/
def title : Level → String
  | debug => "Debug"
  | info => "Info"
  | warning => "Warning"
  | error => "Error"
  | critical => "Critical"

/-- The number of a level. -/
def number : Level → Nat
  | debug => 10
  | info => 20
  | warning => 30
  | error => 40
  | critical => 50

end Level

/-- The least level that is written; `all` is below every level. -/
inductive Threshold
  | all
  | level (l : Level)
  deriving DecidableEq, Repr

namespace Threshold

/-- The word for a threshold as a title. -/
def title : Threshold → String
  | all => "Notset"
  | level l => l.title

/-- The number of a threshold. -/
def number : Threshold → Nat
  | all => 0
  | level l => l.number

/-- Whether events of a level are written. -/
def admits (t : Threshold) (l : Level) : Bool :=
  t.number ≤ l.number

/-- Every threshold. -/
def values : List Threshold :=
  [all, level .debug, level .info, level .warning, level .error, level .critical]

/-- The words for the thresholds; two have a second one. -/
def words : List (String × Threshold) :=
  [("CRITICAL", level .critical), ("FATAL", level .critical), ("ERROR", level .error),
    ("WARN", level .warning), ("WARNING", level .warning), ("INFO", level .info),
    ("DEBUG", level .debug), ("NOTSET", all)]

/-- Why a threshold cannot be configured. -/
inductive Fault
  | unknownWord (upper : Text)
  | unknownNumber (n : Int)
  deriving DecidableEq, Repr

/-- The message for a threshold that there is not. -/
def Fault.message : Fault → Text
  | unknownWord upper => "Unknown level: " ++ Text.quoted ("Level " ++ upper)
  | unknownNumber n => Text.ofInt n

/-- The threshold that a word of any case is for. -/
def ofWord (word : Text) : Except Fault Threshold :=
  let upper := word.upper
  match words.find? fun w => Text.ofString w.1 == upper with
  | some w => .ok w.2
  | none => .error (.unknownWord upper)

/-- The threshold with a number. -/
def ofNumber (n : Int) : Except Fault Threshold :=
  match values.find? fun t => (t.number : Int) == n with
  | some t => .ok t
  | none => .error (.unknownNumber n)

end Threshold

/-- The ways to log an event. -/
inductive Method
  | debug
  | info
  | warning
  | warn
  | error
  | critical
  | fatal
  | msg
  | exception
  deriving DecidableEq, Repr

namespace Method

/-- All ways to log an event. -/
def all : List Method :=
  [debug, info, warning, warn, error, critical, fatal, msg, exception]

/-- The word for a way to log. -/
def word : Method → String
  | debug => "debug"
  | info => "info"
  | warning => "warning"
  | warn => "warn"
  | error => "error"
  | critical => "critical"
  | fatal => "fatal"
  | msg => "msg"
  | exception => "exception"

/-- The level at which a method logs. -/
def level : Method → Level
  | debug => .debug
  | info => .info
  | msg => .info
  | warning => .warning
  | warn => .warning
  | error => .error
  | exception => .error
  | critical => .critical
  | fatal => .critical

end Method

end QueryConsole.Log
