/-!
# The log

Some operations tell a log what they met: how serious it is, which part of the program tells it,
what happened, and values with their names. What becomes of an event is up to whoever runs the
program, so a `Logger` is a parameter wherever events meet printed text. A line of a log may carry
more than its event, such as the time; that is not modelled.
-/

set_option autoImplicit false

namespace CaptureProtocol

/-- How serious an event is. -/
inductive LogLevel where
  | error | warn | debug
  deriving DecidableEq, Repr

/-- Something that a log is told. -/
structure LogEvent where
  level : LogLevel
  /-- The part of the program that tells it. -/
  target : String
  message : String
  /-- Values with their names. -/
  fields : List (String × String) := []
  deriving DecidableEq, Repr

/-- The lines that a log prints for each event, none for an event that is not wanted. -/
abbrev Logger := LogEvent → List String

namespace LogLevel

/-- The level as it is printed. -/
def name : LogLevel → String
  | error => "ERROR"
  | warn => " WARN"
  | debug => "DEBUG"

end LogLevel

namespace LogEvent

/-- An event as one line. -/
def line (event : LogEvent) : String :=
  event.level.name ++ " " ++ event.target ++ ": " ++ event.message ++
    String.join (event.fields.map fun (name, value) => " " ++ name ++ "=" ++ value)

end LogEvent

namespace Logger

/-- The log that prints nothing. -/
def off : Logger := fun _ => []

/-- The log that prints warnings and errors, each on a line. -/
def warnings : Logger := fun event => if event.level = .debug then [] else [event.line]

/-- What is printed of some events, one after another. -/
def lines (log : Logger) (events : List LogEvent) : List String := events.flatMap log

end Logger

end CaptureProtocol
