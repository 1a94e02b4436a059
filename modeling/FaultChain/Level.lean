import FaultChain.Text.Blank

/-!
# Log levels

Levels order messages by severity, the most severe first.  As a filter a level lets through the
messages at most as verbose as itself; `off` lets nothing through and is the level of no message.
-/

namespace FaultChain

/-- A severity of messages, or a filter on them. -/
inductive Level
  | off
  | error
  | warn
  | info
  | debug
  | trace
  deriving DecidableEq, Repr

namespace Level

/-- All levels, the most severe first. -/
def all : List Level :=
  [off, error, warn, info, debug, trace]

/-- The verbosity of a level. -/
def verbosity : Level → Nat
  | off => 0
  | error => 1
  | warn => 2
  | info => 3
  | debug => 4
  | trace => 5

/-- The level of a verbosity; everything beyond `debug` is `trace`. -/
def ofVerbosity : Nat → Level
  | 0 => off
  | 1 => error
  | 2 => warn
  | 3 => info
  | 4 => debug
  | _ => trace

/-- The name of a level in settings. -/
def name : Level → String
  | off => "off"
  | error => "error"
  | warn => "warn"
  | info => "info"
  | debug => "debug"
  | trace => "trace"

/-- The spelling of a level in diagnostic records. -/
def variant : Level → String
  | off => "Off"
  | error => "Error"
  | warn => "Warn"
  | info => "Info"
  | debug => "Debug"
  | trace => "Trace"

/-- What a line of a level starts with. -/
def tag : Level → String
  | off => ""
  | error => "[ERROR]"
  | warn => "[WARN ]"
  | info => "[INFO ]"
  | debug => "[DEBUG]"
  | trace => "[TRACE]"

/-- The level that a text names, by its name in any ASCII case or by its digit, blank space around
it aside. -/
def parse? (s : String) : Option Level :=
  let word := String.ofList ((Text.trimBlanks s.toList).map Char.toLower)
  all.find? fun level => word == level.name || word == toString level.verbosity

/-- Whether a message of level `message` passes the filter.  The more severe a message is, the more
filters it passes. -/
def allows (filter message : Level) : Bool :=
  message != off && message.verbosity ≤ filter.verbosity

/-- A level is told by its verbosity. -/
theorem ofVerbosity_verbosity (l : Level) : ofVerbosity l.verbosity = l := by
  cases l <;> rfl

/-- Every level is known by its name. -/
theorem parse?_name (l : Level) : parse? l.name = some l := by
  cases l <;> decide

/-- No message has `off` as its level. -/
theorem not_allows_off (l : Level) : l.allows off = false := rfl

/-- As a filter `off` stops the messages of every level. -/
theorem off_allows (l : Level) : off.allows l = false := by
  cases l <;> rfl

end Level

end FaultChain
