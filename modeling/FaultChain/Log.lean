import FaultChain.Level

/-!
# The diagnostic log

Operations report what happens to them.  A line that passes the filter goes into the capture, if one
is running, and is printed otherwise; a line that does not pass is dropped.  The log is written only
through `Log.emit`, and nothing else in the library reads it.
-/

namespace FaultChain

/-- A reported message, with its level and where it comes from. -/
structure Log.Line where
  level : Level
  origin : String
  message : String
  deriving DecidableEq, Repr

/-- A line as it is printed: the tag of its level, where it comes from, and the message. -/
def Log.Line.text (l : Log.Line) : String :=
  l.level.tag ++ " " ++ l.origin ++ ": " ++ l.message

/-- The log: what passes, what has been captured so far, and what has been printed. -/
structure Log where
  filter : Level := .warn
  /-- The lines captured so far, the latest first; absent while no capture is running. -/
  capture : Option (List Log.Line) := none
  /-- The lines printed so far, the latest first. -/
  printed : List Log.Line := []
  deriving DecidableEq, Repr

namespace Log

/-- Reports a message.  Whether it is kept is decided here, and nobody is told. -/
def emit (level : Level) (origin message : String) (log : Log) : Log :=
  let line : Line := { level, origin, message }
  if log.filter.allows level then
    match log.capture with
    | some lines => { log with capture := some (line :: lines) }
    | none => { log with printed := line :: log.printed }
  else
    log

/-- Sets the filter. -/
def setFilter (level : Level) (log : Log) : Log :=
  { log with filter := level }

/-- Starts a capture, or starts it again with nothing captured. -/
def beginCapture (log : Log) : Log :=
  { log with capture := some [] }

/-- Ends the capture and hands over what it holds, the earliest line first; nothing if none was
running. -/
def takeCapture (log : Log) : Log × List Line :=
  ({ log with capture := none }, (log.capture.getD []).reverse)

/-- What has been printed, each line ended by a line break. -/
def output (log : Log) : String :=
  String.join (log.printed.reverse.map fun line => line.text ++ "\n")

/-- A report does not change what passes. -/
@[simp]
theorem filter_emit (level : Level) (origin message : String) (log : Log) :
    (log.emit level origin message).filter = log.filter := by
  unfold emit
  dsimp only
  split
  · split <;> rfl
  · rfl

/-- With the filter `off` a report leaves the log as it is. -/
theorem emit_of_off {log : Log} (hoff : log.filter = .off) (level : Level)
    (origin message : String) : log.emit level origin message = log := by
  rw [emit, hoff, Level.off_allows]
  rfl

/-- While a capture is running, a reported line is in it exactly if it passes the filter. -/
theorem capture_emit {log : Log} {lines : List Line} (h : log.capture = some lines)
    (level : Level) (origin message : String) :
    (log.emit level origin message).capture =
      some (if log.filter.allows level then { level, origin, message } :: lines else lines) := by
  unfold emit
  split <;> simp_all

end Log

end FaultChain
