import FaultChain.Text.Quoted

/-!
# Failures

Why a context, an error or a copy could not be produced.  These are distinct from the diagnostic
errors that the library builds for its callers.
-/

namespace FaultChain

/-- The memory request without which an object could not be produced. -/
inductive Need
  | contextBlock
  | errorBlock
  | message
  | copy
  deriving DecidableEq, Repr

namespace Need

/-- A request in words. -/
def display : Need → String
  | contextBlock => "context block"
  | errorBlock => "error block"
  | message => "message buffer"
  | copy => "copy buffer"

/-- The spelling of a request in diagnostic records. -/
def variant : Need → String
  | contextBlock => "ContextBlock"
  | errorBlock => "ErrorBlock"
  | message => "Message"
  | copy => "Copy"

end Need

/-- Why an object could not be produced. -/
inductive Failure
  /-- The context has been destroyed. -/
  | invalidContext
  /-- The settings of a context were refused. -/
  | invalidConfig (why : String)
  /-- The message reported an error while it was measured. -/
  | format
  /-- The backend refused a request. -/
  | alloc (need : Need)
  deriving DecidableEq, Repr

namespace Failure

/-- A failure in words. -/
def display : Failure → String
  | invalidContext => "invalid context"
  | invalidConfig why => "invalid config: " ++ why
  | format => "message formatting failed"
  | alloc need => "allocation failed: " ++ need.display

/-- A failure in diagnostic records. -/
def debug : Failure → String
  | invalidContext => "InvalidContext"
  | invalidConfig why => "InvalidConfig(" ++ Text.quoted why ++ ")"
  | format => "Format"
  | alloc need => "Alloc(" ++ need.variant ++ ")"

/-- The request that was refused, if that is what failed. -/
def need? : Failure → Option Need
  | alloc need => some need
  | _ => none

end Failure

end FaultChain
