import FaultChain.Environment
import FaultChain.Failure
import FaultChain.Fault
import FaultChain.Lock.Basic

/-!
# Settings of a context

A context is created over a backend, its own or one that is shared, and with the number of failed
attempts after which whoever waits for the lock of its registry lets others run.
-/

namespace FaultChain

/-- What a context is created with. -/
structure Settings where
  /-- The backend to share; absent for one of its own. -/
  backend : Option BackendId := none
  /-- Failed attempts before the processor is given away. -/
  yieldAfter : UInt32 := Lock.defaultYieldAfter
  deriving DecidableEq, Repr

namespace Settings

/-- The variable that sets the failed attempts before the processor is given away. -/
def yieldVariable : String :=
  "GL_SPIN_YIELD_THRESHOLD"

/-- The settings that an environment asks for. -/
def ofEnvironment (env : Environment) : Settings where
  yieldAfter :=
    .ofNat (env.integer { bits := 32, signed := false } yieldVariable
      Lock.defaultYieldAfter.toNat).toNat

/-- The settings with another backend. -/
def «over» (settings : Settings) (b : BackendId) : Settings :=
  { settings with backend := some b }

/-- The settings with another number of failed attempts. -/
def withYieldAfter (settings : Settings) (n : UInt32) : Settings :=
  { settings with yieldAfter := n }

/-- Refuses settings under which nobody would ever try the lock. -/
def validate (settings : Settings) : Except Failure Unit :=
  if settings.yieldAfter = 0 then
    .error (.invalidConfig "spin_yield_threshold must be at least 1")
  else
    .ok ()

end Settings

end FaultChain
