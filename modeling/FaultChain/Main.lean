import FaultChain.Demo

/-!
# The command

Runs the chain demonstration in the environment of the process.
-/

namespace FaultChain

/-- The variables that the demonstration looks at. -/
def Demo.variables : List String :=
  [Demo.depthVariable, Demo.levelVariable, Settings.yieldVariable]

/-- The variables of the process that the demonstration looks at, as far as they are set. -/
def Demo.environment : IO Environment := do
  let values ← Demo.variables.mapM fun key => do
    return (← IO.getEnv key).map fun value => (key, value.toUTF8)
  return { «variables» := values.filterMap id }

end FaultChain

/-- Runs the demonstration and prints what it wrote. -/
def main : IO UInt32 := do
  let result := FaultChain.Demo.run (← FaultChain.Demo.environment)
  IO.print result.output
  IO.eprint result.errors
  return result.exitCode
