import FaultChain.Store.Copying
import FaultChain.Store.Creation
import FaultChain.Store.Teardown

/-!
# The chain demonstration

The demonstration builds a policy error caused by a missing object, wraps it in as many layers as
the environment asks for, and shows what the library does with the chain: its document, a walk along
it, a copy of the document, and the teardown of everything in order.
-/

namespace FaultChain.Demo

/-- What a program leaves behind: its exit code and what it wrote. -/
structure Result where
  exitCode : UInt32
  output : String
  errors : String
  deriving DecidableEq, Repr

/-- The variable that asks for layers. -/
def depthVariable : String :=
  "CHAIN_DEPTH"

/-- The variable that sets the log level. -/
def levelVariable : String :=
  "GL_LOG_LEVEL"

/-- A line of the demonstration's own source. -/
def location (line : UInt32) : Location where
  file := "cmd/chain-demo/src/main.rs"
  line := line
  func := some "chain_demo::run"

/-- The innermost error. -/
def leaf : Draft where
  domain := .git
  code := .notFound
  message := .ofText "Object abc123 not found"
  location := some (location 27)

/-- The error around it. -/
def policy : Draft where
  domain := .policy
  code := .policyViolation
  message := .ofText "Policy blocked update for refs/main"
  location := some (location 28)

/-- A layer around the others. -/
def layer (i : Nat) : Draft where
  domain := .generic
  code := .unknown
  message := .ofText ("layer " ++ toString i)
  location := some (location 37)

/-- How many layers an environment asks for; none if it does not say so with a number. -/
def layers (env : Environment) : Nat :=
  (env.integer { bits := 64, signed := false } depthVariable 0).toNat

/-- The log that an environment asks for. -/
def logOf (env : Environment) : Log where
  filter := (env.level? levelVariable).getD .warn

/-- Puts layers `i`, `i + 1`, … around an error, each in place of a handle on what it wraps. -/
def wrap (s : Store) (c : ContextId) (top : FaultId) (i : Nat) :
    Nat → Store × Except Failure FaultId
  | 0 => (s, .ok top)
  | n + 1 =>
    match s.create c (layer i) (some top) with
    | (s, .error why) => (s.release top, .error why)
    | (s, .ok outer) => wrap (s.release top) c outer (i + 1) n

/-- One error in one line. -/
def display (s : Store) (e : FaultId) : String :=
  ((s.link? e).map Link.display).getD ""

/-- The number of a visit, in two columns. -/
def column (n : Nat) : String :=
  let digits := toString n
  digits ++ String.ofList (List.replicate (2 - digits.length) ' ')

/-- The lines of a walk along a chain. -/
def walkLines (s : Store) (top : FaultId) : List String :=
  (s.walk (some top)
    (fun (lines, n) _ f => ((("  #" ++ column n ++ " " ++ f.link.display) :: lines, n + 1), true))
    (([] : List String), 0)).1.reverse

/-- What is said about the outcome of the last release. -/
def releaseLine (s : Store) (c : ContextId) : Release → String
  | .destroyed => "context destroyed"
  | .retained => "context not destroyed: Retained"
  | .refused =>
    "context not destroyed: Refused(" ++ ((s.contexts.get? c).map Context.debug).getD "" ++ ")"
  | .invalid | .aborted => "context not destroyed: Invalid"

/-- What the demonstration writes first. -/
def header : String :=
  "=== gitledger chain demo ===\n\n"

/-- What the demonstration writes about a chain. -/
def report (s : Store) (top : FaultId) (document : String) : String :=
  let lines := walkLines s top
  display s top ++ "\n\n" ++ "json:  " ++ document ++ "\n\n" ++
    "flags: " ++ ((s.faults.get? top).map (·.flags.format)).getD "" ++ "\n" ++
    String.join (lines.map (· ++ "\n")) ++
    (if lines.length = Document.depthLimit then
      "  (walk stopped at " ++ toString Document.depthLimit ++ " links)\n"
    else "")

/-- What the demonstration writes about the copy. -/
def copyLine (s : Store) (c : ContextId) (copy : Copy) : String :=
  "\ncopy:  " ++ toString copy.buffer.length ++ " bytes, live errors: " ++
    toString (((s.contexts.get? c).map Context.live).getD 0) ++ "\n"

/-- Shows a chain and takes everything down. -/
def present (s : Store) (c : ContextId) (leaf top : FaultId) :
    Store × Except Failure String :=
  let (s, reading) := s.read top {}
  let shown := report s top reading.text
  match s.copyDocument c top {} with
  | (s, .error why) => (s, .error why)
  | (s, .ok copy) =>
    let shown := shown ++ copyLine s c copy
    let s := (s.release top).release leaf
    let (s, release) := s.releaseContext c Verdict.diagnosing
    let shown := shown ++ releaseLine s c release ++ "\n" ++
      "copy still readable: " ++ toString (copy.text.startsWith "\x7b\"domain\"") ++ "\n"
    (s.freeCopy copy, .ok shown)

/-- Builds the chain and shows it. -/
def build (s : Store) (c : ContextId) (layers : Nat) : Store × Except Failure String :=
  match s.create c leaf none with
  | (s, .error why) => (s, .error why)
  | (s, .ok leaf) =>
    match s.create c policy (some leaf) with
    | (s, .error why) => (s, .error why)
    | (s, .ok top) =>
      match wrap s c top 0 layers with
      | (s, .error why) => (s, .error why)
      | (s, .ok top) => present s c leaf top

/-- Everything after the header. -/
def body (env : Environment) : Store × Except Failure String :=
  let (s, b) := ({ log := logOf env } : Store).openBackend none
  match s.createContext b (.ofEnvironment env) with
  | (s, .error why) => (s, .error why)
  | (s, .ok c) => build s c (layers env)

/-- The demonstration in an environment. -/
def run (env : Environment) : Result :=
  match body env with
  | (s, .ok shown) => { exitCode := 0, output := header ++ shown, errors := s.log.output }
  | (s, .error why) =>
    { exitCode := 1
      output := header
      errors := s.log.output ++ "chain-demo: " ++ why.display ++ "\n" }

end FaultChain.Demo
