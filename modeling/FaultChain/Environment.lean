import FaultChain.Level
import FaultChain.Text.Numeral

/-!
# Environment variables

Settings are read from variables whose values are byte strings.  A value that is not valid UTF-8
counts as unset, and blank space around a value is ignored.
-/

namespace FaultChain

/-- The variables that are set, with their values. -/
structure Environment where
  «variables» : List (String × ByteArray) := []

namespace Environment

/-- The text that a variable is set to. -/
def text? (env : Environment) (key : String) : Option String :=
  (env.variables.lookup key).bind String.fromUTF8?

/-- A variable as a text. -/
def trimmed? (env : Environment) (key : String) : Option String :=
  (env.text? key).map Text.trim

/-- A variable as an integer of a given type. -/
def integer? (env : Environment) (type : Text.IntegerType) (key : String) : Option Int :=
  (env.trimmed? key).bind (Text.integer? type)

/-- A variable as an integer of a given type, with a value in case it is unset or not one. -/
def integer (env : Environment) (type : Text.IntegerType) (key : String) (default : Int) : Int :=
  (env.integer? type key).getD default

/-- A variable as a log level. -/
def level? (env : Environment) (key : String) : Option Level :=
  (env.text? key).bind Level.parse?

/-- The words that switch something on. -/
def affirmative : List String :=
  ["1", "true", "yes", "on"]

/-- A variable as a switch: on if it is set to an affirmative word, off if it is set to anything
else.  Letter case does not matter; as no character outside ASCII has a lower-case form within the
affirmative words, the case of the ASCII letters decides. -/
def switch (env : Environment) (key : String) (default : Bool) : Bool :=
  match env.trimmed? key with
  | some word => affirmative.contains (String.ofList (word.toList.map Char.toLower))
  | none => default

end Environment

end FaultChain
