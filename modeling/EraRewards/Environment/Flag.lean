import EraRewards.Environment
import EraRewards.Text.Case

/-!
# Switches in the environment

A switch is on if its variable, stripped and in lower case, is one of a few words.
-/

namespace EraRewards
namespace Environment

/-- Value of a variable, stripped and in lower case; a default when it is unset or empty. -/
def word (env : Environment) (name fallback : String) : String :=
  Text.lower (Text.strip (env.getNonempty name fallback))

/-- Words that turn a switch on. -/
def onWords : List String := ["1", "true", "yes", "y", "on"]

/-- Words that turn a switch off. -/
def offWords : List String := ["0", "false", "no", "n", "off"]

/-- Whether a switch that is off by default is on. -/
def flag (env : Environment) (name : String) : Bool := onWords.contains (env.word name "")

/-- Whether a switch that is on by default is off. -/
def unflagged (env : Environment) (name : String) : Bool := offWords.contains (env.word name "1")

end Environment
end EraRewards
