import EraRewards.Environment
import EraRewards.Failure
import EraRewards.Text.Case

/-!
# Log levels

The level of the log is given by name; an unknown name means information.  The first configuration
also installs a handler, which keeps its level afterwards.
-/

namespace EraRewards

/-- Levels of the log of a process. -/
structure LogLevels where
  /-- Level of the log. -/
  root : Int
  /-- Levels of its handlers. -/
  handlers : List Int
  /-- Whether the log has been configured. -/
  configured : Bool
  deriving DecidableEq, Repr

namespace LogLevels

/-- A log that nobody has configured: warnings, and no handler. -/
def fresh : LogLevels := ⟨30, [], false⟩

/-- Levels by name. -/
def names : List (String × Int) :=
  [("NOTSET", 0), ("DEBUG", 10), ("INFO", 20), ("WARNING", 30), ("WARN", 30), ("ERROR", 40),
    ("CRITICAL", 50), ("FATAL", 50)]

/-- Name of the level that is asked for, by the caller or else by the environment. -/
def requested (env : Environment) (level : Option String) : String :=
  let name := level.getD ""
  let name := if name.isEmpty then env.getNonempty "ERALEDGER_LOG_LEVEL" "INFO" else name
  Text.upper (Text.strip name)

/-- Level of a name.  Two names are taken by settings of the log that are no levels. -/
def levelOf (name : String) : Except Failure Int :=
  if name = "BASIC_FORMAT" then .error .unreadable
  else if name = "_STYLES" then .error .mistyped
  else .ok ((names.lookup name).getD 20)

/-- Sets the level. -/
def configure (levels : LogLevels) (env : Environment) (level : Option String) :
    Except Failure LogLevels := do
  let level ← levelOf (requested env level)
  if levels.configured then return { levels with root := level }
  else return ⟨level, [level], true⟩

end LogLevels
end EraRewards
