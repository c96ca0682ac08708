import EraRewards.Environment
import EraRewards.Files
import EraRewards.Json.Reader
import EraRewards.Settings
import EraRewards.Text.Lines
import EraRewards.Yaml.Reader

/-!
# Where settings come from

Settings are read from a JSON or YAML file if one is named, and from the environment otherwise.
-/

namespace EraRewards
namespace Settings

/-- Variable that holds a setting. -/
def variableNames : List (String × String) :=
  [("era_duration", "ERALEDGER_ERA_DURATION"), ("rewards_per_era", "ERALEDGER_REWARDS_PER_ERA"),
    ("native_token_id", "ERALEDGER_NATIVE_TOKEN_ID"), ("tick_ms", "ERALEDGER_TICK_MS"),
    ("db_path", "ERALEDGER_DB_PATH"), ("mode", "ERALEDGER_MODE"),
    ("api_host", "ERALEDGER_API_HOST"), ("api_port", "ERALEDGER_API_PORT"),
    ("log_level", "ERALEDGER_LOG_LEVEL")]

/-- Value of a setting in the environment; a blank variable counts as unset. -/
def fromVariable (env : Environment) : Source := fun setting =>
  match (variableNames.lookup setting).bind env.get? with
  | some text => .ok (if Text.isBlankText text then .null else .text text)
  | none => .ok .null

/-- Settings in the environment. -/
def ofEnvironment (env : Environment) : Except Failure Draft := ofSource (fromVariable env)

/-- Ending of a file name from its last point on, in lower case.  A point at either end of the name
begins no ending. -/
def fileEnding (path : String) : String :=
  let name := (Files.lastName path).toList
  let ending := name.reverse.takeWhile (· != '.')
  if ending.isEmpty || name.length ≤ ending.length + 1 then ""
  else Text.lower (String.ofList ('.' :: ending.reverse))

/-- The most levels of nesting in a file. -/
def deepestFile : Nat := 989

/-- The object in a JSON text, if it is one. -/
def inJson (cs : List Char) : Except Failure (Option Source) :=
  match Json.readWithin deepestFile (cs.map .char) with
  | .ok value =>
    .ok (if value.isObject then some fun setting => .ok ((value.member? setting).getD .null)
      else none)
  | .error .numeralTooLong => .error .unreadable
  | .error .tooDeep => .error .tooDeep
  | .error (.malformed _) => .error .malformedJson

/-- The mapping in a YAML text, if it is one. -/
def inYaml (cs : List Char) : Except Failure (Option Source) := do
  return (← Yaml.read cs).bind Yaml.Document.members?

/-- Settings in the text of a file, whose name tells the format. -/
def ofFile (path text : String) : Except Failure Draft := do
  let cs := Text.unifyBreaks text.toList
  let isYaml := [".yaml", ".yml"].contains (fileEnding path)
  match ← if isYaml then inYaml cs else inJson cs with
  | some source => ofSource source
  | none => throw (.config .notAMapping)

/-- Settings in the file that is asked for or that the environment names, or else in the environment
itself. -/
def find (env : Environment) (path : String) (files : Files) : Except Failure Draft := do
  let path := if path.isEmpty then (env.get? "ERALEDGER_CONFIG_PATH").getD "" else path
  if path.isEmpty then ofEnvironment env else ofFile path (← files.read path)

/-- The settings that a node starts with.  Those that are found may have texts that cannot be encoded;
a node is not started with them, whether it would use the text or not. -/
def load (env : Environment) (files : Files) : Except Failure Settings := do
  (← find env "" files).settle

end Settings
end EraRewards
