import EraRewards.Amount
import EraRewards.Text.Case

/-!
# Settings

The nine settings of a node.  A draft holds them as they were given, of any kind; it is accepted if
every number has an integer reading in range, the mode is one of three and the database has a path.
Drafts from files and the environment hold integers and texts, and settle into typed settings unless a
text among them holds half of a surrogate pair.
-/

namespace EraRewards

/-- Settings as they were given. -/
structure Draft where
  /-- Ticks in an era. -/
  eraDuration : Value
  /-- Reward shared out for an era. -/
  budget : Value
  /-- Token in which claims are paid. -/
  token : Value
  /-- Milliseconds in a tick. -/
  tickMs : Value
  /-- Where the database is. -/
  databasePath : Value
  /-- Posture of the node. -/
  mode : Value
  /-- Address to listen on. -/
  host : Value
  /-- Port to listen on. -/
  port : Value
  /-- Least level of what is logged. -/
  logLevel : Value

/-- Settings of the right kinds. -/
structure Settings where
  /-- Ticks in an era. -/
  eraDuration : Int
  /-- Reward shared out for an era. -/
  budget : Int
  /-- Token in which claims are paid. -/
  token : Int
  /-- Milliseconds in a tick. -/
  tickMs : Int
  /-- Where the database is. -/
  databasePath : String
  /-- Posture of the node. -/
  mode : String
  /-- Address to listen on. -/
  host : String
  /-- Port to listen on. -/
  port : Int
  /-- Least level of what is logged. -/
  logLevel : String
  deriving DecidableEq, Repr

namespace Draft

/-- The modes of a node. -/
def modes : List String := ["dev", "prod", "testnet"]

/-- Fails with a configuration error unless a condition holds. -/
def require (condition : Bool) (error : ConfigError) : Except Failure Unit :=
  if condition then .ok () else .error (.config error)

/-- Mode in a value, stripped and in lower case; a value that does not count as present is empty. -/
def modeOf (value : Value) : String :=
  Text.lower (Text.strip (if value.isTruthy then value.display else ""))

/-- Whether a value is a text with something else than blanks. -/
def isPath : Value → Bool
  | .text s => !Text.isBlankText s
  | .broken _ => true
  | _ => false

/-- Accepts a draft, or reports the first setting that is not acceptable. -/
def check (d : Draft) : Except Failure Unit := do
  require (0 < (← d.eraDuration.toInt)) (.eraDurationRange d.eraDuration)
  let budget ← d.budget.toInt
  require (0 ≤ budget && budget ≤ maxAmount) (.budgetRange d.budget)
  require (0 ≤ (← d.token.toInt)) (.tokenRange d.token)
  require (0 < (← d.tickMs.toInt)) (.tickRange d.tickMs)
  require (modes.contains (modeOf d.mode)) (.unknownMode d.mode)
  let port ← d.port.toInt
  require (0 < port && port ≤ 65535) (.portRange d.port)
  require (isPath d.databasePath) .blankDatabasePath

/-- The text in a setting, which must be one that can be encoded.  A draft may hold half of a surrogate
pair, which does no harm until the text is used: as a path, as an address or in a log. -/
def textIn : Value → Except Failure String
  | .text s => .ok s
  | _ => .error .unencodable

/-- The settings of a draft, unless one of its texts cannot be encoded. -/
def settle (d : Draft) : Except Failure Settings := do
  return { eraDuration := ← d.eraDuration.toInt, budget := ← d.budget.toInt,
           token := ← d.token.toInt, tickMs := ← d.tickMs.toInt,
           databasePath := ← textIn d.databasePath, mode := ← textIn d.mode,
           host := ← textIn d.host, port := ← d.port.toInt, logLevel := ← textIn d.logLevel }

/-- Replaces one setting by its name; there are no other names. -/
def set (d : Draft) (name : String) (value : Value) : Except Failure Draft :=
  if name = "era_duration" then .ok { d with eraDuration := value }
  else if name = "rewards_per_era" then .ok { d with budget := value }
  else if name = "native_token_id" then .ok { d with token := value }
  else if name = "tick_ms" then .ok { d with tickMs := value }
  else if name = "db_path" then .ok { d with databasePath := value }
  else if name = "mode" then .ok { d with mode := value }
  else if name = "api_host" then .ok { d with host := value }
  else if name = "api_port" then .ok { d with port := value }
  else if name = "log_level" then .ok { d with logLevel := value }
  else .error .mistyped

/-- Replaces settings by name. -/
def setAll (d : Draft) (settings : List (String × Value)) : Except Failure Draft :=
  settings.foldlM (fun d setting => d.set setting.1 setting.2) d

end Draft

namespace Settings

/-- Settings where none are given: the posture is never permissive by default. -/
def default : Settings where
  eraDuration := 100
  budget := 1000000 * 1000000000000000000
  token := 0
  tickMs := 1000
  databasePath := "./data/eraledger.db"
  mode := "prod"
  host := "127.0.0.1"
  port := 8080
  logLevel := "INFO"

instance : Inhabited Settings := ⟨default⟩

/-- Settings as a draft. -/
def toDraft (s : Settings) : Draft where
  eraDuration := .int s.eraDuration
  budget := .int s.budget
  token := .int s.token
  tickMs := .int s.tickMs
  databasePath := .text s.databasePath
  mode := .text s.mode
  host := .text s.host
  port := .int s.port
  logLevel := .text s.logLevel

/-- Settings with some replaced, if the result is accepted. -/
def override (s : Settings) (changes : List (String × Value)) : Except Failure Draft := do
  let draft ← s.toDraft.setAll changes
  draft.check
  return draft

/-- Integer that a source gives for a setting: blanks around it and underscores do not count. -/
def integerOf (value : Value) (fallback : Int) : Except ConfigError Int :=
  match value with
  | .null => .ok fallback
  | .bool _ => .error (.boolForInteger value)
  | _ =>
    let digits := (Text.strip value.display).toList.filter (· != '_')
    match Integer.read? (String.ofList digits) with
    | some n => .ok n
    | none => .error (.notAnInteger value)

/-- Text that a source gives for a setting; a blank one counts as absent. -/
def textOf (value : Value) (fallback : String) : Value :=
  match value with
  | .null => .text fallback
  | .broken _ => value
  | _ => .text (if Text.isBlankText value.display then fallback else value.display)

/-- A text without the blanks around it, in the case that `turn` gives it. -/
def inCase (turn : String → String) : Value → Value
  | .text s => .text (turn (Text.strip s))
  | .broken letters => .broken (Letter.mapRuns turn (Text.trimBy (Letter.has Text.isBlank) letters))
  | value => value

/-- Where settings are looked up by name; a value may be there that cannot be shown. -/
abbrev Source := String → Except Failure Value

/-- Settings with those replaced for which a source gives a value, looked up one after the other. -/
def overlay (base : Settings) (source : Source) : Except Failure Draft := do
  let eraDuration ← integerOf (← source "era_duration") base.eraDuration
  let budget ← integerOf (← source "rewards_per_era") base.budget
  let token ← integerOf (← source "native_token_id") base.token
  let tickMs ← integerOf (← source "tick_ms") base.tickMs
  let databasePath := textOf (← source "db_path") base.databasePath
  let mode := inCase Text.lower (textOf (← source "mode") base.mode)
  let host := textOf (← source "api_host") base.host
  let port ← integerOf (← source "api_port") base.port
  let logLevel := inCase Text.upper (textOf (← source "log_level") base.logLevel)
  return { eraDuration := .int eraDuration, budget := .int budget, token := .int token,
           tickMs := .int tickMs, databasePath, mode, host, port := .int port, logLevel }

/-- The default settings overlaid by a source, if they are accepted. -/
def ofSource (source : Source) : Except Failure Draft := do
  let draft ← default.overlay source
  draft.check
  return draft

end Settings
end EraRewards
