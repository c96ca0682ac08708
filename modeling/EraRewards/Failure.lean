import EraRewards.Value.Layout

/-!
# Failures

An operation fails for one of a fixed set of causes.  A ledger error is a rejection by the rules of
the ledger and carries a code, a reason and details; a configuration error names the setting that
must not be accepted; the other causes come from arguments and storage.
-/

namespace EraRewards

/-- Code of a ledger error. -/
inductive ErrorCode
  /-- A sum exceeds the range of amounts. -/
  | overflow
  /-- A share of an era without volume was asked for. -/
  | divideByZero
  /-- An account has no reward record. -/
  | rewardNotFound
  /-- The balance store did not credit a claim. -/
  | creditFailed
  /-- An argument is malformed or out of range. -/
  | invalidInput
  /-- A code of a foreign component. -/
  | other (code : Value)

namespace ErrorCode

/-- Interchange form of a code. -/
def toValue : ErrorCode → Value
  | overflow => .text "overflow"
  | divideByZero => .text "divide_by_zero"
  | rewardNotFound => .text "reward_not_found"
  | creditFailed => .text "credit_failed"
  | invalidInput => .text "invalid_input"
  | other code => code

/-- The code that the ledger knows by a name. -/
def ofName? (name : String) : Option ErrorCode :=
  if name = "overflow" then some overflow
  else if name = "divide_by_zero" then some divideByZero
  else if name = "reward_not_found" then some rewardNotFound
  else if name = "credit_failed" then some creditFailed
  else if name = "invalid_input" then some invalidInput
  else none

/-- The code with an interchange form. -/
def ofValue : Value → ErrorCode
  | .text name => (ofName? name).getD (other (.text name))
  | code => other code

end ErrorCode

/-- A rejection by the ledger. -/
structure LedgerError where
  /-- Class of the rejection. -/
  code : ErrorCode
  /-- The rule that was broken. -/
  reason : Value
  /-- Values that broke it; `null` when there is nothing to show. -/
  details : Value := .null

namespace LedgerError

/-- One-line text of a ledger error. -/
def message (e : LedgerError) : String :=
  let rule := e.code.toValue.display ++ ":" ++ e.reason.display
  match e.details with
  | .null => rule
  | details => rule ++ ":" ++ details.display

/-- An argument of the named field is not an amount. -/
def notAmount (field value : Value) : LedgerError where
  code := .invalidInput
  reason := .text "not_u128"
  details := .object [("field", field), ("value", .text value.inspect)]

/-- A sum of the named quantity leaves the range of amounts. -/
def sumOverflow (what a b : String) : LedgerError where
  code := .overflow
  reason := .text (what ++ "_overflow")
  details := .object [("a", .text a), ("b", .text b)]

/-- A tick is not a nonnegative integer. -/
def badTick (value : Value) : LedgerError where
  code := .invalidInput
  reason := .text "bad_tick"
  details := .object [("tick", .text value.inspect)]

/-- A tick cannot be stored. -/
def tickOutOfRange (tick : Int) : LedgerError where
  code := .invalidInput
  reason := .text "tick_out_of_range"
  details := .object [("tick", .text (Integer.write tick))]

/-- An account name is absent or blank. -/
def missingAccount (value : Value) : LedgerError where
  code := .invalidInput
  reason := .text "missing_account"
  details := .object [("account", .text value.inspect)]

/-- An era lies before the era in which the record was last changed. -/
def eraBeforeLastUpdate (era lastEra : Int) : LedgerError where
  code := .invalidInput
  reason := .text "era_before_last_update"
  details := .object [("era", .int era), ("last_modify_era", .int lastEra)]

/-- Volume is pending for an era whose total is not positive. -/
def eraTotalIsZero (era : Int) (pending : Value) : LedgerError where
  code := .divideByZero
  reason := .text "era_total_is_zero"
  details := .object [("era", .int era), ("pending_vol", .text pending.display)]

/-- There is no record to take a reward from. -/
def noRewardRecord (account : Value) : LedgerError where
  code := .rewardNotFound
  reason := .text "no_reward_record"
  details := .object [("account", account)]

/-- The balance store failed while it credited an amount. -/
def balanceStoreError (account : String) (amount : Int) (error : String) : LedgerError where
  code := .creditFailed
  reason := .text "balance_store_error"
  details := .object
    [("account", .text account), ("amount", .text (Integer.write amount)), ("error", .text error)]

end LedgerError

/-- A setting that must not be accepted. -/
inductive ConfigError
  /-- A truth value where an integer belongs. -/
  | boolForInteger (value : Value)
  /-- A value without an integer reading. -/
  | notAnInteger (value : Value)
  /-- A configuration file that holds something else than named settings. -/
  | notAMapping
  /-- The era length is of the wrong kind. -/
  | eraDurationKind (value : Value)
  /-- The era length is zero or negative. -/
  | eraDurationRange (value : Value)
  /-- The budget of an era is not an amount. -/
  | budgetKind (value : Value)
  /-- The budget of an era is out of range. -/
  | budgetRange (value : Value)
  /-- The token id is negative. -/
  | tokenRange (value : Value)
  /-- The tick length is zero or negative. -/
  | tickRange (value : Value)
  /-- The mode is none of the three. -/
  | unknownMode (value : Value)
  /-- The port is outside the port range. -/
  | portRange (value : Value)
  /-- The database path is absent or blank. -/
  | blankDatabasePath

/-- Text of a configuration error. -/
def ConfigError.message : ConfigError → String
  | boolForInteger value => "expected an integer, got a bool: " ++ value.inspect
  | notAnInteger value => "expected an integer: " ++ value.inspect
  | notAMapping => "reward config must be a mapping"
  | eraDurationKind value => "era_duration must be an int; got: " ++ value.inspect
  | eraDurationRange value => "era_duration must be > 0; got: " ++ value.display
  | budgetKind value => "rewards_per_era must be a u128; got: " ++ value.inspect
  | budgetRange value => "rewards_per_era must be within 0..2**128-1; got: " ++ value.display
  | tokenRange value => "native_token_id must be >= 0; got: " ++ value.display
  | tickRange value => "tick_ms must be > 0; got: " ++ value.display
  | unknownMode value =>
    "mode must be one of \x7b'dev', 'prod', 'testnet'\x7d; got: " ++ value.inspect
  | portRange value => "api_port must be 1..65535; got: " ++ value.display
  | blankDatabasePath => "db_path must be a non-empty string"

/-- Why an operation did not complete. -/
inductive Failure
  /-- The ledger rejected it. -/
  | ledger (error : LedgerError)
  /-- A setting must not be accepted. -/
  | config (error : ConfigError)
  /-- An argument is of a kind that the operation cannot use. -/
  | mistyped
  /-- A text or number has no integer reading. -/
  | unreadable
  /-- A number is beyond what can be read as an integer, or measured. -/
  | unbounded
  /-- An integer does not fit the 64-bit column that it is bound to. -/
  | columnRange
  /-- More is to be kept than can be counted. -/
  | capacityRange
  /-- A division by zero. -/
  | zeroDivisor
  /-- Parts of a share are not an integer. -/
  | shareKind
  /-- Parts of a share lie outside the unit interval. -/
  | shareRange (message : String)
  /-- A share of a whole that is not positive. -/
  | shareOfNothing
  /-- The database was written under another schema. -/
  | schemaMismatch (version : Int)
  /-- The database does not keep a write-ahead log. -/
  | journalMode (mode : String)
  /-- Another writer held the database until the deadline. -/
  | databaseLocked
  /-- Another application holds the writer lock of the database. -/
  | writerLockHeld
  /-- A file does not exist. -/
  | fileNotFound
  /-- A directory stands where a file is asked for. -/
  | isDirectory
  /-- A file stands where a directory is asked for. -/
  | notDirectory
  /-- A name is longer than names of files are. -/
  | nameTooLong
  /-- A path begins in the home of somebody who is not known. -/
  | noHome
  /-- A text is not a JSON document. -/
  | malformedJson
  /-- A text is not a YAML document of the supported form. -/
  | malformedYaml
  /-- A tagged text is no word of the kind that its tag names. -/
  | unknownWord
  /-- A tagged text holds no character of a number. -/
  | emptyNumeral
  /-- A tagged text is no date. -/
  | noDate
  /-- A document is nested deeper than it is followed. -/
  | tooDeep
  /-- A place of a number counts more than a double can hold. -/
  | placeRange
  /-- A character has a number beyond those of characters. -/
  | codeRange
  /-- A text holds half of a surrogate pair, which no bytes encode. -/
  | unencodable
  /-- A value is of a kind that no column holds. -/
  | unboundKind
  /-- A value breaks a constraint of the column that it is bound to. -/
  | columnConstraint
  /-- A name or value that no variable of a process can have. -/
  | impossibleVariable
  /-- The event sink keeps no events. -/
  | noEventTail
  /-- The caller gave a transaction up. -/
  | abandoned (message : String)
  /-- A foreign component failed with a kind and a message of its own. -/
  | foreign (kind message : String)

namespace Failure

/-- Name of the kind of a failure in reports. -/
def kind : Failure → String
  | ledger _ => "LedgerError"
  | config _ => "ConfigError"
  | mistyped | shareKind => "TypeError"
  | unreadable | shareRange _ | impossibleVariable | abandoned _ => "ValueError"
  | unbounded | columnRange | capacityRange | placeRange | codeRange => "OverflowError"
  | zeroDivisor | shareOfNothing => "ZeroDivisionError"
  | schemaMismatch _ | journalMode _ | noHome => "RuntimeError"
  | databaseLocked => "OperationalError"
  | writerLockHeld => "SingleWriterError"
  | fileNotFound => "FileNotFoundError"
  | isDirectory => "IsADirectoryError"
  | notDirectory => "NotADirectoryError"
  | nameTooLong => "OSError"
  | unknownWord => "KeyError"
  | emptyNumeral => "IndexError"
  | noDate => "AttributeError"
  | tooDeep => "RecursionError"
  | unencodable => "UnicodeEncodeError"
  | unboundKind => "ProgrammingError"
  | columnConstraint => "IntegrityError"
  | malformedJson => "JSONDecodeError"
  | malformedYaml => "YAMLError"
  | noEventTail => "AttributeError"
  | foreign kind _ => kind

/-- Text of a failure in reports. -/
def message : Failure → String
  | ledger error => error.message
  | config error => error.message
  | mistyped => "an integer is required"
  | unreadable => "not an integer"
  | unbounded => "cannot convert float infinity to integer"
  | columnRange => "Python int too large to convert to SQLite INTEGER"
  | capacityRange => "capacity out of range"
  | zeroDivisor => "integer modulo by zero"
  | shareKind => "parts must be an int"
  | shareRange message => message
  | shareOfNothing => "denominator must be positive"
  | schemaMismatch version =>
    "sqlite schema_version mismatch: have=" ++ Integer.write version ++
      " want=1. Refuse to start to avoid corrupting data."
  | journalMode mode => "sqlite journal_mode is '" ++ mode ++ "', expected 'wal'"
  | databaseLocked => "database is locked"
  | writerLockHeld => "single-writer lock already held"
  | fileNotFound => "no such file"
  | isDirectory => "is a directory"
  | notDirectory => "is not a directory"
  | nameTooLong => "file name too long"
  | noHome => "no home directory"
  | unknownWord => "unknown word"
  | emptyNumeral => "empty numeral"
  | noDate => "not a date"
  | tooDeep => "nested too deeply"
  | placeRange => "place out of range"
  | codeRange => "code out of range"
  | unencodable => "not encodable"
  | unboundKind => "unsupported kind"
  | columnConstraint => "constraint failed"
  | malformedJson => "malformed JSON"
  | malformedYaml => "malformed YAML"
  | impossibleVariable => "illegal environment variable"
  | noEventTail => "the sink keeps no events"
  | abandoned message => message
  | foreign _ message => message

end Failure

/-- A ledger error is a failure of whatever runs into it. -/
instance : MonadLift (Except LedgerError) (Except Failure) := ⟨Except.mapError .ledger⟩

/-- A configuration error is a failure of whatever runs into it. -/
instance : MonadLift (Except ConfigError) (Except Failure) := ⟨Except.mapError .config⟩

end EraRewards
