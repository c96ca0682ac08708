import EraRewards.Environment.Flag
import EraRewards.Storage.Database
import EraRewards.Value.Reading

/-!
# Tuning of a database connection

Every connection is tuned by the environment.  In production a commit waits for the disk unless the
environment says otherwise.  A connection needs a write-ahead log unless that is waived.  A writer who
meets another one retries after pauses until a deadline.
-/

namespace EraRewards
namespace Tuning

/-- Levels of synchronisation with the disk. -/
def levels : List String := ["OFF", "NORMAL", "FULL", "EXTRA"]

/-- How far a commit waits for the disk. -/
def synchronous (env : Environment) : String :=
  let usual := if env.word "ERALEDGER_MODE" "prod" = "prod" then "FULL" else "NORMAL"
  let asked := Text.upper (Text.strip (env.getNonempty "ERALEDGER_SQLITE_SYNCHRONOUS" usual))
  if levels.contains asked then asked else usual

/-- Milliseconds to wait for another writer: those of the environment, or else the integer that a
value stands for. -/
def busyTimeout (env : Environment) (usual : Value) : Except Failure Int :=
  match env.integer? "ERALEDGER_SQLITE_BUSY_TIMEOUT_MS" with
  | some n => .ok n
  | none => usual.toInt

/-- Adjustments of a connection in the order in which they are made, given how long it waits for
another writer. -/
def adjustments (env : Environment) (busyMs : Int) : List (String × String) :=
  let number (n : Int) : String := Integer.write n
  let mapped := max 0 (env.integer "ERALEDGER_SQLITE_MMAP_SIZE" 0)
  [("synchronous", synchronous env), ("foreign_keys", "ON"), ("temp_store", "MEMORY"),
    ("wal_autocheckpoint", number (max 1 (env.integer "ERALEDGER_SQLITE_WAL_AUTOCHECKPOINT" 1000))),
    ("journal_size_limit",
      number (max 0 (env.integer "ERALEDGER_SQLITE_JOURNAL_SIZE_LIMIT" (64 * 1024 * 1024)))),
    -- A negative size counts kibibytes.
    ("cache_size", number (-max 0 (env.integer "ERALEDGER_SQLITE_CACHE_SIZE_KIB" (16 * 1024)))),
    ("busy_timeout", number (max 0 busyMs))] ++
    if mapped = 0 then [] else [("mmap_size", number mapped)]

/-- Accepts the time that a connection may take to be made, which is measured as a double. -/
def checkTimeout (env : Environment) : Except Failure Unit :=
  let limit := Double.ofInt (env.integer "ERALEDGER_SQLITE_CONNECT_TIMEOUT_MS" 30000)
  if limit.isFinite then .ok () else .error .unbounded

/-- Milliseconds for which a writer who meets another one retries. -/
def deadline (env : Environment) : Int :=
  max 250 (env.integer "ERALEDGER_SQLITE_WRITE_DEADLINE_MS" 30000)

/-- Milliseconds for which a connection itself waits for another writer; it does not wait at all when
they are more than 32 bits count. -/
def patience (env : Environment) : Int :=
  let asked := env.integer "ERALEDGER_SQLITE_BUSY_TIMEOUT_MS"
    (env.integer "ERALEDGER_SQLITE_CONNECT_TIMEOUT_MS" 30000)
  if 2147483647 < asked then 0 else max 0 asked

/-- Base of the pauses, in milliseconds, beyond which even the shortest first pause, which is half of
it, is longer than the `2 ^ 63 - 1` nanoseconds that can be measured. -/
def longestBase : Int := 2 * 9223372036854

/-- Whether the pauses between retries can be measured.  They begin at a base and grow to a limit, both
of which are measured as doubles. -/
def canPause (env : Environment) : Bool :=
  let base := env.integer "ERALEDGER_SQLITE_WRITE_BACKOFF_BASE_MS" 5
  let limit := env.integer "ERALEDGER_SQLITE_WRITE_BACKOFF_MAX_MS" 250
  base ≤ longestBase && (Double.ofInt base).isFinite && (Double.ofInt limit).isFinite

/-- Another writer as a writer meets it who pauses between retries, unless the connection has already
waited until the deadline. -/
def meeting (env : Environment) (contention : Contention) : Contention :=
  if contention = .free || deadline env ≤ patience env || canPause env then contention
  else .unawaitable

/-- Whether a connection may do without a write-ahead log. -/
def allowsOtherJournal (env : Environment) : Bool :=
  ["1", "true"].contains (env.word "ERALEDGER_SQLITE_ALLOW_NON_WAL" "")

/-- Accepts the journal mode of a database. -/
def checkJournal (env : Environment) (mode : String) : Except Failure Unit :=
  if mode.isEmpty || mode = "wal" || allowsOtherJournal env then .ok ()
  else .error (.journalMode mode)

/-- Accepts a connection to a database with a journal mode. -/
def checkConnection (env : Environment) (mode : String) : Except Failure Unit := do
  checkTimeout env
  checkJournal env mode

end Tuning
end EraRewards
