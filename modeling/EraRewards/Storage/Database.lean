import EraRewards.Storage.Tables

/-!
# Databases and transactions

A transaction reads and writes the tables step by step and may fail in the middle, after it has
already written.  A database admits one writer at a time and gives every write a transaction of its
own, whose effect is kept only if the transaction succeeds.
-/

namespace EraRewards

/-- A sequence of reads and writes on the tables. -/
abbrev Transaction (α : Type) : Type := ExceptT Failure (StateM Tables) α

/-- Who else wants to write. -/
inductive Contention
  /-- Nobody. -/
  | free
  /-- Another writer, until further notice. -/
  | held
  /-- Another writer, for whom the pause before a retry is too long to be measured. -/
  | unawaitable
  /-- Another writer, who finishes at the given retry. -/
  | releasedAfter (retries : Nat)
  deriving DecidableEq, Repr

/-- Why a writer gives up before it begins, if it does. -/
def Contention.refusal? : Contention → Option Failure
  | held => some .databaseLocked
  | unawaitable => some .unbounded
  | free | releasedAfter _ => none

/-- A database file. -/
structure Database where
  /-- Committed contents. -/
  tables : Tables
  /-- The other writer, if any. -/
  contention : Contention

namespace Database

/-- A database without rows and without other writers. -/
def empty : Database := ⟨.empty, .free⟩

instance : Inhabited Database := ⟨empty⟩

/-- Outcome of a write transaction.  It waits for another writer who finishes in time and gives up
before it begins otherwise; a failed transaction leaves the tables as they were. -/
def write {α : Type} (transaction : Transaction α) (db : Database) : Except Failure α × Database :=
  match db.contention.refusal? with
  | some failure => (.error failure, db)
  | none =>
    match transaction.run.run db.tables with
    | (.ok result, tables) => (.ok result, ⟨tables, .free⟩)
    | (.error failure, _) => (.error failure, ⟨db.tables, .free⟩)

/-- Results of steps that follow one another, up to the first that fails. -/
def resultsOf {α : Type} : List (Transaction α) → Tables → List α
  | [], _ => []
  | step :: steps, tables =>
    match step.run.run tables with
    | (.ok result, tables) => result :: resultsOf steps tables
    | (.error _, _) => []

/-- Outcome of a transaction that only reads; it does not wait for writers. -/
def read {α : Type} (transaction : Transaction α) (db : Database) : Except Failure α :=
  (transaction.run.run db.tables).1

/-- Outcome of several steps that share one write transaction: the results of those before the first
that fails, and its failure if there is one. -/
def writeAll {α : Type} (steps : List (Transaction α)) (db : Database) :
    (List α × Option Failure) × Database :=
  match db.contention.refusal? with
  | some failure => (([], some failure), db)
  | none =>
    let (outcome, db') := db.write (steps.forM fun step => do let _ ← step)
    ((resultsOf steps db.tables, match outcome with
      | .ok () => none
      | .error failure => some failure), db')

/-- A failed write leaves the tables as they were. -/
theorem tables_write_of_error {α : Type} {transaction : Transaction α} {db : Database}
    {failure : Failure} (h : (db.write transaction).1 = .error failure) :
    (db.write transaction).2.tables = db.tables := by
  unfold write at h ⊢
  split <;> simp_all
  split <;> simp_all

end Database
end EraRewards
