import EraRewards.Storage.Database

/-!
# Schema version

A new database is stamped with the version of the schema; one that was stamped with another version
is refused, because its rows may mean something else.
-/

namespace EraRewards
namespace Schema

/-- The version of the schema. -/
def version : Int := 1

/-- The version that a stamp stands for; an unreadable stamp counts as zero. -/
def versionOf (stamp : String) : Int := (Integer.read? stamp).getD 0

/-- Stamps a new database and checks the stamp of any other. -/
def ensure : Transaction Unit := do
  match (← get).schemaVersion with
  | none => modify fun tables => { tables with schemaVersion := some (Integer.write version) }
  | some stamp =>
    if versionOf stamp = version then pure () else throw (.schemaMismatch (versionOf stamp))

/-- Replaces the stamp by a value of any kind but the absent one. -/
def stamp (value : Value) : Transaction Unit := do
  match ← bindText value with
  | some text => modify fun tables => { tables with schemaVersion := some text }
  | none => throw .columnConstraint

end Schema
end EraRewards
