import EraRewards.Clock
import EraRewards.Event
import EraRewards.Log
import EraRewards.Metrics
import EraRewards.Storage.Database

/-!
# The node around a ledger

Besides its database a running ledger has a clock, a sink for events, metrics and a log.  An action
may change any of them and may fail; unlike a transaction it is not undone when it fails.
-/

namespace EraRewards

/-- What a running ledger works with. -/
structure Node where
  /-- Where records, totals and balances are kept. -/
  database : Database
  /-- Source of ticks. -/
  clock : Clock
  /-- Receiver of claim events. -/
  sink : Sink
  /-- Counters and gauges. -/
  metrics : Metrics
  /-- What has been logged. -/
  log : Log

/-- A step of a running ledger. -/
abbrev Action (α : Type) : Type := ExceptT Failure (StateM Node) α

namespace Node

/-- A node with an empty database. -/
def empty : Node := ⟨.empty, default, .absent, .empty, []⟩

instance : Inhabited Node := ⟨empty⟩

/-- Runs a write transaction and answers its outcome. -/
def attempt {α : Type} (transaction : Transaction α) : Action (Except Failure α) :=
  ExceptT.mk fun node =>
    let (result, database) := node.database.write transaction
    (.ok result, { node with database })

/-- Runs a write transaction and fails if it fails. -/
def commit {α : Type} (transaction : Transaction α) : Action α := do
  match ← attempt transaction with
  | .ok result => return result
  | .error failure => throw failure

/-- Runs a transaction that only reads. -/
def read {α : Type} (transaction : Transaction α) : Action α :=
  ExceptT.mk fun node => (node.database.read transaction, node)

/-- Adds an event to the log. -/
def record (name : String) (fields : List (String × Value)) : Action Unit :=
  modify fun node => { node with log := node.log ++ [.event name fields] }

/-- Adds one to a counter. -/
def count (name : String) : Action Unit :=
  modify fun node => { node with metrics := node.metrics.increment name }

/-- Sets a gauge. -/
def gauge (name : String) (value : Int) : Action Unit :=
  modify fun node => { node with metrics := node.metrics.set name value }

/-- The current tick; the clock moves on even if its reading is not an integer. -/
def now : Action Int := do
  let clock := (← get).clock
  modify fun node => { node with clock := clock.advance }
  clock.next.toInt

/-- Announces a claim.  A sink that fails is only logged, because the claim has committed. -/
def announce (event : RewardClaimed) : Action Unit :=
  modify fun node =>
    let (sink, taken) := node.sink.emit event
    let log :=
      if taken then node.log
      else node.log ++ [.notice ("event sink failed for " ++ event.inspect)]
    { node with sink, log }

end Node
end EraRewards
