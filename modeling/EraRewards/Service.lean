import EraRewards.Balance
import EraRewards.Ledger.Records
import EraRewards.Service.Node
import EraRewards.Service.Parameters
import EraRewards.Storage.Schema
import EraRewards.Storage.Tuning

/-!
# The reward service

The service books volume, pays claims and answers questions about what is stored.  Every change is
one write transaction: the volume of an era is added up before a rotation reads a total, and a failed
call leaves no trace in the tables.  Metrics, log and events follow after the commit.
-/

namespace EraRewards

/-- A ledger in operation. -/
structure Service where
  /-- Fixed parameters. -/
  parameters : Parameters
  /-- Where claims are credited. -/
  balances : BalanceStore

namespace Service

/-- Opens a ledger on a database, which must admit connections and carry the right schema. -/
def start (env : Environment) (parameters : Parameters) (balances : BalanceStore) (db : Database) :
    Except Failure Service × Database :=
  match Tuning.checkConnection env "wal" with
  | .error failure => (.error failure, db)
  | .ok () =>
    let (outcome, db) := db.write Schema.ensure
    (outcome.map fun _ => ⟨parameters, balances⟩, db)

variable (s : Service)

/-- Books volume in an era: the total first, then the record.  Answers the new total. -/
def book (account : Account) (volume : Amount) (era : Int) : Transaction (Int × Rotation) := do
  let total ← Volumes.accumulate era volume
  let rotation ← Records.rotate s.parameters.budget.val (← account.column) era volume
  return (total, rotation)

/-- What a report of volume asks for: the account, the volume and the era around its tick. -/
def reportOf (account volume at_ : Value) : Except LedgerError (Account × Amount × Int) := do
  let account ← accountOfValue account
  let volume ← Amount.ofArgument "volume" volume
  let era ← s.parameters.eraOf at_
  return (account, volume, era)

/-- Attributes volume to an account in the era around a tick and answers the era.  Volume zero is
checked like any other but changes nothing. -/
def recordVolume (account volume at_ : Value) : Action Int := do
  let (account, volume, era) ← s.reportOf account volume at_
  if volume.val = 0 then return era
  let (total, rotation) ← Node.commit (s.book account volume era)
  Node.count "volume_records_total"
  Node.gauge "last_volume_era" era
  Node.record "volume_recorded"
    [("account", account.toValue), ("volume", .int volume.val), ("era", .int era),
      ("era_total", .int total)]
  if rotation.rotated then
    Node.count "rotations_total"
    Node.record "reward_rotated"
      [("account", account.toValue), ("era", .int era), ("awarded", .int rotation.awarded),
        ("confirmed", .int rotation.confirmed)]
  return era

/-- What a claim reports when its credit failed: a ledger error as it is, any other failure as a
failure of the store. -/
def creditFailure (account : String) (amount : Int) : Failure → Failure
  | .ledger error => .ledger error
  | failure =>
    .ledger (.balanceStoreError account amount (failure.kind ++ ": " ++ failure.message))

/-- Credits a claim through the balance store. -/
def credit (account : String) (amount : Int) : Transaction Unit :=
  (Balances.within (s.balances.credit s.parameters.token account amount)).adapt
    (creditFailure account amount)

/-- Pays out what an account has confirmed at an era and answers the amount.  When that is nothing
the rotation is not stored. -/
def payOut (account : Account) (era : Int) : Transaction (Int × Rotation) := do
  let name ← account.column
  let rotation ← Records.preview s.parameters.budget.val name era .zero
  if rotation.confirmed = 0 then return (0, rotation)
  Records.put name rotation.reward
  let amount ← Records.take name
  s.credit name amount
  return (amount, rotation)

/-- Reports a claim that was rolled back by the ledger or by its store. -/
def reportRollback (account : Account) (era : Int) : Failure → Action Unit
  | .ledger error => do
    Node.count "claim_failures_total"
    Node.record "claim_rolled_back"
      [("account", account.toValue), ("era", .int era), ("code", error.code.toValue)]
  | _ => return ()

/-- Tick of a claim: now, unless another is given. -/
def claimTick : Value → Action Value
  | .null => Value.int <$> Node.now
  | tick => return tick

/-- Reports the outcome of a pay-out and answers the amount. -/
def reportPayOut (account : Account) (era : Int) : Except Failure (Int × Rotation) → Action Int
  | .error failure => do
    reportRollback account era failure
    throw failure
  | .ok (amount, rotation) => do
    if amount = 0 then
      Node.count "claims_zero_total"
    else
      Node.count "claims_total"
      if rotation.rotated then Node.count "rotations_total"
      Node.record "reward_claimed"
        [("account", account.toValue), ("era", .int era), ("amount", .int amount),
          ("awarded", .int rotation.awarded)]
    Node.announce ⟨account.toValue, .int amount⟩
    return amount

/-- Withdraws the confirmed reward of an account into its balance and answers the amount.  Without a
tick the claim is made now. -/
def claim (account at_ : Value) : Action Int := do
  let account ← accountOfValue account
  let tick ← claimTick at_
  let era ← s.parameters.eraOf tick
  reportPayOut account era (← Node.attempt (s.payOut account era))

/-- Total volume of the era around a tick. -/
def totalVolume (at_ : Value) : Action Int := do
  let era ← s.parameters.eraOf at_
  Node.read (Volumes.totalOf era)

/-- Stored record of an account; the volume of a closed era stays pending until the account is
touched. -/
def rewardOf (account : Value) : Action Reward := do
  let account ← accountOfValue account
  Node.read (do Records.find (← account.column))

/-- Stored confirmed reward of an account. -/
def confirmedOf (account : Value) : Action Int := do
  return (← rewardOf account).confirmed

/-- Balance of an account in a token, or else in the token that claims are paid in, as the balance
store tells it. -/
def balanceOf (account token : Value) : Action Int := do
  let account ← accountOfValue account
  let token ← match token with
    | .null => pure s.parameters.token
    | token => token.toInt
  Node.read (Balances.within (do s.balances.balanceOf token account (← get)))

end Service
end EraRewards
