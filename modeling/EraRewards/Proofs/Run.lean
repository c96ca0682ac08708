import EraRewards.Proofs.Call
import EraRewards.Proofs.Journal

/-!
# Runs and their journals

A run is a list of calls to one ledger, each made while some other writer may hold the database.  The
journal of a run is read off its calls: what each of them answered, and what its transaction makes of
the tables that it finds.
-/

namespace EraRewards

/-- A call to a ledger, with arguments of any kind. -/
inductive Call
  /-- Report of volume. -/
  | recordVolume (account volume at_ : Value)
  /-- Claim of the confirmed reward. -/
  | claim (account at_ : Value)
  /-- Question for the total of an era. -/
  | totalVolume (at_ : Value)
  /-- Question for a record. -/
  | rewardOf (account : Value)
  /-- Question for a confirmed reward. -/
  | confirmedOf (account : Value)
  /-- Question for a balance. -/
  | balanceOf (account token : Value)
  /-- Question for the era around a tick. -/
  | eraOf (tick : Value)
  /-- Question for the current tick. -/
  | now

/-- A call and the other writer who stands in its way. -/
structure Turn where
  /-- The other writer, if any. -/
  contention : Contention
  /-- What is called. -/
  call : Call

/-- The node with another database. -/
def Node.on (node : Node) (database : Database) : Node := { node with database }

/-- The node while another writer may hold its database. -/
def Node.facing (node : Node) (contention : Contention) : Node :=
  { node with database := { node.database with contention } }

namespace Service

variable (s : Service)

/-- Carries out a call and answers in interchange form. -/
def answer : Call → Action Value
  | .recordVolume account volume at_ => Value.int <$> s.recordVolume account volume at_
  | .claim account at_ => Value.int <$> s.claim account at_
  | .totalVolume at_ => Value.int <$> s.totalVolume at_
  | .rewardOf account => Reward.toValue <$> rewardOf account
  | .confirmedOf account => Value.int <$> confirmedOf account
  | .balanceOf account token => Value.int <$> s.balanceOf account token
  | .eraOf tick => do return .int (← s.parameters.eraOf tick)
  | .now => Value.int <$> Node.now

/-- The node after a call. -/
def serve (turn : Turn) (node : Node) : Node :=
  ((s.answer turn.call).run.run (node.facing turn.contention)).2

/-- The node after a run. -/
def run : List Turn → Node → Node
  | [], node => node
  | turn :: turns, node => run turns (s.serve turn node)

/-- The entry of a report of volume, which succeeds and is not zero. -/
def entryOfReport (account volume at_ : Value) (node : Node) : Option Entry := do
  let era ← ((s.recordVolume account volume at_).run.run node).1.toOption
  let .named name ← (accountOfValue account).toOption | none
  let amount ← Amount.ofValue? volume
  guard (amount.val ≠ 0)
  let found ← (node.database.read (Records.find name)).toOption
  let (_, rotation) ← (node.database.read (s.book name amount era)).toOption
  return { account := name, era, volume := amount.val, paid := 0, found, rotation }

/-- The entry of a claim, which succeeds and answers a reward. -/
def entryOfClaim (account at_ : Value) (node : Node) : Option Entry := do
  let amount ← ((s.claim account at_).run.run node).1.toOption
  guard (amount ≠ 0)
  let (.named name, era) ← (s.claimOf account at_ node.clock).toOption | none
  let found ← (node.database.read (Records.find name)).toOption
  let (_, rotation) ← (node.database.read (s.payOut name era)).toOption
  return { account := name, era, volume := 0, paid := amount, found, rotation }

/-- The entry of a call, if the call changes something. -/
def entryOf (turn : Turn) (node : Node) : Option Entry :=
  match turn.call with
  | .recordVolume account volume at_ =>
    s.entryOfReport account volume at_ (node.facing turn.contention)
  | .claim account at_ => s.entryOfClaim account at_ (node.facing turn.contention)
  | _ => none

/-- The entries of a run, in the order of the calls. -/
def journal : List Turn → Node → List Entry
  | [], _ => []
  | turn :: turns, node => (s.entryOf turn node).toList ++ journal turns (s.serve turn node)

theorem run_append (first second : List Turn) (node : Node) :
    s.run (first ++ second) node = s.run second (s.run first node) := by
  induction first generalizing node with
  | nil => rfl
  | cons turn turns induction => exact induction (s.serve turn node)

theorem journal_append (first second : List Turn) (node : Node) :
    s.journal (first ++ second) node = s.journal first node ++ s.journal second (s.run first node) := by
  induction first generalizing node with
  | nil => rfl
  | cons turn turns induction =>
      rw [List.cons_append, journal, journal, run, induction, List.append_assoc]

end Service
end EraRewards
