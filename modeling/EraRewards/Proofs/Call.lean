import EraRewards.Proofs.Booking

/-!
# What a call does to the database

A call checks its arguments, makes at most one write and reports what it did.  Reporting never fails
and stays away from the database, so outcome and database of a call are those of its write.
-/

namespace EraRewards

open Effect

theorem Era.startOf_nonneg {tick duration : Int} (tick_nonneg : 0 ≤ tick) (pos : 0 < duration) :
    0 ≤ startOf tick duration := by
  rw [startOf, Int.fmod_eq_emod_of_nonneg _ pos.le]
  have := Int.emod_add_mul_ediv tick duration
  have := mul_nonneg pos.le (Int.ediv_nonneg tick_nonneg pos.le)
  omega

theorem Era.startOf_le (tick : Int) {duration : Int} (pos : 0 < duration) :
    startOf tick duration ≤ tick := by
  rw [startOf, Int.fmod_eq_emod_of_nonneg _ pos.le]
  have := Int.emod_nonneg tick pos.ne'
  omega

theorem Parameters.eraOf_eq_ok {p : Parameters} {tick : Value} {era : Int}
    (dated : p.eraOf tick = .ok era) :
    ∃ n, tick = .int n ∧ 0 ≤ n ∧ n ≤ maxTick ∧ era = Era.startOf n p.eraDuration := by
  cases tick with
  | int n =>
      by_cases nonneg : 0 ≤ n
      · by_cases late : maxTick < n
        · simp [eraOf, Era.tickOfValue, nonneg, late, bind, Except.bind] at dated
        · simp [eraOf, Era.tickOfValue, nonneg, late, bind, Except.bind] at dated
          cases dated
          exact ⟨n, rfl, nonneg, not_lt.1 late, rfl⟩
      · simp [eraOf, Era.tickOfValue, nonneg, bind, Except.bind] at dated
  | _ => simp [eraOf, Era.tickOfValue, bind, Except.bind] at dated

/-- The era of an accepted tick fits its column. -/
theorem Parameters.eraOf_bounds {p : Parameters} {tick : Value} {era : Int}
    (dated : p.eraOf tick = .ok era) : 0 ≤ era ∧ era ≤ maxTick := by
  obtain ⟨n, -, nonneg, le_max, rfl⟩ := eraOf_eq_ok dated
  exact ⟨Era.startOf_nonneg nonneg p.eraDuration_pos,
    (Era.startOf_le n p.eraDuration_pos).trans le_max⟩

theorem Parameters.eraOf_int (p : Parameters) {tick : Int} (nonneg : 0 ≤ tick)
    (le_max : tick ≤ maxTick) : p.eraOf (.int tick) = .ok (Era.startOf tick p.eraDuration) := by
  simp [eraOf, Era.tickOfValue, nonneg, le_max.not_gt, bind, Except.bind, pure, Except.pure]

namespace Database

variable {α : Type} {transaction : Transaction α} {db : Database}

/-- A write succeeds if it is admitted and its transaction runs to the end. -/
theorem write_eq_ok_iff {result : α} {after : Tables} :
    (db.write transaction).1 = .ok result ∧ (db.write transaction).2.tables = after ↔
      db.contention.refusal? = none ∧ transaction.run.run db.tables = (.ok result, after) := by
  rw [write]
  cases db.contention.refusal? with
  | some failure => simp
  | none =>
      rcases transaction.run.run db.tables with ⟨failure | first, tables⟩
      · exact ⟨fun written => (by cases written.1), fun admitted => (by cases admitted.2)⟩
      · constructor
        · rintro ⟨written, rfl⟩
          cases written
          exact ⟨rfl, rfl⟩
        · rintro ⟨-, run_eq⟩
          cases run_eq
          exact ⟨rfl, rfl⟩

/-- A write that succeeds has run its transaction to the end. -/
theorem run_of_write {result : α} {after : Database}
    (written : db.write transaction = (.ok result, after)) :
    transaction.run.run db.tables = (.ok result, after.tables) :=
  (write_eq_ok_iff.1 ⟨congrArg Prod.fst written, by rw [written]⟩).2

/-- A write that succeeds leaves no other writer behind. -/
theorem contention_of_write {result : α} {after : Database}
    (written : db.write transaction = (.ok result, after)) : after.contention = .free := by
  rw [write] at written
  split at written
  · cases written
  · split at written
    · cases written
      rfl
    · cases written

/-- A write that need not give up answers what its transaction answers. -/
theorem write_outcome (admitted : db.contention.refusal? = none) :
    (db.write transaction).1 = (transaction.run.run db.tables).1 := by
  rw [write, admitted]
  rcases transaction.run.run db.tables with ⟨_ | _, _⟩ <;> rfl

theorem write_of_refusal {failure : Failure} (refused : db.contention.refusal? = some failure) :
    db.write transaction = (.error failure, db) := by
  rw [write, refused]

end Database

namespace Node

variable {α β : Type} {node : Node}

/-- Steps that always answer the same and stay away from the database. -/
def Reports (step : Action α) (result : α) : Prop :=
  ∀ node, ∃ after, step.run.run node = (.ok result, after) ∧ after.database = node.database

theorem reports_pure (result : α) : Reports (pure result) result := fun node => ⟨node, rfl, rfl⟩

theorem reports_count (name : String) : Reports (count name) () := fun _ => ⟨_, rfl, rfl⟩

theorem reports_gauge (name : String) (value : Int) : Reports (gauge name value) () :=
  fun _ => ⟨_, rfl, rfl⟩

theorem reports_record (name : String) (fields : List (String × Value)) :
    Reports (record name fields) () := fun _ => ⟨_, rfl, rfl⟩

theorem reports_announce (event : RewardClaimed) : Reports (announce event) () :=
  fun _ => ⟨_, rfl, rfl⟩

theorem Reports.bind {first : Action α} {next : α → Action β} {result : α} {last : β}
    (reports : Reports first result) (follows : Reports (next result) last) :
    Reports (first >>= next) last := by
  intro node
  obtain ⟨middle, run_first, same⟩ := reports node
  obtain ⟨after, run_next, kept⟩ := follows middle
  refine ⟨after, ?_, kept.trans same⟩
  rw [run_bind, run_first]
  exact run_next

theorem Reports.ite {condition : Prop} [Decidable condition] {first second : Action α} {result : α}
    (yes : Reports first result) (no : Reports second result) :
    Reports (if condition then first else second) result := by
  split
  · exact yes
  · exact no

/-- Steps that leave the database as it is. -/
def Keeps (step : Action α) : Prop := ∀ node, (step.run.run node).2.database = node.database

theorem keeps_pure (result : α) : Keeps (pure result) := fun _ => rfl

theorem keeps_lift (outcome : Except Failure α) : Keeps (liftM outcome) := fun _ => rfl

theorem keeps_liftLedger (outcome : Except LedgerError α) : Keeps (liftM outcome) := fun _ => rfl

theorem keeps_read (transaction : Transaction α) : Keeps (read transaction) := fun _ => rfl

theorem keeps_now : Keeps now := fun _ => rfl

theorem Keeps.bind {first : Action α} {next : α → Action β} (keeps : Keeps first)
    (follows : ∀ result, Keeps (next result)) : Keeps (first >>= next) := by
  intro node
  have kept := keeps node
  rw [run_bind]
  rcases run_first : first.run.run node with ⟨outcome, middle⟩
  rw [run_first] at kept
  cases outcome with
  | error failure => exact kept
  | ok result => exact (follows result middle).trans kept

theorem Keeps.map (f : α → β) {step : Action α} (keeps : Keeps step) : Keeps (f <$> step) := by
  intro node
  rw [run_map]
  exact keeps node

theorem commit_run (transaction : Transaction α) (node : Node) :
    (commit transaction).run.run node =
      ((node.database.write transaction).1,
        { node with database := (node.database.write transaction).2 }) := by
  rw [commit, run_bind, attempt, run_mk]
  rcases node.database.write transaction with ⟨_ | _, _⟩ <;> rfl

/-- What is reported after a commit does not change what was committed. -/
theorem commit_bind_run {transaction : Transaction α} {next : α → Action β} {answer : α → β}
    (reports : ∀ result, Reports (next result) (answer result)) (node : Node) :
    ∃ after, (commit transaction >>= next).run.run node =
        ((node.database.write transaction).1.map answer, after) ∧
      after.database = (node.database.write transaction).2 := by
  rw [run_bind, commit_run]
  cases (node.database.write transaction).1 with
  | error failure => exact ⟨_, rfl, rfl⟩
  | ok result => exact reports result _

end Node

namespace Service

variable (s : Service)

/-- What a report comes to, and the database that it leaves. -/
def reported (account volume at_ : Value) (db : Database) : Except Failure Int × Database :=
  match s.reportOf account volume at_ with
  | .error error => (.error (.ledger error), db)
  | .ok (account, volume, era) =>
    if volume.val = 0 then (.ok era, db)
    else
      ((db.write (s.book account volume era)).1.map fun _ => era,
        (db.write (s.book account volume era)).2)

theorem recordVolume_run (account volume at_ : Value) (node : Node) :
    ∃ after, (s.recordVolume account volume at_).run.run node =
        ((s.reported account volume at_ node.database).1, after) ∧
      after.database = (s.reported account volume at_ node.database).2 := by
  rw [recordVolume, run_bind, run_liftLedger, reported]
  cases s.reportOf account volume at_ with
  | error error => exact ⟨node, rfl, rfl⟩
  | ok request =>
      obtain ⟨name, amount, era⟩ := request
      simp only [Except.mapError]
      by_cases nothing : amount.val = 0
      · rw [if_pos nothing, if_pos nothing]
        exact ⟨node, rfl, rfl⟩
      · rw [if_neg nothing, if_neg nothing]
        apply Node.commit_bind_run
        intro booked
        exact (Node.reports_count _).bind ((Node.reports_gauge _ _).bind
          ((Node.reports_record _ _).bind (.ite ((Node.reports_count _).bind
            ((Node.reports_record _ _).bind (Node.reports_pure era)))
            (Node.reports_pure era))))

/-- Tick of a claim by a clock: its next reading, unless another tick is given. -/
def tickOf (at_ : Value) (clock : Clock) : Except Failure Value :=
  match at_ with
  | .null => clock.next.toInt.map Value.int
  | tick => .ok tick

/-- What a claim asks for: the account and the era. -/
def claimOf (account at_ : Value) (clock : Clock) : Except Failure (Account × Int) := do
  let account ← accountOfValue account
  let tick ← tickOf at_ clock
  let era ← s.parameters.eraOf tick
  return (account, era)

/-- What a claim comes to, and the database that it leaves. -/
def claimed (account at_ : Value) (clock : Clock) (db : Database) : Except Failure Int × Database :=
  match s.claimOf account at_ clock with
  | .error failure => (.error failure, db)
  | .ok (account, era) =>
    ((db.write (s.payOut account era)).1.map Prod.fst, (db.write (s.payOut account era)).2)

theorem reports_reportRollback (account : Account) (era : Int) (failure : Failure) :
    Node.Reports (reportRollback account era failure) () := by
  cases failure with
  | ledger error => exact (Node.reports_count _).bind (Node.reports_record _ _)
  | _ => exact Node.reports_pure ()

theorem claimTick_run (at_ : Value) (node : Node) :
    ∃ after, (claimTick at_).run.run node = (tickOf at_ node.clock, after) ∧
      after.database = node.database := by
  cases at_ with
  | null => exact ⟨_, run_map _ _ _, rfl⟩
  | _ => exact ⟨node, rfl, rfl⟩

theorem reports_reportPayOut (account : Account) (era amount : Int) (rotation : Rotation) :
    Node.Reports (reportPayOut account era (.ok (amount, rotation))) amount := by
  have announced : Node.Reports
      (do Node.announce ⟨account.toValue, .int amount⟩; return amount) amount :=
    (Node.reports_announce _).bind (Node.reports_pure amount)
  rw [reportPayOut]
  refine .ite ((Node.reports_count _).bind announced) ((Node.reports_count _).bind (.ite ?_ ?_))
  · exact (Node.reports_count _).bind ((Node.reports_record _ _).bind announced)
  · exact (Node.reports_record _ _).bind announced

theorem reportPayOut_run (account : Account) (era : Int) (outcome : Except Failure (Int × Rotation))
    (node : Node) :
    ∃ after, (reportPayOut account era outcome).run.run node = (outcome.map Prod.fst, after) ∧
      after.database = node.database := by
  cases outcome with
  | error failure =>
      obtain ⟨after, run_eq, kept⟩ := reports_reportRollback account era failure node
      refine ⟨after, ?_, kept⟩
      rw [reportPayOut, run_bind, run_eq]
      rfl
  | ok paid => exact reports_reportPayOut account era paid.1 paid.2 node

theorem claim_run (account at_ : Value) (node : Node) :
    ∃ after, (s.claim account at_).run.run node =
        ((s.claimed account at_ node.clock node.database).1, after) ∧
      after.database = (s.claimed account at_ node.clock node.database).2 := by
  rw [claim, run_bind, run_liftLedger]
  cases named : accountOfValue account with
  | error error =>
      have refused : s.claimOf account at_ node.clock = .error (.ledger error) := by
        rw [claimOf, named]
        rfl
      rw [claimed, refused]
      exact ⟨node, rfl, rfl⟩
  | ok name =>
      obtain ⟨asked, asked_run, kept⟩ := claimTick_run at_ node
      simp only [Except.mapError]
      rw [run_bind, asked_run]
      cases ticked : tickOf at_ node.clock with
      | error failure =>
          have refused : s.claimOf account at_ node.clock = .error failure := by
            rw [claimOf, named, ticked]
            rfl
          rw [claimed, refused]
          exact ⟨asked, rfl, kept⟩
      | ok tick =>
          dsimp only
          rw [run_bind, run_liftLedger]
          cases dated : s.parameters.eraOf tick with
          | error error =>
              have refused : s.claimOf account at_ node.clock = .error (.ledger error) := by
                rw [claimOf, named, ticked]
                simp only [bind, Except.bind, liftM, monadLift, MonadLift.monadLift, dated]
                rfl
              rw [claimed, refused]
              exact ⟨asked, rfl, kept⟩
          | ok era =>
              have accepted : s.claimOf account at_ node.clock = .ok (name, era) := by
                rw [claimOf, named, ticked]
                simp only [bind, Except.bind, liftM, monadLift, MonadLift.monadLift, dated]
                rfl
              simp only [Except.mapError, claimed, accepted]
              rw [run_bind, Node.attempt, run_mk, kept]
              exact reportPayOut_run name era _ _

theorem keeps_totalVolume (at_ : Value) : Node.Keeps (s.totalVolume at_) :=
  (Node.keeps_liftLedger _).bind fun _ => Node.keeps_read _

theorem keeps_rewardOf (account : Value) : Node.Keeps (rewardOf account) :=
  (Node.keeps_liftLedger _).bind fun _ => Node.keeps_read _

theorem keeps_confirmedOf (account : Value) : Node.Keeps (confirmedOf account) :=
  (keeps_rewardOf account).bind fun _ => Node.keeps_pure _

theorem keeps_balanceOf (account token : Value) : Node.Keeps (s.balanceOf account token) := by
  refine (Node.keeps_liftLedger _).bind fun name => ?_
  cases token with
  | null => exact (Node.keeps_pure _).bind fun _ => Node.keeps_read _
  | _ => exact (Node.keeps_lift _).bind fun _ => Node.keeps_read _

end Service
end EraRewards
