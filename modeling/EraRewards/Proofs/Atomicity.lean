import EraRewards.Proofs.Deployment

/-!
# All or nothing

Whatever a database holds and whatever the balance store and the event sink do, a call that fails has
written nothing and announced nothing, and a call whose transaction has committed does not fail.  A
claim that its store refuses says so: a rejection by the ledger passes as it is, and any other failure
becomes a failed credit.
-/

namespace EraRewards

open Effect

namespace Node

variable {α β : Type}

/-- The node while another sink listens. -/
def hearing (node : Node) (sink : Sink) : Node := { node with sink }

/-- Steps that announce nothing: whichever sink listens is left as it was, and the step goes the same
way. -/
def Silent (step : Action α) : Prop :=
  ∀ node sink, step.run.run (node.hearing sink) =
    ((step.run.run node).1, (step.run.run node).2.hearing sink)

/-- Steps that announce nothing when they fail. -/
def FailsSilently (step : Action α) : Prop :=
  ∀ node failure, (step.run.run node).1 = .error failure → ∀ sink,
    step.run.run (node.hearing sink) = (.error failure, (step.run.run node).2.hearing sink)

/-- Steps that leave the tables as they were when they fail, and announce nothing then. -/
def AllOrNothing (step : Action α) : Prop :=
  (∀ node failure, (step.run.run node).1 = .error failure →
    (step.run.run node).2.database.tables = node.database.tables) ∧ FailsSilently step

theorem silent_pure (result : α) : Silent (pure result) := fun _ _ => rfl

theorem silent_liftLedger (outcome : Except LedgerError α) : Silent (liftM outcome) :=
  fun _ _ => rfl

theorem silent_now : Silent now := fun _ _ => rfl

theorem silent_count (name : String) : Silent (count name) := fun _ _ => rfl

theorem silent_record (name : String) (fields : List (String × Value)) :
    Silent (record name fields) := fun _ _ => rfl

theorem silent_throw (failure : Failure) : Silent (throw failure : Action α) := fun _ _ => rfl

theorem silent_attempt (transaction : Transaction α) : Silent (attempt transaction) :=
  fun _ _ => rfl

theorem silent_commit (transaction : Transaction α) : Silent (commit transaction) := by
  intro node sink
  rw [commit_run, commit_run]
  rfl

theorem Silent.bind {first : Action α} {next : α → Action β} (silent : Silent first)
    (follows : ∀ result, Silent (next result)) : Silent (first >>= next) := by
  intro node sink
  rw [run_bind, run_bind, silent]
  rcases first.run.run node with ⟨_ | result, middle⟩
  · rfl
  · exact follows result middle sink

theorem Silent.map (f : α → β) {step : Action α} (silent : Silent step) : Silent (f <$> step) := by
  intro node sink
  rw [run_map, run_map, silent]

theorem Silent.failsSilently {step : Action α} (silent : Silent step) : FailsSilently step := by
  intro node failure failed sink
  rw [silent, failed]

/-- What is only reported never fails. -/
theorem Reports.failsSilently {step : Action α} {result : α} (reports : Reports step result) :
    FailsSilently step := by
  intro node failure failed
  obtain ⟨after, run_eq, -⟩ := reports node
  rw [run_eq] at failed
  cases failed

theorem Silent.bind_failsSilently {first : Action α} {next : α → Action β} (silent : Silent first)
    (follows : ∀ result, FailsSilently (next result)) : FailsSilently (first >>= next) := by
  intro node failure failed sink
  rw [run_bind] at failed ⊢
  rw [run_bind, silent]
  rcases run_first : first.run.run node with ⟨_ | result, middle⟩
  · rw [run_first] at failed
    cases failed
    rfl
  · rw [run_first] at failed
    exact follows result middle failure failed sink

theorem Silent.sink_eq {step : Action α} (silent : Silent step) (node : Node) :
    (step.run.run node).2.sink = node.sink := by
  have heard := silent node node.sink
  exact congrArg (fun outcome => outcome.2.sink) heard

theorem FailsSilently.sink_eq {step : Action α} (silent : FailsSilently step) {node : Node}
    {failure : Failure} (failed : (step.run.run node).1 = .error failure) :
    (step.run.run node).2.sink = node.sink := by
  have heard := silent node failure failed node.sink
  exact congrArg (fun outcome => outcome.2.sink) heard

end Node

namespace Service

variable (s : Service)

theorem failsSilently_recordVolume (account volume at_ : Value) :
    Node.FailsSilently (s.recordVolume account volume at_) := by
  refine (Node.silent_liftLedger _).bind_failsSilently fun request => ?_
  obtain ⟨holder, amount, era⟩ := request
  by_cases nothing : amount.val = 0
  · simp only [if_pos nothing]
    exact (Node.silent_pure _).failsSilently
  · simp only [if_neg nothing]
    refine (Node.silent_commit _).bind_failsSilently fun booked => ?_
    exact ((Node.reports_count _).bind ((Node.reports_gauge _ _).bind
      ((Node.reports_record _ _).bind (.ite ((Node.reports_count _).bind
        ((Node.reports_record _ _).bind (Node.reports_pure era)))
        (Node.reports_pure era))))).failsSilently

theorem silent_claimTick (at_ : Value) : Node.Silent (claimTick at_) := by
  cases at_ with
  | null => exact Node.silent_now.map _
  | _ => exact Node.silent_pure _

theorem silent_reportRollback (account : Account) (era : Int) (failure : Failure) :
    Node.Silent (reportRollback account era failure) := by
  cases failure with
  | ledger error => exact (Node.silent_count _).bind fun _ => Node.silent_record _ _
  | _ => exact Node.silent_pure _

theorem failsSilently_claim (account at_ : Value) : Node.FailsSilently (s.claim account at_) := by
  refine (Node.silent_liftLedger _).bind_failsSilently fun holder => ?_
  refine (silent_claimTick at_).bind_failsSilently fun tick => ?_
  refine (Node.silent_liftLedger _).bind_failsSilently fun era => ?_
  refine (Node.silent_attempt _).bind_failsSilently fun outcome => ?_
  -- Only a pay-out that has committed is announced, and the report of it does not fail.
  cases outcome with
  | error failure =>
      exact ((silent_reportRollback holder era failure).bind fun _ =>
        Node.silent_throw failure).failsSilently
  | ok paid => exact (reports_reportPayOut holder era paid.1 paid.2).failsSilently

theorem allOrNothing_recordVolume (account volume at_ : Value) :
    Node.AllOrNothing (s.recordVolume account volume at_) :=
  ⟨fun _ _ failed => recordVolume_tables_of_error failed, s.failsSilently_recordVolume _ _ _⟩

theorem allOrNothing_claim (account at_ : Value) : Node.AllOrNothing (s.claim account at_) :=
  ⟨fun _ _ failed => claim_tables_of_error failed, s.failsSilently_claim _ _⟩

/-- Balances on which a pay-out asks its store to credit an amount: the turned record is stored by
then, and what it had confirmed is taken out of it. -/
def AsksCredit (account : String) (era : Int) (before : Tables) (amount : Int) (balances : Balances) :
    Prop :=
  ∃ rotation previewed stored taken,
    (Records.preview s.parameters.budget.val account era .zero).run.run before =
        (.ok rotation, previewed) ∧
      rotation.confirmed ≠ 0 ∧
      (Records.put account rotation.reward).run.run previewed = (.ok (), stored) ∧
      (Records.take account).run.run stored = (.ok amount, taken) ∧ taken.balances = balances

variable {s}

/-- On sound tables a pay-out asks for a credit of what the turned record has confirmed. -/
theorem asksCredit {t : Tables} (sound : t.Sound) {account : String} {era : Int} (era_nonneg : 0 ≤ era)
    (era_le : era ≤ maxTick) {rotation : Rotation}
    (rotated : t.rotation s.parameters.budget.val account era 0 = .ok rotation)
    (something : rotation.confirmed ≠ 0) :
    s.AsksCredit account era t rotation.confirmed t.balances := by
  have storable := (Records.turns_of_rotation sound rotated).storable (sound.storable account)
    le_rfl (Int.natCast_nonneg _) era_nonneg era_le (Int.natCast_nonneg _)
  have previewed := Records.preview_run sound s.parameters.budget.val account era .zero
  have zero_val : ((Amount.zero.val : Nat) : Int) = 0 := rfl
  rw [zero_val, rotated] at previewed
  exact ⟨rotation, t, _, _, previewed, something, Records.put_run storable account,
    Records.take_run storable account, Tables.balances_settle _ _⟩

theorem payOut_of_refused_credit {account : String} {era amount : Int} {before : Tables}
    {balances : Balances} (asks : s.AsksCredit account era before amount balances) {failure : Failure}
    (refused : ((s.balances.credit s.parameters.token account amount).run.run balances).1 =
      .error failure) :
    ((s.payOut account era).run.run before).1 = .error (creditFailure account amount failure) := by
  obtain ⟨rotation, previewed, stored, taken, preview_run, something, put_run, take_run, rfl⟩ := asks
  rw [payOut_named, run_bind, preview_run]
  dsimp only
  rw [if_neg something, run_bind, put_run]
  dsimp only
  rw [run_bind, take_run]
  dsimp only
  rw [run_bind, credit_run, refused]
  rfl

end Service

theorem Service.start_tables_of_error {env : Environment} {parameters : Parameters}
    {balances : BalanceStore} {db : Database} {failure : Failure}
    (failed : (start env parameters balances db).1 = .error failure) :
    (start env parameters balances db).2.tables = db.tables := by
  rw [start] at failed ⊢
  split at failed
  · rfl
  · dsimp only at failed ⊢
    cases outcome_eq : (db.write Schema.ensure).1 with
    | error first => exact Database.tables_write_of_error outcome_eq
    | ok result =>
        rw [outcome_eq] at failed
        cases failed

/-- An opening that fails leaves the tables and everything around them as they were. -/
theorem Deployment.next_of_failed_opening {d : Deployment} {opening : Opening} {failure : Failure}
    (failed : (opening.start (d.node.facing opening.contention).database).1 = .error failure) :
    ∃ database, d.next (.opening opening) = { d with node := d.node.on database } ∧
      database.tables = d.node.database.tables := by
  rcases outcome_eq : opening.start (d.node.facing opening.contention).database with
    ⟨outcome, database⟩
  rw [outcome_eq] at failed
  cases failed
  refine ⟨database, by rw [next, outcome_eq]; rfl, ?_⟩
  have kept : (opening.start (d.node.facing opening.contention).database).2.tables =
      d.node.database.tables := by
    have first := congrArg Prod.fst outcome_eq
    rw [Opening.start] at first ⊢
    split at first
    · rfl
    · exact Service.start_tables_of_error first
  rw [← kept, outcome_eq]

namespace Service

variable {s : Service} {node : Node}

/-- A report of volume whose transaction has committed succeeds. -/
theorem recordVolume_of_write {account volume at_ : Value} {holder : Account} {amount : Amount}
    {era : Int} {booked : Int × Rotation} {after : Database}
    (asked : s.reportOf account volume at_ = .ok (holder, amount, era)) (something : amount.val ≠ 0)
    (written : node.database.write (s.book holder amount era) = (.ok booked, after)) :
    ((s.recordVolume account volume at_).run.run node).1 = .ok era ∧
      ((s.recordVolume account volume at_).run.run node).2.database = after := by
  obtain ⟨now, run_eq, database_eq⟩ := s.recordVolume_run account volume at_ node
  have reported : s.reported account volume at_ node.database = (.ok era, after) := by
    simp only [Service.reported, asked, if_neg something, written]
    rfl
  rw [run_eq, database_eq, reported]
  exact ⟨rfl, rfl⟩

/-- A claim whose transaction has committed succeeds. -/
theorem claim_of_write {account at_ : Value} {holder : Account} {era amount : Int}
    {rotation : Rotation} {after : Database}
    (asked : s.claimOf account at_ node.clock = .ok (holder, era))
    (written : node.database.write (s.payOut holder era) = (.ok (amount, rotation), after)) :
    ((s.claim account at_).run.run node).1 = .ok amount ∧
      ((s.claim account at_).run.run node).2.database = after := by
  obtain ⟨now, run_eq, database_eq⟩ := s.claim_run account at_ node
  have claimed : s.claimed account at_ node.clock node.database = (.ok amount, after) := by
    simp only [Service.claimed, asked, written]
    rfl
  rw [run_eq, database_eq, claimed]
  exact ⟨rfl, rfl⟩

/-- A claim fails with the ledger error of its store, or else with a failed credit. -/
theorem claim_of_refused_credit {account at_ : Value} {name : String} {era amount : Int}
    {balances : Balances} {failure : Failure}
    (asked : s.claimOf account at_ node.clock = .ok (name, era))
    (admitted : node.database.contention.refusal? = none)
    (asks : s.AsksCredit name era node.database.tables amount balances)
    (refused : ((s.balances.credit s.parameters.token name amount).run.run balances).1 =
      .error failure) :
    ∃ error, ((s.claim account at_).run.run node).1 = .error (.ledger error) ∧
      (failure = .ledger error ∨
        (∀ other, failure ≠ .ledger other) ∧ error.code = .creditFailed) := by
  rw [claim_answer asked, Database.write_outcome admitted, payOut_of_refused_credit asks refused]
  cases failure with
  | ledger error => exact ⟨error, rfl, .inl rfl⟩
  | _ => exact ⟨_, rfl, .inr ⟨fun other same => (by cases same), rfl⟩⟩

end Service

/-- An opening whose transaction has committed succeeds. -/
theorem Opening.start_of_write {opening : Opening} {parameters : Parameters} {db after : Database}
    (accepted : Parameters.ofValues opening.eraDuration opening.budget opening.token = .ok parameters)
    (connected : Tuning.checkConnection opening.env "wal" = .ok ())
    (stamped : Database.write Schema.ensure db = (.ok (), after)) :
    opening.start db = (.ok ⟨parameters, opening.balances⟩, after) := by
  rw [start, accepted]
  dsimp only
  rw [Service.start, connected]
  dsimp only
  rw [stamped]
  rfl

/-- A report of volume, a claim and an opening either succeed, or leave the tables as they were and
announce nothing; they succeed once their transaction has committed.  A claim whose store refuses the
credit fails with a ledger error: with that of the store, or with a failed credit. -/
theorem all_or_nothing (s : Service) (node : Node) :
    (∀ account volume at_, Node.AllOrNothing (s.recordVolume account volume at_)) ∧
    (∀ account at_, Node.AllOrNothing (s.claim account at_)) ∧
    (∀ (d : Deployment) opening failure,
      (Opening.start opening (d.node.facing opening.contention).database).1 = .error failure →
        ∃ database, d.next (.opening opening) = { d with node := d.node.on database } ∧
          database.tables = d.node.database.tables) ∧
    (∀ account volume at_ holder amount era booked after,
      s.reportOf account volume at_ = .ok (holder, amount, era) → amount.val ≠ 0 →
      node.database.write (s.book holder amount era) = (.ok booked, after) →
        ((s.recordVolume account volume at_).run.run node).1 = .ok era ∧
          ((s.recordVolume account volume at_).run.run node).2.database = after) ∧
    (∀ account at_ holder era amount rotation after,
      s.claimOf account at_ node.clock = .ok (holder, era) →
      node.database.write (s.payOut holder era) = (.ok (amount, rotation), after) →
        ((s.claim account at_).run.run node).1 = .ok amount ∧
          ((s.claim account at_).run.run node).2.database = after) ∧
    (∀ (opening : Opening) parameters db after,
      Parameters.ofValues opening.eraDuration opening.budget opening.token = .ok parameters →
      Tuning.checkConnection opening.env "wal" = .ok () →
      Database.write Schema.ensure db = (.ok (), after) →
        opening.start db = (.ok ⟨parameters, opening.balances⟩, after)) ∧
    ∀ account at_ (name : String) era amount balances failure,
      s.claimOf account at_ node.clock = .ok (name, era) →
      node.database.contention.refusal? = none →
      s.AsksCredit name era node.database.tables amount balances →
      ((s.balances.credit s.parameters.token name amount).run.run balances).1 = .error failure →
        ∃ error, ((s.claim account at_).run.run node).1 = .error (.ledger error) ∧
          (failure = .ledger error ∨
            (∀ other, failure ≠ .ledger other) ∧ error.code = .creditFailed) :=
  ⟨s.allOrNothing_recordVolume, s.allOrNothing_claim,
    fun _ _ _ => Deployment.next_of_failed_opening,
    fun _ _ _ _ _ _ _ _ => Service.recordVolume_of_write,
    fun _ _ _ _ _ _ _ => Service.claim_of_write,
    fun _ _ _ _ => Opening.start_of_write,
    fun _ _ _ _ _ _ _ => Service.claim_of_refused_credit⟩

/-- A ledger whose store fails after it has written the credit. -/
def Service.unlucky : Service := ⟨.sample, .failingLate⟩

/-- One account has reported in the first era. -/
def Node.reportedOnce : Node :=
  Service.sample.run [⟨.free, .recordVolume (.text "a") (.int 30) (.int 0)⟩] (Node.empty.on .stamped)

/-- Its claim fails as a failed credit, and the credit that the store has written is gone. -/
theorem all_or_nothing_sample :
    let outcome := (Service.unlucky.claim (.text "a") (.int 100)).run.run Node.reportedOnce
    ((Balances.credit 0 "a" 1000000).run.run Node.reportedOnce.database.tables.balances).2.rows =
        [(⟨0, "a"⟩, "1000000")] ∧
      (∃ error, outcome.1 = .error (.ledger error) ∧ error.code = .creditFailed) ∧
      outcome.2.database.tables = Node.reportedOnce.database.tables ∧
      outcome.2.database.tables.balances.rows = [] := by
  intro outcome
  obtain ⟨-, undone, -, -, -, -, refused⟩ := all_or_nothing Service.unlucky Node.reportedOnce
  have sound : Node.reportedOnce.database.tables.Sound :=
    (History.started (Service.start_empty .sample .bundled) .empty _).sound
  have asked : Service.unlucky.claimOf (.text "a") (.int 100) Node.reportedOnce.clock =
      .ok ("a", 100) := rfl
  have rotated : Node.reportedOnce.database.tables.rotation
      Service.unlucky.parameters.budget.val "a" 100 0 = .ok ⟨1000000, true, ⟨1000000, 0, 100⟩⟩ :=
    ok_of_toOption (by decide +kernel)
  have asks := Service.asksCredit (s := Service.unlucky) sound (by decide) (by decide) rotated
    (by decide)
  have failed : ((Service.unlucky.balances.credit Service.unlucky.parameters.token "a" 1000000).run.run
      Node.reportedOnce.database.tables.balances).1 =
      .error (.foreign "KeyError" "'late failure'") := by rfl
  obtain ⟨error, answered, passed | ⟨-, code⟩⟩ :=
    refused (.text "a") (.int 100) "a" 100 1000000 _ _ asked rfl asks failed
  · cases passed
  · have kept := (undone (.text "a") (.int 100)).1 _ _ answered
    exact ⟨by decide +kernel, ⟨error, answered, code⟩, kept, by rw [kept]; decide +kernel⟩

end EraRewards
