import EraRewards.Proofs.DroppedRecord
import EraRewards.Proofs.Interface

/-!
# What a run leaves besides the tables

A call moves the clock, counts, logs and announces; what it adds to each of these can be told from the
node that it finds and from its answer.  The chronicle of a run lists what its calls contribute to some
account of the run, and an account that every call extends by its contribution is, after a run, the
account before extended by the chronicle.
-/

namespace EraRewards

open Effect

/-! ## Chronicles -/

namespace Service

variable (s : Service) {α β : Type}

/-- What the calls of a run contribute, in their order. -/
def chronicle (contribution : Turn → Node → Option α) : List Turn → Node → List α
  | [], _ => []
  | turn :: turns, node =>
    (contribution turn node).toList ++ chronicle contribution turns (s.serve turn node)

variable {s} {contribution : Turn → Node → Option α}

/-- What a view of the node shows after a run, if every call extends it by what it contributes. -/
theorem view_run (view : Node → β) (extend : β → List α → β) (idle : ∀ shown, extend shown [] = shown)
    (resumed : ∀ shown first second,
      extend (extend shown first) second = extend shown (first ++ second))
    (extended : ∀ turn node,
      view (s.serve turn node) = extend (view node) (contribution turn node).toList)
    (turns : List Turn) (node : Node) :
    view (s.run turns node) = extend (view node) (s.chronicle contribution turns node) := by
  induction turns generalizing node with
  | nil => exact (idle (view node)).symm
  | cons turn turns induction => rw [run, chronicle, induction, extended, resumed]

/-- Each entry of a chronicle is the contribution of a call to a node that was reached. -/
theorem exists_of_mem_chronicle {keeps : Node → Prop}
    (kept : ∀ turn node, keeps node → keeps (s.serve turn node)) {turns : List Turn} {node : Node}
    (start : keeps node) {entry : α} (listed : entry ∈ s.chronicle contribution turns node) :
    ∃ turn reached, keeps reached ∧ contribution turn reached = some entry := by
  induction turns generalizing node with
  | nil => cases listed
  | cons turn turns induction =>
      obtain first | later := List.mem_append.1 listed
      · exact ⟨turn, node, start, Option.mem_toList.1 first⟩
      · exact induction (kept turn node start) later

end Service

/-! ## What calls leave -/

/-- Calls that only ask. -/
def Call.asks : Call → Bool
  | recordVolume _ _ _ | claim _ _ => false
  | _ => true

/-- The line of the log about a report of volume, given the total that it left. -/
def LogEntry.volumeRecorded (account : String) (volume era total : Int) : LogEntry :=
  .event "volume_recorded"
    [("account", .text account), ("volume", .int volume), ("era", .int era),
      ("era_total", .int total)]

/-- The line of the log about a record that was turned by a report of volume. -/
def LogEntry.rewardRotated (account : String) (era : Int) (rotation : Rotation) : LogEntry :=
  .event "reward_rotated"
    [("account", .text account), ("era", .int era), ("awarded", .int rotation.awarded),
      ("confirmed", .int rotation.confirmed)]

/-- The node that was told of a report of volume that has been booked. -/
def Node.afterBooking (node : Node) (account : String) (volume era total : Int)
    (rotation : Rotation) : Node :=
  let metrics := (node.metrics.increment "volume_records_total").set "last_volume_era" era
  let log := node.log ++ [.volumeRecorded account volume era total]
  if rotation.rotated then
    { node with
      metrics := metrics.increment "rotations_total"
      log := log ++ [.rewardRotated account era rotation] }
  else { node with metrics, log }

namespace Service

variable {s : Service} {account volume at_ : Value} {node : Node}

theorem outcome_recordVolume (s : Service) (contention : Contention) (account volume at_ : Value)
    (node : Node) :
    let outcome := (s.recordVolume account volume at_).run.run (node.facing contention)
    let turn : Turn := ⟨contention, .recordVolume account volume at_⟩
    s.reply turn node = outcome.1.map Value.int ∧ s.serve turn node = outcome.2 := by
  dsimp only
  rw [reply, serve, answer, run_map]
  exact ⟨rfl, rfl⟩

theorem outcome_claim (s : Service) (contention : Contention) (account at_ : Value) (node : Node) :
    let outcome := (s.claim account at_).run.run (node.facing contention)
    let turn : Turn := ⟨contention, .claim account at_⟩
    s.reply turn node = outcome.1.map Value.int ∧ s.serve turn node = outcome.2 := by
  dsimp only
  rw [reply, serve, answer, run_map]
  exact ⟨rfl, rfl⟩

theorem recordVolume_run_of_write {name : String} {amount : Amount} {era total : Int}
    {rotation : Rotation} {after : Database}
    (asked : s.reportOf account volume at_ = .ok (name, amount, era)) (something : amount.val ≠ 0)
    (written : node.database.write (s.book name amount era) = (.ok (total, rotation), after)) :
    (s.recordVolume account volume at_).run.run node =
      (.ok era, (node.on after).afterBooking name amount.val era total rotation) := by
  rw [recordVolume, run_bind, run_liftLedger, asked]
  simp only [Except.mapError]
  rw [if_neg something, run_bind, Node.commit_run, written]
  obtain ⟨awarded, rotated, reward⟩ := rotation
  cases rotated <;> rfl

/-- A report of volume books something and tells of it, or it leaves everything but the database as it
was: then it has failed or its volume is zero. -/
theorem recordVolume_effect (account volume at_ : Value) (node : Node) :
    let outcome := (s.recordVolume account volume at_).run.run node
    (∃ after, outcome.2 = node.on after ∧ ∀ era, outcome.1 = .ok era →
        ∃ holder amount, s.reportOf account volume at_ = .ok (holder, amount, era) ∧
          amount.val = 0) ∨
      ∃ (name : String) (amount : Amount) (era total : Int) (rotation : Rotation) (after : Database),
        s.reportOf account volume at_ = .ok (name, amount, era) ∧ amount.val ≠ 0 ∧
        node.database.write (s.book name amount era) = (.ok (total, rotation), after) ∧
        outcome = (.ok era, (node.on after).afterBooking name amount.val era total rotation) := by
  intro outcome
  cases asked : s.reportOf account volume at_ with
  | error error =>
      have run_eq : outcome = (.error (.ledger error), node) := by
        simp only [outcome]
        rw [recordVolume, run_bind, run_liftLedger, asked]
        rfl
      rw [run_eq]
      exact .inl ⟨node.database, rfl, fun era answered => by cases answered⟩
  | ok request =>
      obtain ⟨holder, amount, era⟩ := request
      by_cases nothing : amount.val = 0
      · have run_eq : outcome = (.ok era, node) := recordVolume_run_of_nothing asked nothing node
        rw [run_eq]
        exact .inl ⟨node.database, rfl, fun answer answered =>
          ⟨holder, amount, by rw [Except.ok.inj answered], nothing⟩⟩
      · rcases written : node.database.write (s.book holder amount era) with ⟨failure | booked, after⟩
        · have run_eq := recordVolume_run_of_error asked nothing written
          refine .inl ⟨after, congrArg Prod.snd run_eq, fun answer answered => ?_⟩
          cases answered.symm.trans (congrArg Prod.fst run_eq)
        · obtain ⟨total, rotation⟩ := booked
          obtain ⟨name, rfl⟩ := s.exists_named_of_book (Database.run_of_write written)
          exact .inr ⟨name, amount, era, total, rotation, after, rfl, nothing, written,
            recordVolume_run_of_write asked nothing written⟩

theorem claimTick_clock (at_ : Value) (node : Node) :
    ∃ clock, (claimTick at_).run.run node = (tickOf at_ node.clock, { node with clock }) := by
  cases at_ with
  | null => exact ⟨_, run_map _ _ _⟩
  | _ => exact ⟨node.clock, rfl⟩

/-- A claim that is accepted reports what comes of its pay-out; any other moves the clock at most. -/
theorem claim_effect (account at_ : Value) (node : Node) :
    ∃ clock,
      (∃ failure, s.claimOf account at_ node.clock = .error failure ∧
        (s.claim account at_).run.run node = (.error failure, { node with clock })) ∨
      ∃ holder era, s.claimOf account at_ node.clock = .ok (holder, era) ∧
        (s.claim account at_).run.run node =
          (reportPayOut holder era (node.database.write (s.payOut holder era)).1).run.run
            { node with database := (node.database.write (s.payOut holder era)).2, clock } := by
  rw [claim, claimOf, run_bind, run_liftLedger]
  cases accountOfValue account with
  | error error => exact ⟨node.clock, .inl ⟨.ledger error, rfl, rfl⟩⟩
  | ok holder =>
      obtain ⟨clock, ticked_run⟩ := claimTick_clock at_ node
      refine ⟨clock, ?_⟩
      simp only [Except.mapError]
      rw [run_bind, ticked_run]
      cases tickOf at_ node.clock with
      | error failure => exact .inl ⟨failure, rfl, rfl⟩
      | ok tick =>
          dsimp only
          rw [run_bind, run_liftLedger]
          cases dated : s.parameters.eraOf tick with
          | error error =>
              refine .inl ⟨.ledger error, ?_, rfl⟩
              simp only [bind, Except.bind, liftM, monadLift, MonadLift.monadLift, dated]
              rfl
          | ok era =>
              refine .inr ⟨holder, era, ?_, ?_⟩
              · simp only [bind, Except.bind, liftM, monadLift, MonadLift.monadLift, dated]
                rfl
              · simp only [Except.mapError]
                rw [run_bind, Node.attempt, run_mk]

end Service

theorem Node.Observes.map {α β : Type} (f : α → β) {step : Action α} (observes : Node.Observes step) :
    Node.Observes (f <$> step) := by
  intro node
  rw [run_map]
  exact observes node

namespace Service

/-- Questions move the clock at most. -/
theorem observes_answer (s : Service) {call : Call} (asks : call.asks = true) :
    Node.Observes (s.answer call) := by
  cases call with
  | recordVolume account volume at_ => cases asks
  | claim account at_ => cases asks
  | totalVolume at_ => exact (s.observes_totalVolume at_).map _
  | rewardOf account => exact (observes_rewardOf account).map _
  | confirmedOf account =>
      exact Node.Observes.map _ ((observes_rewardOf account).bind fun _ => Node.observes_pure _)
  | balanceOf account token => exact (s.observes_balanceOf account token).map _
  | eraOf tick => exact (Node.observes_liftLedger _).bind fun _ => Node.observes_pure _
  | now => exact Node.observes_now.map _

end Service

end EraRewards
