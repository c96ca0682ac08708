import EraRewards.Proofs.Outcome

/-!
# A record of zeros and no record

A record that holds nothing any more may stay or be dropped: as long as its account's calls do not go
back before its era, no call can tell, and with the next volume that the account reports nothing is
left of the difference.
-/

namespace EraRewards

/-! ## Steps that commute with a change of state -/

namespace Effect

variable {ε ε' σ ρ α β : Type} {f : σ → σ} {view : σ → ρ}

/-- From this state a step goes the same way as from the changed state, and a view of the state stays
as it is. -/
structure Commutes (f : σ → σ) (view : σ → ρ) (step : ExceptT ε (StateM σ) α) (state : σ) :
    Prop where
  /-- The change may be made before the step or after it. -/
  run_eq : step.run.run (f state) = ((step.run.run state).1, f (step.run.run state).2)
  /-- The view stays. -/
  view_eq : view (step.run.run state).2 = view state

theorem commutes_pure (result : α) (state : σ) :
    Commutes f view (pure result : ExceptT ε (StateM σ) α) state := ⟨rfl, rfl⟩

theorem commutes_throw (failure : ε) (state : σ) :
    Commutes f view (throw failure : ExceptT ε (StateM σ) α) state := ⟨rfl, rfl⟩

theorem commutes_lift (outcome : Except Failure α) (state : σ) :
    Commutes f view (liftM outcome : ExceptT Failure (StateM σ) α) state := ⟨rfl, rfl⟩

theorem commutes_liftLedger (outcome : Except LedgerError α) (state : σ) :
    Commutes f view (liftM outcome : ExceptT Failure (StateM σ) α) state := ⟨rfl, rfl⟩

namespace Commutes

variable {step : ExceptT ε (StateM σ) α} {state : σ}

theorem bind {next : α → ExceptT ε (StateM σ) β} (commutes : Commutes f view step state)
    (follows : ∀ result after, step.run.run state = (.ok result, after) →
      Commutes f view (next result) after) :
    Commutes f view (step >>= next) state := by
  have first_eq := commutes.run_eq
  have first_view := commutes.view_eq
  constructor
  · rw [run_bind, run_bind, first_eq]
    rcases first : step.run.run state with ⟨_ | result, after⟩
    · rfl
    · exact (follows result after first).run_eq
  · rw [run_bind]
    rcases first : step.run.run state with ⟨_ | result, after⟩
    · rw [first] at first_view
      exact first_view
    · rw [first] at first_view
      exact (follows result after first).view_eq.trans first_view

/-- Reading the state is no harm if what follows reads the same from the changed state. -/
theorem get_bind {next : σ → ExceptT ε (StateM σ) β} (commutes : Commutes f view (next state) state)
    (same : next (f state) = next state) : Commutes f view (get >>= next) state := by
  constructor
  · rw [run_bind, run_bind, run_get, run_get]
    dsimp only
    rw [same]
    exact commutes.run_eq
  · rw [run_bind, run_get]
    exact commutes.view_eq

theorem map (g : α → β) (commutes : Commutes f view step state) :
    Commutes f view (g <$> step) state := by
  constructor
  · rw [run_map, run_map, commutes.run_eq]
  · rw [run_map]
    exact commutes.view_eq

theorem adapt (g : ε → ε') (commutes : Commutes f view step state) :
    Commutes f view (step.adapt g) state := by
  constructor
  · rw [run_adapt, run_adapt, commutes.run_eq]
  · exact commutes.view_eq

theorem ite {condition : Prop} [Decidable condition] {other : ExceptT ε (StateM σ) α}
    (yes : condition → Commutes f view step state) (no : ¬condition → Commutes f view other state) :
    Commutes f view (if condition then step else other) state := by
  split
  · rename_i holds
    exact yes holds
  · rename_i fails
    exact no fails

end Commutes
end Effect

open Effect

namespace Tables

/-- A transaction does not depend on the row of an account and leaves it alone. -/
abbrev Spares {α : Type} (account : String) (transaction : Transaction α) (t : Tables) : Prop :=
  Commutes (fun t => t.dropRecord account) (fun t => t.rewards.get? account) transaction t

theorem get?_dropRecord {account other : String} (distinct : other ≠ account) (t : Tables) :
    (t.dropRecord account).rewards.get? other = t.rewards.get? other :=
  (Table.get?_erase _ _ _).trans (if_neg distinct)

end Tables

variable {account other : String}

/-! ## Transactions of other accounts -/

namespace Volumes

theorem spares_totalOf (era : Int) (t : Tables) : t.Spares account (totalOf era) := by
  apply (commutes_lift _ _).bind
  intro column after _
  refine Commutes.get_bind ?_ rfl
  cases after.totals.get? column with
  | none => exact commutes_pure _ _
  | some cell => exact commutes_lift _ _

theorem spares_setCell (era : Int) (cell : String) (t : Tables) :
    t.Spares account (setCell era cell) :=
  (commutes_lift _ _).bind fun _ _ _ => ⟨rfl, rfl⟩

theorem spares_accumulate (era : Int) (delta : Amount) (t : Tables) :
    t.Spares account (accumulate era delta) :=
  (spares_totalOf era t).bind fun _ _ _ => (commutes_liftLedger _ _).bind fun _ _ _ =>
    (spares_setCell _ _ _).bind fun _ _ _ => commutes_pure _ _

end Volumes

namespace Records

theorem spares_contains (distinct : other ≠ account) (t : Tables) :
    t.Spares account (contains other) := by
  refine Commutes.get_bind (commutes_pure _ _) ?_
  simp only [Table.contains, Tables.get?_dropRecord distinct]

theorem spares_find (distinct : other ≠ account) (t : Tables) : t.Spares account (find other) := by
  refine Commutes.get_bind ?_ ?_
  · cases t.rewards.get? other with
    | none => exact commutes_pure _ _
    | some row => exact commutes_lift _ _
  · simp only [Tables.get?_dropRecord distinct]

theorem spares_put (distinct : other ≠ account) (r : Reward) (t : Tables) :
    t.Spares account (put other r) := by
  apply (commutes_lift _ _).bind
  intro column after _
  constructor
  · simp only [run_modify, Tables.dropRecord, Table.insert_erase_of_ne _ distinct]
  · simp [run_modify, Ne.symm distinct]

theorem spares_drop (distinct : other ≠ account) (t : Tables) : t.Spares account (drop other) := by
  constructor
  · simp only [drop, run_modify, Tables.dropRecord, Table.erase_comm _ other]
  · simp [drop, run_modify, Ne.symm distinct]

theorem spares_preview (distinct : other ≠ account) (budget era : Int) (incoming : Amount)
    (t : Tables) : t.Spares account (preview budget other era incoming) := by
  apply (spares_find distinct t).bind
  intro r after _
  have totalled (closing : Bool) : after.Spares account (closedTotal closing r) :=
    .ite (fun _ => Volumes.spares_totalOf _ _) fun _ => commutes_pure _ _
  exact (totalled _).bind fun _ _ _ => (commutes_liftLedger _ _).bind fun _ _ _ => commutes_pure _ _

theorem spares_rotate (distinct : other ≠ account) (budget era : Int) (incoming : Amount)
    (t : Tables) : t.Spares account (rotate budget other era incoming) :=
  (spares_preview distinct _ _ _ _).bind fun _ _ _ => (spares_put distinct _ _).bind fun _ _ _ =>
    commutes_pure _ _

theorem spares_take (distinct : other ≠ account) (t : Tables) : t.Spares account (take other) := by
  apply (spares_contains distinct t).bind
  intro present after _
  refine .ite (fun _ => (spares_find distinct _).bind fun r _ _ => ?_) fun _ => commutes_throw _ _
  refine .ite (fun _ => ?_) fun _ => ?_
  · exact (spares_put distinct _ _).bind fun _ _ _ => commutes_pure _ _
  · exact (spares_drop distinct _).bind fun _ _ _ => commutes_pure _ _

end Records

theorem Balances.spares_within {α : Type} (step : BalanceStep α) (t : Tables) :
    t.Spares account (within step) := ⟨rfl, rfl⟩

/-- What follows on another account spares the account, if that can be stored at all. -/
theorem Account.spares_column {α : Type} {holder : Account} (distinct : holder ≠ account)
    {next : String → Transaction α} {t : Tables}
    (follows : ∀ name, name ≠ account → t.Spares account (next name)) :
    t.Spares account (liftM holder.column >>= next) := by
  apply (commutes_lift _ _).bind
  intro name after passed
  obtain ⟨bound, rfl⟩ := ok_of_run_lift passed
  obtain rfl := eq_named_of_column bound
  exact follows name fun same => distinct (congrArg named same)

namespace Service

variable (s : Service) {holder : Account}

theorem spares_book (distinct : holder ≠ account) (volume : Amount) (era : Int) (t : Tables) :
    t.Spares account (s.book holder volume era) :=
  (Volumes.spares_accumulate _ _ _).bind fun _ _ _ => Account.spares_column distinct
    fun _ apart => (Records.spares_rotate apart _ _ _ _).bind fun _ _ _ => commutes_pure _ _

theorem spares_payOut (distinct : holder ≠ account) (era : Int) (t : Tables) :
    t.Spares account (s.payOut holder era) := by
  apply Account.spares_column distinct
  intro name distinct
  apply (Records.spares_preview distinct _ _ _ _).bind
  intro rotation after _
  refine .ite (fun _ => commutes_pure _ _) fun _ => ?_
  exact (Records.spares_put distinct _ _).bind fun _ _ _ => (Records.spares_take distinct _).bind
    fun _ _ _ => ((Balances.spares_within _ _).adapt _).bind fun _ _ _ => commutes_pure _ _

end Service

/-! ## Transactions of the account itself -/

/-- The stored record of an account holds nothing but the era in which the account was last active. -/
def Tables.Emptied (t : Tables) (account : String) (lastEra : Int) : Prop :=
  ∃ row, t.rewards.get? account = some row ∧ Records.ofRow row = .ok ⟨0, 0, lastEra⟩

namespace Records

variable {t : Tables} {lastEra era : Int}

theorem find_run_of_emptied (emptied : t.Emptied account lastEra) :
    (find account).run.run t = (.ok ⟨0, 0, lastEra⟩, t) := by
  obtain ⟨row, found, read⟩ := emptied
  rw [find, run_bind, run_get]
  dsimp only
  rw [found]
  dsimp only
  rw [run_lift, read]

theorem find_run_dropRecord (account : String) (t : Tables) :
    (find account).run.run (t.dropRecord account) = (.ok ⟨0, 0, 0⟩, t.dropRecord account) :=
  find_run_of_absent ((Table.get?_erase _ _ _).trans (if_pos rfl))

/-- Records of zeros turn alike to any era that is not before theirs. -/
theorem preview_run_of_zeros
    (found : (find account).run.run t = (.ok ⟨0, 0, lastEra⟩, t)) (lastEra_le : lastEra ≤ era)
    (budget : Int) (incoming : Amount) :
    (preview budget account era incoming).run.run t =
      (.ok ⟨0, false, ⟨0, incoming.val, era⟩⟩, t) := by
  have open_ : ¬(era ≠ lastEra ∧ 0 < (0 : Int)) := by omega
  rw [preview_run_of_open found open_]
  rcases lastEra_le.eq_or_lt with rfl | later
  · have bounded : (0 : Int) + incoming.val ≤ maxAmount := by
      have := incoming.le_max
      omega
    rw [Reward.rotation_of_eq rfl, Amount.checkedSum_eq_ok_iff.2 ⟨bounded, rfl⟩]
    simp [Except.map, Except.mapError]
  · rw [Reward.rotation_of_idle later rfl]
    rfl

/-- A turned record of zeros is written over its row as it is written where the row is missing. -/
theorem rotate_run_dropRecord (emptied : t.Emptied account lastEra) (lastEra_le : lastEra ≤ era)
    (era_nonneg : 0 ≤ era) (era_le : era ≤ maxTick) (budget : Int) (volume : Amount) :
    (rotate budget account era volume).run.run (t.dropRecord account) =
      (rotate budget account era volume).run.run t := by
  have storable : Reward.Storable ⟨0, volume.val, era⟩ :=
    ⟨le_rfl, Int.natCast_nonneg _, Int.natCast_nonneg _, Int.ofNat_le.2 volume.le_max, era_nonneg,
      era_le⟩
  have overwritten : (t.dropRecord account).setRecord account ⟨0, volume.val, era⟩ =
      t.setRecord account ⟨0, volume.val, era⟩ := by
    simp only [Tables.setRecord, Tables.dropRecord, Table.insert_erase]
  rw [rotate, run_bind, run_bind, preview_run_of_zeros (find_run_of_emptied emptied) lastEra_le,
    preview_run_of_zeros (find_run_dropRecord account t) era_nonneg]
  dsimp only
  rw [run_bind, run_bind, put_run storable, put_run storable, overwritten]

end Records

namespace Service

variable {s : Service} {t : Tables} {lastEra era : Int}

theorem spares_payOut_of_emptied (emptied : t.Emptied account lastEra) (lastEra_le : lastEra ≤ era)
    (era_nonneg : 0 ≤ era) : t.Spares account (s.payOut account era) := by
  have settled {e : Int} (le : e ≤ era) : era = e ∨ e < era ∧ (0 : Int) = 0 := by omega
  have kept := payOut_run_of_nothing (s := s) (Records.find_run_of_emptied emptied) rfl
    (Int.natCast_nonneg _) (settled lastEra_le)
  have dropped := payOut_run_of_nothing (s := s) (Records.find_run_dropRecord account t) rfl
    (Int.natCast_nonneg _) (settled era_nonneg)
  exact ⟨by rw [kept, dropped], by rw [kept]⟩

/-- A report of the account fails alike with and without the row, or leaves the same tables. -/
theorem book_run_dropRecord (emptied : t.Emptied account lastEra) (lastEra_le : lastEra ≤ era)
    (era_nonneg : 0 ≤ era) (era_le : era ≤ maxTick) (volume : Amount) :
    (s.book account volume era).run.run (t.dropRecord account) =
        (s.book account volume era).run.run t ∨
      ∃ failure after after', (s.book account volume era).run.run t = (.error failure, after) ∧
        (s.book account volume era).run.run (t.dropRecord account) = (.error failure, after') := by
  have spares : t.Spares account (Volumes.accumulate era volume) :=
    Volumes.spares_accumulate era volume t
  have dropped := spares.run_eq
  have kept := spares.view_eq
  rw [book_named, run_bind, run_bind, dropped]
  rcases added : (Volumes.accumulate era volume).run.run t with ⟨failure | total, after⟩
  · exact .inr ⟨failure, after, _, rfl, rfl⟩
  · rw [added] at kept
    have emptied_after : after.Emptied account lastEra := by
      rw [Tables.Emptied, kept]
      exact emptied
    left
    dsimp only
    rw [run_bind, run_bind,
      Records.rotate_run_dropRecord emptied_after lastEra_le era_nonneg era_le _ volume]

end Service

/-! ## Calls -/

/-- The node without the record of an account. -/
def Node.forget (account : String) (node : Node) : Node :=
  node.on { node.database with tables := node.database.tables.dropRecord account }

namespace Node

variable {α : Type}

/-- An action does not depend on the row of an account and leaves it alone. -/
abbrev Spares (account : String) (action : Action α) (node : Node) : Prop :=
  Commutes (forget account) (fun node => node.database.tables.rewards.get? account) action node

theorem spares_now (node : Node) : node.Spares account now := ⟨rfl, rfl⟩

theorem spares_count (name : String) (node : Node) : node.Spares account (count name) := ⟨rfl, rfl⟩

theorem spares_gauge (name : String) (value : Int) (node : Node) :
    node.Spares account (gauge name value) := ⟨rfl, rfl⟩

theorem spares_record (name : String) (fields : List (String × Value)) (node : Node) :
    node.Spares account (record name fields) := ⟨rfl, rfl⟩

theorem spares_announce (event : RewardClaimed) (node : Node) :
    node.Spares account (announce event) := ⟨rfl, rfl⟩

variable {transaction : Transaction α} {node : Node}

theorem write_forget (spares : node.database.tables.Spares account transaction) :
    (node.forget account).database.write transaction =
        ((node.database.write transaction).1,
          { (node.database.write transaction).2 with
            tables := (node.database.write transaction).2.tables.dropRecord account }) ∧
      (node.database.write transaction).2.tables.rewards.get? account =
        node.database.tables.rewards.get? account := by
  obtain ⟨⟨t, contention⟩, clock, sink, metrics, log⟩ := node
  have dropped := spares.run_eq
  have kept := spares.view_eq
  simp only [forget, Node.on, Database.write]
  cases contention.refusal? with
  | some failure => exact ⟨rfl, rfl⟩
  | none =>
      dsimp only at dropped kept ⊢
      rw [dropped]
      rcases run_eq : transaction.run.run t with ⟨failure | result, after⟩
      · exact ⟨rfl, rfl⟩
      · rw [run_eq] at kept
        exact ⟨rfl, kept⟩

theorem spares_attempt (spares : node.database.tables.Spares account transaction) :
    node.Spares account (attempt transaction) := by
  obtain ⟨written, kept⟩ := write_forget spares
  constructor
  · rw [attempt, run_mk, run_mk, written]
    rfl
  · exact kept

theorem spares_commit (spares : node.database.tables.Spares account transaction) :
    node.Spares account (commit transaction) := by
  apply (spares_attempt spares).bind
  intro outcome after _
  cases outcome with
  | error failure => exact commutes_throw _ _
  | ok result => exact commutes_pure _ _

theorem spares_read (spares : node.database.tables.Spares account transaction) :
    node.Spares account (read transaction) := by
  refine ⟨?_, rfl⟩
  have dropped := congrArg Prod.fst spares.run_eq
  exact Prod.ext dropped rfl

end Node

namespace Service

variable {s : Service} {node : Node} {lastEra : Int}

/-- A report that is not zero books for another account than the one without a record. -/
theorem spares_recordVolume {by_ volume at_ : Value}
    (elsewhere : ∀ holder amount era, s.reportOf by_ volume at_ = .ok (holder, amount, era) →
      amount.val ≠ 0 → holder ≠ account) :
    node.Spares account (s.recordVolume by_ volume at_) := by
  apply (commutes_liftLedger _ _).bind
  rintro ⟨holder, amount, era⟩ after passed
  obtain ⟨asked, rfl⟩ := ok_of_run_liftLedger passed
  refine .ite (fun _ => commutes_pure _ _) fun something => ?_
  have distinct := elsewhere holder amount era asked something
  apply (Node.spares_commit (s.spares_book distinct _ _ _)).bind
  rintro ⟨total, rotation⟩ _ _
  exact (Node.spares_count _ _).bind fun _ _ _ => (Node.spares_gauge _ _ _).bind fun _ _ _ =>
    (Node.spares_record _ _ _).bind fun _ _ _ => .ite
      (fun _ => (Node.spares_count _ _).bind fun _ _ _ => (Node.spares_record _ _ _).bind fun _ _ _ =>
        commutes_pure _ _)
      fun _ => commutes_pure _ _

theorem spares_claimTick (at_ : Value) (node : Node) : node.Spares account (claimTick at_) := by
  cases at_ with
  | null => exact (Node.spares_now node).map _
  | _ => exact commutes_pure _ _

theorem spares_reportRollback (holder : Account) (era : Int) (failure : Failure) (node : Node) :
    node.Spares account (reportRollback holder era failure) := by
  cases failure with
  | ledger error => exact (Node.spares_count _ _).bind fun _ _ _ => Node.spares_record _ _ _
  | _ => exact commutes_pure _ _

theorem spares_reportPayOut (holder : Account) (era : Int)
    (outcome : Except Failure (Int × Rotation)) (node : Node) :
    node.Spares account (reportPayOut holder era outcome) := by
  cases outcome with
  | error failure =>
      exact (spares_reportRollback holder era failure node).bind fun _ _ _ => commutes_throw _ _
  | ok paid =>
      have announced (node : Node) : node.Spares account
          (do Node.announce ⟨holder.toValue, .int paid.1⟩; return paid.1) :=
        (Node.spares_announce _ _).bind fun _ _ _ => commutes_pure _ _
      refine .ite (fun _ => (Node.spares_count _ _).bind fun _ _ _ => announced _) fun _ =>
        (Node.spares_count _ _).bind fun _ _ _ => .ite (fun _ => ?_) fun _ => ?_
      · exact (Node.spares_count _ _).bind fun _ _ _ => (Node.spares_record _ _ _).bind fun _ _ _ =>
          announced _
      · exact (Node.spares_record _ _ _).bind fun _ _ _ => announced _

theorem claimOf_of_ok {by_ at_ tick : Value} {clock : Clock} {holder : Account} {era : Int}
    (named : accountOfValue by_ = .ok holder) (ticked : tickOf at_ clock = .ok tick)
    (dated : s.parameters.eraOf tick = .ok era) : s.claimOf by_ at_ clock = .ok (holder, era) := by
  rw [claimOf, named, ticked]
  simp only [bind, Except.bind, liftM, monadLift, MonadLift.monadLift, dated]
  rfl

/-- A claim does not depend on a record of zeros, not even the claim of its own account. -/
theorem spares_claim (emptied : node.database.tables.Emptied account lastEra) {by_ at_ : Value}
    (later : ∀ era, s.claimOf by_ at_ node.clock = .ok (account, era) → lastEra ≤ era) :
    node.Spares account (s.claim by_ at_) := by
  apply (commutes_liftLedger _ _).bind
  intro holder unchanged passed
  obtain ⟨named, rfl⟩ := ok_of_run_liftLedger passed
  apply (spares_claimTick at_ _).bind
  intro tick after passed
  obtain ⟨asked, tick_run, kept⟩ := claimTick_run at_ unchanged
  obtain ⟨ticked, rfl⟩ := Prod.mk.inj (tick_run.symm.trans passed)
  apply (commutes_liftLedger _ _).bind
  intro era _ passed
  obtain ⟨dated, rfl⟩ := ok_of_run_liftLedger passed
  refine Commutes.bind (Node.spares_attempt ?_) fun _ _ _ => spares_reportPayOut holder era _ _
  by_cases own : holder = account
  · subst own
    rw [kept]
    exact spares_payOut_of_emptied emptied (later era (claimOf_of_ok named ticked dated))
      (Parameters.eraOf_bounds dated).1
  · exact s.spares_payOut own era _

theorem spares_rewardOf {asked : Value} (elsewhere : accountOfValue asked ≠ .ok account) :
    node.Spares account (rewardOf asked) := by
  apply (commutes_liftLedger _ _).bind
  intro holder after passed
  obtain ⟨named, rfl⟩ := ok_of_run_liftLedger passed
  have distinct : holder ≠ account := by
    rintro rfl
    exact elsewhere named
  exact Node.spares_read (Account.spares_column distinct fun _ apart => Records.spares_find apart _)

theorem rewardOf_run {asked : Value} (own : accountOfValue asked = .ok account) (node : Node) :
    (rewardOf asked).run.run node =
      (((Records.find account).run.run node.database.tables).1, node) := by
  rw [rewardOf, run_bind, run_liftLedger, own]
  rfl

/-- Nothing is confirmed in a record of zeros, nor without a record. -/
theorem spares_confirmedOf (emptied : node.database.tables.Emptied account lastEra) (asked : Value) :
    node.Spares account (confirmedOf asked) := by
  by_cases own : accountOfValue asked = .ok account
  · have kept := rewardOf_run own node
    have dropped := rewardOf_run own (node.forget account)
    rw [Records.find_run_of_emptied emptied] at kept
    rw [Node.forget, Node.on, Records.find_run_dropRecord] at dropped
    constructor
    · rw [confirmedOf, run_bind, run_bind, kept, Node.forget, Node.on, dropped]
      rfl
    · rw [confirmedOf, run_bind, kept]
      rfl
  · exact (spares_rewardOf own).bind fun _ _ _ => commutes_pure _ _

theorem spares_totalVolume (at_ : Value) (node : Node) : node.Spares account (s.totalVolume at_) :=
  (commutes_liftLedger _ _).bind fun _ _ _ => Node.spares_read (Volumes.spares_totalOf _ _)

theorem spares_balanceOf (asked token : Value) (node : Node) :
    node.Spares account (s.balanceOf asked token) := by
  apply (commutes_liftLedger _ _).bind
  intro holder after _
  have looked_up (token : Int) (node : Node) : node.Spares account
      (Node.read (Balances.within (do s.balances.balanceOf token holder (← get)))) :=
    Node.spares_read (Balances.spares_within _ _)
  cases token with
  | null => exact (commutes_pure _ _).bind fun _ _ _ => looked_up _ _
  | _ => exact (commutes_lift _ _).bind fun _ _ _ => looked_up _ _

/-- Without the row a report of the account fails alike, or leaves the same. -/
theorem write_book_forget (emptied : node.database.tables.Emptied account lastEra) {era : Int}
    (lastEra_le : lastEra ≤ era) (era_nonneg : 0 ≤ era) (era_le : era ≤ maxTick) (volume : Amount) :
    (node.forget account).database.write (s.book account volume era) =
        node.database.write (s.book account volume era) ∨
      ∃ failure contention,
        node.database.write (s.book account volume era) =
            (.error failure, ⟨node.database.tables, contention⟩) ∧
          (node.forget account).database.write (s.book account volume era) =
            (.error failure, ⟨node.database.tables.dropRecord account, contention⟩) := by
  obtain ⟨⟨t, contention⟩, clock, sink, metrics, log⟩ := node
  simp only [Node.forget, Node.on, Database.write]
  cases contention.refusal? with
  | some failure => exact .inr ⟨failure, contention, rfl, rfl⟩
  | none =>
      dsimp only
      obtain same | ⟨failure, after, after', kept, dropped⟩ :=
        book_run_dropRecord (s := s) emptied lastEra_le era_nonneg era_le volume
      · rw [same]
        rcases (s.book account volume era).run.run t with ⟨failure | result, after⟩
        · exact .inr ⟨failure, .free, rfl, rfl⟩
        · exact .inl rfl
      · rw [kept, dropped]
        exact .inr ⟨failure, .free, rfl, rfl⟩

/-- A report whose booking fails has done nothing else. -/
theorem recordVolume_run_of_error {by_ volume at_ : Value} {holder : Account} {amount : Amount}
    {era : Int} (asked : s.reportOf by_ volume at_ = .ok (holder, amount, era))
    (something : amount.val ≠ 0) {node : Node} {failure : Failure} {after : Database}
    (failed : node.database.write (s.book holder amount era) = (.error failure, after)) :
    (s.recordVolume by_ volume at_).run.run node = (.error failure, node.on after) := by
  rw [recordVolume, run_bind, run_liftLedger, asked]
  simp only [Except.mapError]
  rw [if_neg something, run_bind, Node.commit_run, failed]
  rfl

theorem recordVolume_forget (emptied : node.database.tables.Emptied account lastEra)
    {by_ volume at_ : Value} {amount : Amount} {era : Int}
    (asked : s.reportOf by_ volume at_ = .ok (account, amount, era)) (something : amount.val ≠ 0)
    (lastEra_le : lastEra ≤ era) :
    (s.recordVolume by_ volume at_).run.run (node.forget account) =
        (s.recordVolume by_ volume at_).run.run node ∨
      ((s.recordVolume by_ volume at_).run.run node).1.toOption = none ∧
        node.Spares account (s.recordVolume by_ volume at_) := by
  obtain ⟨era_nonneg, era_le⟩ := Parameters.eraOf_bounds (reportOf_eq_ok asked).2.2
  obtain same | ⟨failure, contention, kept, dropped⟩ :=
    write_book_forget (s := s) emptied lastEra_le era_nonneg era_le amount
  · left
    rw [recordVolume, run_bind, run_bind, run_liftLedger, run_liftLedger, asked]
    simp only [Except.mapError]
    rw [if_neg something, run_bind, run_bind, Node.commit_run, Node.commit_run, same]
    rfl
  · right
    have kept_run := recordVolume_run_of_error asked something kept
    have dropped_run := recordVolume_run_of_error asked something dropped
    refine ⟨by rw [kept_run]; rfl, ?_, ?_⟩
    · rw [kept_run, dropped_run]
      rfl
    · rw [kept_run]
      rfl

end Service

/-! ## Runs -/

/-- Calls that ask for the whole record of an account. -/
def Call.AsksRecord (account : String) : Call → Prop
  | .rewardOf asked => accountOfValue asked = .ok account
  | _ => False

namespace Service

variable (s : Service)

/-- What a call asks for at a reading of the clock, if it is a report or a claim that is accepted, for
an account that can be stored. -/
def requestAt (clock : Clock) : Call → Option Request
  | .recordVolume account volume at_ => s.requestOf (.recordVolume account volume at_)
  | .claim account at_ => do
    let (.named name, era) ← (s.claimOf account at_ clock).toOption | none
    return .claim name era
  | _ => none

/-- No report and no claim of an account in a run goes back before an era. -/
def NotBefore (account : String) (lastEra : Int) : List Turn → Node → Prop
  | [], _ => True
  | turn :: turns, node =>
    (∀ request ∈ s.requestAt node.clock turn.call, request.account = account →
      lastEra ≤ request.era) ∧
      NotBefore account lastEra turns (s.serve turn node)

variable {s} {node : Node} {lastEra : Int} {turn : Turn}

theorem NotBefore.append {first rest : List Turn}
    (notBefore : s.NotBefore account lastEra (first ++ rest) node) :
    s.NotBefore account lastEra first node ∧ s.NotBefore account lastEra rest (s.run first node) := by
  induction first generalizing node with
  | nil => exact ⟨trivial, notBefore⟩
  | cons turn turns induction =>
      obtain ⟨head, tail⟩ := notBefore
      obtain ⟨turns_notBefore, rest_notBefore⟩ := induction tail
      exact ⟨⟨head, turns_notBefore⟩, rest_notBefore⟩

/-- Calls spare a record of zeros, except for a report of its account and a question for the record. -/
theorem spares_answer (emptied : node.database.tables.Emptied account lastEra) {call : Call}
    (later : ∀ request ∈ s.requestAt node.clock call, request.account = account →
      lastEra ≤ request.era)
    (unasked : ¬call.AsksRecord account)
    (unreported : ∀ amount era, s.requestAt node.clock call = some (.report account amount era) →
      amount.val = 0) :
    node.Spares account (s.answer call) := by
  cases call with
  | recordVolume by_ volume at_ =>
      refine (spares_recordVolume ?_).map _
      rintro holder amount era asked something rfl
      exact something (unreported amount era (by rw [requestAt, requestOf, asked]; rfl))
  | claim by_ at_ =>
      refine (spares_claim emptied ?_).map _
      intro era asked
      exact later (.claim account era) (by rw [requestAt, asked]; rfl) rfl
  | totalVolume at_ => exact (spares_totalVolume at_ node).map _
  | rewardOf asked => exact (spares_rewardOf unasked).map _
  | confirmedOf asked => exact (spares_confirmedOf emptied asked).map _
  | balanceOf asked token => exact (spares_balanceOf asked token node).map _
  | eraOf tick => exact (commutes_liftLedger _ _).bind fun _ _ _ => commutes_pure _ _
  | now => exact (Node.spares_now node).map _

/-- A report of the account comes to the same node, or fails alike and spares the record. -/
theorem answer_report_forget (emptied : node.database.tables.Emptied account lastEra) {call : Call}
    {amount : Amount} {era : Int}
    (reported : s.requestAt node.clock call = some (.report account amount era))
    (something : amount.val ≠ 0) (lastEra_le : lastEra ≤ era) :
    (s.answer call).run.run (node.forget account) = (s.answer call).run.run node ∨
      ((s.answer call).run.run node).1.toOption = none ∧ node.Spares account (s.answer call) := by
  cases call with
  | recordVolume by_ volume at_ =>
      obtain ⟨name, measured, dated, asked, request_eq⟩ := requestOf_recordVolume reported
      cases request_eq
      obtain same | ⟨failed, spares⟩ := recordVolume_forget emptied asked something lastEra_le
      · exact .inl (by rw [answer, run_map, run_map, same])
      · refine .inr ⟨?_, spares.map _⟩
        rw [answer, run_map]
        cases outcome : ((s.recordVolume by_ volume at_).run.run node).1 with
        | error failure => rfl
        | ok result =>
            rw [outcome] at failed
            cases failed
  | claim by_ at_ =>
      rw [requestAt] at reported
      obtain ⟨⟨holder, dated⟩, -, request_eq⟩ := Option.bind_eq_some_iff.1 reported
      cases holder <;> cases request_eq
  | _ => cases reported

/-- Every call but a question for the record itself comes to the same with and without the record of
zeros, or spares it. -/
theorem answer_forget (emptied : node.database.tables.Emptied account lastEra) {call : Call}
    (later : ∀ request ∈ s.requestAt node.clock call, request.account = account →
      lastEra ≤ request.era)
    (unasked : ¬call.AsksRecord account) :
    (s.answer call).run.run (node.forget account) = (s.answer call).run.run node ∨
      node.Spares account (s.answer call) := by
  by_cases reports : ∃ amount era,
      s.requestAt node.clock call = some (.report account amount era) ∧ amount.val ≠ 0
  · obtain ⟨amount, era, reported, something⟩ := reports
    have lastEra_le := later _ reported rfl
    exact (answer_report_forget emptied reported something lastEra_le).imp_right And.right
  · right
    apply spares_answer emptied later unasked
    intro amount era reported
    by_contra something
    exact reports ⟨amount, era, reported, something⟩

/-- A question for the record leaves the node as it is. -/
theorem answer_rewardOf_run {asked : Value} (own : accountOfValue asked = .ok account) (node : Node) :
    ((s.answer (.rewardOf asked)).run.run node).2 = node := by
  rw [answer, run_map, rewardOf_run own]

/-- One call: both nodes give the same answer, unless the call asks for the record itself. -/
theorem reply_forget (emptied : node.database.tables.Emptied account lastEra)
    (later : ∀ request ∈ s.requestAt node.clock turn.call, request.account = account →
      lastEra ≤ request.era)
    (unasked : ¬turn.call.AsksRecord account) :
    s.reply turn (node.forget account) = s.reply turn node := by
  have facing_emptied : (node.facing turn.contention).database.tables.Emptied account lastEra :=
    emptied
  obtain same | spares := answer_forget facing_emptied later unasked
  · exact congrArg Prod.fst same
  · have answer_eq := congrArg Prod.fst spares.run_eq
    exact answer_eq

/-- One call: the node without the record of zeros stays without it, or the two become the same. -/
theorem serve_forget (emptied : node.database.tables.Emptied account lastEra)
    (later : ∀ request ∈ s.requestAt node.clock turn.call, request.account = account →
      lastEra ≤ request.era) :
    s.serve turn (node.forget account) = s.serve turn node ∨
      s.serve turn (node.forget account) = (s.serve turn node).forget account ∧
        (s.serve turn node).database.tables.Emptied account lastEra := by
  have facing_emptied : (node.facing turn.contention).database.tables.Emptied account lastEra :=
    emptied
  by_cases asks : turn.call.AsksRecord account
  · obtain ⟨contention, call⟩ := turn
    cases call with
    | rewardOf asked =>
        right
        rw [serve, serve, answer_rewardOf_run asks, answer_rewardOf_run asks]
        exact ⟨rfl, emptied⟩
    | _ => cases asks
  · obtain same | spares := answer_forget facing_emptied later asks
    · exact .inl (congrArg Prod.snd same)
    · refine .inr ⟨congrArg Prod.snd spares.run_eq, ?_⟩
      rw [Tables.Emptied, serve, spares.view_eq]
      exact emptied

/-- A report of the account that succeeds and is not zero leaves the same node. -/
theorem serve_report_forget (emptied : node.database.tables.Emptied account lastEra)
    {amount : Amount} {era : Int}
    (reported : s.requestAt node.clock turn.call = some (.report account amount era))
    (something : amount.val ≠ 0) (lastEra_le : lastEra ≤ era) {answer : Value}
    (answered : s.reply turn node = .ok answer) :
    s.serve turn (node.forget account) = s.serve turn node := by
  have facing_emptied : (node.facing turn.contention).database.tables.Emptied account lastEra :=
    emptied
  obtain same | ⟨failed, -⟩ := answer_report_forget facing_emptied reported something lastEra_le
  · exact congrArg Prod.snd same
  · rw [reply] at answered
    rw [answered] at failed
    cases failed

/-- A run: the node without the record of zeros stays without it, or the two become the same. -/
theorem run_forget (emptied : node.database.tables.Emptied account lastEra) {turns : List Turn}
    (notBefore : s.NotBefore account lastEra turns node) :
    s.run turns (node.forget account) = s.run turns node ∨
      s.run turns (node.forget account) = (s.run turns node).forget account ∧
        (s.run turns node).database.tables.Emptied account lastEra := by
  induction turns generalizing node with
  | nil => exact .inr ⟨rfl, emptied⟩
  | cons turn turns induction =>
      obtain ⟨later, rest⟩ := notBefore
      obtain same | ⟨apart, emptied_after⟩ := serve_forget emptied later
      · exact .inl (by rw [run, run, same])
      · rw [run, run, apart]
        exact induction emptied_after rest

end Service

@[simp] theorem Node.forget_forget (account : String) (node : Node) :
    (node.forget account).forget account = node.forget account := by
  simp only [forget, on, Tables.dropRecord, Table.erase_erase]

/-- A record of zeros may be dropped as long as no call of its account goes back before its era.
Every call but a question for the record itself is answered alike, the nodes differ at most in the
record, and once the account has reported volume they are the same. -/
theorem dropped_record_unobservable {s : Service} {node : Node} {account : String} {lastEra : Int}
    (emptied : node.database.tables.Emptied account lastEra) {turns : List Turn}
    (notBefore : s.NotBefore account lastEra turns node) :
    (∀ first turn rest, turns = first ++ turn :: rest → ¬turn.call.AsksRecord account →
      s.reply turn (s.run first (node.forget account)) = s.reply turn (s.run first node)) ∧
    (∀ first rest, turns = first ++ rest →
      (s.run first (node.forget account)).forget account = (s.run first node).forget account) ∧
    ∀ first turn rest amount era answer, turns = first ++ turn :: rest →
      s.requestAt (s.run first node).clock turn.call = some (.report account amount era) →
      amount.val ≠ 0 → s.reply turn (s.run first node) = .ok answer →
        ∀ more, s.run (first ++ turn :: more) (node.forget account) =
          s.run (first ++ turn :: more) node := by
  refine ⟨fun first turn rest turns_eq unasked => ?_, fun first rest turns_eq => ?_,
    fun first turn rest amount era answer turns_eq reported something answered more => ?_⟩
  · subst turns_eq
    obtain ⟨first_notBefore, later, -⟩ := notBefore.append
    obtain same | ⟨apart, emptied_after⟩ := Service.run_forget emptied first_notBefore
    · rw [same]
    · rw [apart]
      exact Service.reply_forget emptied_after later unasked
  · subst turns_eq
    obtain ⟨first_notBefore, -⟩ := notBefore.append
    obtain same | ⟨apart, -⟩ := Service.run_forget emptied first_notBefore
    · rw [same]
    · rw [apart, Node.forget_forget]
  · subst turns_eq
    obtain ⟨first_notBefore, later, -⟩ := notBefore.append
    rw [Service.run_append, Service.run_append, Service.run, Service.run]
    obtain same | ⟨apart, emptied_after⟩ := Service.run_forget emptied first_notBefore
    · rw [same]
    · rw [apart, Service.serve_report_forget emptied_after reported something
        (later _ reported rfl) answered]

/-- An account was active in the second era and has nothing left. -/
def Node.idle : Node :=
  Node.empty.on { Database.stamped with tables := Database.stamped.tables.setRecord "a" ⟨0, 0, 100⟩ }

/-- Another account reports in the first era; the account claims, asks what it has confirmed and
reports again. -/
def idleTurns : List Turn :=
  [⟨.free, .recordVolume (.text "b") (.int 10) (.int 50)⟩,
    ⟨.free, .claim (.text "a") (.int 120)⟩,
    ⟨.free, .confirmedOf (.text "a")⟩,
    ⟨.free, .recordVolume (.text "a") (.int 5) (.int 150)⟩]

theorem dropped_record_unobservable_sample :
    let claimed := Service.sample.run (idleTurns.take 2)
    (claimed Node.idle).database.tables.rewards.get? "a" = some ⟨"0", "0", 100⟩ ∧
      (claimed (Node.idle.forget "a")).database.tables.rewards.get? "a" = none ∧
      (claimed (Node.idle.forget "a")).forget "a" = (claimed Node.idle).forget "a" ∧
      Service.sample.reply ⟨.free, .confirmedOf (.text "a")⟩ (claimed (Node.idle.forget "a")) =
        Service.sample.reply ⟨.free, .confirmedOf (.text "a")⟩ (claimed Node.idle) ∧
      Service.sample.run idleTurns (Node.idle.forget "a") =
        Service.sample.run idleTurns Node.idle := by
  intro claimed
  have emptied : Node.idle.database.tables.Emptied "a" 100 :=
    ⟨⟨"0", "0", 100⟩, by decide +kernel, ok_of_toOption (by decide +kernel)⟩
  have notBefore : Service.sample.NotBefore "a" 100 idleTurns Node.idle := by
    refine ⟨?_, ?_, ?_, ?_, trivial⟩ <;> decide +kernel
  obtain ⟨answers, alike, joined⟩ := dropped_record_unobservable emptied notBefore
  have last_answer : Service.sample.reply ⟨.free, .recordVolume (.text "a") (.int 5) (.int 150)⟩
      (Service.sample.run (idleTurns.take 3) Node.idle) = .ok (.int 100) := by rfl
  exact ⟨by decide +kernel, by decide +kernel, alike (idleTurns.take 2) (idleTurns.drop 2) rfl,
    answers (idleTurns.take 2) _ (idleTurns.drop 3) rfl not_false,
    joined (idleTurns.take 3) _ [] ⟨5, by decide⟩ 100 (.int 100) rfl rfl (by decide) last_answer []⟩

end EraRewards
