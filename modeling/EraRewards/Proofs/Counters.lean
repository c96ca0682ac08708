import EraRewards.Proofs.EventTail

/-!
# Metrics and committed history

Counters follow the commits.  Volume that is booked, pending volume of an earlier era that is
converted, claims that are paid, claims that come to nothing and claims that are rolled back are each
counted once, when they happen, and nothing else is.
-/

namespace EraRewards

open Effect

/-! ## Counters and gauges -/

namespace Metrics

@[simp] theorem counter_increment (m : Metrics) (name other : String) :
    (m.increment name).counter other = m.counter other + if other = name then 1 else 0 := by
  rw [counter, increment, add, Table.get?_insert]
  by_cases own : other = name
  · rw [if_pos own, if_pos own, own]
    rfl
  · rw [if_neg own, if_neg own, add_zero]
    rfl

@[simp] theorem counter_set (m : Metrics) (name other : String) (value : Int) :
    (m.set name value).counter other = m.counter other := rfl

@[simp] theorem gauges_increment (m : Metrics) (name : String) :
    (m.increment name).gauges = m.gauges := rfl

@[simp] theorem gauges_set (m : Metrics) (name : String) (value : Int) :
    (m.set name value).gauges = m.gauges.insert name value := rfl

/-- Metrics that were told what came of a call: the era in which it has booked volume, the amount that
it has paid, whether it was rolled back and whether it has converted volume of an earlier era. -/
def told (m : Metrics) (booked paid : Option Int) (rolledBack converted : Bool) : Metrics :=
  let m := match booked with
    | some era => (m.increment "volume_records_total").set "last_volume_era" era
    | none => m
  let m := match paid with
    | some amount => m.increment (if amount = 0 then "claims_zero_total" else "claims_total")
    | none => m
  let m := if rolledBack then m.increment "claim_failures_total" else m
  if converted then m.increment "rotations_total" else m

variable (m : Metrics) (booked paid : Option Int) (rolledBack converted : Bool)

theorem counter_told (name : String) :
    (m.told booked paid rolledBack converted).counter name = m.counter name +
      (if name = "volume_records_total" ∧ booked.isSome then 1 else 0) +
      (if name = "claims_zero_total" ∧ paid = some 0 then 1 else 0) +
      (if name = "claims_total" ∧ paid.isSome ∧ paid ≠ some 0 then 1 else 0) +
      (if name = "claim_failures_total" ∧ rolledBack then 1 else 0) +
      (if name = "rotations_total" ∧ converted then 1 else 0) := by
  rcases booked with _ | era <;> rcases paid with _ | amount <;> cases rolledBack <;>
    cases converted <;> simp [told] <;> grind

theorem gauges_told :
    (m.told booked paid rolledBack converted).gauges =
      match booked with
      | some era => m.gauges.insert "last_volume_era" era
      | none => m.gauges := by
  cases booked <;> cases paid <;> cases rolledBack <;> cases converted <;> rfl

end Metrics

theorem Reward.Turns.rotated_iff {r : Reward} {era incoming total budget : Int} {rotation : Rotation}
    (turns : r.Turns era incoming total budget rotation) :
    rotation.rotated = true ↔ r.lastEra < era ∧ 0 < r.pending := by
  cases turns with
  | same current bounded => simp [current]
  | idle later nothing => simp [nothing]
  | closing later something total_pos bounded => simp [later, something]

/-- Lines of the log about reports of volume. -/
def LogEntry.isVolumeRecorded : LogEntry → Bool
  | .event name _ => name == "volume_recorded"
  | .notice _ => false

/-! ## What calls contribute -/

namespace Service

variable (s : Service)

/-- The account, the volume and the era of a report of volume that succeeds and is not zero. -/
def booking (turn : Turn) (node : Node) : Option (String × Int × Int) :=
  match turn.call, s.reply turn node with
  | .recordVolume account volume _, .ok (.int era) => do
    let .named name ← (accountOfValue account).toOption | none
    let amount ← Amount.ofValue? volume
    guard (0 < amount.val)
    return (name, amount.val, era)
  | _, _ => none

/-- The account and the era of a call that commits something: volume that is booked or a reward that
is paid. -/
def commitment (turn : Turn) (node : Node) : Option (String × Int) :=
  match turn.call with
  | .recordVolume _ _ _ => (s.booking turn node).map fun booking => (booking.1, booking.2.2)
  | .claim account at_ => do
    let (name, amount) ← s.payment turn node
    guard (amount ≠ 0)
    let (_, era) ← (s.claimOf account at_ node.clock).toOption
    return (name, era)
  | _ => none

/-- The account of a call that commits something in a later era than that in which the account has
volume pending. -/
def conversion (turn : Turn) (node : Node) : Option String := do
  let (name, era) ← s.commitment turn node
  let found := node.database.tables.record name
  guard (found.lastEra < era ∧ 0 < found.pending)
  return name

/-- The account of a claim that is accepted and then fails by an error of the ledger. -/
def rollback (turn : Turn) (node : Node) : Option Account :=
  match turn.call, s.reply turn node with
  | .claim account at_, .error (.ledger _) =>
    (s.claimOf account at_ node.clock).toOption.map Prod.fst
  | _, _ => none

/-- The line of the log about a report of volume that succeeds and is not zero; the total is the one
that the report has left. -/
def volumeLine (turn : Turn) (node : Node) : Option LogEntry :=
  (s.booking turn node).map fun booking =>
    .volumeRecorded booking.1 booking.2.1 booking.2.2
      ((s.serve turn node).database.tables.total booking.2.2)

variable {s} {contention : Contention} {account volume at_ : Value} {node : Node}

/-- A report of volume is booked and told, or it contributes nothing and leaves everything but the
database as it was. -/
theorem booking_effect (contention : Contention) (account volume at_ : Value) (node : Node) :
    let turn : Turn := ⟨contention, .recordVolume account volume at_⟩
    (s.booking turn node = none ∧ ∃ after, s.serve turn node = (node.facing contention).on after) ∨
      ∃ name amount era rotation after,
        s.booking turn node = some (name, amount, era) ∧
        (rotation.rotated = true ↔ (node.database.tables.record name).lastEra < era ∧
          0 < (node.database.tables.record name).pending) ∧
        s.serve turn node = ((node.facing contention).on after).afterBooking name amount era
          (after.tables.total era) rotation := by
  dsimp only
  obtain ⟨reply_eq, serve_eq⟩ := s.outcome_recordVolume contention account volume at_ node
  obtain ⟨after, after_eq, zero⟩ | ⟨name, amount, era, total, rotation, after, asked, something,
    written, run_eq⟩ := s.recordVolume_effect account volume at_ (node.facing contention)
  · refine .inl ⟨?_, after, serve_eq.trans after_eq⟩
    rw [booking, reply_eq]
    cases answered : ((s.recordVolume account volume at_).run.run (node.facing contention)).1 with
    | error failure => rfl
    | ok era =>
        obtain ⟨holder, amount, asked, nothing⟩ := zero era answered
        obtain ⟨named, measured, -⟩ := reportOf_eq_ok asked
        cases holder <;> simp [Except.map, named, measured, nothing, Except.toOption]
  · obtain ⟨named, measured, -⟩ := reportOf_eq_ok asked
    have booked := Database.run_of_write written
    obtain ⟨-, -, turns, -, -⟩ := book_eq_ok booked
    have stored := (booked_of_book booked).total
    obtain ⟨total_eq, -⟩ := book_eq_ok booked
    refine .inr ⟨name, amount.val, era, rotation, after, ?_, turns.rotated_iff, ?_⟩
    · rw [booking, reply_eq, run_eq]
      simp [Except.map, named, measured, Except.toOption, Nat.pos_of_ne_zero something]
    · rw [serve_eq, run_eq, stored, ← total_eq]

theorem reportPayOut_metrics (account : Account) (era : Int)
    (outcome : Except Failure (Int × Rotation)) (node : Node) :
    ((reportPayOut account era outcome).run.run node).2.metrics =
      node.metrics.told none (outcome.toOption.map Prod.fst) (outcome matches .error (.ledger _))
        (outcome.toOption.any fun paid => paid.1 ≠ 0 ∧ paid.2.rotated = true) := by
  cases outcome with
  | error failure => cases failure <;> rfl
  | ok paid =>
      obtain ⟨amount, awarded, rotated, reward⟩ := paid
      by_cases nothing : amount = 0
      · subst nothing
        rfl
      · have told : node.metrics.told none (some amount) false (amount ≠ 0 ∧ rotated = true) =
            if rotated then (node.metrics.increment "claims_total").increment "rotations_total"
            else node.metrics.increment "claims_total" := by
          simp [Metrics.told, nothing]
        refine Eq.trans ?_ told.symm
        rw [reportPayOut, if_neg nothing]
        cases rotated <;> rfl

theorem log_announce (event : RewardClaimed) (node : Node) :
    ∃ lines, ((Node.announce event).run.run node).2.log = node.log ++ lines ∧
      ∀ line ∈ lines, line.isVolumeRecorded = false := by
  have announced : ((Node.announce event).run.run node).2.log =
      if (node.sink.emit event).2 then node.log
      else node.log ++ [.notice ("event sink failed for " ++ event.inspect)] := rfl
  rw [announced]
  split
  · exact ⟨[], (List.append_nil _).symm, fun _ listed => by cases listed⟩
  · exact ⟨_, rfl, fun line listed => by rw [List.mem_singleton.1 listed]; rfl⟩

theorem reportPayOut_log (account : Account) (era : Int)
    (outcome : Except Failure (Int × Rotation)) (node : Node) :
    ∃ lines, ((reportPayOut account era outcome).run.run node).2.log = node.log ++ lines ∧
      ∀ line ∈ lines, line.isVolumeRecorded = false := by
  cases outcome with
  | error failure =>
      cases failure with
      | ledger error =>
          exact ⟨[_], rfl, fun line listed => by rw [List.mem_singleton.1 listed]; rfl⟩
      | _ => exact ⟨[], (List.append_nil _).symm, fun _ listed => by cases listed⟩
  | ok paid =>
      obtain ⟨amount, awarded, rotated, reward⟩ := paid
      by_cases nothing : amount = 0
      · obtain ⟨lines, announced, unrelated⟩ := log_announce ⟨account.toValue, .int amount⟩
          { node with metrics := node.metrics.increment "claims_zero_total" }
        refine ⟨lines, ?_, unrelated⟩
        rw [reportPayOut, if_pos nothing]
        exact announced
      · let claimed : LogEntry := .event "reward_claimed"
          [("account", account.toValue), ("era", .int era), ("amount", .int amount),
            ("awarded", .int awarded)]
        obtain ⟨lines, announced, unrelated⟩ := log_announce ⟨account.toValue, .int amount⟩
          { node with log := node.log ++ [claimed] }
        refine ⟨claimed :: lines, ?_, List.forall_mem_cons.2 ⟨rfl, unrelated⟩⟩
        rw [reportPayOut, if_neg nothing, List.append_cons]
        cases rotated <;> exact announced

/-- A claim is told by what comes of its pay-out, or it contributes nothing and leaves everything but
database and clock as they were: then it is not accepted, or no column takes its account. -/
theorem payment_effect (contention : Contention) (account at_ : Value) (node : Node) :
    let turn : Turn := ⟨contention, .claim account at_⟩
    (s.payment turn node = none ∧ s.rollback turn node = none ∧
        ∃ database clock, s.serve turn node = { node with database, clock }) ∨
      ∃ (name : String) (era : Int) (outcome : Except Failure (Int × Rotation)) (after : Database)
          (clock : Clock),
        s.claimOf account at_ node.clock = .ok (name, era) ∧
        (node.facing contention).database.write (s.payOut name era) = (outcome, after) ∧
        s.payment turn node = (outcome.map fun paid => (name, paid.1)).toOption ∧
        s.rollback turn node =
          (if outcome matches .error (.ledger _) then some (name : Account) else none) ∧
        s.serve turn node = ((reportPayOut name era outcome).run.run
          { node.facing contention with database := after, clock }).2 := by
  dsimp only
  obtain ⟨reply_eq, serve_eq⟩ := s.outcome_claim contention account at_ node
  obtain ⟨clock, ⟨failure, refused, run_eq⟩ | ⟨holder, era, asked, run_eq⟩⟩ :=
    s.claim_effect account at_ (node.facing contention)
  · refine .inl ⟨?_, ?_, (node.facing contention).database, clock, ?_⟩
    · rw [payment, reply_eq, run_eq]
      rfl
    · have unaccepted : s.claimOf account at_ node.clock = .error failure := refused
      rw [rollback, reply_eq, run_eq]
      cases failure with
      | ledger error => exact congrArg (fun asked => asked.toOption.map Prod.fst) unaccepted
      | _ => rfl
    · rw [serve_eq, run_eq]
      rfl
  cases holder with
  | broken letters =>
      have failed := s.write_payOut_broken letters era (node.facing contention).database
      rcases written : (node.facing contention).database.write (s.payOut (.broken letters) era) with
        ⟨outcome, after⟩
      rw [written] at run_eq failed
      refine .inl ⟨?_, ?_, after, clock, ?_⟩
      · rw [payment, reply_eq, claim_broken asked]
        rfl
      · rw [rollback, reply_eq, claim_broken asked]
        cases contention <;> rfl
      · rw [serve_eq, run_eq, failed]
        cases contention <;> rfl
  | named name =>
      rcases written : (node.facing contention).database.write (s.payOut name era) with
        ⟨outcome, after⟩
      rw [written] at run_eq
      have named := (claimOf_eq_ok asked).1
      obtain ⟨last, reported, -⟩ := reportPayOut_run name era outcome
        { node.facing contention with database := after, clock }
      have accepted : s.claimOf account at_ node.clock = .ok (name, era) := asked
      refine .inr ⟨name, era, outcome, after, clock, accepted, written, ?_, ?_, ?_⟩
      · rw [payment_claim contention named, run_eq, reported]
        cases outcome <;> rfl
      · rw [rollback, reply_eq, run_eq, reported]
        cases outcome with
        | error failure =>
            cases failure with
            | ledger error => exact congrArg (fun asked => asked.toOption.map Prod.fst) accepted
            | _ => rfl
        | ok paid => rfl
      · rw [serve_eq, run_eq]

theorem conversion_isSome {turn : Turn} {name : String} {era : Int}
    (committed : s.commitment turn node = some (name, era)) :
    (s.conversion turn node).isSome = true ↔ (node.database.tables.record name).lastEra < era ∧
      0 < (node.database.tables.record name).pending := by
  simp only [conversion, committed]
  by_cases converts : (node.database.tables.record name).lastEra < era ∧
      0 < (node.database.tables.record name).pending <;> simp [converts]

theorem commitment_claim {contention : Contention} {account at_ : Value} {name : String}
    {era amount : Int} (asked : s.claimOf account at_ node.clock = .ok (name, era))
    (paid : s.payment ⟨contention, .claim account at_⟩ node = some (name, amount)) :
    s.commitment ⟨contention, .claim account at_⟩ node =
      if amount = 0 then none else some (name, era) := by
  simp only [commitment, paid, asked]
  by_cases nothing : amount = 0 <;> simp [nothing, Except.toOption]

theorem conversion_claim {contention : Contention} {account at_ : Value} {name : String}
    {era amount : Int} {rotation : Rotation} {after : Tables}
    (asked : s.claimOf account at_ node.clock = .ok (name, era))
    (paid : s.payment ⟨contention, .claim account at_⟩ node = some (name, amount))
    (run_eq : (s.payOut name era).run.run node.database.tables = (.ok (amount, rotation), after)) :
    (s.conversion ⟨contention, .claim account at_⟩ node).isSome =
      decide (amount ≠ 0 ∧ rotation.rotated = true) := by
  have committed := commitment_claim asked paid
  by_cases nothing : amount = 0
  · rw [if_pos nothing] at committed
    rw [conversion, committed, nothing]
    rfl
  · rw [if_neg nothing] at committed
    have rotated_iff := (payOut_eq_ok run_eq).1.rotated_iff
    rw [Bool.eq_iff_iff, conversion_isSome committed, ← rotated_iff]
    simp [nothing]

/-- The metrics are told what came of a call. -/
theorem metrics_serve (turn : Turn) (node : Node) :
    (s.serve turn node).metrics =
      node.metrics.told ((s.booking turn node).map fun booking => booking.2.2)
        ((s.payment turn node).map Prod.snd) (s.rollback turn node).isSome
        (s.conversion turn node).isSome := by
  obtain ⟨contention, call⟩ := turn
  by_cases asks : call.asks = true
  · obtain ⟨clock, after_eq⟩ := s.observes_answer asks (node.facing contention)
    rw [serve, after_eq]
    cases call with
    | claim => cases asks
    | recordVolume => cases asks
    | _ => rfl
  · cases call with
    | recordVolume account volume at_ =>
        obtain ⟨unbooked, after, serve_eq⟩ | ⟨name, amount, era, rotation, after, booked, rotated_iff,
          serve_eq⟩ := s.booking_effect contention account volume at_ node
        · have uncommitted : s.commitment ⟨contention, .recordVolume account volume at_⟩ node = none := by
            rw [commitment, unbooked]
            rfl
          rw [serve_eq, unbooked, conversion, uncommitted]
          rfl
        · have committed : s.commitment ⟨contention, .recordVolume account volume at_⟩ node =
              some (name, era) := by
            rw [commitment, booked]
            rfl
          have converted : (s.conversion ⟨contention, .recordVolume account volume at_⟩ node).isSome =
              rotation.rotated :=
            Bool.eq_iff_iff.2 ((conversion_isSome committed).trans rotated_iff.symm)
          rw [serve_eq, booked, converted, Node.afterBooking]
          cases rotation.rotated <;> rfl
    | claim account at_ =>
        obtain ⟨unpaid, kept, _, clock, serve_eq⟩ | ⟨name, era, outcome, after, clock, asked, written,
          paid, rolledBack, serve_eq⟩ := s.payment_effect contention account at_ node
        · have uncommitted : s.commitment ⟨contention, .claim account at_⟩ node = none := by
            rw [commitment, unpaid]
            rfl
          rw [serve_eq, unpaid, kept, conversion, uncommitted]
          rfl
        · rw [serve_eq, reportPayOut_metrics, rolledBack]
          cases outcome with
          | error failure =>
              have uncommitted : s.commitment ⟨contention, .claim account at_⟩ node = none := by
                rw [commitment, paid]
                rfl
              rw [paid, conversion, uncommitted]
              cases failure <;> rfl
          | ok result =>
              obtain ⟨amount, rotation⟩ := result
              have run_eq := Database.run_of_write written
              have converted : (s.conversion ⟨contention, .claim account at_⟩ node).isSome =
                  decide (amount ≠ 0 ∧ rotation.rotated = true) := conversion_claim asked paid run_eq
              rw [paid, converted]
              rfl
    | _ => cases asks rfl

/-- A report of volume that succeeds and is not zero is logged with the total that it has left; no other
call logs such a line. -/
theorem volumeLines_serve (turn : Turn) (node : Node) :
    (s.serve turn node).log.filter LogEntry.isVolumeRecorded =
      node.log.filter LogEntry.isVolumeRecorded ++ (s.volumeLine turn node).toList := by
  obtain ⟨contention, call⟩ := turn
  by_cases asks : call.asks = true
  · obtain ⟨clock, after_eq⟩ := s.observes_answer asks (node.facing contention)
    rw [serve, after_eq]
    cases call with
    | claim => cases asks
    | recordVolume => cases asks
    | _ => exact (List.append_nil _).symm
  · cases call with
    | recordVolume account volume at_ =>
        obtain ⟨unbooked, after, serve_eq⟩ | ⟨name, amount, era, rotation, after, booked, -, serve_eq⟩ :=
          s.booking_effect contention account volume at_ node
        · rw [volumeLine, unbooked, serve_eq]
          exact (List.append_nil _).symm
        · rw [volumeLine, booked, serve_eq, Node.afterBooking]
          cases rotation.rotated <;>
            simp [LogEntry.isVolumeRecorded, LogEntry.volumeRecorded, LogEntry.rewardRotated, Node.on,
              Node.facing]
    | claim account at_ =>
        have none_booked : s.volumeLine ⟨contention, .claim account at_⟩ node = none := rfl
        rw [none_booked, Option.toList_none, List.append_nil]
        obtain ⟨-, -, _, clock, serve_eq⟩ | ⟨name, era, outcome, after, clock, -, -, -, -, serve_eq⟩ :=
          s.payment_effect contention account at_ node
        · rw [serve_eq]
        · obtain ⟨lines, log_eq, unrelated⟩ := reportPayOut_log name era outcome
            { node.facing contention with database := after, clock }
          have left_out : lines.filter LogEntry.isVolumeRecorded = [] :=
            List.filter_eq_nil_iff.2 fun line listed => by simp [unrelated line listed]
          rw [serve_eq, log_eq, List.filter_append, left_out, List.append_nil]
          rfl
    | _ => cases asks rfl

/-! ## Runs -/

theorem sound_serve (sound : node.database.tables.Sound) (turn : Turn) :
    (s.serve turn node).database.tables.Sound := by
  have leaves := s.serve_leaves sound turn
  cases entry_eq : s.entryOf turn node with
  | none =>
      rw [entry_eq] at leaves
      have unchanged : (s.serve turn node).database.tables = node.database.tables := leaves
      rw [unchanged]
      exact sound
  | some entry =>
      rw [entry_eq] at leaves
      exact Commits.sound sound leaves

/-- On sound tables no claim pays less than nothing. -/
theorem payment_nonneg (sound : node.database.tables.Sound) {turn : Turn} {payment : String × Int}
    (paid : s.payment turn node = some payment) : 0 ≤ payment.2 := by
  obtain ⟨contention, call⟩ := turn
  cases call with
  | claim account at_ =>
      obtain ⟨unpaid, -, -⟩ | ⟨name, era, outcome, after, clock, -, written, paid_eq, -, -⟩ :=
        s.payment_effect contention account at_ node
      · cases unpaid.symm.trans paid
      · rw [paid_eq] at paid
        cases outcome with
        | error failure => cases paid
        | ok result =>
            obtain ⟨amount, rotation⟩ := result
            obtain rfl : (name, amount) = payment := Option.some.inj paid
            have run_eq := Database.run_of_write written
            obtain ⟨turns, amount_eq, -⟩ := payOut_eq_ok run_eq
            have confirmed_nonneg := (sound.storable name).confirmed_nonneg
            have awarded_nonneg := turns.awarded_nonneg (Int.natCast_nonneg _)
            rw [amount_eq, turns.confirmed_eq]
            exact add_nonneg confirmed_nonneg awarded_nonneg
  | _ => cases paid

theorem counter_run {α : Type} {contribution : Turn → Node → Option α} {name : String}
    (counts : α → Bool)
    (counted : ∀ turn node, (s.serve turn node).metrics.counter name =
      node.metrics.counter name + (contribution turn node).toList.countP counts)
    (turns : List Turn) (node : Node) :
    (s.run turns node).metrics.counter name =
      node.metrics.counter name + (s.chronicle contribution turns node).countP counts := by
  refine view_run (fun node => node.metrics.counter name)
    (fun shown entries => shown + entries.countP counts) add_zero (fun shown first second => ?_)
    counted turns node
  rw [List.countP_append, Nat.cast_add, add_assoc]

variable (s)

theorem bookings_run (turns : List Turn) (node : Node) :
    (s.run turns node).metrics.counter "volume_records_total" =
      node.metrics.counter "volume_records_total" + (s.chronicle s.booking turns node).length := by
  rw [← List.countP_true]
  refine counter_run _ (fun turn node => ?_) turns node
  rw [metrics_serve, Metrics.counter_told]
  cases s.booking turn node <;> simp

theorem conversions_run (turns : List Turn) (node : Node) :
    (s.run turns node).metrics.counter "rotations_total" =
      node.metrics.counter "rotations_total" + (s.chronicle s.conversion turns node).length := by
  rw [← List.countP_true]
  refine counter_run _ (fun turn node => ?_) turns node
  rw [metrics_serve, Metrics.counter_told]
  cases s.conversion turn node <;> simp

theorem rollbacks_run (turns : List Turn) (node : Node) :
    (s.run turns node).metrics.counter "claim_failures_total" =
      node.metrics.counter "claim_failures_total" + (s.chronicle s.rollback turns node).length := by
  rw [← List.countP_true]
  refine counter_run _ (fun turn node => ?_) turns node
  rw [metrics_serve, Metrics.counter_told]
  cases s.rollback turn node <;> simp

theorem emptyClaims_run (turns : List Turn) (node : Node) :
    (s.run turns node).metrics.counter "claims_zero_total" =
      node.metrics.counter "claims_zero_total" +
        (s.chronicle s.payment turns node).countP fun payment => payment.2 = 0 := by
  refine counter_run _ (fun turn node => ?_) turns node
  rw [metrics_serve, Metrics.counter_told]
  rcases s.payment turn node with _ | payment
  · simp
  · by_cases nothing : payment.2 = 0 <;> simp [nothing]

theorem paidClaims_run (turns : List Turn) {node : Node} (sound : node.database.tables.Sound) :
    (s.run turns node).metrics.counter "claims_total" =
      node.metrics.counter "claims_total" +
        (s.chronicle s.payment turns node).countP fun payment => 0 < payment.2 := by
  have kept (turn : Turn) (node : Node) (sound : node.database.tables.Sound) :
      (s.serve turn node).database.tables.Sound := sound_serve sound turn
  have positive : ∀ payment ∈ s.chronicle s.payment turns node,
      (decide (payment.2 ≠ 0) = true ↔ decide (0 < payment.2) = true) := by
    intro payment listed
    obtain ⟨turn, reached, reached_sound, paid⟩ := exists_of_mem_chronicle kept sound listed
    have nonneg := payment_nonneg reached_sound paid
    simp only [decide_eq_true_eq]
    omega
  rw [← List.countP_congr positive]
  refine counter_run _ (fun turn node => ?_) turns node
  rw [metrics_serve, Metrics.counter_told]
  rcases s.payment turn node with _ | payment
  · simp
  · by_cases nothing : payment.2 = 0 <;> simp [nothing]

theorem lastEra_run (turns : List Turn) (node : Node) :
    (s.run turns node).metrics.gauges.get? "last_volume_era" =
      ((s.chronicle s.booking turns node).map fun booking => booking.2.2).getLast?.or
        (node.metrics.gauges.get? "last_volume_era") := by
  refine view_run (fun node => node.metrics.gauges.get? "last_volume_era")
    (fun shown (bookings : List (String × Int × Int)) =>
      (bookings.map fun booking => booking.2.2).getLast?.or shown)
    (fun _ => rfl) (fun shown first second => ?_) (fun turn node => ?_) turns node
  · rw [List.map_append, List.getLast?_append, Option.or_assoc]
  · rw [metrics_serve, Metrics.gauges_told]
    cases s.booking turn node <;> simp

theorem volumeLines_run (turns : List Turn) (node : Node) :
    (s.run turns node).log.filter LogEntry.isVolumeRecorded =
      node.log.filter LogEntry.isVolumeRecorded ++ s.chronicle s.volumeLine turns node :=
  view_run (fun node => node.log.filter LogEntry.isVolumeRecorded) (· ++ ·) List.append_nil
    List.append_assoc volumeLines_serve turns node

/-- A report of volume that fails leaves the metrics as they were, and a claim that fails counts its
failure at most. -/
theorem metrics_serve_of_error {turn : Turn} {node : Node} {failure : Failure}
    (failed : s.reply turn node = .error failure) :
    (s.serve turn node).metrics = node.metrics ∨
      (∃ account at_, turn.call = .claim account at_) ∧
        (s.serve turn node).metrics = node.metrics.increment "claim_failures_total" := by
  obtain ⟨contention, call⟩ := turn
  have unbooked : s.booking ⟨contention, call⟩ node = none := by
    rw [booking, failed]
    cases call <;> rfl
  have unpaid : s.payment ⟨contention, call⟩ node = none := by
    rw [payment, failed]
    cases call <;> rfl
  have unconverted : s.conversion ⟨contention, call⟩ node = none := by
    rw [conversion, commitment, unbooked, unpaid]
    cases call <;> rfl
  have told := s.metrics_serve ⟨contention, call⟩ node
  rw [unbooked, unpaid, unconverted] at told
  rw [told]
  cases call with
  | claim account at_ =>
      cases s.rollback ⟨contention, .claim account at_⟩ node with
      | none => exact .inl rfl
      | some name => exact .inr ⟨⟨account, at_, rfl⟩, rfl⟩
  | _ => exact .inl rfl

/-- Counted from nothing on the tables of a deployment, the metrics of a run are those of what its
calls have committed, and each line of the log about volume shows the total that its report has left.
Of the calls that fail only claims are counted, and as failures. -/
theorem counters_eq_chronicle (origin fresh : Node) (steps : List Deployment.Step)
    (turns : List Turn) :
    let start : Node := { fresh with
      database := ((Deployment.new origin).run steps).node.database
      metrics := .empty }
    let last := s.run turns start
    let bookings := s.chronicle s.booking turns start
    let payments := s.chronicle s.payment turns start
    last.metrics.counter "volume_records_total" = bookings.length ∧
      last.metrics.counter "rotations_total" = (s.chronicle s.conversion turns start).length ∧
      last.metrics.counter "claims_total" = payments.countP (fun payment => 0 < payment.2) ∧
      last.metrics.counter "claims_zero_total" = payments.countP (fun payment => payment.2 = 0) ∧
      last.metrics.counter "claim_failures_total" = (s.chronicle s.rollback turns start).length ∧
      last.metrics.gauges.get? "last_volume_era" =
        (bookings.map fun booking => booking.2.2).getLast? ∧
      last.log.filter LogEntry.isVolumeRecorded =
        start.log.filter LogEntry.isVolumeRecorded ++ s.chronicle s.volumeLine turns start ∧
      ∀ turn node failure, s.reply turn node = .error failure →
        (s.serve turn node).metrics = node.metrics ∨
          (∃ account at_, turn.call = .claim account at_) ∧
            (s.serve turn node).metrics = node.metrics.increment "claim_failures_total" := by
  intro start last bookings payments
  have sound : start.database.tables.Sound := (History.deployed origin steps).sound
  have unset (name : String) : start.metrics.counter name = 0 := rfl
  have ungauged : start.metrics.gauges.get? "last_volume_era" = none := rfl
  refine ⟨?_, ?_, ?_, ?_, ?_, ?_, s.volumeLines_run turns start,
    fun turn node failure failed => s.metrics_serve_of_error failed⟩
  · rw [s.bookings_run turns start, unset, zero_add]
  · rw [s.conversions_run turns start, unset, zero_add]
  · rw [s.paidClaims_run turns sound, unset, zero_add]
  · rw [s.emptyClaims_run turns start, unset, zero_add]
  · rw [s.rollbacks_run turns start, unset, zero_add]
  · rw [s.lastEra_run turns start, ungauged, Option.or_none]

end Service
end EraRewards
