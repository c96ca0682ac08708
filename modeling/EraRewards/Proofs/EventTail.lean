import EraRewards.Proofs.Chronicle
import Mathlib.Data.List.DropRight

/-!
# The tail of events

The tail of events shows the claims that have succeeded, zero amounts included, the latest last: as many
of them as are asked for and as it keeps.  What a ledger answers and stores does not depend on the sink
that listens, whether it keeps events or refuses them.
-/

namespace EraRewards

open Effect

/-! ## Keeping the latest events -/

namespace RecentEvents

theorem rtake_rtake {α : Type} (l : List α) (m n : Nat) : (l.rtake m).rtake n = l.rtake (min n m) := by
  simp only [List.rtake_eq_reverse_take_reverse, List.reverse_reverse, List.take_take]

/-- One more event leaves the latest events, if those before it were the latest. -/
theorem events_push {recent : RecentEvents} {past : List RewardClaimed}
    (latest : recent.events = past.rtake recent.capacity) (event : RewardClaimed) :
    (recent.push event).events = (past ++ [event]).rtake recent.capacity := by
  obtain ⟨room, room_eq⟩ := Nat.exists_eq_succ_of_ne_zero recent.capacity_pos.ne'
  have pushed : (recent.push event).events = (recent.events ++ [event]).rtake recent.capacity := by
    rw [List.rtake, List.length_append]
    rfl
  rw [pushed, latest, room_eq, Nat.succ_eq_add_one, List.rtake_concat_succ, List.rtake_concat_succ,
    rtake_rtake, Nat.min_eq_left (Nat.le_succ room)]

/-- After some events the latest of them are kept. -/
theorem events_foldl_push (capacity : Int) (events : List RewardClaimed) :
    (events.foldl push (empty capacity)).events = events.rtake (max 1 capacity.toNat) ∧
      (events.foldl push (empty capacity)).capacity = max 1 capacity.toNat := by
  induction events using List.reverseRecOn with
  | nil => exact ⟨(List.rtake_nil _).symm, rfl⟩
  | append_singleton past event induction =>
      obtain ⟨latest, capacity_eq⟩ := induction
      rw [← capacity_eq] at latest
      rw [List.foldl_concat]
      exact ⟨(events_push latest event).trans (by rw [capacity_eq]), capacity_eq⟩

end RecentEvents

namespace Sink

/-- The sink after an event. -/
def hear (sink : Sink) (event : RewardClaimed) : Sink := (sink.emit event).1

theorem foldl_hear_recent (recent : RecentEvents) (events : List RewardClaimed) :
    events.foldl hear (.recent recent) = .recent (events.foldl RecentEvents.push recent) := by
  induction events generalizing recent with
  | nil => rfl
  | cons event events induction => exact induction (recent.push event)

end Sink

/-! ## Claims that have succeeded -/

namespace Service

variable (s : Service)

/-- The account that a call names and the amount that it answers, if it is a claim that succeeds. -/
def payment (turn : Turn) (node : Node) : Option (String × Int) :=
  match turn.call, s.reply turn node with
  | .claim account _, .ok (.int amount) => do
    let .named name ← (accountOfValue account).toOption | none
    return (name, amount)
  | _, _ => none

end Service

/-- The event of a claim that has succeeded. -/
def RewardClaimed.ofPayment (payment : String × Int) : RewardClaimed :=
  ⟨.text payment.1, .int payment.2⟩

namespace Service

variable {s : Service}

theorem payment_claim (contention : Contention) {account at_ : Value} {node : Node} {name : String}
    (named : accountOfValue account = .ok name) :
    s.payment ⟨contention, .claim account at_⟩ node =
      (((s.claim account at_).run.run (node.facing contention)).1.map fun amount =>
        (name, amount)).toOption := by
  rw [payment, (s.outcome_claim contention account at_ node).1]
  cases ((s.claim account at_).run.run (node.facing contention)).1 with
  | error failure => rfl
  | ok amount => simp [named, Except.map, Except.toOption]

/-- The sink hears of a claim that succeeds, and of nothing else. -/
theorem sink_serve (turn : Turn) (node : Node) :
    (s.serve turn node).sink =
      (s.payment turn node).toList.foldl (fun sink payment => sink.hear (.ofPayment payment))
        node.sink := by
  obtain ⟨contention, call⟩ := turn
  by_cases asks : call.asks = true
  · obtain ⟨clock, after_eq⟩ := s.observes_answer asks (node.facing contention)
    rw [serve, after_eq]
    cases call with
    | claim => cases asks
    | _ => rfl
  · cases call with
    | recordVolume account volume at_ =>
        rw [(s.outcome_recordVolume contention account volume at_ node).2]
        obtain ⟨after, after_eq, -⟩ | ⟨name, amount, era, total, rotation, after, -, -, -, run_eq⟩ :=
          s.recordVolume_effect account volume at_ (node.facing contention)
        · rw [after_eq]
          rfl
        · rw [run_eq, Node.afterBooking]
          split <;> rfl
    | claim account at_ =>
        obtain ⟨reply_eq, after_eq⟩ := s.outcome_claim contention account at_ node
        rw [after_eq]
        rcases outcome : (s.claim account at_).run.run (node.facing contention) with
          ⟨failure | amount, after⟩
        · have kept := (claim_kept_of_error (congrArg Prod.fst outcome)).2
          rw [outcome] at kept reply_eq
          rw [payment, reply_eq]
          exact kept
        · obtain ⟨name, era, rotation, asked, -⟩ := claim_eq_ok (congrArg Prod.fst outcome)
          have named := (claimOf_eq_ok asked).1
          have announced := claim_sink outcome named
          rw [payment_claim contention named, outcome]
          exact announced
    | _ => cases asks rfl

/-- The sink after a run has heard of the claims that succeeded, in their order. -/
theorem sink_run (turns : List Turn) (node : Node) :
    (s.run turns node).sink =
      ((s.chronicle s.payment turns node).map RewardClaimed.ofPayment).foldl Sink.hear node.sink := by
  rw [List.foldl_map]
  exact view_run Node.sink (List.foldl fun sink payment => sink.hear (.ofPayment payment))
    (fun _ => List.foldl_nil) (fun _ _ _ => List.foldl_append.symm) sink_serve turns node

end Service

/-! ## Ledgers that are heard differently -/

namespace Node

/-- Nodes that agree on everything that calls depend on. -/
structure Agree (first second : Node) : Prop where
  /-- The same database. -/
  database : first.database = second.database
  /-- The same clock. -/
  clock : first.clock = second.clock

/-- Steps that answer the same on nodes that agree, and leave them in agreement. -/
def Unaware {α : Type} (step : Action α) : Prop :=
  ∀ first second : Node, first.Agree second →
    (step.run.run first).1 = (step.run.run second).1 ∧
      (step.run.run first).2.Agree (step.run.run second).2

variable {α β : Type}

theorem unaware_pure (result : α) : Unaware (pure result) := fun _ _ agree => ⟨rfl, agree⟩

theorem unaware_throw (failure : Failure) : Unaware (throw failure : Action α) :=
  fun _ _ agree => ⟨rfl, agree⟩

theorem unaware_lift (outcome : Except Failure α) : Unaware (liftM outcome) :=
  fun _ _ agree => ⟨rfl, agree⟩

theorem unaware_liftLedger (outcome : Except LedgerError α) : Unaware (liftM outcome) :=
  fun _ _ agree => ⟨rfl, agree⟩

theorem unaware_read (transaction : Transaction α) : Unaware (read transaction) :=
  fun _ _ agree => ⟨congrArg (Database.read transaction) agree.database, agree⟩

theorem unaware_now : Unaware now :=
  fun _ _ agree => ⟨congrArg (fun clock : Clock => clock.next.toInt) agree.clock, agree.database,
    congrArg Clock.advance agree.clock⟩

theorem unaware_attempt (transaction : Transaction α) : Unaware (attempt transaction) :=
  fun _ _ agree =>
    ⟨congrArg (fun db : Database => Except.ok (db.write transaction).1) agree.database,
      congrArg (fun db : Database => (db.write transaction).2) agree.database, agree.clock⟩

theorem unaware_count (name : String) : Unaware (count name) :=
  fun _ _ agree => ⟨rfl, agree.database, agree.clock⟩

theorem unaware_gauge (name : String) (value : Int) : Unaware (gauge name value) :=
  fun _ _ agree => ⟨rfl, agree.database, agree.clock⟩

theorem unaware_record (name : String) (fields : List (String × Value)) :
    Unaware (record name fields) := fun _ _ agree => ⟨rfl, agree.database, agree.clock⟩

theorem unaware_announce (event : RewardClaimed) : Unaware (announce event) :=
  fun _ _ agree => ⟨rfl, agree.database, agree.clock⟩

theorem Unaware.bind {first : Action α} {next : α → Action β} (unaware : Unaware first)
    (follows : ∀ result, Unaware (next result)) : Unaware (first >>= next) := by
  intro one other agree
  have related := unaware one other agree
  rw [run_bind, run_bind]
  revert related
  rcases first.run.run one with ⟨outcome, one_after⟩
  rcases first.run.run other with ⟨same, other_after⟩
  rintro ⟨rfl, still⟩
  cases outcome with
  | error failure => exact ⟨rfl, still⟩
  | ok result => exact follows result one_after other_after still

theorem Unaware.map (f : α → β) {step : Action α} (unaware : Unaware step) :
    Unaware (f <$> step) := by
  rw [← bind_pure_comp]
  exact unaware.bind fun result => unaware_pure (f result)

theorem Unaware.ite {condition : Prop} [Decidable condition] {first second : Action α}
    (yes : Unaware first) (no : Unaware second) :
    Unaware (if condition then first else second) := by
  split
  · exact yes
  · exact no

theorem unaware_commit (transaction : Transaction α) : Unaware (commit transaction) := by
  refine (unaware_attempt transaction).bind fun outcome => ?_
  cases outcome with
  | error failure => exact unaware_throw failure
  | ok result => exact unaware_pure result

theorem Agree.facing {first second : Node} (agree : first.Agree second) (contention : Contention) :
    (first.facing contention).Agree (second.facing contention) :=
  ⟨congrArg (fun db : Database => { db with contention }) agree.database, agree.clock⟩

end Node

namespace Service

variable (s : Service)

theorem unaware_recordVolume (account volume at_ : Value) :
    Node.Unaware (s.recordVolume account volume at_) := by
  refine (Node.unaware_liftLedger _).bind fun request => .ite (Node.unaware_pure _) ?_
  refine (Node.unaware_commit _).bind fun booked => ?_
  exact (Node.unaware_count _).bind fun _ => (Node.unaware_gauge _ _).bind fun _ =>
    (Node.unaware_record _ _).bind fun _ => .ite ((Node.unaware_count _).bind fun _ =>
      (Node.unaware_record _ _).bind fun _ => Node.unaware_pure _) (Node.unaware_pure _)

theorem unaware_claimTick (at_ : Value) : Node.Unaware (claimTick at_) := by
  cases at_ with
  | null => exact Node.unaware_now.map _
  | _ => exact Node.unaware_pure _

theorem unaware_reportPayOut (account : Account) (era : Int)
    (outcome : Except Failure (Int × Rotation)) :
    Node.Unaware (reportPayOut account era outcome) := by
  cases outcome with
  | error failure =>
      refine Node.Unaware.bind ?_ fun _ => Node.unaware_throw failure
      cases failure with
      | ledger error => exact (Node.unaware_count _).bind fun _ => Node.unaware_record _ _
      | _ => exact Node.unaware_pure _
  | ok paid =>
      have announced : Node.Unaware
          (do Node.announce ⟨account.toValue, .int paid.1⟩; return paid.1) :=
        (Node.unaware_announce _).bind fun _ => Node.unaware_pure _
      refine .ite ((Node.unaware_count _).bind fun _ => announced) ?_
      refine (Node.unaware_count _).bind fun _ => .ite ?_ ?_
      · exact (Node.unaware_count _).bind fun _ => (Node.unaware_record _ _).bind fun _ => announced
      · exact (Node.unaware_record _ _).bind fun _ => announced

theorem unaware_claim (account at_ : Value) : Node.Unaware (s.claim account at_) :=
  (Node.unaware_liftLedger _).bind fun _ => (unaware_claimTick at_).bind fun _ =>
    (Node.unaware_liftLedger _).bind fun _ => (Node.unaware_attempt _).bind fun outcome =>
      unaware_reportPayOut _ _ outcome

theorem unaware_rewardOf (account : Value) : Node.Unaware (rewardOf account) :=
  (Node.unaware_liftLedger _).bind fun _ => Node.unaware_read _

theorem unaware_balanceOf (account token : Value) : Node.Unaware (s.balanceOf account token) := by
  refine (Node.unaware_liftLedger _).bind fun name => ?_
  cases token with
  | null => exact (Node.unaware_pure _).bind fun _ => Node.unaware_read _
  | _ => exact (Node.unaware_lift _).bind fun _ => Node.unaware_read _

theorem unaware_answer (call : Call) : Node.Unaware (s.answer call) := by
  cases call with
  | recordVolume account volume at_ => exact (s.unaware_recordVolume account volume at_).map _
  | claim account at_ => exact (s.unaware_claim account at_).map _
  | totalVolume at_ =>
      exact Node.Unaware.map _ ((Node.unaware_liftLedger _).bind fun _ => Node.unaware_read _)
  | rewardOf account => exact (unaware_rewardOf account).map _
  | confirmedOf account =>
      exact Node.Unaware.map _ ((unaware_rewardOf account).bind fun _ => Node.unaware_pure _)
  | balanceOf account token => exact (s.unaware_balanceOf account token).map _
  | eraOf tick => exact (Node.unaware_liftLedger _).bind fun _ => Node.unaware_pure _
  | now => exact Node.unaware_now.map _

/-- On nodes that agree, a run gets the same answers and leaves the same database. -/
theorem run_agree (turns : List Turn) {first second : Node} (agree : first.Agree second) :
    s.chronicle (fun turn node => some (s.reply turn node)) turns first =
        s.chronicle (fun turn node => some (s.reply turn node)) turns second ∧
      (s.run turns first).Agree (s.run turns second) := by
  induction turns generalizing first second with
  | nil => exact ⟨rfl, agree⟩
  | cons turn turns induction =>
      obtain ⟨same, after⟩ := s.unaware_answer turn.call _ _ (agree.facing turn.contention)
      obtain ⟨later, last⟩ := induction after
      refine ⟨?_, last⟩
      rw [chronicle, chronicle]
      exact congrArg₂ List.append (congrArg (fun reply => [reply]) same) later

/-- Started with an empty tail of events, a run leaves the claims that have succeeded in the tail, as
many of the latest as are asked for and kept.  With any other sink it gets the same answers and leaves
the same database. -/
theorem tail_eq_payments (turns : List Turn) (node : Node) (capacity limit : Int) :
    let watched := node.hearing (.recent (.empty capacity))
    (RecentEvents.ofCapacity (.int capacity) = .ok (.empty capacity) ↔
        capacity ≤ RecentEvents.maxCapacity) ∧
      (s.run turns watched).sink.tail limit =
        some (((s.chronicle s.payment turns watched).map RewardClaimed.ofPayment).rtake
          (min (max limit 0) (max capacity 1)).toNat) ∧
      ∀ other : Sink,
        s.chronicle (fun turn node => some (s.reply turn node)) turns (node.hearing other) =
            s.chronicle (fun turn node => some (s.reply turn node)) turns watched ∧
          (s.run turns (node.hearing other)).database = (s.run turns watched).database := by
  intro watched
  refine ⟨?_, ?_, fun other => ?_⟩
  · have opened : RecentEvents.ofCapacity (.int capacity) =
        if RecentEvents.maxCapacity < capacity then .error .capacityRange
        else .ok (.empty capacity) := rfl
    rw [opened]
    split <;> simp <;> omega
  · obtain ⟨kept, -⟩ := RecentEvents.events_foldl_push capacity
      ((s.chronicle s.payment turns watched).map RewardClaimed.ofPayment)
    have asked : min (max limit 0) (max capacity 1) = (min limit.toNat (max 1 capacity.toNat) : Nat) := by
      omega
    rw [sink_run, show watched.sink = .recent (.empty capacity) from rfl, Sink.foldl_hear_recent,
      asked, Int.toNat_natCast, ← RecentEvents.rtake_rtake, ← kept]
    rfl
  · have agree : (node.hearing other).Agree watched := ⟨rfl, rfl⟩
    obtain ⟨answers, last⟩ := s.run_agree turns agree
    exact ⟨answers, last.database⟩

end Service

end EraRewards
