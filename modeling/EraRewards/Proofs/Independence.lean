import EraRewards.Proofs.Deployment

/-!
# Calls that do not depend on each other

A call looks at the record of its account, at the total of the era that it closes, and at the balances
of its account; it changes the record and the balances of its account, and adds to the total of its
own era.  So two calls for different accounts may be made in either order, unless one of them reports
volume in the era that the other closes.
-/

namespace EraRewards

open Effect

/-! ## Stores that keep accounts apart -/

/-- Balances that are the same for an account. -/
def Balances.AgreeFor (account : String) (balances other : Balances) : Prop :=
  ∀ key : BalanceKey, key.account = account → balances.get? key = other.get? key

/-- Balances that are the same for every account but one. -/
def Balances.AgreeBeside (account : String) (balances other : Balances) : Prop :=
  ∀ key : BalanceKey, key.account ≠ account → balances.get? key = other.get? key

/-- Stores whose credits have to do with no balances but those of the account. -/
structure BalanceStore.KeepsApart (store : BalanceStore) : Prop where
  /-- A credit leaves the balances of other accounts as they are. -/
  leaves : ∀ token account amount balances,
    Balances.AgreeBeside account ((store.credit token account amount).run.run balances).2 balances
  /-- A credit depends on no balances of other accounts. -/
  looks : ∀ token account amount (balances other : Balances),
    Balances.AgreeFor account balances other →
    ((store.credit token account amount).run.run balances).1 =
        ((store.credit token account amount).run.run other).1 ∧
      Balances.AgreeFor account ((store.credit token account amount).run.run balances).2
        ((store.credit token account amount).run.run other).2

namespace Balances

/-- What a credit comes to: the balance after it. -/
def credited (token : Int) (account : String) (amount : Int) (balances : Balances) :
    Except Failure Int :=
  match Amount.ofArgument "amount" (.int amount) with
  | .error error => .error (.ledger error)
  | .ok amount =>
    match balanceOf token account balances with
    | .error failure => .error failure
    | .ok balance => (Amount.checkedSum "balance" balance amount.val).mapError .ledger

/-- A balance is looked up at its own key. -/
theorem balanceOf_congr {token : Int} {account : String} {balances other : Balances}
    (same : AgreeFor account balances other) :
    balanceOf token account balances = balanceOf token account other := by
  rw [balanceOf, balanceOf]
  cases bindColumn token with
  | error failure => rfl
  | ok column => rw [ok_bind, ok_bind, Account.column, ok_bind, ok_bind, same ⟨column, account⟩ rfl]

theorem credit_run_eq (token : Int) (account : String) (amount : Int) (balances : Balances) :
    (credit token account amount).run.run balances =
      match credited token account amount balances with
      | .error failure => (.error failure, balances)
      | .ok balance => (.ok (), balances.insert ⟨token, account⟩ (Integer.write balance)) := by
  rw [credit, run_bind, run_liftLedger, credited]
  cases Amount.ofArgument "amount" (.int amount) with
  | error error => rfl
  | ok amount =>
      simp only [Except.mapError]
      rw [run_bind, run_get]
      dsimp only
      rw [run_bind, run_lift]
      cases balanceOf token account balances with
      | error failure => rfl
      | ok balance =>
          dsimp only
          rw [run_bind, run_liftLedger]
          cases Amount.checkedSum "balance" balance amount.val <;> rfl

end Balances

theorem BalanceStore.keepsApart_bundled : BalanceStore.bundled.KeepsApart where
  leaves token account amount balances key other := by
    have distinct : key ≠ ⟨token, account⟩ := fun same => other (congrArg BalanceKey.account same)
    rw [bundled, Balances.credit_run_eq]
    cases Balances.credited token account amount balances with
    | error failure => rfl
    | ok balance => exact (Table.get?_insert _ _ _ _).trans (if_neg distinct)
  looks token account amount balances other same := by
    have alike : Balances.credited token account amount balances =
        Balances.credited token account amount other := by
      rw [Balances.credited, Balances.credited, Balances.balanceOf_congr same]
    rw [bundled, Balances.credit_run_eq, Balances.credit_run_eq, alike]
    cases Balances.credited token account amount other with
    | error failure => exact ⟨rfl, same⟩
    | ok balance =>
        refine ⟨rfl, fun key own => ?_⟩
        rw [Table.get?_insert, Table.get?_insert, same key own]

/-- Calls that report volume or claim for an account. -/
inductive Call.IsFor (holder : Account) : Call → Prop
  /-- A report of volume. -/
  | recordVolume {account : Value} (volume at_ : Value) (named : accountOfValue account = .ok holder) :
      IsFor holder (.recordVolume account volume at_)
  /-- A claim. -/
  | claim {account : Value} (at_ : Value) (named : accountOfValue account = .ok holder) :
      IsFor holder (.claim account at_)

namespace Service

variable {s : Service} {account : String} {amount : Int} {t after : Tables}

/-- A credit leaves the balances of other accounts as they are. -/
theorem balances_of_credit (apart : s.balances.KeepsApart) {result : Except Failure Unit}
    (credited : (s.credit account amount).run.run t = (result, after)) :
    Balances.AgreeBeside account after.balances t.balances := by
  rw [credit_run] at credited
  cases credited
  exact apart.leaves _ _ _ _

/-- A credit succeeds on all tables with the same balances of the account, and makes the same of
them. -/
theorem credit_congr (apart : s.balances.KeepsApart) {t' : Tables}
    (credited : (s.credit account amount).run.run t = (.ok (), after))
    (same : Balances.AgreeFor account t.balances t'.balances) :
    ∃ after', (s.credit account amount).run.run t' = (.ok (), after') ∧
      Balances.AgreeFor account after'.balances after.balances := by
  obtain ⟨outcome_eq, kept⟩ :=
    apart.looks s.parameters.token account amount t.balances t'.balances same
  rw [credit_run] at credited
  obtain ⟨outcome, rfl⟩ := Prod.mk.inj credited
  rw [outcome_eq] at outcome
  refine ⟨((s.credit account amount).run.run t').2, Prod.ext ?_ rfl, fun key own => ?_⟩
  · rw [credit_run]
    exact outcome
  · rw [credit_run]
    exact (kept key own).symm

end Service

/-! ## What a call looks at and what it changes -/

/-- What a call asks for that reports volume or makes a claim, once its arguments are accepted. -/
inductive Request
  /-- To book volume for an account in an era. -/
  | report (account : String) (volume : Amount) (era : Int)
  /-- To pay an account what it has confirmed at an era. -/
  | claim (account : String) (era : Int)

namespace Request

/-- Account for which something is asked. -/
def account : Request → String
  | report account _ _ => account
  | claim account _ => account

/-- Era in which it is asked. -/
def era : Request → Int
  | report _ _ era => era
  | claim _ era => era

/-- Volume that is to be booked. -/
def volume : Request → Nat
  | report _ volume _ => volume.val
  | claim _ _ => 0

/-- Whether a write transaction is made. -/
def Writes : Request → Prop
  | report _ volume _ => volume.val ≠ 0
  | claim _ _ => True

/-- Volume that is to be booked in an era. -/
def volumeIn (p : Request) (era : Int) : Nat := if era = p.era then p.volume else 0

/-- Whether a request books volume in an era that another one closes. -/
def Disturbs (p q : Request) (t : Tables) : Prop :=
  0 < p.volumeIn (t.record q.account).lastEra ∧ 0 < (t.record q.account).pending ∧
    (t.record q.account).lastEra < q.era

/-- Tables that look alike to a request, and have room for it. -/
structure Alike (p : Request) (t t' : Tables) : Prop where
  /-- The account has the same record. -/
  row : t'.rewards.get? p.account = t.rewards.get? p.account
  /-- The era that is closed has the same total. -/
  closed : (t.record p.account).lastEra < p.era → 0 < (t.record p.account).pending →
    t'.total (t.record p.account).lastEra = t.total (t.record p.account).lastEra
  /-- There is room for the volume. -/
  room : ∀ era, p.volumeIn era ≠ 0 → t'.total era + p.volumeIn era ≤ maxAmount
  /-- The account has the same balances. -/
  balances : Balances.AgreeFor p.account t.balances t'.balances

/-- Tables of which a request changes the record and the balances of its account, and the total of
its era. -/
structure Changes (p : Request) (t after : Tables) : Prop where
  /-- Other accounts keep their records. -/
  rewards : ∀ other, other ≠ p.account → after.rewards.get? other = t.rewards.get? other
  /-- There was room for the volume. -/
  room : ∀ era, p.volumeIn era ≠ 0 → t.total era + p.volumeIn era ≤ maxAmount
  /-- The volume is added to the total of the era. -/
  totals : ∀ era, after.totals.get? era =
    if p.volumeIn era = 0 then t.totals.get? era
    else some (Integer.write (t.total era + p.volumeIn era))
  /-- Other accounts keep their balances. -/
  balances : Balances.AgreeBeside p.account after.balances t.balances
  /-- There are the same records without an account. -/
  nameless : after.nameless = t.nameless
  /-- There is the same stamp. -/
  schemaVersion : after.schemaVersion = t.schemaVersion

@[simp] theorem volumeIn_report (account : String) (volume : Amount) (era : Int) :
    (report account volume era).volumeIn era = volume.val := if_pos rfl

theorem volumeIn_of_nothing {p : Request} (nothing : p.volume = 0) (era : Int) :
    p.volumeIn era = 0 := by
  rw [volumeIn, nothing, ite_self]

namespace Changes

variable {p q : Request} {t after middle middle' last last' : Tables}

theorem total_eq (changes : p.Changes t after) (sound : t.Sound) (era : Int) :
    after.total era = t.total era + p.volumeIn era := by
  rw [Tables.total, changes.totals]
  by_cases nothing : p.volumeIn era = 0
  · rw [if_pos nothing, nothing, Nat.cast_zero, add_zero, Tables.total]
  · rw [if_neg nothing]
    exact cellValue_write (add_nonneg (sound.total_nonneg _) (Int.natCast_nonneg _))
      (changes.room era nothing)

/-- A request that books nothing and changes nothing but what belongs to its account. -/
theorem of_nothing (nothing : p.volume = 0)
    (rewards : ∀ other, other ≠ p.account → after.rewards.get? other = t.rewards.get? other)
    (balances : Balances.AgreeBeside p.account after.balances t.balances)
    (totals : after.totals = t.totals) (nameless : after.nameless = t.nameless)
    (schemaVersion : after.schemaVersion = t.schemaVersion) : p.Changes t after where
  rewards := rewards
  room era counts := absurd (volumeIn_of_nothing nothing era) counts
  totals era := by rw [if_pos (volumeIn_of_nothing nothing era), totals]
  balances := balances
  nameless := nameless
  schemaVersion := schemaVersion

/-- What the first of two requests changes does not matter to the second. -/
theorem alike_before (first : p.Changes t middle) (sound : t.Sound) (second : q.Changes middle last)
    (distinct : p.account ≠ q.account) (clear : ¬p.Disturbs q t) : q.Alike middle t := by
  have record_eq : middle.record q.account = t.record q.account := by
    rw [Tables.record, first.rewards _ distinct.symm, Tables.record]
  refine ⟨(first.rewards _ distinct.symm).symm, fun later something => ?_, fun era counts => ?_,
    fun key own => first.balances key (own ▸ distinct.symm)⟩
  · rw [record_eq] at later something ⊢
    have silent : p.volumeIn (t.record q.account).lastEra = 0 := by
      by_contra counts
      exact clear ⟨Nat.pos_of_ne_zero counts, something, later⟩
    rw [first.total_eq sound, silent, Nat.cast_zero, add_zero]
  · have room := second.room era counts
    rw [first.total_eq sound] at room
    omega

/-- What the second of two requests changes does not matter to the first, made after it. -/
theorem alike_after (first : p.Changes t middle) (sound : t.Sound) (second : q.Changes middle last)
    (second' : q.Changes t middle') (distinct : p.account ≠ q.account) (clear : ¬q.Disturbs p t) :
    p.Alike t middle' := by
  refine ⟨second'.rewards _ distinct, fun later something => ?_, fun era counts => ?_,
    fun key own => (second'.balances key (own ▸ distinct)).symm⟩
  · have silent : q.volumeIn (t.record p.account).lastEra = 0 := by
      by_contra counts
      exact clear ⟨Nat.pos_of_ne_zero counts, something, later⟩
    rw [second'.total_eq sound, silent, Nat.cast_zero, add_zero]
  · rw [second'.total_eq sound]
    by_cases silent : q.volumeIn era = 0
    · rw [silent, Nat.cast_zero, add_zero]
      exact first.room era counts
    · -- Both book in the era, and there was room for both.
      have room := second.room era silent
      rw [first.total_eq sound] at room
      omega

/-- Made in either order, two requests leave the same tables if each makes the same of what belongs to
its account. -/
theorem eq_of_swapped (first : p.Changes t middle) (sound : t.Sound) (second : q.Changes middle last)
    (second' : q.Changes t middle') (first' : p.Changes middle' last')
    (distinct : p.account ≠ q.account)
    (row_first : last'.rewards.get? p.account = middle.rewards.get? p.account)
    (balances_first : Balances.AgreeFor p.account last'.balances middle.balances)
    (row_second : middle'.rewards.get? q.account = last.rewards.get? q.account)
    (balances_second : Balances.AgreeFor q.account middle'.balances last.balances) : last' = last := by
  refine Tables.ext_get? (fun account => ?_) ?_ (fun era => ?_) (fun key => ?_) ?_
  · by_cases mine : account = p.account
    · rw [mine, row_first, second.rewards _ distinct]
    · rw [first'.rewards _ mine]
      by_cases other : account = q.account
      · rw [other, row_second]
      · rw [second'.rewards _ other, second.rewards _ other, first.rewards _ mine]
  · rw [first'.nameless, second'.nameless, second.nameless, first.nameless]
  · rw [first'.totals, second'.totals, second.totals, first.totals, first.total_eq sound,
      second'.total_eq sound]
    by_cases first_silent : p.volumeIn era = 0 <;> by_cases second_silent : q.volumeIn era = 0 <;>
      simp [first_silent, second_silent, add_right_comm]
  · by_cases mine : key.account = p.account
    · rw [balances_first key mine, second.balances key (mine ▸ distinct)]
    · rw [first'.balances key mine]
      by_cases other : key.account = q.account
      · rw [balances_second key other]
      · rw [second'.balances key other, second.balances key other, first.balances key mine]
  · rw [first'.schemaVersion, second'.schemaVersion, second.schemaVersion, first.schemaVersion]

end Changes
end Request

/-- A rotation looks at the record, and at the total only of an era that it closes. -/
theorem Tables.rotation_congr {t t' : Tables} (sound : t.Sound) {account : String}
    (record_eq : t'.record account = t.record account) {era : Int}
    (closed : (t.record account).lastEra < era → 0 < (t.record account).pending →
      t'.total (t.record account).lastEra = t.total (t.record account).lastEra)
    (budget incoming : Int) :
    t'.rotation budget account era incoming = t.rotation budget account era incoming := by
  rw [rotation, rotation, record_eq]
  -- The total counts only where a record is closed: an earlier era is refused before, and without
  -- pending volume there is nothing to close.
  by_cases earlier : era < (t.record account).lastEra
  · rw [Reward.rotation_of_lt earlier, Reward.rotation_of_lt earlier]
  · by_cases closing : era ≠ (t.record account).lastEra ∧ 0 < (t.record account).pending
    · rw [closed (lt_of_le_of_ne (not_lt.1 earlier) closing.1.symm) closing.2]
    · exact Reward.rotation_of_not_closing (sound.storable account).pending_nonneg closing _ _ _ _

theorem Tables.get?_settle (t : Tables) (account : String) (r : Reward) (other : String) :
    (t.settle account r).rewards.get? other =
      if other = account then
        if 0 < r.pending then some (.ofReward { r with confirmed := 0 }) else none
      else t.rewards.get? other := by
  rw [settle]
  split
  · exact Table.get?_insert _ _ _ _
  · exact Table.get?_erase _ _ _

namespace Service

/-- Ways in which a request succeeds, with the answer and the tables that are left. -/
inductive Performs (s : Service) (t : Tables) : Request → Int → Tables → Prop
  /-- No volume is booked. -/
  | idle {account : String} {volume : Amount} {era : Int} (nothing : volume.val = 0) :
      Performs s t (.report account volume era) era t
  /-- Volume is booked. -/
  | report {account : String} {volume : Amount} {era : Int} {rotation : Rotation}
      (something : volume.val ≠ 0) (era_nonneg : 0 ≤ era) (era_le : era ≤ maxTick)
      (bounded : t.total era + volume.val ≤ maxAmount)
      (rotated : t.rotation s.parameters.budget.val account era volume.val = .ok rotation) :
      Performs s t (.report account volume era) era
        ((t.setTotal era (t.total era + volume.val)).setRecord account rotation.reward)
  /-- Nothing is paid. -/
  | unconfirmed {account : String} {era : Int} {rotation : Rotation}
      (rotated : t.rotation s.parameters.budget.val account era 0 = .ok rotation)
      (nothing : rotation.confirmed = 0) :
      Performs s t (.claim account era) 0 t
  /-- A confirmed reward is paid. -/
  | payment {account : String} {era : Int} {rotation : Rotation} {after : Tables}
      (something : rotation.confirmed ≠ 0) (era_nonneg : 0 ≤ era) (era_le : era ≤ maxTick)
      (rotated : t.rotation s.parameters.budget.val account era 0 = .ok rotation)
      (credited : (s.credit account rotation.confirmed).run.run
        (t.settle account rotation.reward) = (.ok (), after)) :
      Performs s t (.claim account era) rotation.confirmed after

namespace Performs

variable {s : Service} {t t' after : Tables} {p q : Request} {x y : Int}

theorem sound (performs : s.Performs t p x after) (sound : t.Sound) : after.Sound := by
  cases performs with
  | idle nothing => exact sound
  | report something era_nonneg era_le bounded rotated =>
      exact Commits.sound sound (.report something era_nonneg era_le bounded rotated)
  | unconfirmed rotated nothing => exact sound
  | payment something era_nonneg era_le rotated credited =>
      exact Commits.sound sound (.payment something era_nonneg era_le rotated credited)

/-- A request changes nothing but what belongs to its account, and the total of its era. -/
theorem changes (apart : s.balances.KeepsApart) (performs : s.Performs t p x after) :
    p.Changes t after := by
  cases performs with
  | idle nothing => exact .of_nothing nothing (fun _ _ => rfl) (fun _ _ => rfl) rfl rfl rfl
  | @report account volume era rotation something era_nonneg era_le bounded rotated =>
      refine ⟨fun other distinct => (Table.get?_insert _ _ _ _).trans (if_neg distinct),
        fun era counts => ?_, fun era => ?_, fun _ _ => rfl, rfl, rfl⟩
      · obtain ⟨here, -⟩ := ite_ne_right_iff.1 counts
        subst here
        simpa using bounded
      · by_cases here : era = x
        · subst here
          rw [Request.volumeIn_report, if_neg something]
          exact (Table.get?_insert _ _ _ _).trans (if_pos rfl)
        · have silent : (Request.report account volume x).volumeIn era = 0 := if_neg here
          rw [if_pos silent]
          exact (Table.get?_insert _ _ _ _).trans (if_neg here)
  | unconfirmed rotated nothing =>
      exact .of_nothing rfl (fun _ _ => rfl) (fun _ _ => rfl) rfl rfl rfl
  | @payment account era rotation after something era_nonneg era_le rotated credited =>
      have settled_kept : (t.settle account rotation.reward).totals = t.totals ∧
          (t.settle account rotation.reward).nameless = t.nameless ∧
          (t.settle account rotation.reward).schemaVersion = t.schemaVersion := by
        rw [Tables.settle]
        split <;> exact ⟨rfl, rfl, rfl⟩
      obtain ⟨totals_eq, nameless_eq, schemaVersion_eq⟩ := settled_kept
      refine .of_nothing rfl (fun other distinct => ?_) (fun key other => ?_) ?_ ?_ ?_
      · rw [eq_of_credit credited]
        exact (Tables.get?_settle _ _ _ _).trans (if_neg distinct)
      · rw [balances_of_credit apart credited key other, Tables.balances_settle]
      · rw [eq_of_credit credited]
        exact totals_eq
      · rw [eq_of_credit credited]
        exact nameless_eq
      · rw [eq_of_credit credited]
        exact schemaVersion_eq

/-- A request succeeds in the same way on all tables that look alike to it. -/
theorem congr (apart : s.balances.KeepsApart) (sound : t.Sound) (performs : s.Performs t p x after)
    (alike : p.Alike t t') :
    ∃ after', s.Performs t' p x after' ∧
      after'.rewards.get? p.account = after.rewards.get? p.account ∧
      Balances.AgreeFor p.account after'.balances after.balances := by
  obtain ⟨row, closed, room, balances⟩ := alike
  have record_eq : t'.record p.account = t.record p.account := by
    rw [Tables.record, row, Tables.record]
  have rotation_eq (incoming : Int) :
      t'.rotation s.parameters.budget.val p.account p.era incoming =
        t.rotation s.parameters.budget.val p.account p.era incoming :=
    Tables.rotation_congr sound record_eq closed _ _
  cases performs with
  | idle nothing => exact ⟨t', .idle nothing, row, fun key own => (balances key own).symm⟩
  | @report account volume era rotation something era_nonneg era_le bounded rotated =>
      have bounded' := room x (by simpa using something)
      rw [Request.volumeIn_report] at bounded'
      refine ⟨_, .report something era_nonneg era_le bounded' ((rotation_eq volume.val).trans rotated),
        ?_, fun key own => (balances key own).symm⟩
      exact ((Table.get?_insert _ _ _ _).trans (if_pos rfl)).trans
        ((Table.get?_insert _ _ _ _).trans (if_pos rfl)).symm
  | unconfirmed rotated nothing =>
      exact ⟨t', .unconfirmed ((rotation_eq 0).trans rotated) nothing, row,
        fun key own => (balances key own).symm⟩
  | @payment account era rotation after something era_nonneg era_le rotated credited =>
      have same : Balances.AgreeFor account (t.settle account rotation.reward).balances
          (t'.settle account rotation.reward).balances := by
        rw [Tables.balances_settle, Tables.balances_settle]
        exact balances
      obtain ⟨after', credited', kept⟩ := credit_congr apart credited same
      refine ⟨after', .payment something era_nonneg era_le ((rotation_eq 0).trans rotated) credited',
        ?_, kept⟩
      rw [eq_of_credit credited', eq_of_credit credited]
      exact ((Tables.get?_settle _ _ _ _).trans (if_pos rfl)).trans
        ((Tables.get?_settle _ _ _ _).trans (if_pos rfl)).symm

/-- Two requests for different accounts may be performed in either order, unless one of them books
volume in an era that the other closes. -/
theorem swap (apart : s.balances.KeepsApart) (sound : t.Sound) (distinct : p.account ≠ q.account)
    (p_clear : ¬p.Disturbs q t) (q_clear : ¬q.Disturbs p t) {middle last : Tables}
    (first : s.Performs t p x middle) (second : s.Performs middle q y last) :
    ∃ middle', s.Performs t q y middle' ∧ s.Performs middle' p x last := by
  have first_changes := first.changes apart
  have second_changes := second.changes apart
  -- The tables before the first request look to the second one as those after it, and the tables that
  -- the second one then leaves look to the first one as those before both.
  have second_alike := first_changes.alike_before sound second_changes distinct p_clear
  obtain ⟨middle', second', row_second, balances_second⟩ :=
    second.congr apart (first.sound sound) second_alike
  have second_changes' := second'.changes apart
  have first_alike :=
    first_changes.alike_after sound second_changes second_changes' distinct q_clear
  obtain ⟨last', first', row_first, balances_first⟩ := first.congr apart sound first_alike
  have last_eq : last' = last :=
    first_changes.eq_of_swapped sound second_changes second_changes' (first'.changes apart) distinct
      row_first balances_first row_second balances_second
  exact ⟨middle', second', last_eq ▸ first'⟩

end Performs

/-! ## Calls in either order -/

variable {s : Service} {t after : Tables} {x : Int}

theorem book_iff_performs (sound : t.Sound) {account : String} {volume : Amount} {era : Int}
    (something : volume.val ≠ 0) (era_nonneg : 0 ≤ era) (era_le : era ≤ maxTick) :
    (∃ booked, (s.book account volume era).run.run t = (.ok booked, after)) ∧ era = x ↔
      s.Performs t (.report account volume era) x after := by
  constructor
  · rintro ⟨⟨booked, run_eq⟩, rfl⟩
    obtain ⟨bounded, rotated, -, rfl⟩ :=
      (s.book_eq_ok_iff sound account volume era_nonneg era_le).1 run_eq
    exact .report something era_nonneg era_le bounded rotated
  · intro performs
    cases performs with
    | idle nothing => exact absurd nothing something
    | @report account volume era rotation something era_nonneg era_le bounded rotated =>
        exact ⟨⟨(t.total x + volume.val, rotation),
          (s.book_eq_ok_iff sound account volume era_nonneg era_le).2
            ⟨bounded, rotated, rfl, rfl⟩⟩, rfl⟩

theorem payOut_iff_performs (sound : t.Sound) {account : String} {era : Int} (era_nonneg : 0 ≤ era)
    (era_le : era ≤ maxTick) :
    (∃ rotation, (s.payOut account era).run.run t = (.ok (x, rotation), after)) ↔
      s.Performs t (.claim account era) x after := by
  simp only [s.payOut_eq_ok_iff sound account era_nonneg era_le]
  constructor
  · rintro ⟨rotation, rotated, rfl, ⟨nothing, rfl⟩ | ⟨something, credited⟩⟩
    · exact nothing ▸ .unconfirmed rotated nothing
    · exact .payment something era_nonneg era_le rotated credited
  · intro performs
    cases performs with
    | unconfirmed rotated nothing => exact ⟨_, rotated, nothing.symm, .inl ⟨nothing, rfl⟩⟩
    | payment something era_nonneg era_le rotated credited =>
        exact ⟨_, rotated, rfl, .inr ⟨something, credited⟩⟩

/-- What a call asks for; nothing if it is no report of volume and no claim at a tick, if its arguments
are rejected, or if its account cannot be stored. -/
def requestOf (s : Service) : Call → Option Request
  | .recordVolume account volume at_ => do
    let (.named name, amount, era) ← (s.reportOf account volume at_).toOption | none
    return .report name amount era
  | .claim account at_ => do
    let .named name ← (accountOfValue account).toOption | none
    let era ← (s.parameters.eraOf at_).toOption
    return .claim name era
  | _ => none

theorem requestOf_recordVolume {account volume at_ : Value} {p : Request}
    (asks : s.requestOf (.recordVolume account volume at_) = some p) :
    ∃ (name : String) (amount : Amount) (era : Int),
      s.reportOf account volume at_ = .ok (name, amount, era) ∧ p = .report name amount era := by
  simp only [requestOf, Option.bind_eq_bind, Option.bind_eq_some_iff] at asks
  obtain ⟨⟨holder, amount, era⟩, asked, made⟩ := asks
  cases holder with
  | named name =>
      cases made
      exact ⟨name, amount, era, ok_of_toOption asked, rfl⟩
  | broken letters => cases made

theorem requestOf_claim {account at_ : Value} {p : Request}
    (asks : s.requestOf (.claim account at_) = some p) :
    ∃ (name : String) (era : Int), accountOfValue account = .ok name ∧
      s.parameters.eraOf at_ = .ok era ∧ p = .claim name era := by
  simp only [requestOf, Option.bind_eq_bind, Option.bind_eq_some_iff] at asks
  obtain ⟨holder, named, made⟩ := asks
  cases holder with
  | named name =>
      obtain ⟨era, dated, made⟩ := Option.bind_eq_some_iff.1 made
      cases made
      exact ⟨name, era, ok_of_toOption named, ok_of_toOption dated, rfl⟩
  | broken letters => cases made

/-- Answer to a call. -/
def reply (s : Service) (turn : Turn) (node : Node) : Except Failure Value :=
  ((s.answer turn.call).run.run (node.facing turn.contention)).1

theorem reported_iff_performs {db : Database} (sound : db.tables.Sound) {account volume at_ : Value}
    {name : String} {amount : Amount} {era : Int}
    (asked : s.reportOf account volume at_ = .ok (name, amount, era)) :
    (s.reported account volume at_ db).1 = .ok x ∧ (s.reported account volume at_ db).2.tables = after ↔
      (amount.val ≠ 0 → db.contention.refusal? = none) ∧
        s.Performs db.tables (.report name amount era) x after := by
  obtain ⟨era_nonneg, era_le⟩ := Parameters.eraOf_bounds (reportOf_eq_ok asked).2.2
  rw [reported, asked]
  dsimp only
  by_cases nothing : amount.val = 0
  · rw [if_pos nothing]
    constructor
    · rintro ⟨answered, rfl⟩
      cases answered
      exact ⟨fun something => absurd nothing something, .idle nothing⟩
    · rintro ⟨-, performs⟩
      cases performs with
      | idle nothing => exact ⟨rfl, rfl⟩
      | report something era_nonneg era_le bounded rotated => exact absurd nothing something
  · rw [if_neg nothing, ← book_iff_performs sound nothing era_nonneg era_le]
    simp only [ne_eq, nothing, not_false_eq_true, forall_const]
    constructor
    · rintro ⟨answered, left⟩
      rcases outcome : (db.write (s.book name amount era)).1 with _ | booked
      · rw [outcome] at answered
        cases answered
      · rw [outcome] at answered
        cases answered
        obtain ⟨admitted, run_eq⟩ := Database.write_eq_ok_iff.1 ⟨outcome, left⟩
        exact ⟨admitted, ⟨booked, run_eq⟩, rfl⟩
    · rintro ⟨admitted, ⟨booked, run_eq⟩, rfl⟩
      obtain ⟨outcome, left⟩ := Database.write_eq_ok_iff.2 ⟨admitted, run_eq⟩
      exact ⟨by rw [outcome]; rfl, left⟩

theorem claimed_iff_performs {db : Database} (sound : db.tables.Sound) {account at_ : Value}
    {clock : Clock} {name : String} {era : Int} (asked : s.claimOf account at_ clock = .ok (name, era)) :
    (s.claimed account at_ clock db).1 = .ok x ∧ (s.claimed account at_ clock db).2.tables = after ↔
      db.contention.refusal? = none ∧ s.Performs db.tables (.claim name era) x after := by
  obtain ⟨era_nonneg, era_le⟩ := claimOf_bounds asked
  rw [claimed, asked, ← payOut_iff_performs sound era_nonneg era_le]
  dsimp only
  constructor
  · rintro ⟨answered, left⟩
    rcases outcome : (db.write (s.payOut name era)).1 with _ | ⟨paid, rotation⟩
    · rw [outcome] at answered
      cases answered
    · rw [outcome] at answered
      cases answered
      obtain ⟨admitted, run_eq⟩ := Database.write_eq_ok_iff.1 ⟨outcome, left⟩
      exact ⟨admitted, rotation, run_eq⟩
  · rintro ⟨admitted, rotation, run_eq⟩
    obtain ⟨outcome, left⟩ := Database.write_eq_ok_iff.2 ⟨admitted, run_eq⟩
    exact ⟨by rw [outcome]; rfl, left⟩

/-- A request that is accepted is made to the service by a report of volume or by a claim, whose
outcome and database are those of its write. -/
theorem reply_iff_performs {turn : Turn} {p : Request} (asks : s.requestOf turn.call = some p)
    {node : Node} (sound : node.database.tables.Sound) :
    s.reply turn node = .ok (.int x) ∧ (s.serve turn node).database.tables = after ↔
      (p.Writes → turn.contention.refusal? = none) ∧ s.Performs node.database.tables p x after := by
  obtain ⟨contention, call⟩ := turn
  have facing_sound : (node.facing contention).database.tables.Sound := sound
  have answered (outcome : Except Failure Int) :
      outcome.map Value.int = .ok (.int x) ↔ outcome = .ok x := by
    cases outcome <;> simp [Except.map]
  cases call with
  | recordVolume account volume at_ =>
      obtain ⟨name, amount, era, asked, rfl⟩ := requestOf_recordVolume asks
      obtain ⟨_, run_eq, kept⟩ := s.recordVolume_run account volume at_ (node.facing contention)
      simp only [reply, serve, answer, run_map, run_eq, kept, answered]
      exact reported_iff_performs facing_sound asked
  | claim account at_ =>
      obtain ⟨name, era, named, dated, rfl⟩ := requestOf_claim asks
      obtain ⟨n, rfl, nonneg, le_max, rfl⟩ := Parameters.eraOf_eq_ok dated
      obtain ⟨_, run_eq, kept⟩ := s.claim_run account (.int n) (node.facing contention)
      simp only [reply, serve, answer, run_map, run_eq, kept, answered]
      rw [claimed_iff_performs facing_sound
        (claimOf_int named nonneg le_max (node.facing contention).clock)]
      exact and_congr_left fun _ =>
        ⟨fun admitted _ => admitted, fun admitted => admitted trivial⟩
  | _ => cases asks

theorem exists_int_of_reply {turn : Turn} {p : Request} (asks : s.requestOf turn.call = some p)
    {node : Node} {value : Value} (answered : s.reply turn node = .ok value) :
    ∃ x, value = .int x := by
  obtain ⟨contention, call⟩ := turn
  cases call with
  | recordVolume account volume at_ =>
      rw [reply, answer, run_map] at answered
      obtain ⟨x, -, rfl⟩ := ok_of_map answered
      exact ⟨x, rfl⟩
  | claim account at_ =>
      rw [reply, answer, run_map] at answered
      obtain ⟨x, -, rfl⟩ := ok_of_map answered
      exact ⟨x, rfl⟩
  | _ => cases asks

/-- Two calls that succeed one after the other succeed the other way round as well, with the same
answers, and leave the same tables. -/
def Swaps (s : Service) (first second : Turn) (node : Node) : Prop :=
  ∀ x y, s.reply first node = .ok x → s.reply second (s.serve first node) = .ok y →
    s.reply second node = .ok y ∧ s.reply first (s.serve second node) = .ok x ∧
      (s.serve first (s.serve second node)).database.tables =
        (s.serve second (s.serve first node)).database.tables

theorem swaps_of_clear (apart : s.balances.KeepsApart) {first second : Turn} {p q : Request}
    (first_asks : s.requestOf first.call = some p) (second_asks : s.requestOf second.call = some q)
    (distinct : p.account ≠ q.account) {node : Node} (sound : node.database.tables.Sound)
    (p_clear : ¬p.Disturbs q node.database.tables) (q_clear : ¬q.Disturbs p node.database.tables) :
    s.Swaps first second node := by
  intro x y first_answered second_answered
  obtain ⟨x, rfl⟩ := exists_int_of_reply first_asks first_answered
  obtain ⟨y, rfl⟩ := exists_int_of_reply second_asks second_answered
  obtain ⟨first_admitted, first_performs⟩ :=
    (reply_iff_performs first_asks sound).1 ⟨first_answered, rfl⟩
  have middle_sound := first_performs.sound sound
  obtain ⟨second_admitted, second_performs⟩ :=
    (reply_iff_performs second_asks middle_sound).1 ⟨second_answered, rfl⟩
  obtain ⟨middle, second_performs', first_performs'⟩ :=
    first_performs.swap apart sound distinct p_clear q_clear second_performs
  obtain ⟨second_answered', rfl⟩ :=
    (reply_iff_performs second_asks sound).2 ⟨second_admitted, second_performs'⟩
  have middle_sound' := second_performs'.sound sound
  obtain ⟨first_answered', last_eq⟩ :=
    (reply_iff_performs first_asks middle_sound').2 ⟨first_admitted, first_performs'⟩
  exact ⟨second_answered', first_answered', last_eq⟩

/-- A call for an account that cannot be stored succeeds only as a report of volume zero, which
answers the same on every node and changes none. -/
theorem idle_of_unstored {turn : Turn} {letters : List Letter}
    (unstored : Call.IsFor (.broken letters) turn.call) {node : Node} {value : Value}
    (answered : s.reply turn node = .ok value) (other : Node) :
    s.reply turn other = .ok value ∧ s.serve turn other = other.facing turn.contention := by
  obtain ⟨contention, call⟩ := turn
  cases unstored with
  | @recordVolume account volume at_ named =>
      rw [reply, answer, run_map] at answered
      obtain ⟨era, reported, rfl⟩ := ok_of_map answered
      obtain ⟨holder, amount, asked, ⟨nothing, -⟩ | ⟨-, name, rfl, -⟩⟩ := recordVolume_eq_ok reported
      · rw [reply, serve, answer, run_map, recordVolume_run_of_nothing asked nothing]
        exact ⟨rfl, rfl⟩
      · cases named.symm.trans (reportOf_eq_ok asked).1
  | @claim account at_ named =>
      rw [reply, answer, run_map] at answered
      obtain ⟨amount, claimed, rfl⟩ := ok_of_map answered
      obtain ⟨name, era, rotation, asked, -⟩ := claim_eq_ok claimed
      cases named.symm.trans (claimOf_eq_ok asked).1

theorem swaps_of_unstored {turn : Turn} {letters : List Letter}
    (unstored : Call.IsFor (.broken letters) turn.call) (other : Turn) (node : Node) :
    s.Swaps turn other node ∧ s.Swaps other turn node := by
  constructor
  · intro x y answered other_answered
    have idle := idle_of_unstored unstored answered
    rw [(idle node).2] at other_answered ⊢
    refine ⟨other_answered, (idle _).1, ?_⟩
    rw [(idle _).2]
    rfl
  · intro x y other_answered answered
    have idle := idle_of_unstored unstored answered
    refine ⟨(idle node).1, ?_, ?_⟩
    · rw [(idle node).2]
      exact other_answered
    · rw [(idle node).2, (idle _).2]
      rfl

end Service

/-- Two calls for different accounts, each a report of volume or a claim at a tick of its own, may be
made in either order unless one of them books volume in an era that the other closes.  Claims book
nothing, so they may always be made in either order, and so may any call and one for an account that
cannot be stored.  This holds of every ledger whose store keeps accounts apart, as the store that
comes with the ledger does, on the tables of every deployment. -/
theorem independent_calls_swap (node : Node) (steps : List Deployment.Step) {s : Service}
    (apart : s.balances.KeepsApart) {first second : Turn} {p q : Request}
    (first_asks : s.requestOf first.call = some p) (second_asks : s.requestOf second.call = some q)
    (distinct : p.account ≠ q.account) :
    let now := ((Deployment.new node).run steps).node
    (¬p.Disturbs q now.database.tables → ¬q.Disturbs p now.database.tables →
        s.Swaps first second now) ∧
      (p.volume = 0 → q.volume = 0 → s.Swaps first second now) ∧
      ∀ letters turn other, Call.IsFor (.broken letters) turn.call →
        s.Swaps turn other now ∧ s.Swaps other turn now := by
  intro now
  have history : History Set.univ _ now.database.tables := History.deployed node steps
  have silent {p q : Request} (nothing : p.volume = 0) : ¬p.Disturbs q now.database.tables := by
    rintro ⟨counts, -⟩
    rw [Request.volumeIn_of_nothing nothing] at counts
    exact Nat.lt_irrefl 0 counts
  exact ⟨Service.swaps_of_clear apart first_asks second_asks distinct history.sound,
    fun p_nothing q_nothing => Service.swaps_of_clear apart first_asks second_asks distinct
      history.sound (silent p_nothing) (silent q_nothing),
    fun _ _ other unstored => Service.swaps_of_unstored unstored other now⟩

/-- Two accounts share the first era. -/
def sharedEraSteps : List Deployment.Step :=
  [.opening ⟨.free, .empty, .int 100, .int 1000000, .int 0, .bundled, default, .absent⟩,
    .turn ⟨.free, .recordVolume (.text "a") (.int 30) (.int 0)⟩,
    .turn ⟨.free, .recordVolume (.text "b") (.int 70) (.int 50)⟩]

/-- One account may claim before or after the other reports in the next era. -/
theorem independent_calls_swap_sample :
    let now := ((Deployment.new .empty).run sharedEraSteps).node
    let claim : Turn := ⟨.free, .claim (.text "a") (.int 100)⟩
    let report : Turn := ⟨.free, .recordVolume (.text " b") (.int 5) (.int 199)⟩
    let after := (Service.sample.serve report (Service.sample.serve claim now)).database.tables
    Service.sample.Swaps claim report now ∧
      after.rewards.rows = [("b", ⟨"700000", "5", 100⟩)] ∧
      after.balances.rows = [(⟨0, "a"⟩, "300000")] := by
  intro now claim report after
  have claim_asks : Service.sample.requestOf claim.call = some (.claim "a" 100) := by rfl
  have report_asks : Service.sample.requestOf report.call =
      some (.report "b" ⟨5, by decide⟩ 100) := by rfl
  have swaps := (independent_calls_swap .empty sharedEraSteps BalanceStore.keepsApart_bundled
    claim_asks report_asks (by decide)).1
  refine ⟨swaps (fun disturbs => ?_) (fun disturbs => ?_), by decide +kernel, by decide +kernel⟩
  · exact absurd disturbs.1 (by decide +kernel)
  · exact absurd disturbs.1 (by decide +kernel)

end EraRewards
