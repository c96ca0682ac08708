import EraRewards.Api.Host
import EraRewards.Proofs.Acceptance

/-!
# Settings and the range of columns

Ticks, volumes and budgets are bounded before they reach the database, and so are the eras that are
made of ticks.  A token is only known not to be negative.  If it fits a column then a ledger that runs
on accepted settings fails by rejecting what it is asked, and by nothing else; if it does not then no
claim is paid.
-/

namespace EraRewards

open Effect

/-- Failures by which a ledger rejects what it is asked. -/
def Failure.IsRejection : Failure → Prop
  | .ledger error => error.code = .overflow ∨ error.code = .invalidInput
  | _ => False

/-- Failures of the balance store in a claim. -/
def Failure.IsCreditFailure : Failure → Prop
  | .ledger error => error.code = .creditFailed
  | _ => False

/-- Calls that name an account, an amount and a tick that can be stored, and no token that does not
fit a column. -/
inductive Call.IsRegular : Call → Prop
  | recordVolume {account : Value} {name : String} {tick : Int}
      (named : accountOfValue account = .ok name) (volume : Amount) (nonneg : 0 ≤ tick)
      (le_max : tick ≤ maxTick) : IsRegular (.recordVolume account (.int volume.val) (.int tick))
  | claim {account : Value} {name : String} {tick : Int}
      (named : accountOfValue account = .ok name) (nonneg : 0 ≤ tick) (le_max : tick ≤ maxTick) :
      IsRegular (.claim account (.int tick))
  | totalVolume {tick : Int} (nonneg : 0 ≤ tick) (le_max : tick ≤ maxTick) :
      IsRegular (.totalVolume (.int tick))
  | rewardOf {account : Value} {name : String} (named : accountOfValue account = .ok name) :
      IsRegular (.rewardOf account)
  | confirmedOf {account : Value} {name : String} (named : accountOfValue account = .ok name) :
      IsRegular (.confirmedOf account)
  | balance {account : Value} {name : String} (named : accountOfValue account = .ok name) :
      IsRegular (.balanceOf account .null)
  | balanceIn {account : Value} {name : String} {token : Int}
      (named : accountOfValue account = .ok name) (fits : fitsColumn token = true) :
      IsRegular (.balanceOf account (.int token))

namespace Tables

variable {t : Tables} {budget token volume era : Int} {account : String} {failure : Failure}

theorem isRejection_of_reportAnswer
    (failed : t.reportAnswer budget account volume era = .error failure) : failure.IsRejection := by
  simp only [reportAnswer] at failed
  split at failed
  · cases failed
    exact .inl rfl
  · split at failed
    · cases failed
      exact .inr rfl
    · split at failed <;> cases failed
      exact .inl rfl

theorem isRejection_of_claimAnswer
    (failed : t.claimAnswer budget token account era = .error failure) : failure.IsRejection := by
  simp only [claimAnswer] at failed
  split at failed
  · cases failed
    exact .inr rfl
  · split at failed
    · cases failed
      exact .inl rfl
    · split at failed <;> cases failed
      exact .inl rfl

end Tables

theorem fitsColumn_iff_of_nonneg {n : Int} (nonneg : 0 ≤ n) :
    fitsColumn n = true ↔ n ≤ maxColumn := by
  simp only [fitsColumn, Bool.and_eq_true, decide_eq_true_eq]
  rw [maxColumn]
  omega

theorem Draft.of_require {condition : Bool} {error : ConfigError} {passed : Unit}
    (required : Draft.require condition error = .ok passed) : condition = true := by
  rw [require] at required
  split at required
  · assumption
  · cases required

/-- Settings that are accepted have a token that is not negative; nothing bounds it from above. -/
theorem Settings.token_nonneg_of_check {settings : Settings} {passed : Unit}
    (checked : settings.toDraft.check = .ok passed) : 0 ≤ settings.token := by
  obtain ⟨_, -, checked⟩ := ok_of_bind checked
  obtain ⟨_, -, checked⟩ := ok_of_bind checked
  obtain ⟨_, -, checked⟩ := ok_of_bind checked
  obtain ⟨_, -, checked⟩ := ok_of_bind checked
  obtain ⟨token, token_eq, checked⟩ := ok_of_bind checked
  obtain ⟨_, required, -⟩ := ok_of_bind checked
  cases token_eq
  exact of_decide_eq_true (Draft.of_require required)

/-- A ledger that is opened with settings pays in their token, which is not negative. -/
theorem Api.Host.openLedger_eq_ok {env : Environment} {settings : Settings} {before after : Database}
    {s : Service} (opened : openLedger env settings before = (.ok s, after)) :
    0 ≤ settings.token ∧ s.PaysIn settings.token ∧
      Service.start env s.parameters .bundled before = (.ok s, after) := by
  rw [openLedger] at opened
  split at opened
  · rename_i parameters accepted
    obtain ⟨_, checked, accepted⟩ := ok_of_bind accepted
    obtain ⟨duration, -, accepted⟩ := ok_of_bind accepted
    have token_eq : parameters.token = settings.token := by
      dsimp only at accepted
      split at accepted
      · cases accepted
      · cases accepted
        rfl
    obtain rfl := Service.eq_of_start opened
    exact ⟨Settings.token_nonneg_of_check checked, ⟨rfl, token_eq⟩, opened⟩
  · cases opened

namespace History

variable {ledgers : Set Service} {journal : List Entry} {s : Service} {node : Node}

/-- A claim that would pay something in a token that does not fit a column fails in its credit. -/
theorem claim_eq_of_unfit (history : History ledgers journal node.database.tables)
    (bundled : ∀ s ∈ ledgers, s.balances = .bundled) (member : s ∈ ledgers)
    (unfit : ¬fitsColumn s.parameters.token = true)
    (admitted : node.database.contention.refusal? = none) {account at_ : Value} {name : String}
    {era : Int} (asked : s.claimOf account at_ node.clock = .ok (name, era)) :
    let t := node.database.tables
    let r := t.record name
    let award := t.awardAt s.parameters.budget.val name era
    ((s.claim account at_).run.run node).1 =
      if era < r.lastEra then .error (.ledger (.eraBeforeLastUpdate era r.lastEra))
      else if maxAmount < r.confirmed + award then
        .error (.ledger (.sumOverflow "confirmed" (Integer.write r.confirmed) (Integer.write award)))
      else if r.confirmed + award = 0 then .ok 0
      else .error (Service.creditFailure name (r.confirmed + award) .columnRange) := by
  intro t r award
  have pays : s.PaysIn s.parameters.token := ⟨bundled s member, rfl⟩
  have column : bindColumn s.parameters.token = .error .columnRange := if_neg unfit
  have paid_nonneg : 0 ≤ r.confirmed + award :=
    add_nonneg (history.sound.storable name).confirmed_nonneg
      (Reward.awardAt_nonneg (history.sound.total_nonneg _) (Int.natCast_nonneg _) era)
  obtain ⟨turned, answered⟩ := history.claim_eq_credited admitted asked
  rw [answered]
  by_cases exceeds : maxAmount < r.confirmed + award
  · simp only [r, award, t] at exceeds ⊢
    simp only [if_pos exceeds]
  · have credited := pays.credit_run ((history.legible bundled).settle name turned) name paid_nonneg
      (not_lt.1 exceeds)
    rw [column] at credited
    simp only [r, award, t] at credited ⊢
    rw [credited]
    rfl

theorem claim_credit_fails_iff (history : History ledgers journal node.database.tables)
    (bundled : ∀ s ∈ ledgers, s.balances = .bundled) (member : s ∈ ledgers)
    (unfit : ¬fitsColumn s.parameters.token = true)
    (admitted : node.database.contention.refusal? = none) {account at_ : Value} {name : String}
    {era : Int} (asked : s.claimOf account at_ node.clock = .ok (name, era)) :
    let t := node.database.tables
    let r := t.record name
    let paid := r.confirmed + t.awardAt s.parameters.budget.val name era
    (∃ failure, ((s.claim account at_).run.run node).1 = .error failure ∧ failure.IsCreditFailure) ↔
      r.lastEra ≤ era ∧ 0 < paid ∧ paid ≤ maxAmount := by
  intro t r paid
  have paid_nonneg : 0 ≤ paid :=
    add_nonneg (history.sound.storable name).confirmed_nonneg
      (Reward.awardAt_nonneg (history.sound.total_nonneg _) (Int.natCast_nonneg _) era)
  rw [history.claim_eq_of_unfit bundled member unfit admitted asked]
  constructor
  · rintro ⟨failure, failed, credit⟩
    split at failed
    · cases failed
      cases credit
    · rename_i not_earlier
      split at failed
      · cases failed
        cases credit
      · rename_i bounded
        split at failed
        · cases failed
        · rename_i something
          exact ⟨not_lt.1 not_earlier, paid_nonneg.lt_of_ne' something, not_lt.1 bounded⟩
  · rintro ⟨lastEra_le, something, bounded⟩
    refine ⟨Service.creditFailure name paid .columnRange, ?_, rfl⟩
    rw [if_neg lastEra_le.not_gt, if_neg bounded.not_gt, if_neg something.ne']

theorem recordVolume_fails (history : History ledgers journal node.database.tables)
    (admitted : node.database.contention.refusal? = none) {account : Value} {name : String}
    (named : accountOfValue account = .ok name) (volume : Amount) {tick : Int} (nonneg : 0 ≤ tick)
    (le_max : tick ≤ maxTick) {failure : Failure}
    (failed : ((s.recordVolume account (.int volume.val) (.int tick)).run.run node).1 =
      .error failure) : failure.IsRejection := by
  have asked := s.reportOf_int named volume nonneg le_max
  by_cases nothing : volume.val = 0
  · rw [Service.recordVolume_run_of_nothing asked nothing] at failed
    cases failed
  · rw [history.recordVolume_eq admitted asked nothing] at failed
    exact Tables.isRejection_of_reportAnswer failed

theorem claim_fails (history : History ledgers journal node.database.tables)
    (bundled : ∀ s ∈ ledgers, s.balances = .bundled) (member : s ∈ ledgers)
    (admitted : node.database.contention.refusal? = none) {account at_ : Value} {name : String}
    {era : Int} (asked : s.claimOf account at_ node.clock = .ok (name, era)) {failure : Failure}
    (failed : ((s.claim account at_).run.run node).1 = .error failure) :
    failure.IsRejection ∨ ¬fitsColumn s.parameters.token = true ∧ failure.IsCreditFailure := by
  by_cases fits : fitsColumn s.parameters.token = true
  · rw [history.claim_eq bundled member fits admitted asked] at failed
    exact .inl (Tables.isRejection_of_claimAnswer failed)
  · rw [history.claim_eq_of_unfit bundled member fits admitted asked] at failed
    split at failed
    · cases failed
      exact .inl (.inr rfl)
    · split at failed
      · cases failed
        exact .inl (.inl rfl)
      · split at failed <;> cases failed
        exact .inr ⟨fits, rfl⟩

/-- A regular call fails by a rejection unless it comes upon a token that does not fit a column. -/
theorem answer_fails (history : History ledgers journal node.database.tables)
    (bundled : ∀ s ∈ ledgers, s.balances = .bundled) (member : s ∈ ledgers)
    (admitted : node.database.contention.refusal? = none) {call : Call} (regular : call.IsRegular)
    {failure : Failure} (failed : ((s.answer call).run.run node).1 = .error failure) :
    failure.IsRejection ∨ ¬fitsColumn s.parameters.token = true ∧
      ((∃ account at_, call = .claim account at_) ∧ failure.IsCreditFailure ∨
        (∃ account, call = .balanceOf account .null) ∧ failure = .columnRange) := by
  cases regular with
  | recordVolume named volume nonneg le_max =>
      rw [Service.answer, run_map] at failed
      exact .inl (history.recordVolume_fails admitted named volume nonneg le_max
        (error_of_map failed))
  | claim named nonneg le_max =>
      rw [Service.answer, run_map] at failed
      exact (history.claim_fails bundled member admitted (s.claimOf_int named nonneg le_max _)
        (error_of_map failed)).imp_right fun credit => ⟨credit.1, .inl ⟨⟨_, _, rfl⟩, credit.2⟩⟩
  | totalVolume nonneg le_max =>
      rw [Service.answer, run_map,
        history.totalVolume_eq (Parameters.eraOf_int _ nonneg le_max)] at failed
      cases failed
  | rewardOf named =>
      rw [Service.answer, run_map, history.rewardOf_eq named] at failed
      cases failed
  | confirmedOf named =>
      rw [Service.answer, run_map, Service.confirmedOf, bind_pure_comp, run_map,
        history.rewardOf_eq named] at failed
      cases failed
  | balance named =>
      rw [Service.answer, run_map, Service.balanceOf_null,
        history.balanceOf_eq bundled member named, bindColumn] at failed
      split at failed
      · cases failed
      · rename_i unfit
        cases failed
        exact .inr ⟨unfit, .inr ⟨⟨_, rfl⟩, rfl⟩⟩
  | balanceIn named fits =>
      rw [Service.answer, run_map, history.balanceOf_eq bundled member named, bindColumn,
        if_pos fits] at failed
      cases failed

end History

/-- A ledger was opened with accepted settings, through the balance store that comes with it, on a
database to which only such ledgers have written.  Whatever it has served, the failures of regular calls
are rejections exactly if the token of the settings fits a column.  If it does not then no question for
a balance in that token is answered, a claim fails in its credit exactly where it would have paid
something, and all other regular calls still fail by rejections only. -/
theorem only_rejections_iff {node : Node} {steps : List Deployment.Step}
    (bundled : ∀ opening, .opening opening ∈ steps → opening.balances = .bundled)
    {env : Environment} {settings : Settings} {s : Service} {db : Database}
    (opened : Api.Host.openLedger env settings ((Deployment.new node).run steps).node.database =
      (.ok s, db)) (started : Node) (turns : List Turn) :
    let now := (s.run turns (started.on db)).facing .free
    let t := now.database.tables
    (settings.token ≤ maxColumn ↔ ∀ call failure, call.IsRegular →
      ((s.answer call).run.run now).1 = .error failure → failure.IsRejection) ∧
    (maxColumn < settings.token →
      (∀ call failure, call.IsRegular → ((s.answer call).run.run now).1 = .error failure →
        failure.IsRejection ∨
          (∃ account at_, call = .claim account at_) ∧ failure.IsCreditFailure ∨
          (∃ account, call = .balanceOf account .null) ∧ failure = .columnRange) ∧
      ∀ (account : Value) (name : String), accountOfValue account = .ok name →
        ((s.balanceOf account .null).run.run now).1 = .error .columnRange ∧
        ∀ tick, 0 ≤ tick → tick ≤ maxTick →
          let r := t.record name
          let era := Era.startOf tick s.parameters.eraDuration
          let paid := r.confirmed + t.awardAt s.parameters.budget.val name era
          ((∃ failure, ((s.claim account (.int tick)).run.run now).1 = .error failure ∧
              failure.IsCreditFailure) ↔
            r.lastEra ≤ era ∧ 0 < paid ∧ paid ≤ maxAmount)) := by
  obtain ⟨token_nonneg, pays, opening⟩ := Api.Host.openLedger_eq_ok opened
  have before := (History.deployed_bundled node bundled).opening env s.parameters .bundled
  rw [opening] at before
  have all : ∀ ledger ∈ {ledger : Service | ledger.balances = .bundled},
    ledger.balances = .bundled := fun _ paying => paying
  have member : s ∈ {ledger : Service | ledger.balances = .bundled} := pays.1
  have on_db : History {ledger | ledger.balances = .bundled} _
    (started.on db).database.tables := before
  intro now t
  have history : History {ledger | ledger.balances = .bundled} _ now.database.tables :=
    on_db.run member turns
  have fits_iff : fitsColumn s.parameters.token = true ↔ settings.token ≤ maxColumn := by
    rw [pays.2]
    exact fitsColumn_iff_of_nonneg token_nonneg
  have unanswered (unfit : ¬fitsColumn s.parameters.token = true) {account : Value} {name : String}
      (named : accountOfValue account = .ok name) :
      ((s.balanceOf account .null).run.run now).1 = .error .columnRange := by
    rw [Service.balanceOf_null, history.balanceOf_eq all member named, bindColumn, if_neg unfit]
    rfl
  refine ⟨⟨fun le_max call failure regular failed => ?_, fun rejections => ?_⟩, fun large =>
    ⟨fun call failure regular failed => ?_, fun account name named =>
      ⟨?_, fun tick nonneg le_max => ?_⟩⟩⟩
  · exact (history.answer_fails all member rfl regular failed).resolve_right fun storage =>
      storage.1 (fits_iff.2 le_max)
  · -- The question for a balance is the one regular call that always comes upon the token.
    by_contra large
    have named : accountOfValue (.text "a") = .ok "a" := rfl
    refine rejections _ .columnRange (.balance named) ?_
    rw [Service.answer, run_map, unanswered (mt fits_iff.1 large) named]
    rfl
  · exact (history.answer_fails all member rfl regular failed).imp_right And.right
  · exact unanswered (mt fits_iff.1 large.not_ge) named
  · exact history.claim_credit_fails_iff all member (mt fits_iff.1 large.not_ge) rfl
      (s.claimOf_int named nonneg le_max _)

/-- Accepted settings open a ledger where their parameters do. -/
theorem Api.Host.openLedger_of_check {env : Environment} {settings : Settings}
    {parameters : Parameters} (checked : settings.toDraft.check = .ok ())
    (accepted : Parameters.ofValues (.int settings.eraDuration) (.int settings.budget)
      (.int settings.token) = .ok parameters) (db : Database) :
    openLedger env settings db = Service.start env parameters .bundled db := by
  rw [openLedger, checked, accepted]
  rfl

/-- A report of the account in the first era. -/
def oneReport : List Turn := [⟨.free, .recordVolume (.text "a") (.int 10) (.int 0)⟩]

/-- A ledger with the usual settings. -/
def Service.usual (token : Int) : Service :=
  ⟨⟨100, Parameters.sample.eraDuration_pos, ⟨1000000 * 10 ^ 18, by decide⟩, token⟩, .bundled⟩

/-- With the usual settings a claim in the second era pays what it is asked for. -/
theorem only_rejections_iff_sample :
    Api.Host.openLedger .empty .default .empty = (.ok (.usual 0), .stamped) ∧
      let now := ((Service.usual 0).run oneReport (Node.empty.on .stamped)).facing .free
      ∀ failure, (((Service.usual 0).answer (.claim (.text "a") (.int 100))).run.run now).1 =
        .error failure → failure.IsRejection := by
  have opened : Api.Host.openLedger .empty .default
      ((Deployment.new .empty).run []).node.database = (.ok (.usual 0), .stamped) :=
    Api.Host.openLedger_of_check (ok_of_toOption (by decide +kernel)) rfl .empty
  have nothing : ∀ opening, .opening opening ∈ ([] : List Deployment.Step) →
      opening.balances = .bundled := fun _ absent => by cases absent
  have named : accountOfValue (.text "a") = .ok "a" := rfl
  have fits : Settings.default.token ≤ maxColumn := by decide
  exact ⟨opened, fun failure => (only_rejections_iff nothing opened .empty oneReport).1.1 fits _
    failure (.claim named (by decide) (by decide))⟩

/-- The usual settings with the least token that does not fit a column. -/
def Settings.unfit : Settings := { Settings.default with token := maxColumn + 1 }

/-- The environment from which they are loaded. -/
def Environment.unfit : Environment := ⟨[("ERALEDGER_NATIVE_TOKEN_ID", "9223372036854775808")]⟩

/-- The settings are loaded and accepted, the ledger opens and books a report, and then neither is its
claim paid nor its balance answered. -/
theorem claim_fails_in_unfit_token :
    Settings.load .unfit .none = .ok .unfit ∧
      Api.Host.openLedger .unfit .unfit .empty = (.ok (.usual (maxColumn + 1)), .stamped) ∧
      let s := Service.usual (maxColumn + 1)
      let now := s.run oneReport (Node.empty.on .stamped)
      ((s.claim (.text "a") (.int 100)).run.run now).1 =
          .error (.ledger (.balanceStoreError "a" (1000000 * 10 ^ 18)
            "OverflowError: Python int too large to convert to SQLite INTEGER")) ∧
        ((s.balanceOf (.text "a") .null).run.run now).1 = .error .columnRange := by
  refine ⟨ok_of_toOption (by decide +kernel),
    Api.Host.openLedger_of_check (ok_of_toOption (by decide +kernel)) rfl .empty, ?_, ?_⟩
  · rfl
  · rfl

end EraRewards
