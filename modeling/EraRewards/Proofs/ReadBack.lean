import EraRewards.Proofs.Acceptance
import EraRewards.Proofs.Interface

/-!
# Reading back what was reported

Any text that is not blank names an account in a report, but in a path a name is a single segment, and
the list of events stands where the record of an account of that name would stand.  Other accounts are
answered with what is stored of them.
-/

namespace EraRewards

open Effect

namespace Text

variable {mark : Char} {cs : List Char}

theorem splitAt_of_not_mem (absent : mark ∉ cs) : splitAt mark cs = [cs] := by
  induction cs with
  | nil => rfl
  | cons c rest ih =>
      obtain ⟨distinct, absent⟩ := not_or.1 (List.mem_cons.not.1 absent)
      have other : ¬(c == mark) = true := by simpa using fun same => distinct same.symm
      rw [splitAt, if_neg other, ih absent]

theorem exists_splitAt_of_mem (present : mark ∈ cs) :
    ∃ part another parts, splitAt mark cs = part :: another :: parts := by
  induction cs with
  | nil => cases present
  | cons c rest ih =>
      by_cases here : (c == mark) = true
      · obtain ⟨part, parts, rest_eq⟩ := List.exists_cons_of_ne_nil (splitAt_ne_nil mark rest)
        exact ⟨[], part, parts, by rw [splitAt, if_pos here, rest_eq]⟩
      · have later : mark ∈ rest :=
          (List.mem_cons.1 present).resolve_left fun same => here (by simp [same])
        obtain ⟨part, another, parts, rest_eq⟩ := ih later
        exact ⟨c :: part, another, parts, by rw [splitAt, if_neg here, rest_eq]⟩

theorem splitAt_append (cs rest : List Char) :
    splitAt mark (cs ++ mark :: rest) = splitAt mark cs ++ splitAt mark rest := by
  induction cs with
  | nil => simp [splitAt]
  | cons c cs ih =>
      obtain ⟨part, parts, cs_eq⟩ := List.exists_cons_of_ne_nil (splitAt_ne_nil mark cs)
      rw [List.cons_append, splitAt, splitAt, ih, cs_eq]
      split <;> rfl

end Text

namespace Api

open Http

/-! ## Paths -/

theorem segments_below (start account : String) :
    segments (start ++ "/" ++ account) = segments start ++ Text.splitAt '/' account.toList := by
  have slash : "/".toList = ['/'] := by rfl
  rw [segments, segments, String.toList_append, String.toList_append, slash, List.append_assoc,
    List.singleton_append, Text.splitAt_append]

theorem fitsFixed_empty (last : Bool) : fitsFixed "" last [] = true := by
  cases last <;> rfl

theorem fitsFixed_toList (s part : String) : fitsFixed s false part.toList = decide (part = s) := by
  rw [fitsFixed, Bool.false_and, Bool.or_false]
  simp only [beq_eq_decide, String.toList_inj]

theorem fitsFixed_events (account : String) :
    fitsFixed "events" true account.toList = decide (account = "events" ∨ account = "events\n") := by
  have listed : "events".toList ++ ['\n'] = "events\n".toList := by rfl
  rw [fitsFixed, listed, Bool.true_and, Bool.decide_or]
  simp only [beq_eq_decide, String.toList_inj]

variable {account : String}

theorem fitting?_reward (described : Bool) (something : account ≠ "") :
    fitting? (routes described) "GET"
        ["".toList, "v1".toList, "rewards".toList, account.toList] =
      if account = "events" ∨ account = "events\n" then some .events else some (.reward account) := by
  by_cases shadowed : account = "events" ∨ account = "events\n" <;> cases described <;>
    simp [fitting?, routes, documentationRoutes, ledgerRoutes, fixedPath, parameterOf?,
      fitsFixed_empty, fitsFixed_toList, fitsFixed_events, shadowed, something,
      -String.reduceToList]

theorem fitting?_balance (described : Bool) (something : account ≠ "") :
    fitting? (routes described) "GET"
        ["".toList, "v1".toList, "balances".toList, account.toList] = some (.balance account) := by
  cases described <;>
    simp [fitting?, routes, documentationRoutes, ledgerRoutes, fixedPath, parameterOf?,
      fitsFixed_empty, fitsFixed_toList, something, -String.reduceToList]

/-- No route leads further below the records or the balances. -/
theorem fitting?_below {start : String} (under : start = "rewards" ∨ start = "balances")
    (described : Bool) (part another : List Char) (parts : List (List Char)) :
    fitting? (routes described) "GET"
        ("".toList :: "v1".toList :: start.toList :: part :: another :: parts) = none := by
  cases described <;> rcases under with rfl | rfl <;>
    simp [fitting?, routes, documentationRoutes, ledgerRoutes, fixedPath, parameterOf?,
      fitsFixed_empty, fitsFixed_toList, -String.reduceToList]

theorem resolve_reward (described : Bool) (something : account ≠ "") (whole : '/' ∉ account.toList) :
    resolve (routes described) "GET" ("/v1/rewards/" ++ account) =
      .endpoint (if account = "events" ∨ account = "events\n" then .events else .reward account) := by
  have parts : segments ("/v1/rewards/" ++ account) =
      ["".toList, "v1".toList, "rewards".toList, account.toList] := by
    rw [← Text.splitAt_of_not_mem whole]
    exact segments_below "/v1/rewards" account
  rw [resolve_eq_endpoint_iff, parts, fitting?_reward described something]
  split <;> rfl

theorem resolve_balance (described : Bool) (something : account ≠ "") (whole : '/' ∉ account.toList) :
    resolve (routes described) "GET" ("/v1/balances/" ++ account) = .endpoint (.balance account) := by
  have parts : segments ("/v1/balances/" ++ account) =
      ["".toList, "v1".toList, "balances".toList, account.toList] := by
    rw [← Text.splitAt_of_not_mem whole]
    exact segments_below "/v1/balances" account
  rw [resolve_eq_endpoint_iff, parts, fitting?_balance described something]

/-- A name with a slash is more than one segment. -/
theorem resolve_below {start : String} (under : start = "rewards" ∨ start = "balances")
    (slash : '/' ∈ account.toList) (described : Bool) (e : Endpoint) :
    resolve (routes described) "GET" ("/v1/" ++ start ++ "/" ++ account) ≠ .endpoint e := by
  obtain ⟨part, another, parts, account_eq⟩ := Text.exists_splitAt_of_mem slash
  have start_eq : segments ("/v1/" ++ start) = ["".toList, "v1".toList, start.toList] := by
    rcases under with rfl | rfl <;> rfl
  rw [Ne, resolve_eq_endpoint_iff, segments_below, account_eq, start_eq]
  intro found
  cases (fitting?_below under described part another parts).symm.trans found

/-! ## Answers -/

/-- Requests that only ask for what is at a path and announce no body. -/
structure Asks (r : Http.Request) (path : String) : Prop where
  /-- The method. -/
  method : r.method = "GET"
  /-- The path. -/
  path : r.path = path
  /-- No length is announced. -/
  unannounced : r.nonemptyHeader? "content-length" = none

namespace App

/-- A reply with status 200 that shows some members. -/
def Shows (reply : Reply) (members : List (String × Value)) : Prop :=
  statusOf reply = 200 ∧ contentOf reply = some (success members).content

variable {app : App} {moment : Moment} {r : Http.Request} {path : String}

theorem tooLarge_of_asks (asks : Asks r path) (env : Environment) : tooLarge env r = false := by
  have unchanging : ["POST", "PUT", "PATCH"].contains (Text.upper "GET") = false := by decide +kernel
  rw [tooLarge, asks.unannounced, asks.method, unchanging]
  rfl

/-- A request that only asks shows what its endpoint makes of it. -/
theorem displayed_iff_of_asks (asks : Asks r path) (node : Node) (members : List (String × Value)) :
    Shows ((app.handle moment r).run node).1 members ↔
      Shows (replyOf ((app.dispatch moment r).run.run node).1) members := by
  have small : app.handle moment r = app.answer moment r := by
    rw [handle, tooLarge_of_asks asks, Bool.and_false]
    rfl
  rcases answered : (app.answer moment r).run node with ⟨reply, after⟩
  obtain ⟨result, next, log, dispatched, status_eq, content_eq, -⟩ := answer_run answered
  rw [small, answered, dispatched, Shows, Shows, status_eq, content_eq]

theorem not_displayed_of_nowhere (moment : Moment) (nowhere : ∀ e, app.destination r ≠ .endpoint e)
    (node : Node) (members : List (String × Value)) :
    ¬Shows (replyOf ((app.dispatch moment r).run.run node).1) members := by
  intro displayed
  have stopped : statusOf (replyOf ((app.dispatch moment r).run.run node).1) ≠ 200 := by
    rw [dispatch]
    split
    · rename_i e leads
      exact absurd leads (nowhere e)
    all_goals exact of_decide_eq_true rfl
  exact stopped displayed.1

theorem displayed_success_iff (shown members : List (String × Value)) :
    Shows (replyOf (.ok (success shown))) members ↔ shown = members := by
  simp [Shows, replyOf, statusOf, contentOf, success, Response.json]

variable {s : Service} {node : Node} {ledgers : Set Service} {journal : List Entry}
  {account name : String}

theorem dispatch_reward (attached : app.service = some s)
    (leads : app.destination r = .endpoint (.reward account))
    (history : History ledgers journal node.database.tables)
    (named : accountOfValue (.text account) = .ok name) :
    ((app.dispatch moment r).run.run node).1 = .ok (success [("account", .text account),
      ("reward", (node.database.tables.record name).toValue)]) := by
  rw [dispatch_of_endpoint moment leads, serve, withService, attached]
  dsimp only
  rw [reward, bind_pure_comp, run_map, history.rewardOf_eq named]
  rfl

theorem dispatch_balance (attached : app.service = some s)
    (leads : app.destination r = .endpoint (.balance account))
    (history : History ledgers journal node.database.tables)
    (bundled : ∀ s ∈ ledgers, s.balances = .bundled) (member : s ∈ ledgers)
    (named : accountOfValue (.text account) = .ok name) :
    ((app.dispatch moment r).run.run node).1 = (bindColumn s.parameters.token).map fun _ =>
      success [("account", .text account), ("token_id", .int s.parameters.token),
        ("balance", .text (Integer.write
          (node.database.tables.balance s.parameters.token name)))] := by
  rw [dispatch_of_endpoint moment leads, serve, withService, attached]
  dsimp only
  rw [balance, Service.balanceOf_null, bind_pure_comp, run_map,
    history.balanceOf_eq bundled member named]
  cases bindColumn s.parameters.token <;> rfl

theorem not_displayed_of_events (attached : app.service = some s)
    (leads : app.destination r = .endpoint .events) {member : String × Value}
    (other : member.1 ≠ "events") {members : List (String × Value)} (node : Node) :
    ¬Shows (replyOf ((app.dispatch moment r).run.run node).1) (member :: members) := by
  rw [dispatch_of_endpoint moment leads, serve]
  split
  · exact fun displayed => status_of_refuse _ displayed.1
  · rw [withService, attached]
    dsimp only
    intro displayed
    have same := (displayed_success_iff [("events", _)] (member :: members)).1 displayed
    exact other (congrArg Prod.fst (List.cons.inj same).1).symm

theorem ne_empty_of_accountOfValue (named : accountOfValue (.text account) = .ok name) :
    account ≠ "" := by
  rintro rfl
  cases named

theorem destination_of_asks (asks : Asks r path) :
    app.destination r = resolve (routes (documented app.environment)) "GET" path := by
  rw [destination, asks.method, asks.path]

theorem not_displayed_below {start : String} (under : start = "rewards" ∨ start = "balances")
    (asks : Asks r ("/v1/" ++ start ++ "/" ++ account)) (slash : '/' ∈ account.toList)
    (node : Node) (members : List (String × Value)) :
    ¬Shows ((app.handle moment r).run node).1 members := by
  rw [displayed_iff_of_asks asks]
  refine not_displayed_of_nowhere moment (fun e => ?_) node members
  rw [destination_of_asks asks]
  exact resolve_below under slash _ e

/-- A report continues the history of the tables. -/
theorem Reported.history {outcome : Reply × Node} {report : VolumeReport} {era : Int}
    (reported : Reported s r node outcome report name era)
    (history : History ledgers journal node.database.tables) (member : s ∈ ledgers) :
    ∃ continued, History ledgers continued outcome.2.database.tables := by
  obtain ⟨log, called⟩ := reported.called
  let turn : Turn := ⟨node.database.contention,
    .recordVolume (.text report.account) (.int report.volume) (.int report.at_)⟩
  have facing : node.facing node.database.contention = node := rfl
  have left : (s.serve turn node).database.tables = outcome.2.database.tables := by
    rw [Service.serve, Service.answer, run_map, facing, called]
  exact ⟨_, left ▸ history.serve member turn⟩

/-- The record of an account can be read exactly if its name is one segment and not that of the list
of events, which counts with a line break behind it as well. -/
theorem reward_shown_iff (attached : app.service = some s)
    (history : History ledgers journal node.database.tables)
    (named : accountOfValue (.text account) = .ok name)
    (asks : Asks r ("/v1/rewards/" ++ account)) :
    Shows ((app.handle moment r).run node).1 [("account", .text account),
        ("reward", (node.database.tables.record name).toValue)] ↔
      '/' ∉ account.toList ∧ account ≠ "events" ∧ account ≠ "events\n" := by
  have something := ne_empty_of_accountOfValue named
  have destination_eq : app.destination r = _ := destination_of_asks asks
  rw [← not_or]
  by_cases whole : '/' ∉ account.toList
  · rw [displayed_iff_of_asks asks]
    rw [resolve_reward _ something whole] at destination_eq
    by_cases shadowed : account = "events" ∨ account = "events\n"
    · rw [if_pos shadowed] at destination_eq
      have other : "account" ≠ "events" := by decide
      exact iff_of_false (not_displayed_of_events attached destination_eq other node)
        fun free => free.2 shadowed
    · rw [if_neg shadowed] at destination_eq
      rw [dispatch_reward attached destination_eq history named, displayed_success_iff]
      exact iff_of_true rfl ⟨whole, shadowed⟩
  · exact iff_of_false (not_displayed_below (.inl rfl) asks (not_not.1 whole) node _)
      fun free => whole free.1

/-- The balance of an account can be read exactly if its name is one segment and the token of the
ledger fits a column. -/
theorem balance_shown_iff (attached : app.service = some s)
    (history : History ledgers journal node.database.tables)
    (bundled : ∀ s ∈ ledgers, s.balances = .bundled) (member : s ∈ ledgers)
    (named : accountOfValue (.text account) = .ok name)
    (asks : Asks r ("/v1/balances/" ++ account)) :
    Shows ((app.handle moment r).run node).1 [("account", .text account),
        ("token_id", .int s.parameters.token), ("balance", .text (Integer.write
          (node.database.tables.balance s.parameters.token name)))] ↔
      '/' ∉ account.toList ∧ fitsColumn s.parameters.token = true := by
  have something := ne_empty_of_accountOfValue named
  have destination_eq : app.destination r = _ := destination_of_asks asks
  by_cases whole : '/' ∉ account.toList
  · rw [displayed_iff_of_asks asks]
    rw [resolve_balance _ something whole] at destination_eq
    rw [dispatch_balance attached destination_eq history bundled member named, bindColumn]
    by_cases fits : fitsColumn s.parameters.token = true
    · rw [if_pos fits]
      exact iff_of_true ((displayed_success_iff _ _).2 rfl) ⟨whole, fits⟩
    · rw [if_neg fits]
      exact iff_of_false (fun displayed => status_of_error .columnRange displayed.1) fun free => fits free.2
  · exact iff_of_false (not_displayed_below (.inr rfl) asks (not_not.1 whole) node _)
      fun free => whole free.1

end App

open App

/-- A report that was answered with status 200 names an account.  Whatever is called afterwards, its
record is shown where the name of the account stands in a path exactly if the name has no slash and is
not that of the list of events, and its balance exactly if the name has no slash and the token of the
ledger fits a column.  A path is given without percent escapes. -/
theorem reported_account_readable_iff {node : Node} {steps : List Deployment.Step} {s : Service}
    (bundled : ∀ opening, .opening opening ∈ steps → opening.balances = .bundled)
    (present : ((Deployment.new node).run steps).ledger = some s) {app : App}
    (attached : app.service = some s) {moment : Moment} {post : Http.Request}
    (posted : post.method = "POST") (path_eq : post.path = "/v1/rewards/volume") :
    let start := ((Deployment.new node).run steps).node
    let outcome := (app.handle moment post).run start
    statusOf outcome.1 = 200 →
    ∃ report name era, Reported s post start outcome report name era ∧
      ∀ (turns : List Turn) (later : Moment) (get : Http.Request),
        let now := s.run turns outcome.2
        let t := now.database.tables
        (Asks get ("/v1/rewards/" ++ report.account) →
          (Shows ((app.handle later get).run now).1
              [("account", .text report.account), ("reward", (t.record name).toValue)] ↔
            '/' ∉ report.account.toList ∧ report.account ≠ "events" ∧
              report.account ≠ "events\n")) ∧
        (Asks get ("/v1/balances/" ++ report.account) →
          (Shows ((app.handle later get).run now).1
              [("account", .text report.account), ("token_id", .int s.parameters.token),
                ("balance", .text (Integer.write (t.balance s.parameters.token name)))] ↔
            '/' ∉ report.account.toList ∧ fitsColumn s.parameters.token = true)) := by
  intro start outcome answered
  have leads : app.destination post = .endpoint .reportVolume := by
    rw [destination, posted, path_eq]
    exact resolve_volume _
  obtain ⟨report, name, era, reported⟩ := reported_of_handle attached rfl leads answered
  have all : ∀ ledger ∈ {ledger : Service | ledger.balances = .bundled},
    ledger.balances = .bundled := fun _ paying => paying
  have member : s ∈ {ledger : Service | ledger.balances = .bundled} :=
    Deployment.bundled_of_present bundled present
  have before : History {ledger | ledger.balances = .bundled} _ start.database.tables :=
    History.deployed_bundled node bundled
  obtain ⟨_, continued⟩ := reported.history before member
  refine ⟨report, name, era, reported, fun turns later get => ?_⟩
  have history := continued.run member turns
  exact ⟨reward_shown_iff attached history reported.named,
    balance_shown_iff attached history all member reported.named⟩

/-- A report of five units in the first era. -/
def postedReport (account : String) : Http.Request :=
  ⟨"POST", "/v1/rewards/volume", "", [("content-type", "application/json")],
    "\x7b\"account\":\"" ++ account ++ "\",\"volume\":5,\"at\":0\x7d"⟩

/-- A question for what is at a path. -/
def askedAt (path : String) : Http.Request := ⟨"GET", path, "", [], ""⟩

/-- An empty database is opened with the sample parameters. -/
def sampleSteps : List Deployment.Step :=
  [.opening ⟨.free, .empty, .int 100, .int 1000000, .int 0, .bundled, default, .absent⟩]

/-- The interface of the sample ledger, in production. -/
def App.sample : App := ⟨some .sample, .empty⟩

/-- A name may have blanks around it and a question mark in it. -/
theorem reported_account_readable_iff_sample :
    let outcome := (App.sample.handle ⟨"1", 0, 0⟩ (postedReport " a?b ")).run
      ((Deployment.new .empty).run sampleSteps).node
    statusOf outcome.1 = 200 ∧
      Shows ((App.sample.handle ⟨"2", 0, 0⟩ (askedAt "/v1/rewards/ a?b ")).run outcome.2).1
        [("account", .text " a?b "),
          ("reward", (outcome.2.database.tables.record "a?b").toValue)] := by
  have answered : statusOf ((App.sample.handle ⟨"1", 0, 0⟩ (postedReport " a?b ")).run
      ((Deployment.new .empty).run sampleSteps).node).1 = 200 := by decide +kernel
  have account_eq : ((bodyOf (postedReport " a?b ")).toOption.join.bind fun body =>
      (VolumeReport.ofBody body).toOption.map VolumeReport.account) = some " a?b " := by
    decide +kernel
  have named : accountOfValue (.text " a?b ") = .ok "a?b" := ok_of_toOption (by decide +kernel)
  have bundled : ∀ opening, .opening opening ∈ sampleSteps → opening.balances = .bundled := by
    intro opening member
    cases List.mem_singleton.1 member
    rfl
  have present : ((Deployment.new .empty).run sampleSteps).ledger = some Service.sample := by rfl
  have attached : App.sample.service = some Service.sample := rfl
  have asks : Asks (askedAt "/v1/rewards/ a?b ") ("/v1/rewards/" ++ " a?b ") := ⟨rfl, rfl, rfl⟩
  have outcome := reported_account_readable_iff bundled present attached rfl rfl answered
  rcases handled : (App.sample.handle ⟨"1", 0, 0⟩ (postedReport " a?b ")).run
    ((Deployment.new .empty).run sampleSteps).node with ⟨reply, after⟩
  rw [handled] at answered outcome
  obtain ⟨⟨account, volume, at_⟩, name, era, reported, readable⟩ := outcome
  obtain ⟨body, body_eq, read_eq⟩ := reported.read
  rw [body_eq, Except.toOption, Option.join_some, Option.bind_some, read_eq] at account_eq
  obtain rfl : account = " a?b " := Option.some.inj account_eq
  obtain rfl : "a?b" = name :=
    Account.named.inj (Except.ok.inj (named.symm.trans reported.named))
  have whole : '/' ∉ " a?b ".toList ∧ " a?b " ≠ "events" ∧ " a?b " ≠ "events\n" := by decide
  exact ⟨answered, ((readable [] ⟨"2", 0, 0⟩ _).1 asks).2 whole⟩

/-- What an account has reported is stored, but neither its record nor its balance is shown where its
name has a slash. -/
theorem reported_account_unreadable :
    let outcome := (App.sample.handle ⟨"1", 0, 0⟩ (postedReport "a/b")).run
      ((Deployment.new .empty).run sampleSteps).node
    let ask (path : String) := (App.sample.handle ⟨"2", 0, 0⟩ (askedAt path)).run outcome.2
    (statusOf outcome.1 = 200 ∧ outcome.2.database.tables.record "a/b" = ⟨0, 5, 0⟩) ∧
      ∀ members, ¬Shows (ask "/v1/rewards/a/b").1 members ∧
        ¬Shows (ask "/v1/balances/a/b").1 members := by
  intro outcome ask
  have record : Asks (askedAt "/v1/rewards/a/b") ("/v1/" ++ "rewards" ++ "/" ++ "a/b") :=
    ⟨rfl, rfl, rfl⟩
  have balance : Asks (askedAt "/v1/balances/a/b") ("/v1/" ++ "balances" ++ "/" ++ "a/b") :=
    ⟨rfl, rfl, rfl⟩
  have slash : '/' ∈ "a/b".toList := by decide
  exact ⟨by decide +kernel, fun members => ⟨not_displayed_below (.inl rfl) record slash _ members,
    not_displayed_below (.inr rfl) balance slash _ members⟩⟩

end Api
end EraRewards
