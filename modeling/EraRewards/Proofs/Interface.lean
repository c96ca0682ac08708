import EraRewards.Api.App
import EraRewards.Proofs.Outcome

/-!
# What the interface makes of the ledger

Only two endpoints change a ledger.  A request that is not answered with status 200 has changed
nothing, wherever it was stopped; one that is has made exactly the call that it asks for, and tells
what came of it.
-/

namespace EraRewards

open Effect

/-! ## Steps that only look -/

namespace Node

variable {α β : Type}

/-- Steps that change nothing but the clock. -/
def Observes (step : Action α) : Prop :=
  ∀ node, ∃ clock, (step.run.run node).2 = { node with clock }

theorem observes_pure (result : α) : Observes (pure result) := fun node => ⟨node.clock, rfl⟩

theorem observes_lift (outcome : Except Failure α) : Observes (liftM outcome) :=
  fun node => ⟨node.clock, rfl⟩

theorem observes_liftLedger (outcome : Except LedgerError α) : Observes (liftM outcome) :=
  fun node => ⟨node.clock, rfl⟩

theorem observes_get : Observes get := fun node => ⟨node.clock, rfl⟩

theorem observes_read (transaction : Transaction α) : Observes (read transaction) :=
  fun node => ⟨node.clock, rfl⟩

theorem observes_now : Observes now := fun node => ⟨node.clock.advance, rfl⟩

theorem Observes.bind {first : Action α} {next : α → Action β} (observes : Observes first)
    (follows : ∀ result, Observes (next result)) : Observes (first >>= next) := by
  intro node
  obtain ⟨clock, first_eq⟩ := observes node
  rw [run_bind]
  rcases run_first : first.run.run node with ⟨_ | result, middle⟩
  · rw [run_first] at first_eq
    exact ⟨clock, first_eq⟩
  · rw [run_first] at first_eq
    obtain ⟨last, next_eq⟩ := follows result middle
    refine ⟨last, next_eq.trans ?_⟩
    rw [show middle = { node with clock } from first_eq]

end Node

namespace Service

theorem observes_totalVolume (s : Service) (at_ : Value) : Node.Observes (s.totalVolume at_) :=
  (Node.observes_liftLedger _).bind fun _ => Node.observes_read _

theorem observes_rewardOf (account : Value) : Node.Observes (rewardOf account) :=
  (Node.observes_liftLedger _).bind fun _ => Node.observes_read _

theorem observes_balanceOf (s : Service) (account token : Value) :
    Node.Observes (s.balanceOf account token) := by
  apply (Node.observes_liftLedger _).bind
  intro name
  cases token with
  | null => exact (Node.observes_pure _).bind fun _ => Node.observes_read _
  | _ => exact (Node.observes_lift _).bind fun _ => Node.observes_read _

end Service

/-! ## Calls that fail -/

namespace Service

variable {s : Service} {node : Node} {account volume at_ : Value} {failure : Failure}

theorem recordVolume_kept_of_error
    (failed : ((s.recordVolume account volume at_).run.run node).1 = .error failure) :
    ((s.recordVolume account volume at_).run.run node).2.database.tables = node.database.tables ∧
      ((s.recordVolume account volume at_).run.run node).2.sink = node.sink :=
  ⟨recordVolume_tables_of_error failed,
    (s.failsSilently_recordVolume account volume at_).sink_eq failed⟩

theorem claim_kept_of_error
    (failed : ((s.claim account at_).run.run node).1 = .error failure) :
    ((s.claim account at_).run.run node).2.database.tables = node.database.tables ∧
      ((s.claim account at_).run.run node).2.sink = node.sink :=
  ⟨claim_tables_of_error failed, (s.failsSilently_claim account at_).sink_eq failed⟩

end Service

namespace Api

open Http

/-! ## Routes -/

/-- Whether an endpoint changes the ledger. -/
def Endpoint.changes : Endpoint → Bool
  | reportVolume | claim => true
  | _ => false

theorem posted_or_unchanging (described : Bool) :
    ∀ route ∈ routes described,
      route.methods = ["POST"] ∨ ∀ parameter, (route.endpoint parameter).changes = false := by
  cases described <;> simp [routes, documentationRoutes, ledgerRoutes, Endpoint.changes]

/-- Endpoint of the first route that fits a method and the segments of a path. -/
def fitting? (routes : List Route) (method : String) (parts : List (List Char)) : Option Endpoint :=
  routes.findSome? fun route =>
    if route.methods.contains method then (parameterOf? route.pattern parts).map route.endpoint
    else none

theorem resolve_eq_endpoint_iff {routes : List Route} {method path : String} {e : Endpoint} :
    resolve routes method path = .endpoint e ↔ fitting? routes method (segments path) = some e := by
  rw [resolve, fitting?]
  constructor
  · intro leads
    split at leads
    · rename_i found
      cases leads
      exact found
    · split at leads
      · cases leads
      · split at leads <;> cases leads
  · intro found
    rw [found]

theorem exists_route_of_resolve {routes : List Route} {method path : String} {e : Endpoint}
    (leads : resolve routes method path = .endpoint e) :
    ∃ route ∈ routes, method ∈ route.methods ∧ ∃ parameter, route.endpoint parameter = e := by
  obtain ⟨route, listed, fits⟩ :=
    List.exists_of_findSome?_eq_some (resolve_eq_endpoint_iff.1 leads)
  split at fits
  · rename_i allowed
    obtain ⟨parameter, -, endpoint_eq⟩ := Option.map_eq_some_iff.1 fits
    exact ⟨route, listed, by simpa using allowed, parameter, endpoint_eq⟩
  · cases fits

/-- A request that only asks leads to no endpoint that changes the ledger. -/
theorem unchanging_of_get {described : Bool} {path : String} {e : Endpoint}
    (leads : resolve (routes described) "GET" path = .endpoint e) : e.changes = false := by
  obtain ⟨route, listed, allowed, parameter, rfl⟩ := exists_route_of_resolve leads
  obtain posted | unchanging := posted_or_unchanging described route listed
  · rw [posted] at allowed
    simp at allowed
  · exact unchanging parameter

theorem resolve_volume (described : Bool) :
    resolve (routes described) "POST" "/v1/rewards/volume" = .endpoint .reportVolume := by
  cases described <;> decide +kernel

theorem resolve_claim (described : Bool) :
    resolve (routes described) "POST" "/v1/rewards/claim" = .endpoint .claim := by
  cases described <;> decide +kernel

namespace App

variable {app : App} {moment : Moment} {r : Http.Request} {node : Node}

/-! ## Endpoints that only look -/

theorem observes_refuse (faults : List FieldFault) :
    Node.Observes (liftM (refuse faults) : Handler) := Node.observes_lift _

theorem observes_withService {next : Service → Handler} (follows : ∀ s, Node.Observes (next s)) :
    Node.Observes (app.withService next) := by
  rw [withService]
  split
  · exact follows _
  · exact Node.observes_pure _

theorem observes_eraVolume (part : String) (s : Service) : Node.Observes (eraVolume part s) := by
  rw [eraVolume]
  split
  · exact Node.observes_pure _
  · exact (Node.observes_lift _).bind fun _ => (Node.observes_liftLedger _).bind fun _ =>
      (s.observes_totalVolume _).bind fun _ => Node.observes_pure _

theorem observes_serve {e : Endpoint} (unchanging : e.changes = false) :
    Node.Observes (app.serve moment r e) := by
  cases e with
  | documentation => exact Node.observes_pure _
  | health => exact Node.observes_pure _
  | parameters => exact Node.observes_pure _
  | reportVolume => cases unchanging
  | claim => cases unchanging
  | events =>
      rw [serve]
      split
      · exact observes_refuse _
      · exact observes_withService fun _ => Node.observes_get.bind fun _ => Node.observes_pure _
  | reward account =>
      exact observes_withService fun _ =>
        (Service.observes_rewardOf _).bind fun _ => Node.observes_pure _
  | balance account =>
      exact observes_withService fun s =>
        (s.observes_balanceOf _ _).bind fun _ => Node.observes_pure _
  | eraVolume tick => exact observes_withService (observes_eraVolume tick)
  | currentEra =>
      exact observes_withService fun _ => Node.observes_now.bind fun _ =>
        (Node.observes_liftLedger _).bind fun _ => Node.observes_pure _
  | metrics => exact Node.observes_get.bind fun _ => Node.observes_pure _

/-- Where a request leads. -/
def destination (app : App) (r : Http.Request) : Destination :=
  resolve (routes (documented app.environment)) r.method r.path

theorem dispatch_of_endpoint (moment : Moment) {e : Endpoint}
    (leads : app.destination r = .endpoint e) : app.dispatch moment r = app.serve moment r e := by
  rw [destination] at leads
  rw [dispatch, leads]

theorem observes_dispatch (moment : Moment)
    (unchanging : ∀ e, app.destination r = .endpoint e → e.changes = false) :
    Node.Observes (app.dispatch moment r) := by
  rw [dispatch]
  split
  · rename_i e leads
    exact observes_serve (unchanging e leads)
  all_goals exact Node.observes_pure _

/-! ## Requests that are stopped -/

theorem status_of_error (failure : Failure) : statusOf (replyOf (.error failure)) ≠ 200 := by
  cases failure with
  | ledger error =>
      obtain ⟨code, reason, details⟩ := error
      cases code <;>
        simp [replyOf, statusOf, ApiError.ofLedger, ApiError.response, ApiError.conflict,
          ApiError.badRequest, ApiError.internal, Response.json]
  | _ => simp [replyOf, statusOf]

theorem status_of_refuse (faults : List FieldFault) :
    statusOf (replyOf (refuse faults)) ≠ 200 := by
  rw [refuse]
  split
  · exact status_of_error _
  · split
    · exact status_of_error _
    · simp [replyOf, statusOf]

theorem status_of_jsonBody {letters : List Letter} {response : Response}
    (refused : jsonBody letters = .error response) : response.status ≠ 200 := by
  rw [jsonBody] at refused
  split at refused
  · cases refused
  · split at refused <;> cases refused <;> simp [unreadableBody, Response.refusal, Response.json]

theorem status_of_bodyOf {response : Response} (refused : bodyOf r = .error response) :
    response.status ≠ 200 := by
  rw [bodyOf] at refused
  split at refused
  · cases refused
  · split at refused
    · cases refused
    · split at refused
      · rename_i letters _
        cases parsed : jsonBody letters with
        | error first =>
            rw [parsed] at refused
            cases refused
            exact status_of_jsonBody parsed
        | ok body =>
            rw [parsed] at refused
            cases refused
      · cases refused
        simp [unreadableBody, Response.refusal, Response.json]

/-- A request is stopped at its body, or goes on with what has been read from it. -/
theorem withBody_run {α : Type} (read : Value → Except (List FieldFault) α) (next : α → Handler)
    (node : Node) :
    (∃ outcome, (withBody r read next).run.run node = (outcome, node) ∧
        statusOf (replyOf outcome) ≠ 200) ∨
      ∃ body request, bodyOf r = .ok (some body) ∧ read body = .ok request ∧
        withBody r read next = next request := by
  rw [withBody]
  split
  · rename_i response refused
    exact .inl ⟨_, rfl, status_of_bodyOf refused⟩
  · exact .inl ⟨_, rfl, by simp [replyOf, statusOf, missingBody]⟩
  · rename_i body body_eq
    split
    · rename_i faults _
      exact .inl ⟨_, run_lift _ _, status_of_refuse faults⟩
    · rename_i request read_eq
      exact .inr ⟨body, request, body_eq, read_eq, rfl⟩

/-! ## Requests that reach the ledger -/

/-- A call that names its account is answered with what came of it. -/
theorem rendered_run {call : Action Int} {account : String} (render : Account → Int → Response)
    (named : ∀ node result, (call.run.run node).1 = .ok result →
      ∃ holder, accountOfValue (.text account) = .ok holder) (node : Node) :
    let answer : Handler := do
      let result ← call
      let account ← accountOfValue (.text account)
      return render account result
    (∃ failure, (call.run.run node).1 = .error failure ∧
        answer.run.run node = (.error failure, (call.run.run node).2)) ∨
      ∃ (result : Int) (name : String), (call.run.run node).1 = .ok result ∧
        accountOfValue (.text account) = .ok name ∧
        answer.run.run node = (.ok (render name result), (call.run.run node).2) := by
  intro answer
  rw [run_bind]
  rcases called : call.run.run node with ⟨failure | result, after⟩
  · exact .inl ⟨failure, rfl, rfl⟩
  · obtain ⟨holder, name_eq⟩ := named node result (by rw [called])
    obtain ⟨name, rfl⟩ := exists_named_of_text name_eq
    refine .inr ⟨result, name, rfl, name_eq, ?_⟩
    dsimp only
    rw [run_bind, run_liftLedger, name_eq]
    rfl

/-- A report is answered with the era of its call, and leaves the node of its call; or it fails and
leaves tables and events as they were. -/
theorem reportVolume_run (report : VolumeReport) (s : Service) (node : Node) :
    (∃ failure after, (reportVolume report s).run.run node = (.error failure, after) ∧
        after.database.tables = node.database.tables ∧ after.sink = node.sink) ∨
      ∃ (era : Int) (name : String),
        ((s.recordVolume (.text report.account) (.int report.volume)
          (.int report.at_)).run.run node).1 = .ok era ∧
        accountOfValue (.text report.account) = .ok name ∧
        (reportVolume report s).run.run node =
          (.ok (success [("account", .text name), ("era", .int era),
            ("volume", .text (Integer.write report.volume))]),
            ((s.recordVolume (.text report.account) (.int report.volume)
              (.int report.at_)).run.run node).2) := by
  obtain ⟨failure, failed, run_eq⟩ | answered :=
    rendered_run (fun account era => success [("account", account.toValue), ("era", .int era),
      ("volume", .text (Integer.write report.volume))]) (fun node era answered => by
        obtain ⟨holder, amount, asked, -⟩ := Service.recordVolume_eq_ok answered
        exact ⟨holder, (Service.reportOf_eq_ok asked).1⟩) node
  · exact .inl ⟨failure, _, run_eq, Service.recordVolume_kept_of_error failed⟩
  · exact .inr answered

end App

/-- Tick of a request to pay out, as a call takes it. -/
def ClaimRequest.tick (request : ClaimRequest) : Value :=
  match request.at_ with
  | some tick => .int tick
  | none => .null

namespace App

variable {app : App} {s : Service} {moment : Moment} {r : Http.Request}

/-- A claim without a tick is the claim at the next reading of the clock. -/
theorem claim_null_run {account : Value} {holder : Account}
    (named : accountOfValue account = .ok holder) {node : Node} {tick : Int}
    (ticked : node.clock.next.toInt = .ok tick) :
    (s.claim account .null).run.run node =
      (s.claim account (.int tick)).run.run { node with clock := node.clock.advance } := by
  have now_run : Node.now.run.run node = (.ok tick, { node with clock := node.clock.advance }) := by
    rw [← ticked]
    rfl
  rw [Service.claim, Service.claim, run_bind, run_bind, run_liftLedger, run_liftLedger, named]
  simp only [Except.mapError]
  rw [run_bind, run_bind, Service.claimTick, run_map, now_run]
  rfl

/-- A claim with a tick is answered with the amount of its call, and leaves the node of its call. -/
theorem claim_run_at (account : String) (tick : Int) (s : Service) (node : Node) :
    (∃ failure, ((s.claim (.text account) (.int tick)).run.run node).1 = .error failure ∧
        (claim ⟨account, some tick⟩ s).run.run node =
          (.error failure, ((s.claim (.text account) (.int tick)).run.run node).2)) ∨
      ∃ (amount : Int) (name : String),
        ((s.claim (.text account) (.int tick)).run.run node).1 = .ok amount ∧
        accountOfValue (.text account) = .ok name ∧
        (claim ⟨account, some tick⟩ s).run.run node =
          (.ok (success [("account", .text name), ("at", .int tick),
            ("amount", .text (Integer.write amount))]),
            ((s.claim (.text account) (.int tick)).run.run node).2) := by
  rw [claim]
  dsimp only
  rw [pure_bind]
  refine rendered_run (fun account amount => success [("account", account.toValue),
    ("at", .int tick), ("amount", .text (Integer.write amount))]) (fun node amount answered => ?_) node
  obtain ⟨name, era, rotation, asked, -⟩ := Service.claim_eq_ok answered
  exact ⟨name, (Service.claimOf_eq_ok asked).1⟩

theorem claim_run_now (account : String) (s : Service) (node : Node) :
    (claim ⟨account, none⟩ s).run.run node =
      match node.clock.next.toInt with
      | .error failure => (.error failure, { node with clock := node.clock.advance })
      | .ok tick =>
        (claim ⟨account, some tick⟩ s).run.run { node with clock := node.clock.advance } := by
  have now_run : Node.now.run.run node =
      (node.clock.next.toInt, { node with clock := node.clock.advance }) := rfl
  rw [claim]
  dsimp only
  rw [run_bind, now_run]
  cases node.clock.next.toInt with
  | error failure => rfl
  | ok tick =>
      dsimp only
      rw [claim]
      dsimp only
      rw [pure_bind]

/-- A claim is answered with the tick and the amount of its call, and leaves the node of its call; or
it fails and leaves tables and events as they were. -/
theorem claim_run (request : ClaimRequest) (s : Service) (node : Node) :
    (∃ failure after, (claim request s).run.run node = (.error failure, after) ∧
        after.database.tables = node.database.tables ∧ after.sink = node.sink) ∨
      ∃ (amount : Int) (name : String) (tick : Int),
        ((s.claim (.text request.account) request.tick).run.run node).1 = .ok amount ∧
        accountOfValue (.text request.account) = .ok name ∧
        Service.tickOf request.tick node.clock = .ok (.int tick) ∧
        (claim request s).run.run node =
          (.ok (success [("account", .text name), ("at", .int tick),
            ("amount", .text (Integer.write amount))]),
            ((s.claim (.text request.account) request.tick).run.run node).2) := by
  obtain ⟨account, at_⟩ := request
  cases at_ with
  | none =>
      rw [claim_run_now]
      cases ticked : node.clock.next.toInt with
      | error failure => exact .inl ⟨failure, _, rfl, rfl, rfl⟩
      | ok tick =>
          dsimp only
          obtain ⟨failure, failed, run_eq⟩ | ⟨amount, name, answered, named, run_eq⟩ :=
            claim_run_at account tick s { node with clock := node.clock.advance }
          · have kept := Service.claim_kept_of_error failed
            exact .inl ⟨failure, _, run_eq, kept⟩
          · rw [← claim_null_run named ticked] at answered run_eq
            have ticked_at : Service.tickOf .null node.clock = .ok (.int tick) := by
              rw [Service.tickOf, ticked]
              rfl
            exact .inr ⟨amount, name, tick, answered, named, ticked_at, run_eq⟩
  | some tick =>
      obtain ⟨failure, failed, run_eq⟩ | ⟨amount, name, answered, named, run_eq⟩ :=
        claim_run_at account tick s node
      · exact .inl ⟨failure, _, run_eq, Service.claim_kept_of_error failed⟩
      · have ticked_at : Service.tickOf (.int tick) node.clock = .ok (.int tick) := rfl
        exact .inr ⟨amount, name, tick, answered, named, ticked_at, run_eq⟩

/-! ## Replies -/

/-- What a reply carries, if it is a response. -/
def contentOf : Reply → Option Content
  | .answered response => some response.content
  | .raised _ => none

theorem statusOf_identify (requestId : String) (reply : Reply) :
    statusOf (identify requestId reply) = statusOf reply := by
  cases reply <;> rfl

theorem contentOf_identify (requestId : String) (reply : Reply) :
    contentOf (identify requestId reply) = contentOf reply := by
  cases reply <;> rfl

/-- What is added to the outcome of an endpoint is a header and a line of the log. -/
theorem answer_run {node after : Node} {reply : Reply}
    (answered : (app.answer moment r).run node = (reply, after)) :
    ∃ result next log, (app.dispatch moment r).run.run node = (result, next) ∧
      statusOf reply = statusOf (replyOf result) ∧ contentOf reply = contentOf (replyOf result) ∧
      after = { next with log } := by
  rw [answer] at answered
  rcases dispatched : (app.dispatch moment r).run.run node with ⟨result, next⟩
  rw [StateT.run_bind, dispatched] at answered
  refine ⟨result, next, after.log, rfl, ?_⟩
  split at answered
  · obtain ⟨rfl, rfl⟩ := Prod.mk.inj answered
    exact ⟨rfl, rfl, rfl⟩
  · obtain ⟨rfl, rfl⟩ := Prod.mk.inj answered
    exact ⟨statusOf_identify _ _, contentOf_identify _ _, rfl⟩

/-- A request that is too large comes to nothing, any other to what its endpoint makes of it. -/
theorem handle_run {node after : Node} {reply : Reply}
    (handled : (app.handle moment r).run node = (reply, after)) :
    statusOf reply ≠ 200 ∧ after = node ∨
      ∃ result next log, (app.dispatch moment r).run.run node = (result, next) ∧
        statusOf reply = statusOf (replyOf result) ∧ contentOf reply = contentOf (replyOf result) ∧
        after = { next with log } := by
  rw [handle] at handled
  split at handled
  · obtain ⟨rfl, rfl⟩ := Prod.mk.inj handled
    have refused : sizeRefusal.status ≠ 200 := by decide
    exact .inl ⟨refused, rfl⟩
  · exact .inr (answer_run handled)

/-- What a report of volume comes to: it is stopped or fails and leaves tables and events as they
were, or it makes its call. -/
theorem serve_reportVolume (attached : app.service = some s) {node next : Node}
    {result : Except Failure Response}
    (served : (app.serve moment r .reportVolume).run.run node = (result, next)) :
    (statusOf (replyOf result) ≠ 200 ∧ next.database.tables = node.database.tables ∧
        next.sink = node.sink) ∨
      ∃ (body : Value) (report : VolumeReport) (era : Int) (name : String),
        bodyOf r = .ok (some body) ∧ VolumeReport.ofBody body = .ok report ∧
        accountOfValue (.text report.account) = .ok name ∧
        (s.recordVolume (.text report.account) (.int report.volume) (.int report.at_)).run.run node =
          (.ok era, next) ∧
        result = .ok (success [("account", .text name), ("era", .int era),
          ("volume", .text (Integer.write report.volume))]) := by
  rw [serve] at served
  obtain ⟨outcome, run_eq, stopped⟩ | ⟨body, report, body_eq, read_eq, next_eq⟩ :=
    withBody_run (r := r) VolumeReport.ofBody
      (fun report => app.withService (reportVolume report)) node
  · obtain ⟨rfl, rfl⟩ := Prod.mk.inj (run_eq.symm.trans served)
    exact .inl ⟨stopped, rfl, rfl⟩
  · rw [next_eq, withService, attached] at served
    obtain ⟨failure, after, run_eq, kept⟩ | ⟨era, name, answered, named, run_eq⟩ :=
      reportVolume_run report s node
    · obtain ⟨rfl, rfl⟩ := Prod.mk.inj (run_eq.symm.trans served)
      exact .inl ⟨status_of_error failure, kept⟩
    · obtain ⟨rfl, rfl⟩ := Prod.mk.inj (run_eq.symm.trans served)
      exact .inr ⟨body, report, era, name, body_eq, read_eq, named, Prod.ext answered rfl, rfl⟩

/-- What a request to pay out comes to: it is stopped or fails and leaves tables and events as they
were, or it makes its call. -/
theorem serve_claim (attached : app.service = some s) {node next : Node}
    {result : Except Failure Response}
    (served : (app.serve moment r .claim).run.run node = (result, next)) :
    (statusOf (replyOf result) ≠ 200 ∧ next.database.tables = node.database.tables ∧
        next.sink = node.sink) ∨
      ∃ (body : Value) (request : ClaimRequest) (amount : Int) (name : String) (tick : Int),
        bodyOf r = .ok (some body) ∧
        ClaimRequest.ofBody body = .ok request ∧
        accountOfValue (.text request.account) = .ok name ∧
        Service.tickOf request.tick node.clock = .ok (.int tick) ∧
        (s.claim (.text request.account) request.tick).run.run node = (.ok amount, next) ∧
        result = .ok (success [("account", .text name), ("at", .int tick),
          ("amount", .text (Integer.write amount))]) := by
  rw [serve] at served
  obtain ⟨outcome, run_eq, stopped⟩ | ⟨body, request, body_eq, read_eq, next_eq⟩ :=
    withBody_run (r := r) ClaimRequest.ofBody (fun request => app.withService (claim request)) node
  · obtain ⟨rfl, rfl⟩ := Prod.mk.inj (run_eq.symm.trans served)
    exact .inl ⟨stopped, rfl, rfl⟩
  · rw [next_eq, withService, attached] at served
    obtain ⟨failure, after, run_eq, kept⟩ | ⟨amount, name, tick, answered, named, ticked, run_eq⟩ :=
      claim_run request s node
    · obtain ⟨rfl, rfl⟩ := Prod.mk.inj (run_eq.symm.trans served)
      exact .inl ⟨status_of_error failure, kept⟩
    · obtain ⟨rfl, rfl⟩ := Prod.mk.inj (run_eq.symm.trans served)
      exact .inr ⟨body, request, amount, name, tick, body_eq, read_eq, named, ticked,
        Prod.ext answered rfl, rfl⟩

end App
end Api

namespace Service

variable {s : Service} {node next : Node} {account at_ : Value} {name : String} {amount : Int}

theorem reportPayOut_sink (holder : Account) (era amount : Int) (rotation : Rotation) (node : Node) :
    ((reportPayOut holder era (.ok (amount, rotation))).run.run node).2.sink =
      (node.sink.emit ⟨holder.toValue, .int amount⟩).1 := by
  rw [reportPayOut]
  split
  · rfl
  · split <;> rfl

/-- A claim that succeeds announces what it has paid, once. -/
theorem claim_sink (answered : (s.claim account at_).run.run node = (.ok amount, next))
    (named : accountOfValue account = .ok name) :
    next.sink = (node.sink.emit ⟨.text name, .int amount⟩).1 := by
  obtain ⟨found, first, named_run, ticking⟩ := ok_of_run_bind answered
  obtain ⟨found_eq, rfl⟩ := ok_of_run_liftLedger named_run
  obtain rfl : found = name := Except.ok.inj (found_eq.symm.trans named)
  obtain ⟨tick, second, tick_run, dating⟩ := ok_of_run_bind ticking
  have ticked_sink := (silent_claimTick at_).sink_eq first
  rw [tick_run] at ticked_sink
  obtain ⟨era, third, dated_run, paying⟩ := ok_of_run_bind dating
  obtain ⟨-, rfl⟩ := ok_of_run_liftLedger dated_run
  obtain ⟨outcome, fourth, paid_run, reporting⟩ := ok_of_run_bind paying
  have paid_sink := (Node.silent_attempt (s.payOut name era)).sink_eq third
  rw [paid_run] at paid_sink
  obtain ⟨last, report_eq, -⟩ := reportPayOut_run name era outcome fourth
  have amount_eq := congrArg Prod.fst (report_eq.symm.trans reporting)
  cases outcome with
  | error failure => cases amount_eq
  | ok paid =>
      obtain ⟨paid, rotation⟩ := paid
      obtain rfl : paid = amount := Except.ok.inj amount_eq
      have announced := reportPayOut_sink name era paid rotation fourth
      rw [reporting] at announced
      calc
        next.sink = (fourth.sink.emit ⟨.text name, .int paid⟩).1 := announced
        _ = (third.sink.emit ⟨.text name, .int paid⟩).1 := by rw [paid_sink]
        _ = (first.sink.emit ⟨.text name, .int paid⟩).1 := by rw [ticked_sink]

/-- A claim that succeeds adds what it answers to a balance that is kept with the ledger. -/
theorem claim_balance (bundled : s.balances = .bundled)
    (answered : (s.claim account at_).run.run node = (.ok amount, next))
    (named : accountOfValue account = .ok name) :
    next.database.tables.balance s.parameters.token name =
      node.database.tables.balance s.parameters.token name + amount := by
  obtain ⟨found, era, rotation, asked, written⟩ := claim_eq_ok (congrArg Prod.fst answered)
  obtain rfl : name = found :=
    Account.named.inj (Except.ok.inj (named.symm.trans (claimOf_eq_ok asked).1))
  rw [answered] at written
  have paid := Database.run_of_write written
  by_cases nothing : amount = 0
  · obtain ⟨-, -, ⟨-, kept⟩ | ⟨something, -⟩⟩ := payOut_eq_ok paid
    · rw [kept, nothing, add_zero]
    · exact absurd nothing something
  · exact (paidOut_of_payOut bundled nothing paid).balance

end Service

namespace Api
namespace App

variable {app : App} {s : Service} {moment : Moment} {r : Http.Request}

/-- A request that fails, that only asks or that leads elsewhere than to a report or a claim changes
neither tables nor events. -/
theorem dispatch_unchanging (attached : app.service = some s) {node next : Node}
    {result : Except Failure Http.Response}
    (dispatched : (app.dispatch moment r).run.run node = (result, next))
    (idle : statusOf (replyOf result) ≠ 200 ∨ r.method = "GET" ∨
      app.destination r ≠ .endpoint .reportVolume ∧ app.destination r ≠ .endpoint .claim) :
    next.database.tables = node.database.tables ∧ next.sink = node.sink := by
  by_cases unchanging : ∀ e, app.destination r = .endpoint e → e.changes = false
  · obtain ⟨clock, next_eq⟩ := observes_dispatch moment unchanging node
    rw [dispatched] at next_eq
    obtain rfl : next = { node with clock } := next_eq
    exact ⟨rfl, rfl⟩
  · push Not at unchanging
    obtain ⟨e, leads, changes⟩ := unchanging
    have asks_more : r.method ≠ "GET" := by
      intro asks
      rw [destination, asks] at leads
      exact changes (unchanging_of_get leads)
    rw [dispatch_of_endpoint moment leads] at dispatched
    cases e with
    | reportVolume =>
        have failed := idle.resolve_right (by simp [asks_more, leads])
        obtain ⟨-, kept⟩ | ⟨_, _, _, _, -, -, -, -, rfl⟩ := serve_reportVolume attached dispatched
        · exact kept
        · exact absurd rfl failed
    | claim =>
        have failed := idle.resolve_right (by simp [asks_more, leads])
        obtain ⟨-, kept⟩ | ⟨_, _, _, _, _, -, -, -, -, -, rfl⟩ := serve_claim attached dispatched
        · exact kept
        · exact absurd rfl failed
    | _ => exact absurd rfl changes

/-- A report is booked and answered. -/
structure Reported (s : Service) (r : Http.Request) (node : Node) (outcome : Reply × Node)
    (report : VolumeReport) (name : String) (era : Int) : Prop where
  /-- The report is the one in the body. -/
  read : ∃ body, bodyOf r = .ok (some body) ∧ VolumeReport.ofBody body = .ok report
  /-- It names its account. -/
  named : accountOfValue (.text report.account) = .ok name
  /-- Its call has answered the era and left the node, but for the log. -/
  called : ∃ log, (s.recordVolume (.text report.account) (.int report.volume)
    (.int report.at_)).run.run node = (.ok era, { outcome.2 with log })
  /-- The reply tells account, era and volume. -/
  told : contentOf outcome.1 = some (success [("account", .text name), ("era", .int era),
    ("volume", .text (Integer.write report.volume))]).content

/-- A claim is paid and answered. -/
structure Claimed (s : Service) (r : Http.Request) (node : Node) (outcome : Reply × Node)
    (request : ClaimRequest) (name : String) (tick amount : Int) : Prop where
  /-- The claim is the one in the body. -/
  read : ∃ body, bodyOf r = .ok (some body) ∧ ClaimRequest.ofBody body = .ok request
  /-- It names its account. -/
  named : accountOfValue (.text request.account) = .ok name
  /-- It names its tick, or the clock does. -/
  ticked : Service.tickOf request.tick node.clock = .ok (.int tick)
  /-- Its call has answered the amount and left the node, but for the log. -/
  called : ∃ log, (s.claim (.text request.account) request.tick).run.run node =
    (.ok amount, { outcome.2 with log })
  /-- The reply tells account, tick and amount. -/
  told : contentOf outcome.1 = some (success [("account", .text name), ("at", .int tick),
    ("amount", .text (Integer.write amount))]).content
  /-- The amount is announced, once. -/
  announced : outcome.2.sink = (node.sink.emit ⟨.text name, .int amount⟩).1
  /-- The amount is added to the balance in the store that comes with the ledger. -/
  credited : s.balances = .bundled →
    outcome.2.database.tables.balance s.parameters.token name =
      node.database.tables.balance s.parameters.token name + amount

variable {node : Node} {outcome : Reply × Node}

theorem handle_unchanging (attached : app.service = some s)
    (handled : (app.handle moment r).run node = outcome)
    (idle : statusOf outcome.1 ≠ 200 ∨ r.method = "GET" ∨
      app.destination r ≠ .endpoint .reportVolume ∧ app.destination r ≠ .endpoint .claim) :
    outcome.2.database.tables = node.database.tables ∧ outcome.2.sink = node.sink := by
  obtain ⟨reply, after⟩ := outcome
  obtain ⟨-, rfl⟩ | ⟨result, next, log, dispatched, status_eq, -, rfl⟩ := handle_run handled
  · exact ⟨rfl, rfl⟩
  · rw [status_eq] at idle
    have kept := dispatch_unchanging attached dispatched idle
    exact kept

theorem reported_of_handle (attached : app.service = some s)
    (handled : (app.handle moment r).run node = outcome)
    (leads : app.destination r = .endpoint .reportVolume)
    (answered : statusOf outcome.1 = 200) :
    ∃ report name era, Reported s r node outcome report name era := by
  obtain ⟨reply, after⟩ := outcome
  obtain ⟨stopped, -⟩ | ⟨result, next, log, served, status_eq, content_eq, rfl⟩ :=
    handle_run handled
  · exact absurd answered stopped
  rw [dispatch_of_endpoint moment leads] at served
  obtain ⟨stopped, -⟩ | ⟨body, report, era, name, body_eq, read_eq, named, called, rfl⟩ :=
    serve_reportVolume attached served
  · exact absurd (status_eq.symm.trans answered) stopped
  exact ⟨report, name, era, ⟨body, body_eq, read_eq⟩, named, ⟨next.log, called⟩, content_eq⟩

theorem claimed_of_handle (attached : app.service = some s)
    (handled : (app.handle moment r).run node = outcome)
    (leads : app.destination r = .endpoint .claim)
    (answered : statusOf outcome.1 = 200) :
    ∃ request name tick amount, Claimed s r node outcome request name tick amount := by
  obtain ⟨reply, after⟩ := outcome
  obtain ⟨stopped, -⟩ | ⟨result, next, log, served, status_eq, content_eq, rfl⟩ :=
    handle_run handled
  · exact absurd answered stopped
  rw [dispatch_of_endpoint moment leads] at served
  obtain ⟨stopped, -⟩ | ⟨body, request, amount, name, tick, body_eq, read_eq, named, ticked, called,
      rfl⟩ := serve_claim attached served
  · exact absurd (status_eq.symm.trans answered) stopped
  have announced := Service.claim_sink called named
  have credited (bundled : s.balances = .bundled) := Service.claim_balance bundled called named
  exact ⟨request, name, tick, amount, ⟨body, body_eq, read_eq⟩, named, ticked, ⟨next.log, called⟩,
    content_eq, announced, credited⟩

end App

open App

/-- A request that is not answered with status 200, that only asks, or that leads elsewhere than to a
report or a claim changes neither tables nor events.  A report that is answered with status 200 has
made its call and tells the era; a claim that is has made its call, at the next reading of the clock if
it names no tick, tells the amount, adds it to the balance and announces it once. -/
theorem request_outcome {app : App} {s : Service} (attached : app.service = some s)
    (moment : Moment) (r : Http.Request) (node : Node) :
    let outcome := (app.handle moment r).run node
    (statusOf outcome.1 ≠ 200 ∨ r.method = "GET" ∨
        app.destination r ≠ .endpoint .reportVolume ∧ app.destination r ≠ .endpoint .claim →
      outcome.2.database.tables = node.database.tables ∧ outcome.2.sink = node.sink) ∧
    (r.method = "POST" → r.path = "/v1/rewards/volume" →
      app.destination r = .endpoint .reportVolume) ∧
    (r.method = "POST" → r.path = "/v1/rewards/claim" →
      app.destination r = .endpoint .claim) ∧
    (app.destination r = .endpoint .reportVolume → statusOf outcome.1 = 200 →
      ∃ report name era, Reported s r node outcome report name era) ∧
    (app.destination r = .endpoint .claim → statusOf outcome.1 = 200 →
      ∃ request name tick amount, Claimed s r node outcome request name tick amount) := by
  intro outcome
  refine ⟨handle_unchanging attached rfl, fun posted path_eq => ?_, fun posted path_eq => ?_,
    reported_of_handle attached rfl, claimed_of_handle attached rfl⟩
  · rw [destination, posted, path_eq]
    exact resolve_volume _
  · rw [destination, posted, path_eq]
    exact resolve_claim _

/-- A claim without a tick. -/
def postedClaim : Http.Request :=
  ⟨"POST", "/v1/rewards/claim", "", [("content-type", "application/json")],
    "\x7b\"account\":\"b\"\x7d"⟩

/-- The node of two accounts at work, with a clock that moves on and a tail of events. -/
def watched : Node :=
  { Node.busy with clock := ⟨.int 105, [.int 300]⟩, sink := .recent (.empty 10) }

/-- A claim without a tick is paid at one reading of the clock; what it pays is also announced. -/
theorem request_outcome_sample :
    let outcome := (App.handle ⟨some Service.sample, .empty⟩ ⟨"1", 0, 0⟩ postedClaim).run watched
    statusOf outcome.1 = 200 ∧
      outcome.2.sink.tail 10 = some [⟨.text "b", .int 250000⟩] ∧
      outcome.2.database.tables.balance 0 "b" = 250000 := by
  have answered : statusOf ((App.handle ⟨some Service.sample, .empty⟩ ⟨"1", 0, 0⟩ postedClaim).run
      watched).1 = 200 := by
    decide +kernel
  have asked : ((bodyOf postedClaim).toOption.join.bind fun body =>
      (ClaimRequest.ofBody body).toOption.map fun request => (request.account, request.at_)) =
        some ("b", none) := by
    decide +kernel
  have outcome := request_outcome
    (rfl : (⟨some Service.sample, .empty⟩ : App).service = some Service.sample) ⟨"1", 0, 0⟩
    postedClaim watched
  rcases handled : (App.handle ⟨some Service.sample, .empty⟩ ⟨"1", 0, 0⟩ postedClaim).run watched
    with ⟨reply, after⟩
  rw [handled] at answered outcome
  obtain ⟨-, -, posted, -, paid⟩ := outcome
  obtain ⟨⟨account, at_⟩, name, tick, amount, claimed⟩ := paid (posted rfl rfl) answered
  obtain ⟨body, body_eq, read_eq⟩ := claimed.read
  rw [body_eq, Except.toOption, Option.join_some, Option.bind_some, read_eq] at asked
  obtain ⟨rfl, rfl⟩ := Prod.mk.inj (Option.some.inj asked)
  obtain rfl : "b" = name := Account.named.inj (Except.ok.inj claimed.named)
  obtain ⟨log, called⟩ := claimed.called
  have amount_eq : (250000 : Int) = amount :=
    Except.ok.inj ((ok_of_toOption (by decide +kernel)).symm.trans (congrArg Prod.fst called))
  subst amount_eq
  refine ⟨answered, congrArg (Sink.tail 10) claimed.announced, (claimed.credited rfl).trans ?_⟩
  decide +kernel

end Api
end EraRewards
