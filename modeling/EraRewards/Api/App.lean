import EraRewards.Api.Error
import EraRewards.Api.Route
import EraRewards.Api.Schema
import EraRewards.Http.Query
import EraRewards.Json.Encoding
import EraRewards.Json.Writer
import EraRewards.Service

/-!
# The application

A request passes the size limit, is logged and then led to its endpoint.  An endpoint checks its
input, then asks for the ledger, and acts on it; a ledger error becomes a response, while any other
failure leaves the application without one.
-/

namespace EraRewards
namespace Api

open Http

/-- How an application was set up. -/
structure App where
  /-- The ledger, if one is attached. -/
  service : Option Service
  /-- Environment of the process. -/
  environment : Environment

/-- What the outside world adds to a request. -/
structure Moment where
  /-- Identification of a request that brings none. -/
  requestId : String
  /-- Milliseconds that the request takes. -/
  elapsed : Int
  /-- Milliseconds since the node was started. -/
  uptime : Int

/-- What a request leads to. -/
inductive Reply
  /-- A response. -/
  | answered (response : Response)
  /-- A failure that left the application. -/
  | raised (failure : Failure)

namespace App

/-- Whether the interface is described to clients: not in production, which is also the posture of an
environment without a mode. -/
def documented (env : Environment) : Bool :=
  Text.lower (Text.strip ((env.get? "ERALEDGER_MODE").getD "prod")) != "prod"

/-- Whether a request is answered before its size is looked at. -/
def exempt (env : Environment) (path : String) : Bool :=
  env.flag "ERALEDGER_SIZE_LIMIT_DISABLE" ||
    ["/docs", "/openapi.json", "/v1/health"].any fun start => start.toList.isPrefixOf path.toList

/-- Whether a request is larger than it may be, by its announcement or, if it changes something, by
its body. -/
def tooLarge (env : Environment) (r : Request) : Bool :=
  let limit := env.integer "ERALEDGER_MAX_REQUEST_BYTES" 16384
  let announced := ((r.nonemptyHeader? "content-length").bind Integer.read?).any (limit < ·)
  let changes := ["POST", "PUT", "PATCH"].contains (Text.upper r.method)
  let size : Int := (r.body.utf8ByteSize : Nat)
  announced || (changes && size != 0 && limit < size)

/-- Answer to a request that is too large. -/
def sizeRefusal : Response :=
  .json 413 (.object [("ok", .bool false),
    ("error", .object
      [("code", .text "request_too_large"), ("message", .text "Request body too large")])])

/-- Answer to a request without a body where one is needed. -/
def missingBody : Response := ⟨422, .faults [⟨.missing, [.name "body"], .null⟩], none⟩

/-- Answer to a request with faults.  A fault cannot be shown if its input holds a number that JSON
does not know, nor if it holds a text that cannot be encoded. -/
def refuse (faults : List FieldFault) : Except Failure Response :=
  if !faults.all fun fault => fault.input.isFinite then .error .unreadable
  else if !faults.all fun fault => fault.input.isEncodable then .error .unencodable
  else .ok ⟨422, .faults faults, none⟩

/-- The most levels of nesting in a body. -/
def deepestBody : Nat := 972

/-- Answer to a body that is not understood. -/
def unreadableBody : Response := .refusal 400 "There was an error parsing the body"

/-- Body in the letters of a JSON document, or the response to one that is not understood. -/
def jsonBody (letters : List Letter) : Except Response Value :=
  match Json.readWithin deepestBody letters with
  | .ok value => .ok value
  | .error fault =>
    match fault.offset? letters.length with
    | some offset =>
      .error ⟨422,
        .faults [⟨.malformedJson, [.name "body", .offset offset], .object []⟩], none⟩
    | none => .error unreadableBody

/-- What the body of a request holds, if there is one, or the response to a body that is not
understood.  A body that does not claim to be JSON is an unstructured text. -/
def bodyOf (r : Request) : Except Response (Option Value) :=
  if r.body.isEmpty then .ok none
  else if !r.isJson then .ok (some (.text r.body))
  else
    match Json.Encoding.decode? r.body with
    | some letters => (jsonBody letters).map some
    | none => .error unreadableBody

/-- A response with status 200. -/
def success (members : List (String × Value)) : Response :=
  .json 200 (.object (("ok", .bool true) :: members))

/-- A step that may already have a response, or fail without one. -/
abbrev Handler := Action Response

/-- A response to the body of a request, once it has been read and checked. -/
def withBody {α : Type} (r : Request) (read : Value → Except (List FieldFault) α)
    (next : α → Handler) : Handler :=
  match bodyOf r with
  | .error response => return response
  | .ok none => return missingBody
  | .ok (some body) =>
    match read body with
    | .error faults => refuse faults
    | .ok request => next request

/-- A response from the ledger, if one is attached. -/
def withService (app : App) (next : Service → Handler) : Handler :=
  match app.service with
  | some service => next service
  | none => return ApiError.notReady.response

/-- Tick in a part of a path: digits of any kind count as a number, but only decimal digits can be
read.  A part that does not count as present has no digits. -/
def tickOfPath (name part : Value) : Except ApiError (Except Failure Int) :=
  let digits := Text.strip (if part.isTruthy then part.display else "")
  if digits.isEmpty || !digits.toList.all Text.isDigit then
    match Json.memberName? name with
    | some member => .error (.notNatural name member part)
    | none => .ok (.error .mistyped)
  else .ok (Value.text digits).toInt

/-- Books a volume report. -/
def reportVolume (report : VolumeReport) (s : Service) : Handler := do
  let era ← s.recordVolume (.text report.account) (.int report.volume) (.int report.at_)
  let account ← accountOfValue (.text report.account)
  return success
    [("account", account.toValue), ("era", .int era),
      ("volume", .text (Integer.write report.volume))]

/-- Pays a claim. -/
def claim (request : ClaimRequest) (s : Service) : Handler := do
  let tick ← match request.at_ with
    | some tick => pure tick
    | none => Node.now
  let amount ← s.claim (.text request.account) (.int tick)
  let account ← accountOfValue (.text request.account)
  return success
    [("account", account.toValue), ("at", .int tick), ("amount", .text (Integer.write amount))]

/-- The most events that are shown at once. -/
def maxShown : Int := 1000

/-- Shows the latest events. -/
def events (limit : Int) (_ : Service) : Handler := do
  let shown := ((← get).sink.tail (min (max limit 0) maxShown)).getD []
  return success [("events", .list (shown.map RewardClaimed.toValue))]

/-- Shows the volume of the era around a tick. -/
def eraVolume (part : String) (s : Service) : Handler :=
  match tickOfPath (.text "at") (.text part) with
  | .error error => return error.response
  | .ok tick => do
    let tick ← tick
    let era ← s.parameters.eraOf (.int tick)
    let total ← s.totalVolume (.int tick)
    return success
      [("at", .int tick), ("era", .int era), ("era_duration", .int s.parameters.eraDuration),
        ("total_volume", .text (Integer.write total))]

/-- Shows the current era. -/
def currentEra (s : Service) : Handler := do
  let tick ← Node.now
  let era ← s.parameters.eraOf (.int tick)
  return success
    [("at", .int tick), ("era", .int era), ("era_duration", .int s.parameters.eraDuration)]

/-- Shows the record of an account. -/
def reward (account : String) (_ : Service) : Handler := do
  let reward ← Service.rewardOf (.text account)
  return success [("account", .text account), ("reward", reward.toValue)]

/-- Shows the balance of an account. -/
def balance (account : String) (s : Service) : Handler := do
  let balance ← s.balanceOf (.text account) .null
  return success
    [("account", .text account), ("token_id", .int s.parameters.token),
      ("balance", .text (Integer.write balance))]

/-- Shows whether a ledger is attached. -/
def health (app : App) : Response :=
  success [("service_ready", .bool app.service.isSome)]

/-- Shows the parameters of the ledger. -/
def parameters (app : App) : Response :=
  match app.service with
  | none => .json 200 (.object [("ok", .bool false), ("service_ready", .bool false)])
  | some s =>
    success
      [("era_duration", .int s.parameters.eraDuration),
        ("rewards_per_era", .text (Integer.write s.parameters.budget.val)),
        ("native_token_id", .int s.parameters.token)]

/-- Shows counters and gauges. -/
def metrics (env : Environment) (moment : Moment) (m : Metrics) : Response :=
  if Metrics.enabled env then
    ⟨200, .text (m.exposition Metrics.defaultMark moment.uptime), none⟩
  else ⟨404, .text "not_found\n", none⟩

/-- Answers what a request is about. -/
def serve (app : App) (moment : Moment) (r : Request) : Endpoint → Handler
  | .documentation => return ⟨200, .page, none⟩
  | .health => return health app
  | .parameters => return parameters app
  | .reportVolume => withBody r VolumeReport.ofBody fun report => app.withService (reportVolume report)
  | .claim => withBody r ClaimRequest.ofBody fun request => app.withService (claim request)
  | .events =>
    match limitOfQuery (Query.get? r.query "limit") RecentEvents.defaultLimit with
    | .error faults => refuse faults
    | .ok limit => app.withService (events limit)
  | .reward account => app.withService (reward account)
  | .balance account => app.withService (balance account)
  | .eraVolume tick => app.withService (eraVolume tick)
  | .currentEra => app.withService currentEra
  | .metrics => do return metrics app.environment moment (← get).metrics

/-- Leads a request to its endpoint. -/
def dispatch (app : App) (moment : Moment) (r : Request) : Handler :=
  match resolve (routes (documented app.environment)) r.method r.path with
  | .endpoint endpoint => app.serve moment r endpoint
  | .methodNotAllowed => return .refusal 405 "Method Not Allowed"
  | .redirect => return ⟨307, .page, none⟩
  | .notFound => return .refusal 404 "Not Found"

/-- What an outcome is answered with: a ledger error is a response. -/
def replyOf : Except Failure Response → Reply
  | .ok response => .answered response
  | .error (.ledger error) => .answered (ApiError.ofLedger error).response
  | .error failure => .raised failure

/-- Status that is logged for a reply. -/
def statusOf : Reply → Nat
  | .answered response => response.status
  | .raised _ => 500

/-- Error that is logged for a reply. -/
def errorOf : Reply → Value
  | .answered _ => .null
  | .raised failure => .text failure.message

/-- Entry that is logged for a request. -/
def requestEntry (moment : Moment) (r : Request) (requestId : String) (reply : Reply) : LogEntry :=
  .event "http_request"
    [("request_id", .text requestId), ("method", .text r.method), ("path", .text r.addressPath),
      ("status", .int (statusOf reply : Nat)), ("duration_ms", .int moment.elapsed),
      ("error", errorOf reply)]

/-- A response that identifies its request. -/
def identify (requestId : String) : Reply → Reply
  | .answered response => .answered { response with requestId := some requestId }
  | .raised failure => .raised failure

/-- Answers a request within the size limit, and logs it unless that is turned off. -/
def answer (app : App) (moment : Moment) (r : Request) : StateM Node Reply := do
  let reply := replyOf (← (app.dispatch moment r).run)
  if app.environment.unflagged "ERALEDGER_LOG_REQUESTS" then return reply
  else
    let requestId := (r.nonemptyHeader? "x-request-id").getD moment.requestId
    modify fun node => { node with log := node.log ++ [requestEntry moment r requestId reply] }
    return identify requestId reply

/-- Answers a request. -/
def handle (app : App) (moment : Moment) (r : Request) : StateM Node Reply :=
  if !exempt app.environment r.addressPath && tooLarge app.environment r then
    return .answered sizeRefusal
  else app.answer moment r

/-- Logs the start of an application with a ledger. -/
def start (app : App) : StateM Node Unit :=
  match app.service with
  | none => return ()
  | some s =>
    modify fun node => { node with
      log := node.log ++ [.event "api_started"
        [("era_duration", .int s.parameters.eraDuration),
          ("rewards_per_era", .int s.parameters.budget.val)]] }

end App
end Api
end EraRewards
