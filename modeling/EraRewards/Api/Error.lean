import EraRewards.Http.Message
import EraRewards.Failure

/-!
# Errors of the interface

A rejection is answered with a status and an envelope.  A ledger error that conflicts with what is
stored is told apart from one that a malformed request has caused.
-/

namespace EraRewards

/-- An error with the status that it is answered with. -/
structure ApiError where
  /-- Status code. -/
  status : Nat
  /-- Class of the error. -/
  code : Value
  /-- What went wrong. -/
  message : Value
  /-- Values that show it. -/
  details : Value

namespace ApiError

/-- Details as they are shown: values that do not count as present are left out. -/
def shown (details : Value) : Value := if details.isTruthy then details else .object []

/-- A malformed request. -/
def badRequest (code message details : Value) : ApiError :=
  ⟨400, code, message, shown details⟩

/-- A conflict with what is stored. -/
def conflict (code message details : Value) : ApiError :=
  ⟨409, code, message, shown details⟩

/-- A fault of the node. -/
def internal (code message details : Value) : ApiError :=
  ⟨500, code, message, shown details⟩

/-- How a ledger error is answered; details that are no object are wrapped in one. -/
def ofLedger (e : LedgerError) : ApiError :=
  let details := match e.details with
    | .object members => .object members
    | details => .object [("details", details)]
  match e.code with
  | .overflow | .divideByZero | .rewardNotFound | .creditFailed =>
    conflict e.code.toValue e.reason details
  | .invalidInput => badRequest e.code.toValue e.reason details
  | .other code => internal code e.reason details

/-- The request came before the ledger was attached. -/
def notReady : ApiError :=
  internal (.text "not_ready") (.text "reward service not attached to app.state") (.object [])

/-- A part of a path is not a number; the part is shown under the given member. -/
def notNatural (name : Value) (member : String) (part : Value) : ApiError :=
  badRequest (.text "invalid_input") (.text (name.display ++ " must be a non-negative integer"))
    (.object [(member, part)])

/-- Envelope of an error. -/
def toValue (e : ApiError) : Value :=
  .object [("ok", .bool false),
    ("error", .object
      [("code", e.code), ("message", e.message), ("details", e.details)])]

/-- Response to a request that was rejected. -/
def response (e : ApiError) : Http.Response := .json e.status e.toValue

end ApiError
end EraRewards
