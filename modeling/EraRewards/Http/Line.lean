import EraRewards.Http.Message
import EraRewards.Json.Reader
import EraRewards.Json.Writer
import EraRewards.Text.Encoding

/-!
# Requests and responses as lines

Where a node is driven through its standard streams, a request is a line that holds a JSON object
with the parts of the request, and so is a response.
-/

namespace EraRewards
namespace Http

/-- Text of a member; empty if there is none. -/
def textMember (value : Value) (name : String) : String :=
  match value.member? name with
  | some (.text s) => s
  | _ => ""

/-- Headers in an object, with names in lower case and values as bytes. -/
def headersOf : Option Value → List (String × String)
  | some (.object members) =>
    members.map fun member => (Text.lower member.1, Text.byteText member.2.display)
  | _ => []

/-- Request in an object. -/
def Request.ofValue (value : Value) : Request where
  method := textMember value "method"
  path := textMember value "path"
  query := textMember value "query"
  headers := headersOf (value.member? "headers")
  body := textMember value "body"

/-- Place of a fault. -/
def Location.toValue : Location → Value
  | name s => .text s
  | offset n => .int n

/-- Interchange form of a fault. -/
def FieldFault.toValue (fault : FieldFault) : Value :=
  .object [("type", .text fault.kind.name), ("loc", .list (fault.location.map Location.toValue)),
    ("input", fault.input)]

/-- What a response carries, as a value. -/
def Content.toValue : Content → Value
  | json value => value
  | faults found => .object [("detail", .list (found.map FieldFault.toValue))]
  | text s => .text s
  | page => .null

/-- Response as an object. -/
def Response.toValue (r : Response) : Value :=
  .object
    [("status", .int r.status), ("body", r.content.toValue),
      ("x-request-id", match r.requestId with
        | some id => .text (Text.ofByteText id)
        | none => .null)]

end Http
end EraRewards
