import EraRewards.Environment
import EraRewards.Text.Case
import EraRewards.Text.Split
import EraRewards.Value

/-!
# Requests and responses

What the interface needs of the protocol: a request with its decoded path, its headers and its body,
and a response whose content is a value, a text or a list of field faults.
-/

namespace EraRewards
namespace Http

/-- A request. -/
structure Request where
  /-- Method, as it was sent. -/
  method : String
  /-- Path without percent escapes. -/
  path : String
  /-- Query, as it was sent. -/
  query : String
  /-- Headers with names in lower case; each character of a value is a byte. -/
  headers : List (String × String)
  /-- Text of the body. -/
  body : String

namespace Request

/-- Value of a header. -/
def header? (r : Request) (name : String) : Option String := r.headers.lookup name

/-- Value of a header that is present and not empty. -/
def nonemptyHeader? (r : Request) (name : String) : Option String :=
  (r.header? name).filter fun value => !value.isEmpty

/-- Form of a character of a path in an address.  A query, a fragment and the other slash cannot
begin inside a path, and tabs and line breaks have no place in an address. -/
def addressChar : Char → List Char
  | '?' => ['%', '3', 'F']
  | '#' => ['%', '2', '3']
  | '\\' => ['%', '5', 'C']
  | '\t' | '\n' | '\r' => []
  | c => [c]

/-- Path as it appears in an address, where a slash follows the host. -/
def addressPath (r : Request) : String :=
  let slash := match r.path.toList.head? with
    | some c => if c == '/' then [] else ['/']
    | none => []
  String.ofList (slash ++ r.path.toList.flatMap addressChar)

/-- Whether a media type is JSON or built on JSON. -/
def isJsonType (mediaType : String) : Bool :=
  let essence := Text.lower (Text.strip (String.ofList (mediaType.toList.takeWhile (· != ';'))))
  match Text.splitAt '/' essence.toList with
  | [kind, subtype] =>
    String.ofList kind == "application" &&
      (String.ofList subtype == "json" || "+json".toList.isSuffixOf subtype)
  | _ => false

/-- Whether the body claims to be JSON. -/
def isJson (r : Request) : Bool := (r.header? "content-type").any isJsonType

end Request

/-- A step on the way to a value in a request: the name of a member or a place in a text. -/
inductive Location
  /-- A name. -/
  | name (s : String)
  /-- An offset in characters. -/
  | offset (n : Nat)
  deriving DecidableEq, Repr

/-- What is wrong with a part of a request. -/
inductive FaultKind
  /-- It is absent. -/
  | missing
  /-- The body is not JSON. -/
  | malformedJson
  /-- The body is not an object. -/
  | notAnObject
  /-- It has a name that is not known. -/
  | unknownName
  /-- It is not a text. -/
  | notAText
  /-- It is an empty text. -/
  | emptyText
  /-- It is a text that cannot be encoded. -/
  | unencodable
  /-- It is of a kind that holds no integer. -/
  | notAnInteger
  /-- It is a text that holds no integer. -/
  | unreadableInteger
  /-- It is an integer that is too long. -/
  | oversizeInteger
  /-- It is a double with a fractional part. -/
  | fractional
  /-- It is an infinite double, or none at all. -/
  | notFinite
  /-- It is below the least value. -/
  | tooSmall
  /-- It is above the greatest value. -/
  | tooGreat
  deriving DecidableEq, Repr

namespace FaultKind

/-- Name of a kind of fault in responses. -/
def name : FaultKind → String
  | missing => "missing"
  | malformedJson => "json_invalid"
  | notAnObject => "model_attributes_type"
  | unknownName => "extra_forbidden"
  | notAText => "string_type"
  | emptyText => "string_too_short"
  | unencodable => "string_unicode"
  | notAnInteger => "int_type"
  | unreadableInteger => "int_parsing"
  | oversizeInteger => "int_parsing_size"
  | fractional => "int_from_float"
  | notFinite => "finite_number"
  | tooSmall => "greater_than_equal"
  | tooGreat => "less_than_equal"

end FaultKind

/-- A part of a request that is not acceptable. -/
structure FieldFault where
  /-- What is wrong with it. -/
  kind : FaultKind
  /-- Where it is. -/
  location : List Location
  /-- The part itself. -/
  input : Value

/-- What a response carries. -/
inductive Content
  /-- A JSON document. -/
  | json (value : Value)
  /-- A list of faults of the request. -/
  | faults (faults : List FieldFault)
  /-- A plain text. -/
  | text (s : String)
  /-- A page that depends on the deployment. -/
  | page

/-- A response. -/
structure Response where
  /-- Status code. -/
  status : Nat
  /-- What it carries. -/
  content : Content
  /-- Header that identifies the request; each character is a byte. -/
  requestId : Option String := none

namespace Response

/-- A JSON document with a status. -/
def json (status : Nat) (value : Value) : Response := ⟨status, .json value, none⟩

/-- A refusal by the routing or the transport. -/
def refusal (status : Nat) (detail : String) : Response :=
  json status (.object [("detail", .text detail)])

end Response

end Http
end EraRewards
