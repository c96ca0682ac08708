import EraRewards.Json.Reader
import EraRewards.Text.Encoding

/-!
# JSON documents as bytes

A document that is sent as bytes does not say how they encode it.  Its first two characters are in
the ASCII range, so the zeros among the first four bytes tell the encodings apart.
-/

namespace EraRewards
namespace Json

/-- An encoding of documents. -/
inductive Encoding
  /-- Units of one byte, perhaps with a byte order mark in front. -/
  | utf8
  /-- Units of two bytes. -/
  | utf16 (little : Bool)
  /-- Units of four bytes. -/
  | utf32 (little : Bool)
  deriving DecidableEq, Repr

namespace Encoding

/-- The encoding of a document that begins with the given bytes. -/
def ofBytes : List Nat → Encoding
  | 0 :: b :: _ :: _ :: _ => if b = 0 then .utf32 false else .utf16 false
  | _ :: 0 :: c :: d :: _ => if c = 0 && d = 0 then .utf32 true else .utf16 true
  | [0, _] => .utf16 false
  | [_, 0] => .utf16 true
  | _ => .utf8

/-- A text without a byte order mark. -/
def dropMark : List Char → List Char
  | '\uFEFF' :: rest => rest
  | cs => cs

/-- The letters that the bytes of a text encode, if they do. -/
def decode? (s : String) : Option (List Letter) :=
  let bytes := Text.utf8 s.toList
  match ofBytes bytes with
  | utf8 => some ((dropMark s.toList).map .char)
  | utf16 little => Text.decodeUtf16? little bytes
  | utf32 little => Text.decodeUtf32? little bytes

end Encoding
end Json
end EraRewards
