import EraRewards.Json.Reader
import EraRewards.Text.Encoding
import EraRewards.Text.Split

/-!
# Query parameters

A query is a list of assignments joined by ampersands.  A plus sign stands for a space, and percent
escapes stand for the bytes of characters; of several values of one parameter the last counts.
-/

namespace EraRewards
namespace Http
namespace Query

/-- The replacement character. -/
def replacement : Char := Char.ofNat 0xFFFD

/-- Characters of a sequence of bytes; a byte that begins no character is replaced. -/
def decodeBytes : Nat → List Nat → List Char
  | 0, _ => []
  | _ + 1, [] => []
  | fuel + 1, bytes =>
    match Text.utf8Head? bytes with
    | some (c, count) => c :: decodeBytes fuel (bytes.drop count)
    | none => replacement :: decodeBytes fuel (bytes.drop 1)

/-- Bytes of the percent escapes at the beginning of a text, and the text after them. -/
def escapedBytes : List Char → List Nat × List Char
  | '%' :: a :: b :: rest =>
    match Json.hexValue? a, Json.hexValue? b with
    | some high, some low =>
      let (bytes, after) := escapedBytes rest
      ((high * 16 + low) :: bytes, after)
    | _, _ => ([], '%' :: a :: b :: rest)
  | cs => ([], cs)

/-- Part of a query with its escapes decoded. -/
def decode : Nat → List Char → List Char
  | 0, _ => []
  | fuel + 1, cs =>
    match escapedBytes cs with
    | ([], []) => []
    | ([], c :: rest) =>
      -- A character outside ASCII cannot be part of a query.
      (if c == '+' then ' ' else if c.toNat < 128 then c else replacement) :: decode fuel rest
    | (bytes, rest) => decodeBytes (bytes.length + 1) bytes ++ decode fuel rest

/-- An assignment of a query; without an equals sign the value is empty. -/
def assignment (cs : List Char) : String × String :=
  let name := cs.takeWhile (· != '=')
  let value := cs.drop (name.length + 1)
  (String.ofList (decode (name.length + 1) name), String.ofList (decode (value.length + 1) value))

/-- Assignments of a query. -/
def parameters (query : String) : List (String × String) :=
  ((Text.splitAt '&' query.toList).filter fun part => !part.isEmpty).map assignment

/-- Last value of a parameter. -/
def get? (query name : String) : Option String := (parameters query).reverse.lookup name

end Query
end Http
end EraRewards
