import EraRewards.Text.Letter

/-!
# Encodings of text

A text is a sequence of characters; outside the program it is a sequence of bytes.  UTF-8 takes one
to four bytes for a character, UTF-16 one or two units of two bytes, UTF-32 one unit of four bytes.
A decoder answers nothing for bytes that no text is encoded by; units of UTF-16 and UTF-32 may also be
halves of surrogate pairs.
-/

namespace EraRewards
namespace Text

/-- Bytes of a character in UTF-8. -/
def utf8Char (c : Char) : List Nat :=
  let n := c.toNat
  let next (k : Nat) : Nat := 0x80 + k % 64
  if n < 0x80 then [n]
  else if n < 0x800 then [0xC0 + n / 64, next n]
  else if n < 0x10000 then [0xE0 + n / 4096, next (n / 64), next n]
  else [0xF0 + n / 262144, next (n / 4096), next (n / 64), next n]

/-- Bytes of a text in UTF-8. -/
def utf8 (cs : List Char) : List Nat := cs.flatMap utf8Char

/-- A text whose characters are the bytes of another one in UTF-8. -/
def byteText (s : String) : String := String.ofList ((utf8 s.toList).map Char.ofNat)

/-- The character with a code point, if it is one of a character. -/
def charOf? (code : Nat) : Option Char :=
  if code < 0xD800 || (0xDFFF < code && code ≤ 0x10FFFF) then some (Char.ofNat code) else none

/-- Number of bytes that follow the first byte of a character. -/
def followingBytes? (first : Nat) : Option Nat :=
  if first < 0x80 then some 0
  else if 0xC2 ≤ first && first < 0xE0 then some 1
  else if 0xE0 ≤ first && first < 0xF0 then some 2
  else if 0xF0 ≤ first && first < 0xF5 then some 3
  else none

/-- Whether a byte may follow the first byte of a character. -/
def isFollowing (byte : Nat) : Bool := 0x80 ≤ byte && byte < 0xC0

/-- The character at the beginning of a sequence of bytes in UTF-8, with the number of its bytes.  A
character has one encoding only, the shortest. -/
def utf8Head? (bytes : List Nat) : Option (Char × Nat) :=
  match bytes with
  | [] => none
  | first :: rest => do
    let count ← followingBytes? first
    let tail := rest.take count
    let lead := if count = 0 then first else first % Nat.pow 2 (6 - count)
    let decoded ← charOf? (tail.foldl (fun value byte => value * 64 + byte % 64) lead)
    if tail.length == count && tail.all isFollowing && utf8Char decoded == first :: tail then
      return (decoded, count + 1)
    else none

/-- The text that bytes encode in UTF-8. -/
def decodeUtf8? : Nat → List Nat → Option (List Char)
  | 0, _ => none
  | _ + 1, [] => some []
  | fuel + 1, bytes => do
    let (c, count) ← utf8Head? bytes
    return c :: (← decodeUtf8? fuel (bytes.drop count))

/-- The text whose bytes in UTF-8 are the characters of another one; the same text if there is
none. -/
def ofByteText (s : String) : String :=
  let bytes := s.toList.map Char.toNat
  match decodeUtf8? (bytes.length + 1) bytes with
  | some cs => String.ofList cs
  | none => s

/-- Number of a sequence of bytes, the most significant first unless `little`. -/
def unitOf (little : Bool) (bytes : List Nat) : Nat :=
  (if little then bytes.reverse else bytes).foldl (fun value byte => value * 256 + byte) 0

/-- The letters that bytes encode in UTF-16; a unit without its partner is half of a pair. -/
def decodeUtf16? (little : Bool) : List Nat → Option (List Letter)
  | [] => some []
  | [a, b] => some [.ofUnit (unitOf little [a, b])]
  | a :: b :: c :: d :: rest => do
    let first := unitOf little [a, b]
    let second := unitOf little [c, d]
    if Letter.isFirstHalf first && Letter.isSecondHalf second then
      return .join first second :: (← decodeUtf16? little rest)
    else return .ofUnit first :: (← decodeUtf16? little (c :: d :: rest))
  | _ => none

/-- The letters that bytes encode in UTF-32. -/
def decodeUtf32? (little : Bool) : List Nat → Option (List Letter)
  | [] => some []
  | a :: b :: c :: d :: rest => do
    let head ← Letter.ofCode? (unitOf little [a, b, c, d])
    return head :: (← decodeUtf32? little rest)
  | _ => none

end Text
end EraRewards
