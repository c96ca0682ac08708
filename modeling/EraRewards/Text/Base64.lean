/-!
# Bytes written in base 64

Four characters of the alphabet carry three bytes.  Characters outside the alphabet do not count; an
equals sign that fills up a group ends the data.
-/

namespace EraRewards
namespace Text
namespace Base64

/-- Value of a character of the alphabet. -/
def sextet? (c : Char) : Option Nat :=
  let n := c.toNat
  if 65 ≤ n && n ≤ 90 then some (n - 65)
  else if 97 ≤ n && n ≤ 122 then some (n - 71)
  else if 48 ≤ n && n ≤ 57 then some (n + 4)
  else if c == '+' then some 62
  else if c == '/' then some 63
  else none

/-- Bytes of the rest of a text.  `group` holds the values of the unfinished group, the latest first,
and `fill` counts the equals signs since the last of them. -/
def bytesAfter? : List Nat → Nat → List Char → Option (List Nat)
  | group, _, [] => if group.isEmpty then some [] else none
  | group, fill, c :: rest =>
    if c == '=' then
      if group.length < 2 then bytesAfter? group fill rest
      else if 4 ≤ group.length + fill + 1 then some []
      else bytesAfter? group (fill + 1) rest
    else
      match sextet? c, group with
      | none, _ => bytesAfter? group fill rest
      | some d, [] => bytesAfter? [d] 0 rest
      | some d, [a] => (bytesAfter? [d, a] 0 rest).map fun bytes => (a * 4 + d / 16) :: bytes
      | some d, [b, a] =>
        (bytesAfter? [d, b, a] 0 rest).map fun bytes => (b % 16 * 16 + d / 4) :: bytes
      | some d, b :: _ => (bytesAfter? [] 0 rest).map fun bytes => (b % 4 * 64 + d) :: bytes

/-- Bytes that a text carries, unless its last group is not complete. -/
def bytes? (cs : List Char) : Option (List Nat) := bytesAfter? [] 0 cs

end Base64
end Text
end EraRewards
