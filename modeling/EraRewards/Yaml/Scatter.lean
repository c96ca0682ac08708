import EraRewards.Yaml.Datum

/-!
# Scattered members

The members of a set have no order of their own, and its text tells numbers in the order of their
places in a table.  A number has a word, equal numbers have the same, and it is put at the first free
place of a search that the word begins.  Members of other kinds are told as they were written.
-/

namespace EraRewards
namespace Yaml
namespace Scatter

/-- The modulus of words, `2 ^ 61 - 1`; a power of two counts by its exponent modulo 61. -/
def modulus : Nat := 2305843009213693951

/-- The word of a number with a sign and a residue, as 64 bits.  One is no residue of a negative
number. -/
def word (negative : Bool) (residue : Nat) : Nat :=
  if negative && residue != 0 then 18446744073709551616 - max 2 residue else residue

/-- The word of a datum that is a number. -/
def wordOf? : Datum → Option Nat
  | .truth b => some (if b then 1 else 0)
  | .integer n => some (word (decide (n < 0)) (n.natAbs % modulus))
  | .double (.finite negative m e) =>
    some (word negative (m * Nat.pow 2 (e % 61).toNat % modulus))
  | .double (.infinite negative) => some (word negative 314159)
  | _ => none

/-- The number of places for a number of members. -/
def sizeFor (members : Nat) : Nat := if members < 5 then 8 else Nat.nextPowerOfTwo (2 * members + 1)

/-- Places that are looked at together: ten in a row, or one alone near the end. -/
def neighbours (size place : Nat) : List Nat :=
  if place + 9 < size then List.range' place 10 else [place]

/-- The first free place of a search from a place on, with what is left of the word. -/
def freePlace (table : Array (Option Datum)) : Nat → Nat → Nat → Nat
  | 0, _, place => place
  | fuel + 1, rest, place =>
    match (neighbours table.size place).find? fun p => (table.getD p none).isNone with
    | some free => free
    | none =>
      let rest := rest / 32
      freePlace table fuel rest ((5 * place + 1 + rest) % table.size)

/-- The table with one more datum.  A word is used up after 13 steps of a search, which then comes to
every place. -/
def put (table : Array (Option Datum)) (entry : Nat × Datum) : Array (Option Datum) :=
  let place := freePlace table (table.size + 14) entry.1 (entry.1 % table.size)
  table.setIfInBounds place (some entry.2)

/-- The members of a set in the order in which its text tells them. -/
def order (members : List Datum) : List Datum :=
  match members.mapM wordOf? with
  | some words =>
    let table := Array.replicate (sizeFor members.length) none
    ((words.zip members).foldl put table).toList.filterMap id
  | none => members

end Scatter
end Yaml
end EraRewards
