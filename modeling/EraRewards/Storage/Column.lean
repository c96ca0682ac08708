import EraRewards.Failure
import EraRewards.Number.Numeral

/-!
# Columns

A column holds 64-bit integers or texts, and a value of any kind that is put into it is turned into
what the column holds, or refused.  A key column takes a number or a numeral for its integer, and
numbers a row without a key itself.
-/

namespace EraRewards

/-- The integer in a text cell. -/
def readCell (cell : String) : Except Failure Int :=
  match Integer.read? cell with
  | some n => .ok n
  | none => .error .unreadable

/-- The greatest integer of a 64-bit column, `2 ^ 63 - 1`. -/
def maxColumn : Int := 9223372036854775807

/-- Whether an integer fits a 64-bit column. -/
def fitsColumn (n : Int) : Bool := -maxColumn - 1 ≤ n && n ≤ maxColumn

/-- An integer as the value of a 64-bit column. -/
def bindColumn (n : Int) : Except Failure Int :=
  if fitsColumn n then .ok n else .error .columnRange

/-- Doubles in text columns have at most fifteen digits and are positional between ten to the minus
fourth and ten to the fifteenth. -/
def columnLayout : DoubleLayout where
  positionalFrom := -4
  positionalBelow := 15
  exponentWidth := 2
  infinity := "Inf"
  notANumber := ""
  digits? := some 15
  pointed := true
  signedZero := false

/-- What a text column makes of a value: a number turns into its text, and not-a-number counts as the
absent value. -/
def bindText : Value → Except Failure (Option String)
  | .null | .float .notANumber => .ok none
  | .bool b => .ok (some (if b then "1" else "0"))
  | .int n => (bindColumn n).map fun n => some (Integer.write n)
  | .float x => .ok (some (x.text columnLayout))
  | .text s | .special s _ => .ok (some s)
  | .broken _ => .error .unencodable
  | .list _ | .object _ | .brokenObject _ _ => .error .unboundKind

/-- The key that a double stands for: an integer strictly between the bounds of a column, which both
bounds are as doubles. -/
def keyOfDouble? (x : Double) : Option Int :=
  if x.isIntegral then x.truncate?.filter fun n => decide (n.natAbs ≤ maxColumn.toNat) else none

/-- Whether a character may stand in the numeral of a key. -/
def standsInKey (c : Char) : Bool := c.isDigit || ['+', '-', '.', 'e', 'E'].contains c

/-- Blanks that may surround the numeral of a key. -/
def surroundsKey (c : Char) : Bool := c == ' ' || (9 ≤ c.toNat && c.toNat ≤ 13)

/-- The key that a text stands for.  A numeral that is no integer of a column counts as a double. -/
def keyOfText? (s : String) : Option Int :=
  let numeral := Text.trimBy surroundsKey s.toList
  if numeral.all standsInKey then
    match (Integer.signed? numeral).filter fitsColumn with
    | some n => some n
    | none => (Double.read? numeral).bind keyOfDouble?
  else none

/-- What a key column makes of a value.  A row without a key gets a key of its own. -/
def bindKey : Value → Except Failure (Option Int)
  | .null | .float .notANumber => .ok none
  | .bool b => .ok (some (if b then 1 else 0))
  | .int n => (bindColumn n).map some
  | .float x => constrained (keyOfDouble? x)
  | .text s | .special s _ => constrained (keyOfText? s)
  | .broken _ => .error .unencodable
  | .list _ | .object _ | .brokenObject _ _ => .error .unboundKind
where
  /-- A key, which must be there. -/
  constrained : Option Int → Except Failure (Option Int)
    | some n => .ok (some n)
    | none => .error .columnConstraint

end EraRewards
