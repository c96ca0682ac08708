import EraRewards.Failure

/-!
# Readings of untyped values

A truth value reads as zero or one, a double as its integer part, a text as the numeral it holds;
the other kinds have no integer reading.  Values are compared as numbers where they are numbers, a
truth value counting as one, and item by item where they are sequences.
-/

namespace EraRewards
namespace Value

/-- The integer that a value stands for. -/
def toInt : Value → Except Failure Int
  | int n => .ok n
  | bool b => .ok (if b then 1 else 0)
  | float x =>
    match x, x.truncate? with
    | _, some n => .ok n
    | .infinite _, none => .error .unbounded
    | _, none => .error .unreadable
  | text s =>
    match Integer.read? s with
    | some n => .ok n
    | none => .error .unreadable
  | _ => .error .mistyped

/-- Text of a value, whose digits must not be too many. -/
def written : Value → Except Failure String
  | int n =>
    match Integer.write? n with
    | some s => .ok s
    | none => .error .unreadable
  | value => .ok value.display

/-- Order of two values, if they are numbers and both can be ordered. -/
def compareNumbers? : Value → Value → Option Ordering
  | int n, int m => some (compare n m)
  | int n, float y => (y.compareInt n).map Ordering.swap
  | float x, int m => x.compareInt m
  | float x, float y => x.compare? y
  | _, _ => none

/-- A truth value as the number that it counts as. -/
def asNumber : Value → Value
  | bool b => int (if b then 1 else 0)
  | value => value

/-- Whether a value is a number. -/
def isNumber : Value → Bool
  | int _ | float _ => true
  | _ => false

/-- Whether two values are both not-a-number, which is one thing where it is stored but not where it is
compared as a number. -/
def areNotANumber : Value → Value → Bool
  | float .notANumber, float .notANumber => true
  | _, _ => false

mutual

/-- Whether two values are the same: numbers if they are equal, sequences if their items are, objects
if their members are in whatever order, other values if they look alike. -/
def equals : Value → Value → Bool
  | list xs, list ys => itemsEqual xs ys
  | object xs, object ys => xs.length == ys.length && membersEqual xs ys
  | a, b =>
    let a := a.asNumber
    let b := b.asNumber
    if a.isNumber && b.isNumber then compareNumbers? a b == some .eq else a.inspect == b.inspect

/-- Whether two sequences have the same items. -/
def itemsEqual : List Value → List Value → Bool
  | [], [] => true
  | x :: xs, y :: ys => (areNotANumber x y || equals x y) && itemsEqual xs ys
  | _, _ => false

/-- Whether members are found with the same values among others. -/
def membersEqual : List (String × Value) → List (String × Value) → Bool
  | [], _ => true
  | (name, x) :: rest, ys =>
    (match (object ys).member? name with
      | some y => areNotANumber x y || equals x y
      | none => false) && membersEqual rest ys

end

mutual

/-- Whether a value comes before another.  Numbers, texts and sequences are ordered among themselves,
sequences by their first items that are not the same. -/
def precedes : Value → Value → Except Failure Bool
  | list xs, list ys => itemsPrecede xs ys
  | text s, text t => .ok (s < t)
  | a, b =>
    let a := a.asNumber
    let b := b.asNumber
    if a.isNumber && b.isNumber then .ok (compareNumbers? a b == some .lt) else .error .mistyped

/-- Whether a sequence comes before another. -/
def itemsPrecede : List Value → List Value → Except Failure Bool
  | _, [] => .ok false
  | [], _ :: _ => .ok true
  | x :: xs, y :: ys =>
    if areNotANumber x y || equals x y then itemsPrecede xs ys else precedes x y

end

@[simp] theorem toInt_int (n : Int) : (int n).toInt = .ok n := rfl

end Value
end EraRewards
