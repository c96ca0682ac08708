import EraRewards.Number.Integer
import EraRewards.Value

/-!
# Reading JSON

A reader for one JSON document.  Besides the standard it accepts `NaN`, `Infinity` and `-Infinity`;
a literal with a fraction or an exponent is a double, any other an integer of limited length; of two
members of one name the last counts and keeps the place of the first.  An escape may write half of a
surrogate pair alone.  A malformed document is reported with the offset, in letters, of what was not
understood.
-/

namespace EraRewards
namespace Json

/-- Why a text is not a JSON document. -/
inductive Fault
  /-- It is not understood where this many letters remain. -/
  | malformed (remaining : Nat)
  /-- An integer literal is too long. -/
  | numeralTooLong
  /-- The nesting is deeper than the reader follows. -/
  | tooDeep

/-- A part of a document, and the text after it. -/
abbrev Parsed (α : Type) := Except Fault (α × List Letter)

/-- The fault at the beginning of the rest of a text. -/
def faultAt (rest : List Letter) : Fault := .malformed rest.length

/-- Blanks between the tokens of a document. -/
def isGap (c : Char) : Bool := c == ' ' || c == '\t' || c == '\n' || c == '\r'

/-- A text without the gaps at its beginning. -/
def skipGaps (cs : List Letter) : List Letter := cs.dropWhile (Letter.has isGap)

/-- Whether a character is one of the ten ASCII digits. -/
def isDigit (c : Char) : Bool := '0' ≤ c && c ≤ '9'

/-- Value of an ASCII digit. -/
def digitValue (c : Char) : Nat := c.toNat - 48

/-- Value of a hexadecimal digit. -/
def hexValue? (c : Char) : Option Nat :=
  if isDigit c then some (digitValue c)
  else if 'a' ≤ c && c ≤ 'f' then some (c.toNat - 87)
  else if 'A' ≤ c && c ≤ 'F' then some (c.toNat - 55)
  else none

/-- Number written by four hexadecimal digits. -/
def hexQuad? : List Letter → Option (Nat × List Letter)
  | .char a :: .char b :: .char c :: .char d :: rest => do
    let a ← hexValue? a
    let b ← hexValue? b
    let c ← hexValue? c
    let d ← hexValue? d
    return (((a * 16 + b) * 16 + c) * 16 + d, rest)
  | _ => none

/-- Character of a one-letter escape. -/
def escape? : Char → Option Char
  | '\x22' => some '\x22'
  | '\\' => some '\\'
  | '/' => some '/'
  | 'b' => some '\x08'
  | 'f' => some '\x0c'
  | 'n' => some '\n'
  | 'r' => some '\r'
  | 't' => some '\t'
  | _ => none

/-- Text after a hexadecimal escape: the letter, and what follows it.  `rest` begins at the `u` of the
escape; a second escape is joined when the two form a surrogate pair. -/
def unicodeEscape (rest : List Letter) : Parsed Letter :=
  match hexQuad? (rest.drop 1) with
  | some (first, after) =>
    if after.isEmpty then .error (faultAt rest)
    else if Letter.isFirstHalf first && 6 < after.length &&
        after.take 2 == [.char '\\', .char 'u'] then
      match hexQuad? (after.drop 2) with
      | some (second, afterPair) =>
        if Letter.isSecondHalf second then .ok (.join first second, afterPair)
        else .ok (.ofUnit first, after)
      | none => .error (faultAt (after.drop 1))
    else .ok (.ofUnit first, after)
  | none => .error (faultAt rest)

/-- Rest of a string literal of which `read` has been read, reversed.  `start` is the number of letters
that remained at the opening quote. -/
def stringAfter (start : Nat) : Nat → List Letter → List Letter → Parsed (List Letter)
  | 0, _, _ => .error (.malformed start)
  | _ + 1, _, [] => .error (.malformed start)
  | fuel + 1, read, letter :: rest =>
    if letter == .char '\x22' then .ok (read.reverse, rest)
    else if letter == .char '\\' then
      match rest with
      | [] => .error (.malformed start)
      | .char 'u' :: _ =>
        match unicodeEscape rest with
        | .ok (decoded, after) => stringAfter start fuel (decoded :: read) after
        | .error fault => .error fault
      | mark :: after =>
        match mark.char?.bind escape? with
        | some decoded => stringAfter start fuel (.char decoded :: read) after
        | none => .error (.malformed (rest.length + 1))
    else if letter.has (·.toNat < 0x20) then .error (.malformed (rest.length + 1))
    else stringAfter start fuel (letter :: read) rest

/-- A string literal, read from the letter after its opening quote. -/
def stringLiteral (cs : List Letter) : Parsed (List Letter) :=
  stringAfter (cs.length + 1) (cs.length + 1) [] cs

/-- Number with the given ASCII digits. -/
def naturalOf (digits : List Char) : Nat := Integer.ofDigits (digits.map digitValue)

/-- The digits that a text begins with, and the text after them. -/
def leadingDigits : List Letter → List Char × List Letter
  | .char c :: rest =>
    if isDigit c then
      let (digits, after) := leadingDigits rest
      (c :: digits, after)
    else ([], .char c :: rest)
  | cs => ([], cs)

/-- Digits after a point, and the text after them; none when no digit follows the point. -/
def fraction (cs : List Letter) : List Char × List Letter :=
  match cs with
  | .char '.' :: rest =>
    let (places, after) := leadingDigits rest
    if places.isEmpty then ([], cs) else (places, after)
  | _ => ([], cs)

/-- Decimal exponent, and the text after it; none when the mark is not followed by digits. -/
def exponent? (cs : List Letter) : Option (Int × List Letter) :=
  match cs with
  | .char mark :: rest =>
    if mark == 'e' || mark == 'E' then
      let (negative, rest) := match rest with
        | .char '-' :: rest => (true, rest)
        | .char '+' :: rest => (false, rest)
        | rest => (false, rest)
      let (digits, after) := leadingDigits rest
      if digits.isEmpty then none
      else
        let size : Int := (naturalOf digits : Nat)
        some (if negative then -size else size, after)
    else none
  | _ => none

/-- The number whose integer digits are given and whose further digits begin the text. -/
def numberAfter (negative : Bool) (digits : List Char) (rest : List Letter) : Parsed Value :=
  let (places, afterFraction) := fraction rest
  match exponent? afterFraction, places with
  | none, [] =>
    if Integer.maxDigits < digits.length then .error .numeralTooLong
    else
      let size : Int := (naturalOf digits : Nat)
      .ok (.int (if negative then -size else size), rest)
  | none, places =>
    .ok (.float (.ofDecimal negative (naturalOf (digits ++ places)) (-(places.length : Int))),
      afterFraction)
  | some (exponent, after), places =>
    .ok (.float
      (.ofDecimal negative (naturalOf (digits ++ places)) (exponent - (places.length : Int))), after)

/-- A number without its sign; `start` is the text at the sign. -/
def number (negative : Bool) (start : List Letter) : List Letter → Parsed Value
  | .char '0' :: rest => numberAfter negative ['0'] rest
  | cs =>
    let (digits, after) := leadingDigits cs
    if digits.isEmpty then .error (faultAt start) else numberAfter negative digits after

/-- Rest of a text after a word at its beginning. -/
def afterWord? (word : String) (cs : List Letter) : Option (List Letter) :=
  if cs.take word.length == Letter.ofText word then some (cs.drop word.length) else none

/-- A literal: one of the six words, or a number. -/
def literal (cs : List Letter) : Parsed Value :=
  let words : List (String × Value) :=
    [("null", .null), ("true", .bool true), ("false", .bool false), ("NaN", .float .notANumber),
      ("Infinity", .float (.infinite false)), ("-Infinity", .float (.infinite true))]
  match words.findSome? fun entry => (afterWord? entry.1 cs).map fun rest => (entry.2, rest) with
  | some found => .ok found
  | none =>
    match cs with
    | .char '-' :: rest => number true cs rest
    | _ => number false cs cs

mutual

/-- A value at the beginning of a text, with so many levels of nesting at most. -/
def value : Nat → Nat → List Letter → Parsed Value
  | 0, _, _ => .error .tooDeep
  | fuel + 1, levels, cs =>
    match cs, levels with
    | [], _ => .error (faultAt cs)
    | .char '\x22' :: rest, _ =>
      match stringLiteral rest with
      | .ok (letters, after) => .ok (.ofLetters letters, after)
      | .error fault => .error fault
    | .char '\x7b' :: _, 0 | .char '[' :: _, 0 => .error .tooDeep
    | .char '\x7b' :: rest, levels + 1 =>
      match skipGaps rest with
      | .char '\x7d' :: after => .ok (.object [], after)
      | start => members fuel levels [] start
    | .char '[' :: rest, levels + 1 =>
      match skipGaps rest with
      | .char ']' :: after => .ok (.list [], after)
      | start => items fuel levels [] start
    | _, _ => literal cs

/-- Items of a list after those already read, reversed. -/
def items : Nat → Nat → List Value → List Letter → Parsed Value
  | 0, _, _, _ => .error .tooDeep
  | fuel + 1, levels, read, cs =>
    match value fuel levels cs with
    | .error fault => .error fault
    | .ok (item, rest) =>
      match skipGaps rest with
      | .char ']' :: after => .ok (.list (item :: read).reverse, after)
      | .char ',' :: after => items fuel levels (item :: read) (skipGaps after)
      | start => .error (faultAt start)

/-- Members of an object after those already read. -/
def members : Nat → Nat → List (List Letter × Value) → List Letter → Parsed Value
  | 0, _, _, _ => .error .tooDeep
  | fuel + 1, levels, read, cs =>
    match cs with
    | .char '\x22' :: rest =>
      match stringLiteral rest with
      | .error fault => .error fault
      | .ok (name, afterName) =>
        match skipGaps afterName with
        | .char ':' :: afterColon =>
          match value fuel levels (skipGaps afterColon) with
          | .error fault => .error fault
          | .ok (found, afterValue) =>
            match skipGaps afterValue with
            | .char '\x7d' :: after => .ok (.ofMembers (Value.setMember read name found), after)
            | .char ',' :: after => members fuel levels (Value.setMember read name found) (skipGaps after)
            | start => .error (faultAt start)
        | start => .error (faultAt start)
    | _ => .error (faultAt cs)

end

/-- The offset at which a fault lies in a text of the given length. -/
def Fault.offset? (length : Nat) : Fault → Option Nat
  | .malformed remaining => some (length - remaining)
  | _ => none

/-- The value of a whole document, with so many levels of nesting at most.  A letter takes at most
two steps of the reader. -/
def readWithin (levels : Nat) (cs : List Letter) : Except Fault Value :=
  match value (2 * cs.length + 2) levels (skipGaps cs) with
  | .error fault => .error fault
  | .ok (found, rest) =>
    match skipGaps rest with
    | [] => .ok found
    | extra => .error (faultAt extra)

/-- The value of a whole document.  A level of nesting takes a character at least. -/
def read (cs : List Char) : Except Fault Value := readWithin cs.length (cs.map .char)

end Json
end EraRewards
