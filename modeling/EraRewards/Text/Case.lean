import EraRewards.Text.CaseTable

/-!
# Upper and lower case

Whole-text case mapping.  A letter may grow into several characters, and a capital sigma turns into
its final form where a word ends.
-/

namespace EraRewards
namespace Text

/-- Letter of the other case by a table of runs; a character outside the table stays. -/
def shiftCase (runs : Array CaseRun) (c : Char) : Char :=
  match runs.find? fun run =>
      run.first ≤ c.toNat && c.toNat ≤ run.last && (c.toNat - run.first) % run.step == 0 with
  | some run => Char.ofNat ((c.toNat : Int) + run.shift).toNat
  | none => c

/-- Upper-case form of one character. -/
def upperChar (c : Char) : List Char :=
  match upperExpansions.find? fun entry => entry.1 == c.toNat with
  | some entry => entry.2.map Char.ofNat
  | none => [shiftCase upperRuns c]

/-- A text in upper case. -/
def upper (s : String) : String := String.ofList (s.toList.flatMap upperChar)

/-- Whether the first character that a word break does not skip is cased. -/
def nextIsCased (cs : List Char) : Bool :=
  match cs.dropWhile fun c => inIntervals caseIgnorableIntervals c.toNat with
  | [] => false
  | c :: _ => inIntervals casedIntervals c.toNat

/-- Lower-case form of one character between the text before it, reversed, and the text after it. -/
def lowerChar (before : List Char) (c : Char) (after : List Char) : List Char :=
  if c.toNat == 0x3A3 then
    if nextIsCased before && !nextIsCased after then [Char.ofNat 0x3C2] else [Char.ofNat 0x3C3]
  else if c.toNat == 0x130 then ['i', Char.ofNat 0x307]
  else [shiftCase lowerRuns c]

/-- Lower-case form of a text whose beginning, reversed, has been read. -/
def lowerFrom (before : List Char) : List Char → List Char
  | [] => []
  | c :: after => lowerChar before c after ++ lowerFrom (c :: before) after

/-- A text in lower case. -/
def lower (s : String) : String := String.ofList (lowerFrom [] s.toList)

end Text
end EraRewards
