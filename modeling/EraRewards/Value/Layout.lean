import EraRewards.Number.Integer
import EraRewards.Number.Shortest
import EraRewards.Text.Quoted
import EraRewards.Value

/-!
# Values as text

Error details and configuration messages show values in two forms: `inspect` shows the kind as well
(a text is quoted), `display` leaves a text as it is.  The two agree on lists, objects and numbers.
-/

namespace EraRewards

/-- Doubles are positional between ten to the minus fourth and ten to the sixteenth. -/
def Value.doubleLayout : DoubleLayout where
  positionalFrom := -4
  positionalBelow := 16
  exponentWidth := 2
  infinity := "inf"
  notANumber := "nan"

namespace Value

mutual

/-- Text of a value in which texts are quoted. -/
def inspect : Value → String
  | null => "None"
  | bool b => if b then "True" else "False"
  | int n => Integer.write n
  | float x => x.text doubleLayout
  | text s => Text.quoted s
  | list items => "[" ++ ", ".intercalate (inspectItems items) ++ "]"
  | object members => "\x7b" ++ ", ".intercalate (inspectMembers members) ++ "\x7d"
  | special _ inspected => inspected
  | broken letters => Text.quotedLetters letters
  | brokenObject names values =>
    let written := (names.zip (inspectItems values)).map fun member =>
      Text.quotedLetters member.1 ++ ": " ++ member.2
    "\x7b" ++ ", ".intercalate written ++ "\x7d"

/-- Texts of the items of a list. -/
def inspectItems : List Value → List String
  | [] => []
  | item :: rest => inspect item :: inspectItems rest

/-- Texts of the members of an object. -/
def inspectMembers : List (String × Value) → List String
  | [] => []
  | (name, value) :: rest => (Text.quoted name ++ ": " ++ inspect value) :: inspectMembers rest

end

/-- Text of a value; a text stands for itself. -/
def display : Value → String
  | text s => s
  | special displayed _ => displayed
  | value => inspect value

end Value
end EraRewards
