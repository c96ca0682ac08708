import EraRewards.Text.Quoted
import EraRewards.Value.Layout

/-!
# Writing JSON

A writer for JSON documents.  What separates items and members, whether members are sorted by name
and whether characters outside ASCII are escaped is a record of its own.
-/

namespace EraRewards
namespace Json

/-- How a document is set out. -/
structure Style where
  /-- Text between items and between members. -/
  itemSeparator : String
  /-- Text between the name and the value of a member. -/
  nameSeparator : String
  /-- Whether members are ordered by name, at every depth. -/
  sorted : Bool
  /-- Whether characters outside ASCII are escaped. -/
  escaped : Bool

/-- No spaces; members in their own order.  With escapes a document has only ASCII, so that it keeps to
one line whatever it holds. -/
def Style.plain (escaped : Bool) : Style := ⟨",", ":", false, escaped⟩

/-- No spaces; members ordered by name. -/
def Style.canonical : Style := ⟨",", ":", true, false⟩

/-- A space after each separator; members in their own order. -/
def Style.spaced : Style := ⟨", ", ": ", false, false⟩

/-- The escape of a UTF-16 unit. -/
def escapeUnit (unit : Nat) : List Char := '\\' :: 'u' :: Text.hexDigits 4 unit

/-- The escapes of a character outside ASCII; one beyond the first plane has two units. -/
def escapeChar (c : Char) : List Char :=
  let code := c.toNat
  if code < 0x10000 then escapeUnit code
  else
    let rest := code - 0x10000
    escapeUnit (0xD800 + rest / 0x400) ++ escapeUnit (0xDC00 + rest % 0x400)

/-- One character of a string literal. -/
def literalChar (style : Style) (c : Char) : List Char :=
  if c == '\x22' then ['\\', '\x22']
  else if c == '\\' then ['\\', '\\']
  else if c == '\n' then ['\\', 'n']
  else if c == '\r' then ['\\', 'r']
  else if c == '\t' then ['\\', 't']
  else if c == '\x08' then ['\\', 'b']
  else if c == '\x0c' then ['\\', 'f']
  else if c.toNat < 0x20 then escapeUnit c.toNat
  else if style.escaped && 0x7F < c.toNat then escapeChar c
  else [c]

/-- A string literal. -/
def writeText (style : Style) (s : String) : String :=
  String.ofList ('\x22' :: s.toList.flatMap (literalChar style) ++ ['\x22'])

/-- One letter of a string literal; half of a surrogate pair is always escaped. -/
def literalLetter (style : Style) : Letter → List Char
  | .char c => literalChar style c
  | .half unit => escapeUnit unit

/-- A string literal of letters. -/
def writeLetters (style : Style) (letters : List Letter) : String :=
  String.ofList ('\x22' :: letters.flatMap (literalLetter style) ++ ['\x22'])

/-- Layout of numbers: as in other texts, but with the literals for infinity and not-a-number. -/
def numberLayout : DoubleLayout :=
  { Value.doubleLayout with infinity := "Infinity", notANumber := "NaN" }

/-- Name under which a value that is no text stands as a member; none for lists and objects, nor for
a text that cannot be encoded. -/
def memberName? : Value → Option String
  | .null => some "null"
  | .bool b => some (if b then "true" else "false")
  | .int n => some (Integer.write n)
  | .float x => some (x.text numberLayout)
  | .text s | .special s _ => some s
  | .list _ | .object _ | .broken _ | .brokenObject _ _ => none

/-- Members ordered by name. -/
def sortMembers (members : List (String × String)) : List (String × String) :=
  members.mergeSort fun a b => !(decide (b.1 < a.1))

mutual

/-- The document of a value. -/
def write (style : Style) : Value → String
  | .null => "null"
  | .bool b => if b then "true" else "false"
  | .int n => Integer.write n
  | .float x => x.text numberLayout
  | .text s | .special s _ => writeText style s
  | .list items => "[" ++ style.itemSeparator.intercalate (writeItems style items) ++ "]"
  | .object members =>
    let written := writeMembers style members
    let ordered := if style.sorted then sortMembers written else written
    "\x7b" ++ style.itemSeparator.intercalate
      (ordered.map fun entry => writeText style entry.1 ++ style.nameSeparator ++ entry.2) ++ "\x7d"
  | .broken letters => writeLetters style letters
  | .brokenObject names values =>
    let written := (names.map (writeLetters style)).zip (writeItems style values)
    "\x7b" ++ style.itemSeparator.intercalate
      (written.map fun entry => entry.1 ++ style.nameSeparator ++ entry.2) ++ "\x7d"

/-- Documents of the items of a list. -/
def writeItems (style : Style) : List Value → List String
  | [] => []
  | item :: rest => write style item :: writeItems style rest

/-- Names of the members of an object with the documents of their values. -/
def writeMembers (style : Style) : List (String × Value) → List (String × String)
  | [] => []
  | (name, value) :: rest => (name, write style value) :: writeMembers style rest

end

end Json
end EraRewards
