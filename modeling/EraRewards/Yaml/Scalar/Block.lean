import EraRewards.Yaml.Cursor

/-!
# Block scalars

A block scalar begins with an indicator and a header; its lines are those indented by one column
throughout.  They are kept as they are, or folded as long as they are not indented further.
-/

namespace EraRewards
namespace Yaml

/-- What the header of a block scalar asks for. -/
structure BlockHeader where
  /-- Whether the breaks at the end are kept or cut; all but one are cut if nothing is asked. -/
  keeps : Option Bool
  /-- How many columns its lines are indented; that of the first line if nothing is asked. -/
  indent : Option Nat

/-- Columns that a digit of a header asks for. -/
def BlockHeader.indentOf? (c : Char) : Option Nat :=
  if '1' ≤ c && c ≤ '9' then some (c.toNat - 48) else none

/-- The header in a line behind the indicator: a sign and a digit in any order, then a comment. -/
def BlockHeader.read? (line : List Char) : Option BlockHeader :=
  let marks := line.takeWhile (· != ' ')
  let sign (c : Char) : Option Bool := [('+', true), ('-', false)].lookup c
  if !((line.drop marks.length).dropWhile (· == ' ')).head?.all (· == '#') then none
  else match marks with
    | [] => some ⟨none, none⟩
    | [c] => match sign c with
      | some keeps => some ⟨some keeps, none⟩
      | none => (indentOf? c).map fun indent => ⟨none, some indent⟩
    | [c, d] => match sign c, indentOf? d, indentOf? c, sign d with
      | some keeps, some indent, _, _ => some ⟨some keeps, some indent⟩
      | _, _, some indent, some keeps => some ⟨some keeps, some indent⟩
      | _, _, _, _ => none
    | _ => none

/-- Behind blanks and empty lines, with the breaks of the lines and the greatest column reached. -/
def leadingLines : Nat → List Char → Nat → Cursor → List Char × Nat × Cursor
  | 0, breaks, widest, c => (breaks, widest, c)
  | fuel + 1, breaks, widest, c =>
    match c.peek? with
    | none => (breaks, widest, c)
    | some ch =>
      if ch == ' ' then leadingLines fuel breaks (max widest c.next.column) c.next
      else if isLineEnd ch then leadingLines fuel (breaks ++ [ch]) widest c.next
      else (breaks, widest, c)

/-- Behind the blanks of a line up to a column. -/
def toColumn (column : Nat) (c : Cursor) : Cursor :=
  c.skip (min (column - c.column) (c.rest.takeWhile (· == ' ')).length)

/-- Behind empty lines and the indentation after them, with the breaks of the lines. -/
def emptyLines (indent : Nat) : Nat → List Char → Cursor → List Char × Cursor
  | 0, breaks, c => (breaks, c)
  | fuel + 1, breaks, c =>
    let here := toColumn indent c
    match here.peek? with
    | none => (breaks, here)
    | some ch =>
      if isLineEnd ch then emptyLines indent fuel (breaks ++ [ch]) here.next else (breaks, here)

/-- Lines of a block scalar that have been read. -/
structure BlockLines where
  /-- Their text, without the last break. -/
  text : List Char
  /-- The break after the last line; empty where the document ends. -/
  ending : List Char
  /-- Breaks of the empty lines after it. -/
  empty : List Char
  /-- Where the scalar ends. -/
  cursor : Cursor

/-- Whether a line is indented further than its scalar, so that it is not folded. -/
def isIndented (cs : List Char) : Bool := cs.head?.any fun c => c == ' ' || c == '\t'

/-- The lines of a block scalar that stand in a column, after those already read. -/
def blockLines (folded : Bool) (indent : Nat) : Nat → BlockLines → BlockLines
  | 0, read => read
  | fuel + 1, read =>
    let c := read.cursor
    if c.column != indent || c.rest.isEmpty then read
    else
      let line := lineOf c.rest
      let behind := c.afterLine
      let ending := behind.rest.take 1
      let text := read.text ++ read.empty ++ line
      let (empty, after) := emptyLines indent (behind.rest.length + 1) [] behind.next
      let joint :=
        if after.column != indent || after.rest.isEmpty then []
        else if folded && ending == ['\n'] && !isIndented line && !isIndented after.rest then
          (if empty.isEmpty then [' '] else [])
        else ending
      blockLines folded indent fuel ⟨text ++ joint, ending, empty, after⟩

/-- A literal or folded block scalar, read from its indicator.  Its lines stand at the column
`parent` or behind it. -/
def block (parent : Nat) (c : Cursor) : Except Failure (List Char × Cursor) :=
  match BlockHeader.read? (lineOf c.next.rest) with
  | none => refused
  | some header =>
    let body := c.next.afterLine.next
    let least := max 1 parent
    let (empty, widest, first) := leadingLines (body.rest.length + 1) [] 0 body
    let (indent, empty, first) := match header.indent with
      | none => (max least widest, empty, first)
      | some indent =>
        let indent := least + indent - 1
        let (empty, first) := emptyLines indent (body.rest.length + 1) [] body
        (indent, empty, first)
    let lines := blockLines (c.peek? == some '>') indent (body.rest.length + 1) ⟨[], [], empty, first⟩
    let ending := match header.keeps with
      | none => lines.ending
      | some true => lines.ending ++ lines.empty
      | some false => []
    .ok (lines.text ++ ending, lines.cursor)

end Yaml
end EraRewards
