import EraRewards.Number.Integer
import EraRewards.Text.Encoding
import EraRewards.Yaml.Scalar.Quoted

/-!
# Anchors, tags and directives

A node may carry an anchor, by which an alias refers to it, and a tag, which names its kind.  A tag is
written with a handle that stands for the beginning of its name; directives before a document declare
handles.
-/

namespace EraRewards
namespace Yaml

/-- Whether a character may stand in the name of an anchor, a handle or a directive. -/
def isNameChar (c : Char) : Bool := c.isAlphanum || c == '-' || c == '_'

/-- The name at a place, and the place behind it; it may be empty. -/
def nameAt (c : Cursor) : List Char × Cursor :=
  let name := c.rest.takeWhile isNameChar
  (name, c.skip name.length)

/-- The name of an anchor or an alias, read from its indicator. -/
def anchorName (c : Cursor) : Except Failure (String × Cursor) :=
  let (name, after) := nameAt c.next
  let ends := beginsBlank after.rest || after.rest.head?.any "?:,]\x7d%@`".toList.contains
  if name.isEmpty || !ends then refused else .ok (String.ofList name, after)

/-- Bytes of the percent escapes at a place, and the place behind them. -/
def percentBytes : Nat → List Nat → Cursor → Except Failure (List Nat × Cursor)
  | 0, bytes, c => .ok (bytes, c)
  | fuel + 1, bytes, c =>
    match c.rest with
    | '%' :: a :: b :: _ =>
      match hexValue? a, hexValue? b with
      | some high, some low => percentBytes fuel (bytes ++ [high * 16 + low]) (c.skip 3)
      | _, _ => refused
    | '%' :: _ => refused
    | _ => .ok (bytes, c)

/-- Whether a character may stand in the name of a tag. -/
def isTagChar (c : Char) : Bool := c.isAlphanum || "-;/?:@&=+$,_.!~*'()[]".toList.contains c

/-- Rest of the name of a tag of which `name` has been read. -/
def tagNameFrom : Nat → List Char → Cursor → Except Failure (List Char × Cursor)
  | 0, name, c => .ok (name, c)
  | fuel + 1, name, c =>
    match c.peek? with
    | some '%' => do
      let (bytes, after) ← percentBytes (c.rest.length + 1) [] c
      match Text.decodeUtf8? (bytes.length + 1) bytes with
      | some decoded => tagNameFrom fuel (name ++ decoded) after
      | none => refused
    | some ch => if isTagChar ch then tagNameFrom fuel (name ++ [ch]) c.next else .ok (name, c)
    | none => .ok (name, c)

/-- The name of a tag or its beginning, which is not empty, and the place behind it. -/
def tagName (c : Cursor) : Except Failure (String × Cursor) := do
  let (name, after) ← tagNameFrom (c.rest.length + 1) [] c
  if name.isEmpty then refused else return (String.ofList name, after)

/-- The handle at an exclamation mark: the mark alone before a space, or else a name that a second
mark ends. -/
def handleAt (c : Cursor) : Except Failure (String × Cursor) :=
  match c.rest with
  | '!' :: ' ' :: _ => .ok ("!", c.next)
  | '!' :: _ =>
    let (name, after) := nameAt c.next
    if after.peek? == some '!' then .ok (String.ofList ('!' :: name ++ ['!']), after.next) else refused
  | _ => refused

/-- A tag as it is written: the name itself, or the part of it behind a handle. -/
structure WrittenTag where
  /-- The handle. -/
  handle? : Option String
  /-- The rest of the name. -/
  name : String

/-- The tag at an exclamation mark, and the place behind it.  Alone, the mark is a name. -/
def tagAt (c : Cursor) : Except Failure (WrittenTag × Cursor) := do
  let (tag, after) ← match c.rest.drop 1 with
    | '<' :: _ => do
      let (name, after) ← tagName (c.skip 2)
      if after.peek? == some '>' then pure (WrittenTag.mk none name, after.next) else refused
    | rest =>
      if beginsBlank rest then pure (WrittenTag.mk none "!", c.next)
      else do
        let word := rest.takeWhile fun ch => ch != ' ' && !isLineEnd ch
        let (handle, behind) ← if word.contains '!' then handleAt c else pure ("!", c.next)
        let (name, after) ← tagName behind
        pure (WrittenTag.mk (some handle) name, after)
  if beginsGap after.rest then return (tag, after) else refused

/-- A directive. -/
inductive Directive
  /-- The version that a document conforms to, by its first number. -/
  | version (major : Nat)
  /-- A handle, and the beginning of the names of its tags. -/
  | handle (handle start : String)
  /-- A directive that is not known and has no effect. -/
  | other

/-- The number at a place, and the place behind it. -/
def numberAt (c : Cursor) : Except Failure (Nat × Cursor) :=
  let digits := c.rest.takeWhile Char.isDigit
  if digits.isEmpty then refused
  else if Integer.maxDigits < digits.length then .error .unreadable
  else .ok (Integer.ofDigits (digits.map fun d => d.toNat - 48), c.skip digits.length)

/-- What follows the name of a directive. -/
def directiveBody (name : String) (c : Cursor) : Except Failure (Directive × Cursor) := do
  match name with
  | "YAML" =>
    let (major, after) ← numberAt c.afterSpaces
    if after.peek? != some '.' then refused
    let (_, after) ← numberAt after.next
    if beginsGap after.rest then return (.version major, after) else refused
  | "TAG" =>
    let (handle, after) ← handleAt c.afterSpaces
    if after.peek? != some ' ' then refused
    let (start, after) ← tagName after.afterSpaces
    if beginsGap after.rest then return (.handle handle start, after) else refused
  | _ => return (.other, c.afterLine)

/-- The directive at a percent sign, and the beginning of the next line. -/
def directiveAt (c : Cursor) : Except Failure (Directive × Cursor) := do
  let (name, after) := nameAt c.next
  if name.isEmpty || !beginsGap after.rest then refused
  let (directive, after) ← directiveBody (String.ofList name) after
  match after.endLine? with
  | some behind => return (directive, behind)
  | none => refused

end Yaml
end EraRewards
