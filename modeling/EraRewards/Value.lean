import EraRewards.Number.Double
import EraRewards.Text.Letter

/-!
# Untyped values

Arguments arrive from request bodies, configuration files and callers without a type.  A value is
one of eight kinds; an object keeps the order in which its members were first written, and a value of
a kind that only some file format knows is kept by what it looks like.  Texts and names that hold half
of a surrogate pair alone are kept by their letters.
-/

namespace EraRewards

/-- A value whose kind is known only when it is looked at. -/
inductive Value
  /-- The absent value. -/
  | null
  /-- A truth value. -/
  | bool (b : Bool)
  /-- An integer of any size. -/
  | int (n : Int)
  /-- A double-precision number. -/
  | float (x : Double)
  /-- A text. -/
  | text (s : String)
  /-- A sequence. -/
  | list (items : List Value)
  /-- Named members in order of first appearance. -/
  | object (members : List (String × Value))
  /-- A value of some other kind, by its text as it stands and its text that shows the kind. -/
  | special (displayed inspected : String)
  /-- A text with halves of surrogate pairs. -/
  | broken (letters : List Letter)
  /-- Members in order of first appearance, of whose names some hold halves of surrogate pairs. -/
  | brokenObject (names : List (List Letter)) (values : List Value)
  deriving Inhabited

namespace Value

/-- Member of an object by name. -/
def member? : Value → String → Option Value
  | object members, name => (members.find? fun entry => entry.1 == name).map (·.2)
  | brokenObject names values, name => (names.zip values).lookup (Letter.ofText name)
  | _, _ => none

/-- Members with one added or replaced; a replaced member keeps its place. -/
def setMember {α : Type} [BEq α] (members : List (α × Value)) (name : α) (value : Value) :
    List (α × Value) :=
  if members.any fun entry => entry.1 == name then
    members.map fun entry => if entry.1 == name then (name, value) else entry
  else members ++ [(name, value)]

/-- The text of letters. -/
def ofLetters (letters : List Letter) : Value :=
  match Letter.text? letters with
  | some s => text s
  | none => broken letters

/-- The object with members. -/
def ofMembers (members : List (List Letter × Value)) : Value :=
  match members.mapM fun member => (Letter.text? member.1).map (·, member.2) with
  | some members => object members
  | none => brokenObject (members.map (·.1)) (members.map (·.2))

/-- Whether a value has named members. -/
def isObject : Value → Bool
  | object _ | brokenObject _ _ => true
  | _ => false

/-- Whether a value counts as present: not null, false, zero or empty. -/
def isTruthy : Value → Bool
  | null => false
  | bool b => b
  | int n => n != 0
  | float x => !x.isZero
  | text s => !s.isEmpty
  | list items => !items.isEmpty
  | object members => !members.isEmpty
  | special _ _ | broken _ | brokenObject _ _ => true

mutual

/-- Whether every number inside a value is finite. -/
def isFinite : Value → Bool
  | float x => x.isFinite
  | list items => listIsFinite items
  | object members => membersAreFinite members
  | brokenObject _ values => listIsFinite values
  | _ => true

/-- Whether every number inside a list of values is finite. -/
def listIsFinite : List Value → Bool
  | [] => true
  | item :: rest => isFinite item && listIsFinite rest

/-- Whether every number inside the members of an object is finite. -/
def membersAreFinite : List (String × Value) → Bool
  | [] => true
  | (_, value) :: rest => isFinite value && membersAreFinite rest

end

mutual

/-- Whether every text inside a value can be encoded. -/
def isEncodable : Value → Bool
  | broken _ | brokenObject _ _ => false
  | list items => listIsEncodable items
  | object members => membersAreEncodable members
  | _ => true

/-- Whether every text inside a list of values can be encoded. -/
def listIsEncodable : List Value → Bool
  | [] => true
  | item :: rest => isEncodable item && listIsEncodable rest

/-- Whether every text inside the members of an object can be encoded. -/
def membersAreEncodable : List (String × Value) → Bool
  | [] => true
  | (_, value) :: rest => isEncodable value && membersAreEncodable rest

end

end Value
end EraRewards
