import EraRewards.Calendar
import EraRewards.Text.Split

/-!
# Kinds of nodes

A tag names the kind of a node.  A scalar without quotes and without a tag is a null, a truth value, a
number, a date or else a text, by its spelling alone.  The spellings are those of YAML 1.1: integers
may be binary, octal, hexadecimal or sexagesimal and hold underscores, and a double needs a point.
-/

namespace EraRewards
namespace Yaml

/-- What a node is. -/
inductive Tag
  /-- The absent value. -/
  | null
  /-- A truth value. -/
  | truth
  /-- An integer. -/
  | integer
  /-- A double. -/
  | double
  /-- A sequence of bytes. -/
  | bytes
  /-- A date. -/
  | date
  /-- A text. -/
  | text
  /-- A sequence. -/
  | sequence
  /-- A sequence of pairs. -/
  | pairs
  /-- A set. -/
  | set
  /-- A mapping. -/
  | mapping
  /-- The key whose value is merged into a mapping. -/
  | merge
  /-- The key of the value that a mapping stands for. -/
  | default
  /-- A kind that is not known. -/
  | unknown
  deriving DecidableEq, Repr, Inhabited

namespace Tag

/-- Beginning of the names of the kinds that are known. -/
def known : String := "tag:yaml.org,2002:"

/-- Names of the kinds behind their common beginning. -/
def names : List (String × Tag) :=
  [("null", null), ("bool", truth), ("int", integer), ("float", double), ("binary", bytes),
    ("timestamp", date), ("str", text), ("seq", sequence), ("omap", pairs), ("pairs", pairs),
    ("set", set), ("map", mapping), ("merge", merge), ("value", default)]

/-- The kind with a name. -/
def ofName (name : String) : Tag :=
  ((names.find? fun entry => known ++ entry.1 == name).map (·.2)).getD unknown

/-- Whether nodes of this kind stand for something; marks of keys and unknown kinds do not. -/
def isReadable : Tag → Bool
  | merge | default | unknown => false
  | _ => true

/-- Whether a node of this kind holds other nodes. -/
def isCollection : Tag → Bool
  | sequence | pairs | set | mapping => true
  | _ => false

end Tag

/-- Whether a character is an ASCII digit. -/
def isDigit (c : Char) : Bool := '0' ≤ c && c ≤ '9'

/-- Whether a character is a digit or an underscore. -/
def isSpacedDigit (c : Char) : Bool := isDigit c || c == '_'

/-- A numeral without a sign before it. -/
def dropSign : List Char → List Char
  | '-' :: rest => rest
  | '+' :: rest => rest
  | cs => cs

/-- Whether a text is a sexagesimal place: one digit, or two that stay below sixty. -/
def isPlace : List Char → Bool
  | [c] => isDigit c
  | [c, d] => '0' ≤ c && c ≤ '5' && isDigit d
  | _ => false

/-- Whether a text is made of digits, the first of which is no underscore, and of sexagesimal places
after colons. -/
def isSexagesimal (cs : List Char) : Bool :=
  match Text.splitAt ':' cs with
  | (c :: rest) :: place :: places =>
    isDigit c && rest.all isSpacedDigit && (place :: places).all isPlace
  | _ => false

/-- Whether a numeral without a sign is spelled as an integer. -/
def spellsNatural : List Char → Bool
  | ['0'] => true
  | '0' :: 'b' :: digits => !digits.isEmpty && digits.all fun c => c == '0' || c == '1' || c == '_'
  | '0' :: 'x' :: digits =>
    !digits.isEmpty && digits.all fun c =>
      isSpacedDigit c || ('a' ≤ c && c ≤ 'f') || ('A' ≤ c && c ≤ 'F')
  | '0' :: digits => !digits.isEmpty && digits.all fun c => ('0' ≤ c && c ≤ '7') || c == '_'
  | c :: rest => isDigit c && (rest.all isSpacedDigit || isSexagesimal (c :: rest))
  | [] => false

/-- Whether a text is empty or a decimal exponent with its sign. -/
def isExponent : List Char → Bool
  | [] => true
  | mark :: sign :: digits =>
    (mark == 'e' || mark == 'E') && (sign == '-' || sign == '+') && !digits.isEmpty &&
      digits.all isDigit
  | _ => false

/-- Whether a text is spelled as a double with a point. -/
def spellsPointed (cs : List Char) : Bool :=
  let size := dropSign cs
  match size.takeWhile isSpacedDigit, size.dropWhile isSpacedDigit with
  | [], '.' :: d :: rest =>
    size.length == cs.length && isDigit d && isExponent (rest.dropWhile isSpacedDigit)
  | first :: _, '.' :: rest => isDigit first && isExponent (rest.dropWhile isSpacedDigit)
  | _ :: _, ':' :: _ =>
    match Text.splitAt '.' size with
    | [before, places] => isSexagesimal before && places.all isSpacedDigit
    | _ => false
  | _, _ => false

/-- Fixed spellings and their kinds. -/
def fixedSpellings : List (String × Tag) :=
  ["yes", "Yes", "YES", "true", "True", "TRUE", "on", "On", "ON", "no", "No", "NO", "false", "False",
      "FALSE", "off", "Off", "OFF"].map (·, Tag.truth) ++
    ["", "~", "null", "Null", "NULL"].map (·, Tag.null) ++
    [".inf", ".Inf", ".INF", "+.inf", "+.Inf", "+.INF", "-.inf", "-.Inf", "-.INF", ".nan", ".NaN",
      ".NAN"].map (·, Tag.double) ++
    [("<<", Tag.merge), ("=", Tag.default)]

/-- Kind of a scalar that has neither quotes nor a tag. -/
def Tag.ofSpelling (s : String) : Tag :=
  let cs := s.toList
  match fixedSpellings.lookup s with
  | some tag => tag
  | none =>
    if spellsPointed cs then .double
    else if spellsNatural (dropSign cs) then .integer
    else if (Date.read? true cs).isSome then .date
    else .text

end Yaml
end EraRewards
