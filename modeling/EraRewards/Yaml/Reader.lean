import EraRewards.Yaml.Document

/-!
# Reading YAML

A text is read as one document, in full, before anything in it counts.
-/

namespace EraRewards
namespace Yaml

/-- Whether a document may hold a character. -/
def isAllowed (c : Char) : Bool :=
  let n := c.toNat
  n == 9 || n == 10 || n == 13 || (0x20 ≤ n && n ≤ 0x7E) || n == 0x85 ||
    (0xA0 ≤ n && n ≤ 0xFFFD) || 0x10000 ≤ n

/-- The document in a text, if there is one.  A next-line control counts as a line feed. -/
def read (cs : List Char) : Except Failure (Option Document) := do
  if !cs.all isAllowed then refused
  match ← graphOf (tokens (cs.map fun c => if c == '\u0085' then '\n' else c)) with
  | some (graph, root) => return some (← Document.ofGraph graph root)
  | none => return none

end Yaml
end EraRewards
