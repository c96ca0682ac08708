import EraRewards.Yaml.Node

/-!
# Merging of mappings

A merge key is replaced by the entries of the mappings that its value names; they come before the
entries of the mapping itself, and of several mappings the first one comes last, so that it counts
most.  The mark of a default becomes a text.  Both change the nodes once and for all, whoever refers to
them.  A mapping that is merged into itself gives the entries that it has by then.
-/

namespace EraRewards
namespace Yaml

/-- A step that may change nodes. -/
abbrev Revision := StateT Graph (Except Failure)

namespace Revision

/-- Replaces the entries of a mapping. -/
def setEntries (number : Nat) (entries : List (Nat × Nat)) : Revision Unit :=
  modify fun g => g.modify number fun node => { node with content := .mapping entries }

/-- Makes a text of a mark. -/
def makeText (number : Nat) : Revision Unit :=
  modify fun g => g.modify number fun node => { node with tag := .text }

/-- Entries of a node, which must be a mapping. -/
def entriesOf (number : Nat) : Revision (List (Nat × Nat)) := do
  match (← get).entries? number with
  | some entries => return entries
  | none => throw .malformedYaml

/-- Takes the first merge key out of a mapping.  None is left in a mapping that has been merged into
itself meanwhile. -/
def takeMergeKey (number : Nat) : Revision Bool := do
  let g ← get
  let entries ← entriesOf number
  if entries.any fun entry => g.tagOf entry.1 == .merge then
    setEntries number (entries.eraseP fun entry => g.tagOf entry.1 == .merge)
    return true
  else return false

/-- Replaces the merge keys of a mapping and the mark of its default, following merge keys inside the
merged mappings `depth` levels deep. -/
def flatten : Nat → Nat → Revision Unit
  | 0, _ => throw .tooDeep
  | depth + 1, number => do
    let source (number : Nat) : Revision (List (Nat × Nat)) := do
      let _ ← entriesOf number
      flatten depth number
      entriesOf number
    let merged ← (← entriesOf number).foldlM
      (fun merged entry => do
        match (← get).tagOf entry.1 with
        | .merge =>
          if ← takeMergeKey number then
            match ((← get).node entry.2).content with
            | .sequence items => return merged ++ (← items.mapM source).reverse.flatten
            | _ => return merged ++ (← source entry.2)
          else return merged
        | .default => makeText entry.1; return merged
        | _ => return merged)
      []
    setEntries number (merged ++ (← entriesOf number))

end Revision
end Yaml
end EraRewards
