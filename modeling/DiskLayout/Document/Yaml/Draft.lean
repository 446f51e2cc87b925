import DiskLayout.Document.Yaml.Node

/-!
# Drafts of documents

A YAML document as it is written, where a part may refer to another part by its anchor.  Anchors
are numbered, and of several parts with one number the last counts, also for references in front
of it.  Putting the parts in place of the references gives a node; documents that would grow too
large or too deep by that are refused, and so are those that refer to themselves.

## Main definitions

* `Draft` — a part of a document as it is written
* `Draft.targets` — the parts that can be referred to
* `Draft.settle?` — the node that a draft stands for
-/

namespace DiskLayout.Yaml

/-- What stands in front of a part: the number of its anchor and its tag. -/
structure Marks where
  anchor? : Option Nat
  tag? : Option Tag

/-- A part of a document as it is written. -/
inductive Draft where
  /-- The part whose anchor has a number. -/
  | reference (number : Nat)
  | scalar (marks : Marks) (style : ScalarStyle) (text : String)
  | sequence (marks : Marks) (items : List Draft)
  | mapping (marks : Marks) (entries : List (Draft × Draft))

namespace Draft

/-- A scalar that is left out. -/
def blank : Draft := scalar ⟨none, none⟩ .plain ""

mutual

/-- The size of a draft: collections count at their start and at their end. -/
def size : Draft → Nat
  | reference _ => 1
  | scalar _ _ _ => 1
  | sequence _ items => sizeOfItems items + 2
  | mapping _ entries => sizeOfEntries entries + 2

/-- The size of a list of drafts. -/
def sizeOfItems : List Draft → Nat
  | [] => 0
  | item :: others => item.size + sizeOfItems others

/-- The size of keys and values. -/
def sizeOfEntries : List (Draft × Draft) → Nat
  | [] => 0
  | (key, value) :: others => key.size + value.size + sizeOfEntries others

end

/-- A draft as a target, if it has an anchor. -/
def asTarget (marks : Marks) (draft : Draft) : List (Nat × Draft) :=
  marks.anchor?.toList.map fun number => (number, draft)

mutual

/-- The parts that have an anchor with their numbers, in the order in which they start. -/
def targets : Draft → List (Nat × Draft)
  | reference _ => []
  | scalar marks style text => asTarget marks (scalar marks style text)
  | sequence marks items => asTarget marks (sequence marks items) ++ targetsOfItems items
  | mapping marks entries => asTarget marks (mapping marks entries) ++ targetsOfEntries entries

/-- The parts with an anchor in a list of drafts. -/
def targetsOfItems : List Draft → List (Nat × Draft)
  | [] => []
  | item :: others => item.targets ++ targetsOfItems others

/-- The parts with an anchor among keys and values. -/
def targetsOfEntries : List (Draft × Draft) → List (Nat × Draft)
  | [] => []
  | (key, value) :: others => key.targets ++ value.targets ++ targetsOfEntries others

end

/-- What may still be done while references are replaced: `none` is a refusal, and the state is
the number of references that may still be followed. -/
abbrev Following := StateT Nat Option

/-- What a part of a draft stands for: a reference for the last target with its number, all else
for itself. -/
def follow (targets : List (Nat × Draft)) (draft : Draft) : Following Draft :=
  match draft with
  | reference number => fun remaining =>
    match remaining, targets.reverse.find? fun target => target.1 == number with
    | remaining + 1, some target => some (target.2, remaining)
    | _, _ => none
  | draft => pure draft

/-- The node that a draft stands for, with collections nested at most `depth` deep. -/
def settle (targets : List (Nat × Draft)) : (depth : Nat) → Draft → Following Node
  | 0, draft => do
    match ← follow targets draft with
    | scalar marks style text => return .scalar marks.tag? style text
    | _ => fun _ => none
  | depth + 1, draft => do
    match ← follow targets draft with
    | scalar marks style text => return .scalar marks.tag? style text
    | sequence marks items => return .sequence marks.tag? (← items.mapM (settle targets depth))
    | mapping marks entries =>
      return .mapping marks.tag? (← entries.mapM fun entry => do
        return (← settle targets depth entry.1, ← settle targets depth entry.2))
    | reference _ => fun _ => none

/-- The greatest depth to which collections may be nested. -/
def maxDepth : Nat := 128

/-- The number of references that may be followed for each unit of the size of a document. -/
def maxFollowed : Nat := 100

/-- The node that the draft of a document stands for. -/
def settle? (draft : Draft) : Option Node :=
  ((settle draft.targets maxDepth draft).run (maxFollowed * draft.size)).map Prod.fst

end Draft

end DiskLayout.Yaml
