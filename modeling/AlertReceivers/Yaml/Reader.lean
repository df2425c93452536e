/-
# From a text to a node

The meaning of a scalar depends on its tag and on whether it stands without
quotes. A local tag makes a tagged value, in keys as well. A mapping must not have
a key twice.

Collections may be nested 128 deep. Aliases may be followed a hundred times as
often as the document has marks, so a small text cannot grow without bound.

Key definitions: `scalarNode?`, `Tree.toNode?`, `Yaml.parse?`.
-/
import AlertReceivers.Yaml.Anchor
import AlertReceivers.Yaml.Lexer
import AlertReceivers.Yaml.Scalar

namespace AlertReceivers
namespace Yaml

/-! ### Scalars -/

/-- A scalar whose tag says nothing of its type. -/
def untaggedNode? (s : String) (plain : Bool) : Option Node :=
  if plain then Scalar.node? s (Scalar.ofPlain s) else some (.text s)

/-- A scalar under a tag of the language: the tag forces its type. -/
def forcedNode? (tag : Tag) (s : String) : Option Node :=
  if tag = .ofString "tag:yaml.org,2002:bool" then (Scalar.bool? s).map .bool
  else if tag = .ofString "tag:yaml.org,2002:int" then Scalar.integer? s >>= Scalar.node? s
  else if tag = .ofString "tag:yaml.org,2002:float" then (Scalar.float? s).map .float
  else if tag = .ofString "tag:yaml.org,2002:null" then if Scalar.isNull s then some .null else none
  else some (.text s)

/-- A scalar, given its tag and whether it stands without quotes. -/
def scalarNode? (tag : Option Tag) (s : String) (plain : Bool) : Option Node :=
  match tag with
  | some t => if t.isLocal then untaggedNode? s plain else forcedNode? t s
  | none => untaggedNode? s plain

/-! ### Trees -/

/-- What is fixed while a tree is read: its anchors and how often aliases may be followed. -/
structure Reading where
  anchors : Anchors
  limit : Nat

/-- Reads a part of a tree, given how many aliases have been followed before. -/
abbrev PartReader := Tree Nat → Nat → Option (Node × Nat)

/-- The nodes of items. -/
def itemNodes (read : PartReader) : List (Tree Nat) → Nat → Option (List Node × Nat)
  | [], n => some ([], n)
  | x :: xs, n =>
    match read x n with
    | some (x, n) => (itemNodes read xs n).map fun (xs, n) => (x :: xs, n)
    | none => none

/-- The nodes of entries, after the keys that are read already. -/
def entryNodes (read : PartReader) :
    List (Tree Nat × Tree Nat) → List Node → Nat → Option (Entries × Nat)
  | [], _, n => some ([], n)
  | (k, v) :: xs, keys, n =>
    match read k n with
    | some (k, n) =>
      if keys.any k.same then none else
      match read v n with
      | some (v, n) => (entryNodes read xs (k :: keys) n).map fun (xs, n) => ((k, v) :: xs, n)
      | none => none
    | none => none

/-- The tag of a tree. -/
def Tree.tag? : Tree Nat → Option Tag
  | .alias _ => none
  | .scalar p _ _ | .seq p _ | .map p _ => p.tag

/-- The node of a tree that is no alias, apart from a local tag. Parts of collections
are read with `inner`. -/
def bareTreeNode (inner : Option PartReader) (x : Tree Nat) (n : Nat) : Option (Node × Nat) :=
  match x, inner with
  | .scalar p s plain, _ => (scalarNode? p.tag s plain).map fun v => (v, n)
  | .seq _ items, some read => (itemNodes read items n).map fun (xs, n) => (.seq xs, n)
  | .map _ entries, some read => (entryNodes read entries [] n).map fun (xs, n) => (.map xs, n)
  | _, _ => none

/-- The node of a tree that is no alias. -/
def plainTreeNode (inner : Option PartReader) (x : Tree Nat) (n : Nat) : Option (Node × Nat) :=
  match x.tag? >>= Tag.name? with
  | some t => (bareTreeNode inner x n).map fun (v, n) => (.tagged t v, n)
  | none => bareTreeNode inner x n

/-- The node of a tree whose parts are read with `inner`. -/
def treeNode (r : Reading) (inner : Option PartReader) : PartReader := fun x n =>
  match x with
  | .alias number =>
    if n < r.limit then
      match r.anchors.node? number with
      | some x => plainTreeNode inner x (n + 1)
      | none => none
    else none
  | x => plainTreeNode inner x n

/-- The node of a tree with at most so many collections inside each other. -/
def nestedNode (r : Reading) : Nat → PartReader
  | 0 => treeNode r none
  | depth + 1 => treeNode r (some (nestedNode r depth))

/-- How deep collections may be nested. -/
def maxDepth : Nat := 128

/-- The node of a document. -/
def Tree.toNode? (x : Tree String) : Option Node :=
  match x.link? with
  | some (x, anchors) =>
    (nestedNode ⟨anchors, 100 * x.events⟩ maxDepth x 0).map (·.1)
  | none => none

/-- The node that a text writes. -/
def parse? (s : String) : Option Node := tokens? s >>= Tree.ofTokens? >>= Tree.toNode?

end Yaml
end AlertReceivers
