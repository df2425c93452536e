/-
# What aliases refer to

Anchors are numbered as they appear: a name gets the number of different names
known before it, also when it is given a second time. An alias takes the number
that its name has where the alias stands, and refers to the node that was given
this number last in the whole document. A name that is not known yet is an error.

Key definitions: `Anchors`, `Tree.link?`, `Tree.events`.
-/
import AlertReceivers.Yaml.Tree

namespace AlertReceivers
namespace Yaml

/-- The anchors met so far. -/
structure Anchors where
  /-- The names with their numbers, each name once. -/
  names : List (String × Nat)
  /-- How many anchors have been met. -/
  count : Nat
  /-- The nodes that are read, with their numbers and their turn. -/
  nodes : List (Nat × Nat × Tree Nat)

namespace Anchors

/-- No anchors. -/
def none : Anchors := ⟨[], 0, []⟩

/-- Gives a name the next number. -/
def define (a : Anchors) (name : String) : Anchors :=
  { a with
    names := (name, a.names.length) :: a.names.filter fun e => e.1 ≠ name
    count := a.count + 1 }

/-- Keeps the node whose anchor had a turn and a number. -/
def keep (a : Anchors) (number turn : Nat) (x : Tree Nat) : Anchors :=
  { a with nodes := (number, turn, x) :: a.nodes }

/-- The later of two turns. -/
def later (best : Option (Nat × Tree Nat)) (turn : Nat) (x : Tree Nat) : Option (Nat × Tree Nat) :=
  match best with
  | some (t, y) => if turn < t then some (t, y) else some (turn, x)
  | .none => some (turn, x)

/-- The node that was given a number last. -/
def node? (a : Anchors) (number : Nat) : Option (Tree Nat) :=
  (a.nodes.foldl (fun best e => if e.1 = number then later best e.2.1 e.2.2 else best) .none).map
    (·.2)

end Anchors

namespace Tree

/-- The anchors after the start of a node with a property. -/
def begin (p : Property) (a : Anchors) : Anchors :=
  match p.anchor with
  | some name => a.define name
  | none => a

/-- A node that is read, and the anchors after it; `before` holds those at its start. -/
def finish (p : Property) (before : Anchors) (x : Tree Nat) (a : Anchors) : Tree Nat × Anchors :=
  (x, if p.anchor.isSome then a.keep before.names.length before.count x else a)

mutual
/-- The tree with a number for each alias. -/
def linkNode : Tree String → Anchors → Option (Tree Nat × Anchors)
  | .alias name, a => (a.names.lookup name).map fun n => (.alias n, a)
  | .scalar p s plain, a => some (finish p a (.scalar p s plain) (begin p a))
  | .seq p items, a =>
    (linkItems items (begin p a)).map fun (xs, b) => finish p a (.seq p xs) b
  | .map p entries, a =>
    (linkEntries entries (begin p a)).map fun (xs, b) => finish p a (.map p xs) b

/-- Items with a number for each alias. -/
def linkItems : List (Tree String) → Anchors → Option (List (Tree Nat) × Anchors)
  | [], a => some ([], a)
  | x :: xs, a =>
    match linkNode x a with
    | some (x, a) => (linkItems xs a).map fun (xs, a) => (x :: xs, a)
    | none => none

/-- Entries with a number for each alias. -/
def linkEntries :
    List (Tree String × Tree String) → Anchors → Option (List (Tree Nat × Tree Nat) × Anchors)
  | [], a => some ([], a)
  | (k, v) :: xs, a =>
    match linkNode k a with
    | some (k, a) =>
      match linkNode v a with
      | some (v, a) => (linkEntries xs a).map fun (xs, a) => ((k, v) :: xs, a)
      | none => none
    | none => none
end

/-- The tree with a number for each alias, and all anchors. -/
def link? (x : Tree String) : Option (Tree Nat × Anchors) := linkNode x .none

mutual
/-- How many marks a tree has: one for a scalar or an alias, two for a collection. -/
def events {α : Type} : Tree α → Nat
  | .alias _ | .scalar _ _ _ => 1
  | .seq _ items => eventsOfItems items + 2
  | .map _ entries => eventsOfEntries entries + 2

/-- How many marks items have. -/
def eventsOfItems {α : Type} : List (Tree α) → Nat
  | [] => 0
  | x :: xs => events x + eventsOfItems xs

/-- How many marks entries have. -/
def eventsOfEntries {α : Type} : List (Tree α × Tree α) → Nat
  | [] => 0
  | (k, v) :: xs => events k + events v + eventsOfEntries xs
end

end Tree
end Yaml
end AlertReceivers
