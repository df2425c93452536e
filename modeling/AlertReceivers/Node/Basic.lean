/-
# Document values

A node is a value of a configuration document: null, a boolean, an integer, a
floating-point number, a text, a sequence, a mapping, or a value under a tag. A
mapping lists its entries in document order. Its keys are nodes, and two keys
are one when they are the same value (`Node.same`): numbers of different types
are different keys, tags are part of a key, and a mapping is the same as another
in whatever order its entries stand.

Writing a key a second time keeps its place and takes the new value
(`Entries.insert`), so a mapping built by insertion has no key twice
(`Entries.distinct_ofList`).

Key definitions: `Node`, `Node.same`, `Node.untagged`, `Node.isNull`,
`Node.asText?`, `Entries.insert`, `Entries.ofList`, `Entries.Distinct`.
Key theorems: `Entries.distinct_insert`, `Entries.distinct_ofList`.
-/
import AlertReceivers.Number.Layout

namespace AlertReceivers

/-- A value of a document. A tag is held without the mark in front of it. -/
inductive Node where
  | null
  | bool (value : Bool)
  | int (value : Int)
  | float (value : Binary64)
  | text (value : String)
  | seq (items : List Node)
  | map (entries : List (Node × Node))
  | tagged (tag : String) (value : Node)

instance : Inhabited Node := ⟨.null⟩

/-- The entries of a mapping, in document order. -/
abbrev Entries := List (Node × Node)

namespace Node

/-! ### Equality of values -/

mutual
/-- Whether two nodes are the same value. -/
def same : Node → Node → Bool
  | .null, .null => true
  | .bool a, .bool b => a == b
  | .int a, .int b => a == b
  | .float a, .float b => a.same b
  | .text a, .text b => a == b
  | .seq xs, .seq ys => sameItems xs ys
  | .map xs, .map ys => xs.length == ys.length && heldBy xs ys
  | .tagged s a, .tagged t b => s == t && same a b
  | _, _ => false

/-- Whether two sequences agree item by item. -/
def sameItems : List Node → List Node → Bool
  | [], [] => true
  | x :: xs, y :: ys => same x y && sameItems xs ys
  | _, _ => false

/-- Whether every entry of the first mapping is an entry of the second. -/
def heldBy : Entries → Entries → Bool
  | [], _ => true
  | (k, v) :: xs, ys => ys.any (fun e => same k e.1 && same v e.2) && heldBy xs ys
end

/-! ### Views -/

/-- The value under all tags. -/
def untagged : Node → Node
  | .tagged _ n => n.untagged
  | n => n

/-- Whether the value under all tags is null. -/
def isNull (n : Node) : Bool :=
  match n.untagged with
  | .null => true
  | _ => false

/-- The text under all tags, if it is one. -/
def asText? (n : Node) : Option String :=
  match n.untagged with
  | .text s => some s
  | _ => none

/-- The name of a node's type. -/
def typeName : Node → String
  | .null => "null"
  | .bool _ => "boolean"
  | .int _ | .float _ => "number"
  | .text _ => "string"
  | .seq _ => "sequence"
  | .map _ => "mapping"
  | .tagged _ _ => "tagged value"

/-- The text of a boolean. -/
def boolText (b : Bool) : String := if b then "true" else "false"

/-- The text of a number or a boolean; a tagged one has none. -/
def scalarText? : Node → Option String
  | .bool b => some (boolText b)
  | .int i => some (toString i)
  | .float x => some (x.text Layout.document)
  | _ => none

@[simp] theorem untagged_untagged : ∀ n : Node, n.untagged.untagged = n.untagged
  | .tagged _ n => untagged_untagged n
  | .null | .bool _ | .int _ | .float _ | .text _ | .seq _ | .map _ => rfl

end Node

/-! ### Mappings -/

namespace Entries

/-- Puts a key with a value into a mapping: a key that is there keeps its place. -/
def insert : Entries → Node → Node → Entries
  | [], k, v => [(k, v)]
  | e :: es, k, v => if e.1.same k then (e.1, v) :: es else e :: insert es k v

/-- The mapping that results from putting in the entries one after the other. -/
def ofList (es : Entries) : Entries := es.foldl (fun acc e => insert acc e.1 e.2) []

/-- The value under a key that is exactly the text `name`. -/
def value? : Entries → String → Option Node
  | [], _ => none
  | (.text s, v) :: es, name => if s = name then some v else value? es name
  | _ :: es, name => value? es name

/-- No key occurs twice. -/
def Distinct (es : Entries) : Prop := es.Pairwise fun a b => a.1.same b.1 = false

/-- The keys after an insertion are the old ones, and the new one if no old key is the same. -/
theorem mem_keys_insert : ∀ (es : Entries) (k v : Node) {x : Node × Node},
    x ∈ insert es k v → x.1 = k ∨ ∃ y ∈ es, y.1 = x.1
  | [], k, v, x, h => by simp [insert] at h; simp [h]
  | e :: es, k, v, x, h => by
    unfold insert at h
    split at h
    · rcases List.mem_cons.mp h with rfl | h
      · exact .inr ⟨e, by simp, rfl⟩
      · exact .inr ⟨x, by simp [h], rfl⟩
    · rcases List.mem_cons.mp h with rfl | h
      · exact .inr ⟨x, by simp, rfl⟩
      · rcases mem_keys_insert es k v h with h | ⟨y, hy, h⟩
        · exact .inl h
        · exact .inr ⟨y, by simp [hy], h⟩

/-- Insertion keeps the keys distinct. -/
theorem distinct_insert : ∀ (es : Entries) (k v : Node), Distinct es → Distinct (insert es k v)
  | [], k, v, _ => by simp [insert, Distinct]
  | e :: es, k, v, h => by
    have h := List.pairwise_cons.mp h
    unfold insert
    split
    · exact List.pairwise_cons.mpr ⟨h.1, h.2⟩
    · rename_i hk
      refine List.pairwise_cons.mpr ⟨fun x hx => ?_, distinct_insert es k v h.2⟩
      rcases mem_keys_insert es k v hx with hx | ⟨y, hy, hx⟩
      · simpa [hx] using hk
      · exact hx ▸ h.1 y hy

/-- A mapping built by insertion has no key twice. -/
theorem distinct_ofList (es : Entries) : Distinct (ofList es) := by
  have key : ∀ (es acc : Entries), Distinct acc →
      Distinct (es.foldl (fun acc e => insert acc e.1 e.2) acc) := by
    intro es
    induction es with
    | nil => exact fun _ h => h
    | cons e es ih => exact fun acc h => ih _ (distinct_insert acc e.1 e.2 h)
  exact key es [] List.Pairwise.nil

end Entries
end AlertReceivers
