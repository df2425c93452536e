/-
# Reading fields

A field of a block is read from a node of a document. A node that is null, under
any tags, gives nothing and the field stays as it is. Otherwise:

- numbers and booleans that stand without a tag are taken as their text where a
  text is needed (`Node.spelled`), in a list and in a table as well, but only one
  level deep;
- tags are then removed, and the value must have the shape of the field.

In a table this may make two keys the same. The later value takes the
place of the earlier one, and once more when tags are removed from the keys.

What is read does not depend on the value that a field has (`FieldType.given?`);
how it changes the field is a second step (`FieldType.take`).

Key definitions: `Node.spelled`, `FieldType.Given`, `FieldType.read`,
`FieldType.given?`, `FieldType.take`, `FieldType.overlay`.
-/
import AlertReceivers.Field
import AlertReceivers.Mismatch

namespace AlertReceivers

/-! ### Texts -/

namespace Node

/-- A number or a boolean as its text; every other node as it is. -/
def spelled (n : Node) : Node :=
  match n.scalarText? with
  | some s => .text s
  | none => n

/-- The text under all tags. -/
def readText (n : Node) : Except Mismatch String :=
  match n.untagged with
  | .text s => .ok s
  | found => .error (.shape found .text)

/-- The texts of a list, up to the first that is none. -/
def readTexts : List Node → Except Mismatch (List String)
  | [] => .ok []
  | n :: ns => do
    let s ← n.readText
    let ss ← readTexts ns
    return s :: ss

/-- The names and texts of a table, up to the first that is none. A name is read
before the text under it. -/
def readEntries : Entries → Except Mismatch (List (String × String))
  | [] => .ok []
  | (k, v) :: es => do
    let name ← k.readText
    let s ← v.readText
    let rest ← readEntries es
    return (name, s) :: rest

/-- A list whose numbers and booleans are taken as their text. -/
def spelledItems : Node → Node
  | .seq items => .seq (items.map spelled)
  | n => n

/-- A table whose numbers and booleans are taken as their text, in keys and values. -/
def spelledEntries : Node → Node
  | .map es => .map (Entries.ofList (es.map fun e => (e.1.spelled, e.2.spelled)))
  | n => n

/-- The integer under all tags, if it has at most 64 bits. -/
def readInteger (n : Node) : Except Mismatch Int64 :=
  match n.untagged with
  | .int i => if Int64.minValue.toInt ≤ i ∧ i ≤ Int64.maxValue.toInt then .ok (.ofInt i) else .error (.range i)
  | found => .error (.shape found .integer)

/-- The boolean under all tags. -/
def readBoolean (n : Node) : Except Mismatch Bool :=
  match n.untagged with
  | .bool b => .ok b
  | found => .error (.shape found .boolean)

/-- The list of texts under all tags. -/
def readTags (n : Node) : Except Mismatch (List String) :=
  match n.untagged with
  | .seq items => readTexts items
  | found => .error (.shape found .list)

/-- The table of texts under all tags. The last of equal names wins. -/
def readTable (n : Node) : Except Mismatch TextMap :=
  match n.untagged with
  | .map es => (readEntries es).map .ofList
  | found => .error (.shape found .table)

end Node

/-! ### Fields -/

namespace FieldType

/-- What a document gives for a field of a type: for a format the word, else the value. -/
abbrev Given : FieldType → Type
  | text => String
  | secret => Secret
  | integer => Int64
  | boolean => Bool
  | tags => List String
  | table => TextMap
  | format => String

/-- Reads what a node gives for a field. -/
def read : (t : FieldType) → Node → Except Mismatch t.Given
  | text, n => n.spelled.readText
  | secret, n => n.spelled.readText.map Secret.mk
  | integer, n => n.readInteger
  | boolean, n => n.readBoolean
  | tags, n => n.spelledItems.readTags
  | table, n => n.spelledEntries.readTable
  | format, n => n.spelled.readText

/-- What a node gives for a field, if it is not null. -/
def given? (t : FieldType) (n : Node) : Except Mismatch (Option t.Given) :=
  if n.isNull then .ok none else (t.read n).map some

/-- The value of a field after something, or nothing, has been given for it. Where
nothing is given the value stays; only a format forgets a word that was rejected. -/
def take : (t : FieldType) → t.Value → Option t.Given → t.Value
  | text, v, g => g.getD v
  | secret, v, g => g.getD v
  | integer, v, g => g.getD v
  | boolean, v, g => g.getD v
  | tags, v, g => g.getD v
  | table, v, g => g.getD v
  | format, s, g => s.choose (g.getD s.format.name)

/-- The value of a field after a node has been laid over it. -/
def overlay (t : FieldType) (v : t.Value) (n : Node) : Except Mismatch t.Value :=
  (t.given? n).map (t.take v)

end FieldType
end AlertReceivers
