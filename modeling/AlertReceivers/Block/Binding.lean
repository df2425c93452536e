/-
# Binding a block to a document

A block is laid over with the entries of a mapping, one after the other. A key that
names a field, under any tags, sets this field; the first value that is not of
the type of its field ends the binding. All other entries are left over, as they
stand in the document (`Bound.residual`).

Key definitions: `Values.set?`, `Block.set?`, `Bound`, `Block.bindEntries`,
`Block.bind`, `Entries.keyNames`.
-/
import AlertReceivers.Block.Error
import AlertReceivers.Coercion
import AlertReceivers.Schema
import AlertReceivers.Yaml.Printer

namespace AlertReceivers

/-- The mistake of a field with a value of another type. -/
def Field.mistake (k : Kind) (f : Field) (m : Mismatch) : BlockError :=
  .invalidType k f.name f.type.expected m.message

/-- Lays a node over the field of a name. There is no result if no field has the name. -/
def Values.set? (k : Kind) : {fs : List Field} → Values fs → String → Node →
    Option (Except BlockError (Values fs))
  | _, .nil, _, _ => none
  | f :: _, .cons v rest, name, n =>
    if f.name = name then
      some (((f.type.overlay v n).mapError (f.mistake k)).map fun v => .cons v rest)
    else (rest.set? k name n).map fun r => r.map fun rest => .cons v rest

/-- Lays a node over the field of a block. There is no result if the kind has no field
of the name. -/
def Block.set? {k : Kind} (b : Block k) (name : String) (n : Node) :
    Option (Except BlockError (Block k)) :=
  Values.set? k b name n

/-- A block that is bound to a document, with the entries that name no field. -/
structure Bound (k : Kind) where
  block : Block k
  residual : Entries

/-- Lays an entry over a block if its key names a field. -/
def Block.setEntry? {k : Kind} (b : Block k) (e : Node × Node) :
    Option (Except BlockError (Block k)) :=
  match e.1.asText? with
  | some name => b.set? name e.2
  | none => none

/-- Binds a block to the entries of a mapping. -/
def Block.bindEntries {k : Kind} : Block k → Entries → Except BlockError (Bound k)
  | b, [] => .ok ⟨b, []⟩
  | b, e :: es =>
    match b.setEntry? e with
    | some (.ok b) => b.bindEntries es
    | some (.error mistake) => .error mistake
    | none => (b.bindEntries es).map fun r => { r with residual := e :: r.residual }

/-- Binds a block to a node, which must be a mapping. -/
def Block.bind {k : Kind} (b : Block k) : Node → Except BlockError (Bound k)
  | .map es => b.bindEntries es
  | n => .error (.invalidBlock k n.typeName)

/-- The names of the keys of a mapping. -/
def Entries.keyNames (es : Entries) : List String := es.map fun e => keyName e.1

end AlertReceivers
