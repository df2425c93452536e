/-
# Setting a field in place

A block may be set field by field, in place. A call says whether the kind has a field of the
name, or why the value is refused, and the block is there afterwards in either case.

A value goes into a slot: a null leaves the slot as it is, and so does a value that cannot be
read. Most fields are such a slot. A format is not: its word is put into a slot of its own, which
holds the name of the current format at first, and a format is chosen by what is found there.

Key definitions: `FieldType.fill`, `FieldType.assign`, `Values.assign`, `Block.assign`.
-/
import AlertReceivers.Block.Binding

namespace AlertReceivers

namespace FieldType

/-- Puts what a node gives into a slot. -/
def fill (t : FieldType) (slot : t.Given) (n : Node) : Except Mismatch Unit × t.Given :=
  if n.isNull then (.ok (), slot)
  else
    match t.read n with
    | .ok g => (.ok (), g)
    | .error m => (.error m, slot)

/-- Sets the value of a field in place. -/
def assign : (t : FieldType) → t.Value → Node → Except Mismatch Unit × t.Value
  | text, v, n => text.fill v n
  | secret, v, n => secret.fill v n
  | integer, v, n => integer.fill v n
  | boolean, v, n => boolean.fill v n
  | tags, v, n => tags.fill v n
  | table, v, n => table.fill v n
  | format, s, n =>
    let r := format.fill s.format.name n
    match r.1 with
    | .ok () => (.ok (), s.choose r.2)
    | .error m => (.error m, s)

end FieldType

/-- Sets the field of a name in place. The result is whether there is one. -/
def Values.assign (k : Kind) : {fs : List Field} → Values fs → String → Node →
    Except BlockError Bool × Values fs
  | _, .nil, _, _ => (.ok false, .nil)
  | f :: _, .cons v rest, name, n =>
    if f.name = name then
      let r := f.type.assign v n
      ((r.1.mapError (f.mistake k)).map fun _ => true, .cons r.2 rest)
    else
      let r := rest.assign k name n
      (r.1, .cons v r.2)

/-- Sets the field of a block in place. The result is whether the kind has a field of the name. -/
def Block.assign {k : Kind} (b : Block k) (name : String) (n : Node) :
    Except BlockError Bool × Block k :=
  Values.assign k b name n

end AlertReceivers
