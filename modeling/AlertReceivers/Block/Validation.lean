/-
# Valid blocks

A block is checked for its required fields first, then for a word that was rejected.
The headers of a mail are normalized at the end, in the order in which the table of
them happens to be gone through. To decode a block is to bind the
defaults of its kind, to refuse what is left over, and to check the result.

Key definitions: `Block.derive`, `Block.validate`, `Block.decode`.
-/
import AlertReceivers.Block.Binding
import AlertReceivers.Block.Header

namespace AlertReceivers
namespace Block

/-- What follows from the fields of a block: the headers of a mail. -/
def derive [TextMap.Walk] : {k : Kind} → Block k → Except BlockError (Block k)
  | .email, .cons recipient (.cons sender (.cons smarthost (.cons headers rest))) =>
    (Header.normalize (TextMap.Walk.entries headers) recipient sender).map fun headers =>
      .cons recipient (.cons sender (.cons smarthost (.cons headers rest)))
  | _, b => .ok b

/-- The block with all that follows from it, if nothing is missing or rejected. -/
def validate [TextMap.Walk] {k : Kind} (b : Block k) : Except BlockError (Block k) :=
  match Values.missing? b with
  | some field => .error (.missingField k field)
  | none =>
    match Values.rejected? b with
    | some (field, word) => .error (.invalidValue k field word MessageFormat.names)
    | none => b.derive

/-- The block that a node describes. -/
def decode [TextMap.Walk] (k : Kind) (n : Node) : Except BlockError (Block k) :=
  match (defaults k).bind n with
  | .error mistake => .error mistake
  | .ok r =>
    if r.residual.isEmpty then r.block.validate
    else .error (.unrecognizedFields k r.residual.keyNames)

end Block
end AlertReceivers
