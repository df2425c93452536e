/-
# Headers of a mail

A header name has a canonical form: in every part between hyphens the first letter
is a capital and the others are small. Only the letters of ASCII have a case
here, so names that differ in other letters stay different.

The headers of a mail stand under their canonical names. `Subject`, `To` and
`From` are filled in where they are not given.

Key definitions: `Header.canonical`, `Header.rename`, `Header.complete`,
`Header.normalize`.
-/
import AlertReceivers.Block.Error
import AlertReceivers.Schema

namespace AlertReceivers
namespace Header

/-- The characters of a canonical name; the first one is a capital if it starts a part. -/
def canonicalChars : Bool → List Char → List Char
  | _, [] => []
  | start, c :: cs => (if start then c.toUpper else c.toLower) :: canonicalChars (c == '-') cs

/-- The canonical form of a name. -/
def canonical (name : String) : String := String.ofList (canonicalChars true name.toList)

/-- Puts entries under their canonical names into a map. A name that is there already
is an error. -/
def rename : List (String × String) → TextMap → Except BlockError TextMap
  | [], m => .ok m
  | (name, value) :: es, m =>
    if (m.get? (canonical name)).isSome then .error (.duplicateHeader (canonical name))
    else rename es (m.insert (canonical name) value)

/-- Fills in the headers that every mail has. -/
def complete (sender recipient : String) (m : TextMap) : TextMap :=
  ((m.insertIfNew "Subject" defaultSubject).insertIfNew "To" recipient).insertIfNew "From" sender

/-- The headers of a mail from the ones that are given. -/
def normalize (headers : List (String × String)) (recipient sender : String) :
    Except BlockError TextMap :=
  (rename headers .empty).map (complete sender recipient)

end Header
end AlertReceivers
