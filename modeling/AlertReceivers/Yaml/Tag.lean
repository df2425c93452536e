/-
# Tags

A tag is a list of octets, because the escapes in it need not encode a text. A zero
octet ends the part of a tag in which it stands. A tag that starts with `!` is
local: it names a tagged value, if what follows encodes a text, and says nothing
otherwise. Every other tag belongs to the language and says what type a scalar has.

Key definitions: `Tag`, `Tag.cut`, `Tag.isLocal`, `Tag.name?`.
-/

namespace AlertReceivers
namespace Yaml

/-- The octets of a tag. -/
abbrev Tag := List UInt8

/-- A tag name without the mark in front of it; a mark by itself stays. -/
def bareTag (tag : String) : String :=
  match tag.toList with
  | '!' :: c :: cs => String.ofList (c :: cs)
  | _ => tag

namespace Tag

/-- The octets of a text. -/
def ofString (s : String) : Tag := s.toUTF8.toList

/-- The mark of a local tag. -/
def mark : UInt8 := 33

/-- The octets before the first one that is zero. -/
def cut (t : Tag) : Tag := t.takeWhile (· != 0)

/-- Whether a tag starts with the mark. -/
def isLocal (t : Tag) : Bool := t.head? == some mark

/-- The text that octets encode. -/
def text? (t : Tag) : Option String := String.fromUTF8? ⟨t.toArray⟩

/-- The name of a local tag; a mark by itself is a name. -/
def name? (t : Tag) : Option String :=
  match t with
  | [] => none
  | b :: rest =>
    if b = mark then (text? (if rest.isEmpty then t else rest)).map bareTag else none

end Tag
end Yaml
end AlertReceivers
