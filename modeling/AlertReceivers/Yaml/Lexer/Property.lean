/-
# Anchors, tags and directives

A tag is written in full between `!<` and `>`, or as a handle with a suffix; a
mark `!` with anything behind it has the handle `!`. Characters that a tag may
not hold are written as octets after percent signs, a lead octet with the octets
that continue it.
Directives stand at the start of a line and give the version of the language or
the meaning of a handle.

Key definitions: `Cursor.name?`, `Cursor.uri?`, `Cursor.tag?`, `Cursor.directive?`.
-/
import AlertReceivers.Yaml.Cursor
import AlertReceivers.Yaml.Scalar
import AlertReceivers.Yaml.Token

namespace AlertReceivers
namespace Yaml

/-! ### Anchors -/

/-- The name of an anchor or an alias, after its mark. -/
def Cursor.name? (k : Cursor) : Option (String × Cursor) :=
  let (name, k) := (k.forward 1).takeWhile isWord
  let closed := endsWord k.rest || match k.rest with
    | c :: _ => c == '?' || c == ':' || c == ',' || c == ']' || c == '}' || c == '%' ||
        c == '@' || c == '\x60'
    | [] => true
  if name.isEmpty || !closed then none else some (String.ofList name, k)

/-! ### Tags -/

/-- Whether a tag may hold a character; some may stand only in a tag in full. -/
def isUriChar (full : Bool) (c : Char) : Bool :=
  isWord c || ";/?:@&=+$.%!~*'()".toList.contains c || (full && (c == ',' || c == '[' || c == ']'))

/-- The octet after a percent sign. -/
def octet? : List Char → Option Nat
  | '%' :: a :: b :: _ => Scalar.digits? 16 [a, b]
  | _ => none

/-- How many octets continue a lead octet. -/
def octetsAfter? (lead : Nat) : Option Nat :=
  if lead < 0x80 then some 0
  else if 0xC0 ≤ lead ∧ lead < 0xE0 then some 1
  else if 0xE0 ≤ lead ∧ lead < 0xF0 then some 2
  else if 0xF0 ≤ lead ∧ lead < 0xF8 then some 3
  else none

/-- The octets that continue a lead octet. -/
def trail? : Nat → List Char → Option Tag
  | 0, _ => some []
  | n + 1, cs =>
    match octet? cs with
    | some b =>
      if 0x80 ≤ b ∧ b < 0xC0 then (trail? n (cs.drop 3)).map (b.toUInt8 :: ·) else none
    | none => none

/-- A lead octet after a percent sign, with the octets that continue it. -/
def percent? (cs : List Char) : Option Tag :=
  match octet? cs with
  | some lead =>
    match octetsAfter? lead with
    | some n => (trail? n (cs.drop 3)).map (lead.toUInt8 :: ·)
    | none => none
  | none => none

/-- The octets of a tag from here on, after `done` (latest first). -/
def uriFrom (full : Bool) : Nat → Cursor → Tag → Option (Tag × Cursor)
  | 0, _, _ => none
  | fuel + 1, k, done =>
    match k.rest with
    | c :: _ =>
      if c = '%' then
        match percent? k.rest with
        | some bs => uriFrom full fuel (k.forward (3 * bs.length)) (bs.reverse ++ done)
        | none => none
      else if isUriChar full c then uriFrom full fuel (k.forward 1) (c.toNat.toUInt8 :: done)
      else some (done.reverse, k)
    | [] => some (done.reverse, k)

/-- The octets of a tag from here on. -/
def Cursor.uri? (full : Bool) (k : Cursor) : Option (Tag × Cursor) :=
  uriFrom full (k.rest.length + 1) k []

/-- The handle that starts here with `!`: whether it is closed by another `!`. -/
def Cursor.handle? (k : Cursor) : Option (List Char × Bool × Cursor) :=
  match k.rest with
  | '!' :: _ =>
    let (word, k) := (k.forward 1).takeWhile isWord
    match k.rest with
    | '!' :: _ => some ('!' :: (word ++ ['!']), true, k.forward 1)
    | _ => some ('!' :: word, false, k)
  | _ => none

/-- Whether a tag may end here. -/
def endsTag (inFlow : Bool) (cs : List Char) : Bool :=
  endsWord cs || (inFlow && cs.head? == some ',')

/-- The tag that starts here. -/
def Cursor.tag? (inFlow : Bool) (k : Cursor) : Option (Token × Cursor) :=
  let found : Option (Token × Cursor) :=
    if (k.rest.drop 1).head? = some '<' then
      match (k.forward 2).uri? true with
      | some (u, k) =>
        if u.isEmpty || k.rest.head? != some '>' then none
        else some (.tag "" u.cut, k.forward 1)
      | none => none
    else
      match k.handle? with
      | none => none
      | some (handle, true, k) =>
        match k.uri? false with
        | some (u, k) =>
          if u.isEmpty then none else some (.tag (String.ofList handle) u.cut, k)
        | none => none
      | some (handle, false, k) =>
        match k.uri? false with
        | some (u, k) =>
          let suffix := (Tag.ofString (String.ofList (handle.drop 1)) ++ u).cut
          if suffix.isEmpty then some (.tag "" [Tag.mark], k)
          else some (.tag "!" suffix, k)
        | none => none
  found.filter fun t => endsTag inFlow t.2.rest

/-! ### Directives -/

/-- A number of at most nine digits. -/
def Cursor.number? (k : Cursor) : Option (Nat × Cursor) :=
  let (ds, k) := k.takeWhile Scalar.isDigit
  if 9 < ds.length then none else (Scalar.digits? 10 ds).map fun n => (n, k)

/-- The two numbers of a version. -/
def Cursor.version? (k : Cursor) : Option (Token × Cursor) := do
  let (major, k) ← (k.dropWhile isBlank).number?
  if k.rest.head? = some '.' then
    let (minor, k) ← (k.forward 1).number?
    pure (.version major minor, k)
  else none

/-- A handle and the start of the tags that it stands for. -/
def Cursor.tagHandle? (k : Cursor) : Option (Token × Cursor) := do
  let (handle, closed, k) ← (k.dropWhile isBlank).handle?
  if !closed && handle ≠ ['!'] then none else
  if !(k.rest.head?.any isBlank) then none else
  let (u, k) ← (k.dropWhile isBlank).uri? true
  if u.isEmpty || !endsWord k.rest then none
  else pure (.tagHandle (String.ofList handle) u.cut, k)

/-- The directive that starts here with `%`, and the place after its line. -/
def Cursor.directive? (k : Cursor) : Option (Token × Cursor) := do
  let (name, k) := (k.forward 1).takeWhile isWord
  if name.isEmpty || !endsWord k.rest then none else
  let (token, k) ←
    if name = "YAML".toList then k.version?
    else if name = "TAG".toList then k.tagHandle?
    else none
  let k := (k.dropWhile isBlank).dropComment
  if endsLine k.rest then pure (token, k.next) else none

end Yaml
end AlertReceivers
