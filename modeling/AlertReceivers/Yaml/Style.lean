/-
# How a text is written as a scalar

A text is written plain where that reads back as the same text, otherwise
between single quotes, otherwise between double quotes. One with a line feed is
a literal block where a block can hold it. A text that a plain scalar would
turn into null, a boolean or a number is quoted.

Key definitions: `isPrintable`, `Traits`, `Style`, `Style.ofText`.
-/
import AlertReceivers.Yaml.Scalar

namespace AlertReceivers
namespace Yaml

/-! ### Characters -/

/-- Whether a character can be written as it is. -/
def isPrintable (c : Char) : Bool :=
  let n := c.toNat
  n == 0x0A || (0x20 ≤ n && n ≤ 0x7E) || (0xA0 ≤ n && n ≤ 0xD7FF) ||
  (0xE000 ≤ n && n ≤ 0xFFFD && n != 0xFEFF) || 0x10000 ≤ n

/-- Whether a reader takes a character as the end of a line. -/
def endsLineAt (c : Char) : Bool :=
  c == '\n' || c == '\r' || c == '\u0085' || c == '\u2028' || c == '\u2029'

/-- Whether a reader takes a character as space between words. -/
def separates (c : Char) : Bool := c == ' ' || c == '\t' || endsLineAt c || c == '\x00'

/-- Whether a text goes on with space or ends. -/
def separatesHead : List Char → Bool
  | [] => true
  | c :: _ => separates c

/-! ### What a text is like -/

/-- Whether two neighbouring characters satisfy a condition. -/
def hasPair (p : Char → Char → Bool) : List Char → Bool
  | a :: b :: cs => p a b || hasPair p (b :: cs)
  | _ => false

/-- Whether the start of a text would be read as something else than a plain scalar. -/
def startsMarked : List Char → Bool
  | '-' :: '-' :: '-' :: _ | '.' :: '.' :: '.' :: _ => true
  | c :: cs =>
    "#,[]\x7b\x7d&*!|>'\"%@\x60".toList.contains c ||
    ((c == '-' || c == '?' || c == ':') && separatesHead cs)
  | [] => false

/-- Whether a colon before space stands in a text, or a number sign after it. -/
def hasMark : List Char → Bool
  | [] => false
  | c :: cs =>
    (c == ':' && separatesHead cs) || (separates c && cs.head? == some '#') || hasMark cs

/-- What decides how a text can be written. -/
structure Traits where
  /-- Some character cannot be written as it is. -/
  special : Bool
  multiline : Bool
  /-- A space stands after the end of a line. -/
  breakSpace : Bool
  /-- A space stands before the end of a line. -/
  spaceBreak : Bool
  /-- A space or the end of a line stands at either end. -/
  padded : Bool
  trailingSpace : Bool
  marked : Bool

/-- The traits of a text. -/
def Traits.of (cs : List Char) : Traits where
  special := cs.any fun c => !isPrintable c
  multiline := cs.any endsLineAt
  breakSpace := hasPair (fun a b => endsLineAt a && b == ' ') cs
  spaceBreak := hasPair (fun a b => a == ' ' && endsLineAt b) cs
  padded :=
    let edge := fun c => c == ' ' || endsLineAt c
    cs.head?.any edge || cs.getLast?.any edge
  trailingSpace := cs.getLast? == some ' '
  marked := startsMarked cs || hasMark cs

namespace Traits

/-- Whether a text can be written without quotes. -/
def plainAllowed (t : Traits) : Bool :=
  !(t.special || t.multiline || t.breakSpace || t.spaceBreak || t.padded || t.marked)

/-- Whether a text can be written between single quotes. -/
def singleAllowed (t : Traits) : Bool := !(t.special || t.breakSpace || t.spaceBreak)

/-- Whether a text can be written as a block. -/
def blockAllowed (t : Traits) : Bool := !(t.special || t.spaceBreak || t.trailingSpace)

end Traits

/-! ### Styles -/

/-- The ways to write a text. -/
inductive Style where
  | plain
  | single
  | double
  | literal
deriving DecidableEq

/-- Whether a plain scalar would read a text as something else than a text, or
its digits start with a needless zero. -/
def needsQuotes (s : String) : Bool :=
  (match Scalar.ofPlain s with
    | .text => false
    | _ => true) || Scalar.isPadded s

/-- The style of a text. A key on the line of its value cannot be a block. -/
def Style.ofText (asKey : Bool) (s : String) : Style :=
  let t := Traits.of s.toList
  let quotes := if t.singleAllowed then .single else .double
  if s.toList.contains '\n' then
    if asKey || !t.blockAllowed then .double else .literal
  else if asKey && t.multiline then .double
  else if needsQuotes s || !t.plainAllowed then quotes
  else .plain

end Yaml
end AlertReceivers
