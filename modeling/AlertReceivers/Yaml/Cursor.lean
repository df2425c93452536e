/-
# Characters of a document and a place among them

A document is a list of characters. Carriage returns, alone or before a line
feed, and the next-line character are line feeds (`normalizeBreaks`); the line
and paragraph separators are line breaks of their own. A `Cursor` is what is
left to read, with the number of octets before it, the line and the column of its
first character.

Key definitions: `normalizeBreaks`, `isBreak`, `isBlank`, `endsWord`,
`Cursor`, `Cursor.next`, `Cursor.forward`, `Cursor.takeWhile`.
-/

namespace AlertReceivers
namespace Yaml

-- a sum starts from the numeral, whatever else is imported
attribute [local instance (high)] Zero.ofOfNat0

/-! ### Classes of characters -/

/-- Whether a character may stand in a document at all. -/
def isAllowed (c : Char) : Bool :=
  let n := c.toNat
  n == 0x09 || n == 0x0A || n == 0x0D || (0x20 ≤ n && n ≤ 0x7E) || n == 0x85 ||
  (0xA0 ≤ n && n ≤ 0xD7FF) || (0xE000 ≤ n && n ≤ 0xFFFD) || 0x10000 ≤ n

/-- Makes every way to end a line, but the two separators, a line feed. -/
def normalizeBreaks : List Char → List Char
  | [] => []
  | '\r' :: '\n' :: cs => '\n' :: normalizeBreaks cs
  | c :: cs => (if c = '\r' ∨ c = '\u0085' then '\n' else c) :: normalizeBreaks cs

/-- Whether a character ends a line. -/
def isBreak (c : Char) : Bool := c == '\n' || c == '\u2028' || c == '\u2029'

/-- Whether a character is a space or a tab. -/
def isBlank (c : Char) : Bool := c == ' ' || c == '\t'

/-- Whether a character is neither a blank nor a line break. -/
def isSolid (c : Char) : Bool := !(isBlank c || isBreak c)

/-- Whether a name may hold a character. -/
def isWord (c : Char) : Bool := c.isAlphanum || c == '_' || c == '-'

/-- Whether a text ends or goes on with a blank or a line break. -/
def endsWord : List Char → Bool
  | [] => true
  | c :: _ => !isSolid c

/-- Whether a text ends or goes on with a line break. -/
def endsLine : List Char → Bool
  | [] => true
  | c :: _ => isBreak c

/-! ### Places -/

/-- What is left to read, and where it starts. -/
structure Cursor where
  rest : List Char
  /-- How many octets stand before. -/
  index : Nat
  line : Nat
  column : Nat

namespace Cursor

/-- The start of a text. -/
def start (cs : List Char) : Cursor := ⟨cs, 0, 0, 0⟩

/-- The place after a character that stands before `rest`. -/
def after (k : Cursor) (c : Char) (rest : List Char) : Cursor :=
  if isBreak c then ⟨rest, k.index + c.utf8Size, k.line + 1, 0⟩
  else ⟨rest, k.index + c.utf8Size, k.line, k.column + 1⟩

/-- The place after the next character. -/
def next (k : Cursor) : Cursor :=
  match k.rest with
  | [] => k
  | c :: cs => k.after c cs

/-- The place `n` characters further on the same line. -/
def forward (k : Cursor) (n : Nat) : Cursor :=
  ⟨k.rest.drop n, k.index + ((k.rest.take n).map Char.utf8Size).sum, k.line, k.column + n⟩

/-- The characters of a class at a place, none of which is a line break, and the place after them. -/
def takeWhile (p : Char → Bool) (k : Cursor) : List Char × Cursor :=
  let taken := k.rest.takeWhile p
  (taken, k.forward taken.length)

/-- The place after the characters of a class. -/
def dropWhile (p : Char → Bool) (k : Cursor) : Cursor := (k.takeWhile p).2

/-- The place after a comment, if one starts here. -/
def dropComment (k : Cursor) : Cursor :=
  match k.rest with
  | '#' :: _ => k.dropWhile fun c => !isBreak c
  | _ => k

/-- Whether a document mark of three equal characters stands here, at the start of a line. -/
def atMark (k : Cursor) (mark : Char) : Bool :=
  k.column == 0 && k.rest.take 3 == [mark, mark, mark] && endsWord (k.rest.drop 3)

/-- Whether a document starts or ends here. -/
def atDocumentMark (k : Cursor) : Bool := k.atMark '-' || k.atMark '.'

end Cursor
end Yaml
end AlertReceivers
