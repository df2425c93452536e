/-
# From characters to tokens

Outside brackets, blocks start where the column passes the indentation and end
where it falls back. A key is known only when its colon comes, so every place
where one may start is remembered (`KeySpot`), one for each level of brackets;
the tokens that mark it are put in front of it later. A key stands on one line
and has at most 1024 octets, and a line at the indentation of a mapping must
hold one.

Key definitions: `KeySpot`, `Lexer`, `Lexer.step`, `tokens?`.
-/
import AlertReceivers.Yaml.Lexer.Block
import AlertReceivers.Yaml.Lexer.Plain
import AlertReceivers.Yaml.Lexer.Property

namespace AlertReceivers
namespace Yaml

/-- A place where a key may have started. -/
structure KeySpot where
  /-- How many tokens stand before it. -/
  place : Nat
  index : Nat
  line : Nat
  column : Nat
  /-- Whether the document is wrong if no key is there. -/
  required : Bool

/-- The tokens read so far, latest first, and what the next ones depend on. -/
structure Lexer where
  cursor : Cursor
  tokens : List Token
  count : Nat
  /-- The indentation of the innermost block, less than zero outside all blocks. -/
  indent : Int
  outerIndents : List Int
  /-- Whether a key may start here. -/
  keyAllowed : Bool
  spot : Option KeySpot
  /-- The remembered places outside each open bracket. -/
  outerSpots : List (Option KeySpot)

namespace Lexer

/-- A lexer at the start of a text. -/
def start (cs : List Char) : Lexer := ⟨.start cs, [], 0, -1, [], true, none, []⟩

/-- Whether the lexer is inside brackets. -/
def inFlow (x : Lexer) : Bool := !x.outerSpots.isEmpty

/-! ### Tokens and remembered places -/

/-- Adds a token. -/
def push (x : Lexer) (t : Token) : Lexer := { x with tokens := t :: x.tokens, count := x.count + 1 }

/-- Puts a token in front of the tokens from a place on. -/
def pushAt (x : Lexer) (place : Nat) (t : Token) : Lexer :=
  let later := x.count - place
  { x with tokens := x.tokens.take later ++ t :: x.tokens.drop later, count := x.count + 1 }

/-- Forgets the remembered place; a required key must not be missing. -/
def dropSpot (x : Lexer) : Option Lexer :=
  if x.spot.any KeySpot.required then none else some { x with spot := none }

/-- Remembers that a key may start here. -/
def saveSpot (x : Lexer) : Option Lexer :=
  if x.keyAllowed then
    let required := !x.inFlow && x.indent == (x.cursor.column : Int)
    x.dropSpot.map fun x =>
      { x with spot := some ⟨x.count, x.cursor.index, x.cursor.line, x.cursor.column, required⟩ }
  else some x

/-- Whether a key that starts at a remembered place may still end here. -/
def fresh (k : Cursor) (s : KeySpot) : Bool := s.line == k.line && k.index ≤ s.index + 1024

/-- Forgets the remembered places that are too far behind. -/
def dropStale (x : Lexer) : Option Lexer :=
  let stale := fun s : KeySpot => !fresh x.cursor s
  if (x.spot :: x.outerSpots).any fun s => s.any fun s => stale s && s.required then none
  else
    let keep : Option KeySpot → Option KeySpot := fun s => s.filter (fresh x.cursor)
    some { x with spot := keep x.spot, outerSpots := x.outerSpots.map keep }

/-! ### Indentation -/

/-- Opens a block at a column if it is further in than the innermost one. -/
def openBlock (x : Lexer) (column place : Nat) (t : Token) : Lexer :=
  if !x.inFlow && decide (x.indent < (column : Int)) then
    { x.pushAt place t with indent := column, outerIndents := x.indent :: x.outerIndents }
  else x

/-- Closes one block after the other while they are further in than a column. -/
def closeBlocksFrom (column : Int) : Nat → Lexer → Lexer
  | 0, x => x
  | fuel + 1, x =>
    match x.outerIndents with
    | [] => x
    | outer :: rest =>
      if column < x.indent then
        closeBlocksFrom column fuel { x.push .blockEnd with indent := outer, outerIndents := rest }
      else x

/-- Closes the blocks that are further in than a column. -/
def closeBlocks (x : Lexer) (column : Int) : Lexer :=
  if x.inFlow then x else closeBlocksFrom column x.outerIndents.length x

/-! ### Between tokens -/

/-- Reads blanks, comments and line breaks, and a byte order mark at the start of a line.
A tab must not stand where a key may start. -/
def skipFrom (flow : Bool) : Nat → Cursor → Bool → Cursor × Bool
  | 0, k, allowed => (k, allowed)
  | fuel + 1, k, allowed =>
    match k.rest with
    | [] => (k, allowed)
    | c :: _ =>
      if c == ' ' || (c == '\t' && (flow || !allowed)) || (c == '\ufeff' && k.column == 0) then
        skipFrom flow fuel k.next allowed
      else if c == '#' then skipFrom flow fuel k.dropComment allowed
      else if isBreak c then skipFrom flow fuel k.next (allowed || !flow)
      else (k, allowed)

/-- Goes to the next token. -/
def skip (x : Lexer) : Lexer :=
  let (k, allowed) := skipFrom x.inFlow (x.cursor.rest.length + 1) x.cursor x.keyAllowed
  { x with cursor := k, keyAllowed := allowed }

/-! ### One token -/

/-- Adds a token of `n` characters that start here. -/
def take (x : Lexer) (n : Nat) (t : Token) : Lexer := { x.push t with cursor := x.cursor.forward n }

/-- A directive or the mark of a document: all blocks end. -/
def atDocument (x : Lexer) : Option Lexer :=
  (x.closeBlocks (-1)).dropSpot.map fun x => { x with keyAllowed := false }

/-- An opening bracket. -/
def openFlow (x : Lexer) (t : Token) : Option Lexer :=
  x.saveSpot.map fun x =>
    { x.take 1 t with outerSpots := x.spot :: x.outerSpots, spot := none, keyAllowed := true }

/-- A closing bracket. -/
def closeFlow (x : Lexer) (t : Token) : Option Lexer :=
  x.dropSpot.map fun x =>
    let x := match x.outerSpots with
      | [] => x
      | s :: rest => { x with spot := s, outerSpots := rest }
    { x.take 1 t with keyAllowed := false }

/-- A comma between brackets. -/
def flowEntry (x : Lexer) : Option Lexer :=
  x.dropSpot.map fun x => { x.take 1 .flowEntry with keyAllowed := true }

/-- The mark of an item of a block. -/
def blockEntry (x : Lexer) : Option Lexer :=
  if !x.inFlow && !x.keyAllowed then none else
  (x.openBlock x.cursor.column x.count .blockSequenceStart).dropSpot.map fun x =>
    { x.take 1 .blockEntry with keyAllowed := true }

/-- The mark of a key. -/
def keyMark (x : Lexer) : Option Lexer :=
  if !x.inFlow && !x.keyAllowed then none else
  (x.openBlock x.cursor.column x.count .blockMappingStart).dropSpot.map fun x =>
    { x.take 1 .key with keyAllowed := !x.inFlow }

/-- The colon after a key. -/
def valueMark (x : Lexer) : Option Lexer :=
  match x.spot with
  | some s =>
    let x := (x.pushAt s.place .key).openBlock s.column s.place .blockMappingStart
    some { x.take 1 .value with spot := none, keyAllowed := false }
  | none =>
    if !x.inFlow && !x.keyAllowed then none else
    let x := x.openBlock x.cursor.column x.count .blockMappingStart
    some { x.take 1 .value with keyAllowed := !x.inFlow }

/-- A token that may be the start of a key. -/
def part (x : Lexer) (read : Cursor → Option (Token × Cursor)) : Option Lexer :=
  match x.saveSpot, read x.cursor with
  | some x, some (t, k) => some { x.push t with cursor := k, keyAllowed := false }
  | _, _ => none

/-- A scalar between quotes. -/
def quotedScalar (x : Lexer) (single : Bool) : Option Lexer :=
  x.part fun k => (k.quoted? single).map fun (s, k) => (.scalar s false, k)

/-- A block scalar. -/
def blockScalar (x : Lexer) (folded : Bool) : Option Lexer :=
  match x.dropSpot, x.cursor.block? folded x.indent with
  | some x, some (s, k) => some { x.push (.scalar s false) with cursor := k, keyAllowed := true }
  | _, _ => none

/-- A scalar without quotes. -/
def plainScalar (x : Lexer) : Option Lexer :=
  match x.saveSpot, x.cursor.plain? x.inFlow x.indent with
  | some x, some p =>
    some { x.push (.scalar p.text true) with cursor := p.stop, keyAllowed := p.broken }
  | _, _ => none

/-- Whether a plain scalar may start with a text. -/
def startsPlain (flow : Bool) : List Char → Bool
  | [] => false
  | '-' :: cs => !(cs.head?.any isBlank)
  | '?' :: cs | ':' :: cs => !flow && !endsWord cs
  | c :: _ => isSolid c && !(",[]\x7b\x7d#&*!|>'\"%@\x60".toList.contains c)

/-- Reads the token that starts here. -/
def token (x : Lexer) : Option Lexer :=
  let k := x.cursor
  if k.column == 0 && k.rest.head? == some '%' then
    match x.atDocument, k.directive? with
    | some x, some (t, k) => some { x.push t with cursor := k }
    | _, _ => none
  else if k.atMark '-' then x.atDocument.map (·.take 3 .documentStart)
  else if k.atMark '.' then x.atDocument.map (·.take 3 .documentEnd)
  else match k.rest with
  | '[' :: _ => x.openFlow .flowSequenceStart
  | '\x7b' :: _ => x.openFlow .flowMappingStart
  | ']' :: _ => x.closeFlow .flowSequenceEnd
  | '\x7d' :: _ => x.closeFlow .flowMappingEnd
  | ',' :: _ => x.flowEntry
  | '*' :: _ => x.part fun k => k.name?.map fun (s, k) => (.alias s, k)
  | '&' :: _ => x.part fun k => k.name?.map fun (s, k) => (.anchor s, k)
  | '!' :: _ => x.part (·.tag? x.inFlow)
  | '\'' :: _ => x.quotedScalar true
  | '"' :: _ => x.quotedScalar false
  | c :: cs =>
    if c == '-' && endsWord cs then x.blockEntry
    else if c == '?' && (x.inFlow || endsWord cs) then x.keyMark
    else if c == ':' && (x.inFlow || endsWord cs) then x.valueMark
    else if c == '|' && !x.inFlow then x.blockScalar false
    else if c == '>' && !x.inFlow then x.blockScalar true
    else if startsPlain x.inFlow k.rest then x.plainScalar
    else none
  | [] => none

/-- Goes to the next token and reads it; at the end of the text all blocks end
and the answer is the list of tokens. -/
def step (x : Lexer) : Option (Lexer ⊕ List Token) :=
  match x.skip.dropStale with
  | none => none
  | some x =>
    let x := x.closeBlocks x.cursor.column
    if x.cursor.rest = [] then
      (x.closeBlocks (-1)).dropSpot.map fun x => .inr x.tokens.reverse
    else x.token.map .inl

/-- All tokens from here on. Every token has at least one character. -/
def run : Nat → Lexer → Option (List Token)
  | 0, _ => none
  | fuel + 1, x =>
    match x.step with
    | none => none
    | some (.inl x) => run fuel x
    | some (.inr ts) => some ts

end Lexer

/-- The tokens of a text, if it can be read. -/
def tokens? (s : String) : Option (List Token) :=
  if s.toList.all isAllowed then
    let cs := normalizeBreaks s.toList
    (Lexer.start cs).run (cs.length + 1)
  else none

end Yaml
end AlertReceivers
