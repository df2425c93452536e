/-
# Scalars between quotes

Between quotes a line break with the blanks around it is one space, and further
breaks stay as they are. A single quote is written twice inside single quotes.
Between double quotes a backslash starts an escape: a letter for a character, a
number in hexadecimal digits, or a line break that joins two lines.

Key definitions: `Gap`, `Gap.text`, `escape?`, `Cursor.quoted?`.
-/
import AlertReceivers.Yaml.Cursor
import AlertReceivers.Yaml.Scalar

namespace AlertReceivers
namespace Yaml

/-- Blanks and line breaks between two words of a scalar. -/
structure Gap where
  /-- The blanks, if no line break has come yet. -/
  blanks : List Char
  /-- Whether a line has ended. -/
  broken : Bool
  /-- The first line break. -/
  first : List Char
  /-- The line breaks after it. -/
  later : List Char

namespace Gap

/-- Nothing between two words. -/
def empty : Gap := ⟨[], false, [], []⟩

/-- The gap with one more blank or line break. -/
def push (g : Gap) (c : Char) : Gap :=
  if isBreak c then
    if g.broken then { g with later := g.later ++ [c] }
    else { g with blanks := [], broken := true, first := [c] }
  else if g.broken then g else { g with blanks := g.blanks ++ [c] }

/-- What a gap stands for: a single line feed is a space, and one before further
breaks is nothing. -/
def text (g : Gap) : List Char :=
  if g.broken then
    if g.first = ['\n'] then (if g.later = [] then [' '] else g.later)
    else g.first ++ g.later
  else g.blanks

end Gap

/-! ### Escapes -/

/-- The number that `n` hexadecimal digits write, with what follows them. -/
def hexDigits? (n : Nat) (cs : List Char) : Option Nat :=
  if cs.length < n then none else Scalar.digits? 16 (cs.take n)

/-- The character with a number, if there is one. -/
def char? (n : Nat) : Option Char :=
  if n.isValidChar then some (Char.ofNat n) else none

/-- The character of an escape and how many characters the escape has after the backslash. -/
def escape? : List Char → Option (Char × Nat)
  | '0' :: _ => some ('\x00', 1)
  | 'a' :: _ => some ('\x07', 1)
  | 'b' :: _ => some ('\x08', 1)
  | 't' :: _ | '\t' :: _ => some ('\t', 1)
  | 'n' :: _ => some ('\n', 1)
  | 'v' :: _ => some ('\x0b', 1)
  | 'f' :: _ => some ('\x0c', 1)
  | 'r' :: _ => some ('\r', 1)
  | 'e' :: _ => some ('\x1b', 1)
  | ' ' :: _ => some (' ', 1)
  | '"' :: _ => some ('"', 1)
  | '/' :: _ => some ('/', 1)
  | '\\' :: _ => some ('\\', 1)
  | 'N' :: _ => some ('\u0085', 1)
  | '_' :: _ => some ('\u00a0', 1)
  | 'L' :: _ => some ('\u2028', 1)
  | 'P' :: _ => some ('\u2029', 1)
  | 'x' :: cs => (hexDigits? 2 cs >>= char?).map (·, 3)
  | 'u' :: cs => (hexDigits? 4 cs >>= char?).map (·, 5)
  | 'U' :: cs => (hexDigits? 8 cs >>= char?).map (·, 9)
  | _ => none

/-! ### The scalar -/

/-- The rest of a scalar between quotes, after `done` (latest first) and a gap.
Each step reads at least one character, so the length of the text is fuel enough. -/
def quotedFrom (single : Bool) : Nat → Cursor → List Char → Gap → Option (String × Cursor)
  | 0, _, _, _ => none
  | fuel + 1, k, done, gap =>
    if k.atDocumentMark then none else
    match k.rest with
    | [] => none
    | c :: cs =>
      if !isSolid c then quotedFrom single fuel k.next done (gap.push c)
      else
        let done := gap.text.reverse ++ done
        if single then
          if c = '\'' then
            if cs.head? = some '\'' then quotedFrom single fuel (k.forward 2) ('\'' :: done) .empty
            else some (String.ofList done.reverse, k.next)
          else quotedFrom single fuel k.next (c :: done) .empty
        else if c = '"' then some (String.ofList done.reverse, k.next)
        else if c = '\\' then
          match cs with
          | [] => none
          | d :: _ =>
            if isBreak d then quotedFrom single fuel k.next.next done ⟨[], true, [], []⟩
            else match escape? cs with
              | none => none
              | some (e, n) => quotedFrom single fuel (k.forward (n + 1)) (e :: done) .empty
        else quotedFrom single fuel k.next (c :: done) .empty

/-- The scalar between quotes that starts here, and the place after it. -/
def Cursor.quoted? (single : Bool) (k : Cursor) : Option (String × Cursor) :=
  quotedFrom single (k.rest.length + 1) k.next [] .empty

end Yaml
end AlertReceivers
