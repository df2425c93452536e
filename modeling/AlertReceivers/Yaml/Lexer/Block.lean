/-
# Block scalars

After `|` or `>` stand a digit for the indentation and a sign for the line breaks
at the end, in either order. Without a digit the first line that is not blank
gives the indentation. A literal scalar keeps its line breaks. A folded one makes
a line feed between two lines that do not start with a blank a space, or nothing
when empty lines follow it. Of the line breaks at the end one is kept, with `-`
none and with `+` all.

Key definitions: `Chomping`, `Cursor.indentation?`, `Cursor.block?`.
-/
import AlertReceivers.Yaml.Cursor
import AlertReceivers.Yaml.Scalar

namespace AlertReceivers
namespace Yaml

/-- What happens to the line breaks at the end of a block scalar. -/
inductive Chomping where
  | strip
  | clip
  | keep
deriving DecidableEq

/-- The place of the first character that is not indentation, the line breaks
before it, and the greatest column seen. -/
structure Indentation where
  stop : Cursor
  breaks : List Char
  column : Nat

/-- Reads indentation and empty lines. With a limit, spaces count as indentation
only before that column; a tab must not stand where indentation is. -/
def indentationFrom (limit : Option Nat) : Nat → Cursor → List Char → Nat → Option Indentation
  | 0, _, _, _ => none
  | fuel + 1, k, breaks, column =>
    let indenting := match limit with
      | none => true
      | some n => decide (k.column < n)
    let greatest := max column k.column
    match k.rest with
    | [] => some ⟨k, breaks, greatest⟩
    | c :: _ =>
      if indenting && c == ' ' then indentationFrom limit fuel k.next breaks column
      else if indenting && c == '\t' then none
      else if isBreak c then indentationFrom limit fuel k.next (breaks ++ [c]) greatest
      else some ⟨k, breaks, greatest⟩

/-- The indentation and the empty lines that start here. -/
def Cursor.indentation? (limit : Option Nat) (k : Cursor) : Option Indentation :=
  indentationFrom limit (k.rest.length + 1) k [] 0

/-- The header of a block scalar: how it ends, its indentation if given, and the place after it. -/
def Cursor.blockHeader? (k : Cursor) : Option (Chomping × Option Nat × Cursor) :=
  let sign? : List Char → Option Chomping
    | '+' :: _ => some .keep
    | '-' :: _ => some .strip
    | _ => none
  let digit? : List Char → Option Char := fun cs => cs.head?.filter Scalar.isDigit
  let value (c : Char) : Option Nat := if c = '0' then none else some (c.toNat - '0'.toNat)
  match sign? k.rest with
  | some chomping =>
    let k := k.forward 1
    match digit? k.rest with
    | some c => (value c).map fun n => (chomping, some n, k.forward 1)
    | none => some (chomping, none, k)
  | none =>
    match digit? k.rest with
    | some c => (value c).map fun n =>
      let k := k.forward 1
      match sign? k.rest with
      | some chomping => (chomping, some n, k.forward 1)
      | none => (.clip, some n, k)
    | none => some (.clip, none, k)

/-- The lines of a block scalar from here on. `done` holds what is read, latest
first; `first` is the break that ended the last line, `later` are the empty lines
after it, and `spaced` says whether that line started with a blank. -/
def blockFrom (folded : Bool) (chomping : Chomping) (indent : Nat) :
    Nat → Cursor → List Char → List Char → List Char → Bool → Option (String × Cursor)
  | 0, _, _, _, _, _ => none
  | fuel + 1, k, done, first, later, spaced =>
    if k.column ≠ indent ∨ k.rest = [] then
      let ending := match chomping with
        | .strip => []
        | .clip => first
        | .keep => first ++ later
      some (String.ofList (done.reverse ++ ending), k)
    else
      let blank := match k.rest with
        | c :: _ => isBlank c
        | [] => false
      let joint :=
        if folded && first == ['\n'] && !spaced && !blank then
          (if later = [] then [' '] else []) ++ later
        else first ++ later
      let (line, k) := k.takeWhile fun c => !isBreak c
      let first := k.rest.take 1
      match k.next.indentation? (some indent) with
      | none => none
      | some i =>
        blockFrom folded chomping indent fuel i.stop (line.reverse ++ (joint.reverse ++ done))
          first i.breaks blank

/-- The block scalar whose mark stands here, inside a block of a given
indentation, and the place after it. -/
def Cursor.block? (folded : Bool) (outer : Int) (k : Cursor) : Option (String × Cursor) :=
  match (k.forward 1).blockHeader? with
  | none => none
  | some (chomping, given, k) =>
    let k := (k.dropWhile isBlank).dropComment
    if !endsLine k.rest then none else
    let k := k.next
    let limit := given.map fun n => if 0 ≤ outer then outer.toNat + n else n
    match k.indentation? limit with
    | none => none
    | some i =>
      let indent := limit.getD (max (max i.column (outer + 1).toNat) 1)
      blockFrom folded chomping indent (k.rest.length + 1) i.stop [] [] i.breaks false

end Yaml
end AlertReceivers
