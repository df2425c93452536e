/-
# Scalars without quotes

A plain scalar goes on over blanks and line breaks until something ends it: a
colon before a blank, a comment, a bracket or a comma inside brackets, a document
mark, or outside brackets a line that is not indented enough. Line breaks are
folded as between quotes.

Key definitions: `Cursor.plain?`.
-/
import AlertReceivers.Yaml.Lexer.Quoted

namespace AlertReceivers
namespace Yaml

/-- A plain scalar, the place after it and after the gap behind it, and whether
that gap has ended a line. -/
structure PlainScalar where
  text : String
  stop : Cursor
  broken : Bool

/-- Whether a character is a bracket or a comma. -/
def isFlowIndicator (c : Char) : Bool :=
  c == ',' || c == '[' || c == ']' || c == '{' || c == '}'

/-- A colon inside brackets that stands before another indicator. -/
def misplacedColon : List Char → Bool
  | ':' :: c :: _ => c == '?' || isFlowIndicator c
  | _ => false

/-- Whether the text at hand ends a plain scalar. -/
def endsPlain (inFlow : Bool) : List Char → Bool
  | ':' :: cs => endsWord cs
  | c :: _ => inFlow && isFlowIndicator c
  | [] => true

/-- A plain scalar that ends here, after `done` (latest first) and a gap. -/
def PlainScalar.ending (k : Cursor) (done : List Char) (gap : Gap) : PlainScalar :=
  ⟨String.ofList done.reverse, k, gap.broken⟩

/-- The rest of a plain scalar, after `done` (latest first) and a gap. `least` is
the column that a line must reach. -/
def plainFrom (inFlow : Bool) (least : Int) : Nat → Cursor → List Char → Gap → Option PlainScalar
  | 0, _, _, _ => none
  | fuel + 1, k, done, gap =>
    match k.rest with
    | [] => some (.ending k done gap)
    | c :: _ =>
      if !isSolid c then
        if gap.broken && (k.column : Int) < least && c == '\t' then none
        else plainFrom inFlow least fuel k.next done (gap.push c)
      else if !gap.text.isEmpty && ((!inFlow && (k.column : Int) < least) ||
          k.atDocumentMark || c == '#') then
        some (.ending k done gap)
      else if inFlow && misplacedColon k.rest then none
      else if endsPlain inFlow k.rest then some (.ending k done gap)
      else plainFrom inFlow least fuel k.next (c :: (gap.text.reverse ++ done)) .empty

/-- The plain scalar that starts here, in a block of a given indentation. -/
def Cursor.plain? (inFlow : Bool) (indent : Int) (k : Cursor) : Option PlainScalar :=
  plainFrom inFlow (indent + 1) (k.rest.length + 1) k [] .empty

end Yaml
end AlertReceivers
