/-
# How numbers are written

The digits of a number are its shortest decimal. A `Layout` holds what is left
to decide: up to which magnitude the point stands among the digits, where a tie
between two shortest decimals goes, and the texts of the values that have no
digits. Documents and messages have one layout each.

Key definitions: `Layout`, `Layout.document`, `Layout.message`, `Binary64.text`.
-/
import AlertReceivers.Number.Shortest

namespace AlertReceivers

/-- The decisions of a number format. -/
structure Layout where
  /-- Where the tie between two shortest decimals goes. -/
  tie : Tie
  /-- Whether a number whose first digit stands `k` places left of the point is
  written without an exponent. -/
  positional : Int → Bool
  nan : String
  infinity : String

namespace Layout

/-- Numbers of a document: without exponent from `0.00001` to below `1e16`. -/
def document : Layout where
  tie := .toEven
  positional k := decide (-5 < k ∧ k ≤ 16)
  nan := ".nan"
  infinity := ".inf"

/-- Numbers in messages: never an exponent. -/
def message : Layout where
  tie := .up
  positional _ := true
  nan := "NaN"
  infinity := "inf"

/-- `n` zeros. -/
def zeros (n : Nat) : String := String.ofList (List.replicate n '0')

/-- Digits with a point among them; a whole number ends in `.0`. -/
def pointed (digits : String) (exponent : Int) : String :=
  let k := (digits.length : Int) + exponent
  if 0 ≤ exponent then digits ++ zeros exponent.toNat ++ ".0"
  else if 0 < k then
    String.ofList (digits.toList.take k.toNat) ++ "." ++ String.ofList (digits.toList.drop k.toNat)
  else "0." ++ zeros (-k).toNat ++ digits

/-- Digits with a point after the first one, and a power of ten. -/
def scientific (digits : String) (exponent : Int) : String :=
  let power := toString ((digits.length : Int) + exponent - 1)
  match digits.toList with
  | [] => ""
  | [d] => String.ofList [d] ++ "e" ++ power
  | d :: ds => String.ofList [d] ++ "." ++ String.ofList ds ++ "e" ++ power

/-- The text of a decimal. -/
def decimal (l : Layout) (d : Decimal) : String :=
  let digits := toString d.digits
  if l.positional ((digits.length : Int) + d.exponent) then pointed digits d.exponent
  else scientific digits d.exponent

/-- The text of a number without its sign. -/
def magnitude (l : Layout) : Binary64 → String
  | .nan => l.nan
  | .infinite _ => l.infinity
  | .finite _ 0 _ => "0.0"
  | .finite _ m e => l.decimal (Binary64.shortest l.tie m e)

end Layout

/-- The text of a number in a layout. -/
def Binary64.text (l : Layout) (x : Binary64) : String :=
  match x with
  | .infinite true | .finite true _ _ => "-" ++ l.magnitude x
  | _ => l.magnitude x

end AlertReceivers
