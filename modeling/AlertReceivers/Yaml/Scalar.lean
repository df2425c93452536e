/-
# What a plain scalar means

A scalar without quotes is null, a boolean, an integer, a floating-point number
or a text, tried in this order. Integers are decimal, or hexadecimal, octal or
binary after `0x`, `0o` or `0b`, with an optional sign. Two or more digits that
start with a zero are a text. An integer that needs more than 64 bits but not
more than 128 has a meaning of its own, `Scalar.wide`, that no node can hold;
longer ones are floating-point numbers. A decimal beyond the floating-point
range is a text.

Key definitions: `Scalar`, `Scalar.ofPlain`, `Scalar.isNull`, `Scalar.bool?`,
`Scalar.integer?`, `Scalar.float?`.
-/
import AlertReceivers.Node.Basic

namespace AlertReceivers

-- powers are those of the natural numbers themselves, whatever else is imported
attribute [local instance (high)] instPowNat

/-- The meaning of a scalar. -/
inductive Scalar where
  | null
  | bool (value : Bool)
  | int (value : Int)
  | wide (value : Int)
  | float (value : Binary64)
  | text

namespace Scalar

/-! ### Digits -/

/-- The value of a digit in any base up to sixteen. -/
def digit? (c : Char) : Option Nat :=
  if '0' ≤ c ∧ c ≤ '9' then some (c.toNat - '0'.toNat)
  else if 'a' ≤ c ∧ c ≤ 'f' then some (c.toNat - 'a'.toNat + 10)
  else if 'A' ≤ c ∧ c ≤ 'F' then some (c.toNat - 'A'.toNat + 10)
  else none

/-- The number that digits continue, if all of them are digits of the base. -/
def digitsFrom (base acc : Nat) : List Char → Option Nat
  | [] => some acc
  | c :: cs =>
    match digit? c with
    | some d => if d < base then digitsFrom base (acc * base + d) cs else none
    | none => none

/-- The number that one or more digits of a base write. -/
def digits? (base : Nat) : List Char → Option Nat
  | [] => none
  | cs => digitsFrom base 0 cs

/-- Whether a character is a decimal digit. -/
def isDigit (c : Char) : Bool := '0' ≤ c && c ≤ '9'

/-- Takes off a sign: whether it is a minus, and the rest. -/
def splitSign : List Char → Bool × List Char
  | '-' :: cs => (true, cs)
  | '+' :: cs => (false, cs)
  | cs => (false, cs)

/-- Two or more decimal digits that start with a zero. -/
def leadingZero : List Char → Bool
  | '0' :: c :: cs => (c :: cs).all isDigit
  | _ => false

/-! ### Null, booleans and integers -/

/-- Whether a text is one of the words for null. -/
def isNull (s : String) : Bool := s = "null" || s = "Null" || s = "NULL" || s = "~"

/-- The boolean that a text names. -/
def bool? (s : String) : Option Bool :=
  if s = "true" || s = "True" || s = "TRUE" then some true
  else if s = "false" || s = "False" || s = "FALSE" then some false
  else none

/-- The natural number that a text without sign writes. -/
def natural? : List Char → Option Nat
  | '0' :: 'x' :: cs => digits? 16 cs
  | '0' :: 'o' :: cs => digits? 8 cs
  | '0' :: 'b' :: cs => digits? 2 cs
  | cs => if leadingZero cs then none else digits? 10 cs

/-- The meaning of a text as an integer: of 64 bits, of 128 bits, or none. -/
def integer? (s : String) : Option Scalar :=
  let (negative, body) := splitSign s.toList
  match natural? body with
  | none => none
  | some n =>
    if negative then
      if n ≤ 2 ^ (63 : Nat) then some (.int (-n))
      else if n ≤ 2 ^ (127 : Nat) then some (.wide (-n)) else none
    else
      if n < 2 ^ (64 : Nat) then some (.int n)
      else if n < 2 ^ (128 : Nat) then some (.wide n) else none

/-! ### Floating-point numbers -/

/-- The power of ten at the end of a decimal: nothing, or `e` with a sign and digits. -/
def power? : List Char → Option Int
  | [] => some 0
  | c :: cs =>
    if c = 'e' ∨ c = 'E' then
      let (negative, body) := splitSign cs
      (digits? 10 body).map fun n => if negative then -(n : Int) else (n : Int)
    else none

/-- The digits before the point, those after it, and the rest. -/
def splitPoint (cs : List Char) : List Char × List Char × List Char :=
  let whole := cs.takeWhile isDigit
  match cs.dropWhile isDigit with
  | '.' :: rest => (whole, rest.takeWhile isDigit, rest.dropWhile isDigit)
  | rest => (whole, [], rest)

/-- The number that a decimal without sign writes. -/
def decimal? (negative : Bool) (cs : List Char) : Option Binary64 :=
  let (whole, fraction, rest) := splitPoint cs
  match digits? 10 (whole ++ fraction), power? rest with
  | some n, some p => some (.ofDecimal negative n (p - fraction.length))
  | _, _ => none

/-- Whether a text is one of the words for infinity. -/
def isInfinity (cs : List Char) : Bool :=
  let s := String.ofList cs
  s = ".inf" || s = ".Inf" || s = ".INF"

/-- The floating-point number that a text writes. -/
def float? (s : String) : Option Binary64 :=
  if s = ".nan" || s = ".NaN" || s = ".NAN" then some .nan
  else
    let (negative, body) := splitSign s.toList
    if isInfinity body then some (.infinite negative)
    else (decimal? negative body).filter Binary64.isFinite

/-! ### Plain scalars -/

/-- Whether a text is digits, perhaps after a sign, that start with a needless zero. -/
def isPadded (s : String) : Bool := leadingZero (splitSign s.toList).2

/-- The meaning of a plain scalar. -/
def ofPlain (s : String) : Scalar :=
  if s = "" || isNull s then .null
  else match bool? s with
  | some b => .bool b
  | none => match integer? s with
    | some i => i
    | none =>
      if isPadded s then .text
      else match float? s with
      | some x => .float x
      | none => .text

/-- The node of a scalar with its characters; a wide integer has none. -/
def node? (s : String) : Scalar → Option Node
  | .null => some .null
  | .bool b => some (.bool b)
  | .int i => some (.int i)
  | .wide _ => none
  | .float x => some (.float x)
  | .text => some (.text s)

end Scalar
end AlertReceivers
