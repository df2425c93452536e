/-
# Binary floating-point numbers, exactly

A number of 64 bits is a NaN, an infinity, or a sign with a mantissa `m` and
an exponent `e` that stand for `m * 2 ^ e`. Reading a decimal is done on
natural numbers: the nearest value wins, and of two equally near ones the one
with the even mantissa.

Two numbers are the same document value (`Binary64.same`) when they are equal
as numbers, and every NaN is the same as every other.

Key definitions: `Binary64`, `Binary64.same`, `Binary64.ofRatio`,
`Binary64.ofDecimal`.
-/

namespace AlertReceivers

-- powers are those of the natural numbers themselves, whatever else is imported
attribute [local instance (high)] instPowNat

/-- A floating-point number of 64 bits. A finite one is `mantissa * 2 ^ exponent`
with its sign; the mantissa has 53 bits unless the exponent is the least one. -/
inductive Binary64 where
  | nan
  | infinite (negative : Bool)
  | finite (negative : Bool) (mantissa : Nat) (exponent : Int)
deriving DecidableEq, Repr

namespace Binary64

/-- The least exponent; below it mantissas only get shorter. -/
def leastExponent : Int := -1074

/-- The greatest exponent of a finite number. -/
def greatestExponent : Int := 971

/-- Zero, with its sign. -/
def zero (negative : Bool) : Binary64 := .finite negative 0 leastExponent

/-- Equality of document values: both zeros are one value, and so are all NaNs. -/
def same : Binary64 → Binary64 → Bool
  | .finite _ 0 _, .finite _ 0 _ => true
  | x, y => x == y

/-- The natural number nearest to `a / b`, of two nearest ones the even one. -/
def roundToEven (a b : Nat) : Nat :=
  let q := a / b
  let r := a % b
  if 2 * r < b then q
  else if b < 2 * r then q + 1
  else if q % 2 = 0 then q else q + 1

/-- `a * 2 ^ (-e) / b` as a fraction of natural numbers. -/
def scaledBy (a b : Nat) (e : Int) : Nat × Nat :=
  if e < 0 then (a * 2 ^ e.natAbs, b) else (a, b * 2 ^ e.natAbs)

/-- The exponent that gives `a / b` a mantissa of 53 bits, or the least one. -/
def exponentOf (a b : Nat) : Int :=
  let e : Int := (a.log2 : Int) - (b.log2 : Int) - 53
  let (n, d) := scaledBy a b e
  max leastExponent (if n < 2 ^ (53 : Nat) * d then e else e + 1)

/-- The number nearest to the fraction `a / b`. -/
def ofRatio (negative : Bool) (a b : Nat) : Binary64 :=
  if a = 0 then zero negative else
  let e := exponentOf a b
  let (n, d) := scaledBy a b e
  let m := roundToEven n d
  let (m, e) := if m = 2 ^ (53 : Nat) then (2 ^ (52 : Nat), e + 1) else (m, e)
  if m = 0 then zero negative
  else if greatestExponent < e then .infinite negative
  else .finite negative m e

/-- The number nearest to `digits * 10 ^ scale`. Far outside the range the
answer is known without the power. -/
def ofDecimal (negative : Bool) (digits : Nat) (scale : Int) : Binary64 :=
  if digits = 0 then zero negative
  else if 400 < scale then .infinite negative
  else if scale + (digits.log2 : Int) + 1 < -400 then zero negative
  else if scale < 0 then ofRatio negative digits (10 ^ scale.natAbs)
  else ofRatio negative (digits * 10 ^ scale.natAbs) 1

/-- Whether the number is neither a NaN nor an infinity. -/
def isFinite : Binary64 → Bool
  | .finite _ _ _ => true
  | _ => false

end Binary64
end AlertReceivers
