/-
# The shortest decimal of a binary number

A decimal reads back as the number exactly when it lies in the number's
rounding interval, whose ends belong to it when the mantissa is even. The
shortest decimal is found on the grids of 1, 2, ... 17 significant digits: on
each one only the two neighbours of the number can be in the interval, and the
first grid with a hit decides. Of two hits the nearer one is taken; a `Tie`
says what happens exactly half-way.

Key definitions: `Decimal`, `Tie`, `Binary64.shortest`.
-/
import AlertReceivers.Number.Binary64

namespace AlertReceivers

-- powers are those of the natural numbers themselves, whatever else is imported
attribute [local instance (high)] instPowNat

/-- The decimal `digits * 10 ^ exponent`. -/
structure Decimal where
  digits : Nat
  exponent : Int
deriving DecidableEq, Repr

/-- Where a number half-way between two decimals goes. -/
inductive Tie where
  | toEven
  | up
deriving DecidableEq, Repr

namespace Binary64

/-- Whether `a * 10 ^ p` lies below `b * 2 ^ q`, at it or above it. -/
def compareDecimal (a : Nat) (p : Int) (b : Nat) (q : Int) : Ordering :=
  compare (a * 10 ^ p.toNat * 2 ^ (-q).toNat) (b * 2 ^ q.toNat * 10 ^ (-p).toNat)

/-- The rounding interval of `m * 2 ^ e` in units of `2 ^ (e - 2)`. Below a
power of two the neighbour is half as far away. -/
def roundingInterval (m : Nat) (e : Int) : Nat × Nat :=
  (4 * m - (if m = 2 ^ (52 : Nat) ∧ leastExponent < e then 1 else 2), 4 * m + 2)

/-- Whether `d` reads back as `m * 2 ^ e`. -/
def readsBack (m : Nat) (e : Int) (d : Decimal) : Bool :=
  let (low, high) := roundingInterval m e
  let even := m % 2 = 0
  match compareDecimal d.digits d.exponent low (e - 2),
      compareDecimal d.digits d.exponent high (e - 2) with
  | .gt, .lt => true
  | .eq, _ => even
  | _, .eq => even
  | _, _ => false

/-- The position of the first digit: the `k` with `10 ^ k ≤ m * 2 ^ e < 10 ^ (k + 1)`. -/
def firstDigit (m : Nat) (e : Int) : Int :=
  let k := (((m.log2 : Int) + e) * 30103) / 100000
  if compareDecimal 1 (k + 1) m e = .gt then k else k + 1

/-- The greatest natural number `d` with `d * 10 ^ p ≤ m * 2 ^ e`. -/
def floorAt (m : Nat) (e p : Int) : Nat :=
  (m * 2 ^ e.toNat * 10 ^ (-p).toNat) / (2 ^ (-e).toNat * 10 ^ p.toNat)

/-- Of the two neighbours `d` and `d + 1` on the grid of `10 ^ p`, the nearer to `m * 2 ^ e`. -/
def nearer (tie : Tie) (m : Nat) (e p : Int) (d : Nat) : Nat :=
  match compareDecimal (2 * d + 1) p (2 * m) e, tie with
  | .gt, _ => d
  | .lt, _ => d + 1
  | .eq, .toEven => if d % 2 = 0 then d else d + 1
  | .eq, .up => d + 1

/-- The decimal of `n` digits that reads back as `m * 2 ^ e`, if there is one. -/
def onGrid (tie : Tie) (m : Nat) (e : Int) (n : Nat) : Option Decimal :=
  let p := firstDigit m e + 1 - n
  let d := floorAt m e p
  let below := readsBack m e ⟨d, p⟩
  let above := readsBack m e ⟨d + 1, p⟩
  let hit := match below, above with
    | true, true => some (nearer tie m e p d)
    | true, false => some d
    | false, true => some (d + 1)
    | false, false => none
  hit.map fun d => if d = 10 ^ n then ⟨1, p + n⟩ else ⟨d, p⟩

/-- The shortest decimal that reads back as `m * 2 ^ e`, for `m` not zero. -/
def shortest (tie : Tie) (m : Nat) (e : Int) : Decimal :=
  ((List.range 17).findSome? fun n => onGrid tie m e (n + 1)).getD ⟨m, e⟩

end Binary64
end AlertReceivers
