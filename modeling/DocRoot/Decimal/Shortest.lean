import DocRoot.Decimal.Binary64

/-!
# Shortest decimal text

The fewest digits that lie nearer to the number than to any other, and of those the
nearest, of two equally near the greater. They are written out in full, without an
exponent.
-/

set_option autoImplicit false

namespace DocRoot.Binary64

/-- The decimal exponent of the first digit of a positive quotient. -/
def log10Quotient (num den : Nat) : Int :=
  if den ≤ num then ((Nat.toDigits 10 (num / den)).length : Int) - 1
  else
    match (List.range 400).find? fun j => den ≤ num * Nat.pow 10 (j + 1) with
    | some j => -((j : Int) + 1)
    | none => -400

/-- What rounds to a number: the reals between two bounds, in units of `1 / den`. -/
structure Interval where
  low : Nat
  value : Nat
  high : Nat
  den : Nat
  closed : Bool

/-- The bounds are half way to the neighbours; below a power of two the neighbour is
half as far. -/
def interval (m : Nat) (e : Int) : Interval :=
  let up := Nat.pow 2 e.toNat
  let down := Nat.pow 2 (-e).toNat
  let lowGap := if m = Nat.pow 2 52 ∧ leastExponent < e then 1 else 2
  ⟨(4 * m - lowGap) * up, 4 * m * up, (4 * m + 2) * up, 4 * down, m % 2 == 0⟩

/-- Whether `digits` times a power of ten rounds to the number. -/
def Interval.holds (i : Interval) (digits : Nat) (exponent : Int) : Bool :=
  let d := digits * Nat.pow 10 exponent.toNat * i.den
  let p := Nat.pow 10 (-exponent).toNat
  if i.closed then i.low * p ≤ d && d ≤ i.high * p else i.low * p < d && d < i.high * p

/-- The grid point of this exponent that is nearest, if one rounds to the number. Of two
equally near it is the upper one. -/
def Interval.onGrid? (i : Interval) (exponent : Int) : Option Nat :=
  let num := i.value * Nat.pow 10 (-exponent).toNat
  let den := i.den * Nat.pow 10 exponent.toNat
  let below := num / den
  let near := if den ≤ 2 * (num % den) then [below + 1, below] else [below, below + 1]
  near.find? fun d => i.holds d exponent

/-- The digits and their exponent. The coarsest grid is that of the power of ten above
the number, which may be the nearest of all. -/
def shortest (m : Nat) (e : Int) : Nat × Int :=
  let i := interval m e
  let first := log10Quotient i.value i.den + 1
  ((List.range 18).findSome? fun (k : Nat) =>
    let exponent := first - (k : Int)
    (i.onGrid? exponent).map (·, exponent)).getD (0, 0)

/-- Digits times a power of ten, written out. -/
def positional (digits : Nat) (exponent : Int) : String :=
  let ds := Nat.toDigits 10 digits
  if 0 ≤ exponent then
    String.ofList (ds ++ (if digits = 0 then [] else List.replicate exponent.toNat '0'))
  else
    let places := (-exponent).toNat
    let ds := List.replicate (places + 1 - ds.length) '0' ++ ds
    String.ofList (ds.take (ds.length - places) ++ '.' :: ds.drop (ds.length - places))

def text : Binary64 → String
  | finite s m e =>
    let d := if m = 0 then (0, 0) else shortest m e
    (if s then "-" else "") ++ positional d.1 d.2
  | infinite s => if s then "-inf" else "inf"
  | nan => "NaN"

end DocRoot.Binary64
