/-!
# Binary numbers of 64 bits

A finite number is a mantissa below 2^53 times a power of two from 2^-1074 up. Every
operation is exact in the natural numbers and then rounded once, to the nearest
number and from the middle to the even mantissa.
-/

set_option autoImplicit false

namespace DocRoot

inductive Binary64
  | finite (negative : Bool) (mantissa : Nat) (exponent : Int)
  | infinite (negative : Bool)
  | nan
  deriving DecidableEq, Repr

namespace Binary64

def leastExponent : Int := -1074

def zero (negative : Bool) : Binary64 := .finite negative 0 leastExponent

/-- The quotient to the nearest whole number, from the middle to the even one. -/
def roundQuotient (num den : Nat) : Nat :=
  let q := num / den
  let r := num % den
  if 2 * r < den then q
  else if den < 2 * r then q + 1
  else if q % 2 = 0 then q else q + 1

/-- The exponent of the power of two at or below a positive quotient. -/
def log2Quotient (num den : Nat) : Int :=
  let guess : Int := (Nat.log2 num : Int) - (Nat.log2 den : Int)
  let fits : Bool :=
    if guess ≥ 0 then den * Nat.pow 2 guess.toNat ≤ num
    else den ≤ num * Nat.pow 2 (-guess).toNat
  if fits then guess else guess - 1

/-- The number nearest to a quotient. -/
def ofRatio (negative : Bool) (num den : Nat) : Binary64 :=
  if num = 0 then zero negative
  else
    let top := log2Quotient num den
    let e := max (top - 52) leastExponent
    let m :=
      if e ≥ 0 then roundQuotient num (den * Nat.pow 2 e.toNat)
      else roundQuotient (num * Nat.pow 2 (-e).toNat) den
    let (m, e) := if m = Nat.pow 2 53 then (Nat.pow 2 52, e + 1) else (m, e)
    if 971 < e then .infinite negative else .finite negative m e

def ofNat (n : Nat) : Binary64 := ofRatio false n 1

/-- The sign, and the size as a quotient. -/
def ratio? : Binary64 → Option (Bool × Nat × Nat)
  | finite s m e =>
    some (s, if e ≥ 0 then (m * Nat.pow 2 e.toNat, 1) else (m, Nat.pow 2 (-e).toNat))
  | _ => none

def negate : Binary64 → Binary64
  | finite s m e => .finite (!s) m e
  | infinite s => .infinite (!s)
  | nan => .nan

def isZero : Binary64 → Bool
  | finite _ m _ => m == 0
  | _ => false

def isInfinite : Binary64 → Bool
  | infinite _ => true
  | _ => false

/-- The number nearest to `digits` times a power of ten. -/
def ofDecimal (negative : Bool) (digits : Nat) (exponent : Int) : Binary64 :=
  if digits = 0 then zero negative
  else
    let size := exponent + (Nat.toDigits 10 digits).length
    if 400 < size then .infinite negative
    else if size < -400 then zero negative
    else if exponent ≥ 0 then ofRatio negative (digits * Nat.pow 10 exponent.toNat) 1
    else ofRatio negative digits (Nat.pow 10 (-exponent).toNat)

/-- The product or quotient of two finite numbers, rounded. -/
def scale (up : Bool) (x y : Binary64) : Binary64 :=
  match x.ratio?, y.ratio? with
  | some (s, a, b), some (_, c, d) =>
    if up then ofRatio s (a * c) (b * d) else ofRatio s (a * d) (b * c)
  | _, _ => x

/-- The nearest whole number, away from zero in the middle, held within `0` and `most`. -/
def roundToNat (most : Nat) : Binary64 → Nat
  | finite s m e =>
    if s then 0
    else if e ≥ 0 then min most (m * Nat.pow 2 e.toNat)
    else min most ((2 * m + Nat.pow 2 (-e).toNat) / (2 * Nat.pow 2 (-e).toNat))
  | infinite s => if s then 0 else most
  | nan => 0

end Binary64

end DocRoot
