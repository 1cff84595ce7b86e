import DocRoot.Decimal.Binary64

/-!
# Numbers read from decimal text

Digits with at most one point in them, a sign in front and an exponent behind.
-/

set_option autoImplicit false

namespace DocRoot

namespace Decimal

def isDigit (c : Char) : Bool := '0' ≤ c && c ≤ '9'

def digitsValue (ds : List Char) : Nat := ds.foldl (fun n d => n * 10 + (d.toNat - 0x30)) 0

/-- Whether a minus sign stands in front, and what follows the sign. -/
def sign : List Char → Bool × List Char
  | '-' :: r => (true, r)
  | '+' :: r => (false, r)
  | r => (false, r)

/-- A whole number with or without a sign. -/
def int? (s : List Char) : Option Int :=
  let (negative, ds) := sign s
  if ds = [] ∨ !ds.all isDigit then none
  else some (if negative then -(digitsValue ds) else digitsValue ds)

end Decimal

namespace Binary64

open Decimal in
/-- The number that all of a text spells in digits. -/
def ofDigits? (s : List Char) : Option Binary64 :=
  let (negative, s) := sign s
  let whole := s.takeWhile isDigit
  let r := s.dropWhile isDigit
  let (places, r) :=
    match r with
    | '.' :: r => (r.takeWhile isDigit, r.dropWhile isDigit)
    | r => ([], r)
  let digits := whole ++ places
  let make (e : Int) : Binary64 := .ofDecimal negative (digitsValue digits) (e - places.length)
  if digits = [] then none
  else
    match r with
    | [] => some (make 0)
    | c :: r => if c = 'e' ∨ c = 'E' then (int? r).map make else none

/-- The number that a text spells, in digits or by one of the words for those without. -/
def ofText? (s : String) : Option Binary64 :=
  let (negative, word) := Decimal.sign s.toList
  let word := String.ofList (word.map Char.toLower)
  if word = "inf" ∨ word = "infinity" then some (.infinite negative)
  else if word = "nan" then some .nan
  else ofDigits? s.toList

end Binary64

end DocRoot
