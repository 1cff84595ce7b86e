import DocRoot.Json.Basic

/-!
# Reading JSON

A reader takes the front of a text and gives what it read with the rest. Blanks may
stand between the tokens, and nothing but blanks after the value. Containers nest less
than 128 deep. Of the fields with one name the reader keeps all, in their order.
-/

set_option autoImplicit false

namespace DocRoot.Json

namespace Read

abbrev Reader (α : Type) := List Char → Option (α × List Char)

def isBlank (c : Char) : Bool := c = ' ' || c = '\n' || c = '\t' || c = '\r'

def skipBlanks (s : List Char) : List Char := s.dropWhile isBlank

def hexValue? (c : Char) : Option Nat :=
  let n := c.toNat
  if 0x30 ≤ n ∧ n ≤ 0x39 then some (n - 0x30)
  else if 0x61 ≤ n ∧ n ≤ 0x66 then some (n - 0x57)
  else if 0x41 ≤ n ∧ n ≤ 0x46 then some (n - 0x37)
  else none

/-- The code unit that four digits spell. -/
def unit? (a b c d : Char) : Option Nat := do
  return ((← hexValue? a) * 16 + (← hexValue? b)) * 256 + (← hexValue? c) * 16 + (← hexValue? d)

/-- The character after a backslash, for the escapes of one letter. -/
def shortEscape? (c : Char) : Option Char :=
  if c = '"' then some '"'
  else if c = '\\' then some '\\'
  else if c = '/' then some '/'
  else if c = 'b' then some '\x08'
  else if c = 'f' then some '\x0c'
  else if c = 'n' then some '\n'
  else if c = 'r' then some '\r'
  else if c = 't' then some '\t'
  else none

def isHighSurrogate (n : Nat) : Bool := 0xD800 ≤ n && n < 0xDC00
def isLowSurrogate (n : Nat) : Bool := 0xDC00 ≤ n && n < 0xE000

/-- The characters up to the closing quote. A surrogate is read only as half of a pair. -/
def stringBody : Reader (List Char)
  | [] => none
  | '"' :: r => some ([], r)
  | '\\' :: 'u' :: a :: b :: c :: d :: r =>
    match unit? a b c d with
    | none => none
    | some n =>
      if isHighSurrogate n then
        match r with
        | '\\' :: 'u' :: e :: f :: g :: h :: r =>
          match unit? e f g h with
          | some m =>
            if isLowSurrogate m then
              (stringBody r).map fun (cs, r) =>
                (Char.ofNat (0x10000 + (n - 0xD800) * 1024 + (m - 0xDC00)) :: cs, r)
            else none
          | none => none
        | _ => none
      else if isLowSurrogate n then none
      else (stringBody r).map fun (cs, r) => (Char.ofNat n :: cs, r)
  | '\\' :: c :: r =>
    match shortEscape? c with
    | some e => (stringBody r).map fun (cs, r) => (e :: cs, r)
    | none => none
  | c :: r =>
    if c.toNat < 0x20 ∨ c = '\\' then none
    else (stringBody r).map fun (cs, r) => (c :: cs, r)

def isDigit (c : Char) : Bool := '0' ≤ c && c ≤ '9'

def digitValue (c : Char) : Nat := c.toNat - 0x30

def mostUnsigned : Nat := 18446744073709551615

/-- The digits that fit an unsigned word on top of `n`, how many they are, and the rest. -/
def takeDigits : (n count : Nat) → List Char → Nat × Nat × List Char
  | n, count, [] => (n, count, [])
  | n, count, c :: r =>
    if isDigit c ∧ n * 10 + digitValue c ≤ mostUnsigned then
      takeDigits (n * 10 + digitValue c) (count + 1) r
    else (n, count, c :: r)

/-- A number that is not whole: what fits an unsigned word, scaled in one step by a power
of ten, or in several if the power is too small for one. -/
def scaled (negative : Bool) (significand : Nat) (exponent : Int) : Option Binary64 :=
  let sign (x : Binary64) : Binary64 := if negative then x.negate else x
  let start := Binary64.ofNat significand
  if start.isZero then some (sign start)
  else if 308 < exponent then none
  else if 0 ≤ exponent then
    let x := start.scale true (.ofDecimal false 1 exponent)
    if x.isInfinite then none else some (sign x)
  else
    let big := Binary64.ofDecimal false 1 308
    let lower (p : Binary64 × Int) : Binary64 × Int :=
      if p.2 < -308 then (p.1.scale false big, p.2 + 308) else p
    let (x, e) := lower (lower (lower (start, exponent)))
    if e < -308 then some (sign (.zero false))
    else some (sign (x.scale false (.ofDecimal false 1 (-e))))

/-- The exponent part, if there is one, and the number it makes. -/
def exponentPart (negative : Bool) (significand : Nat) (exponent : Int) : Reader Binary64 :=
  fun s =>
    match s with
    | c :: r =>
      if c = 'e' ∨ c = 'E' then
        let (up, r) :=
          match r with
          | '+' :: r => (true, r)
          | '-' :: r => (false, r)
          | r => (true, r)
        let ds := r.takeWhile isDigit
        if ds = [] then none
        else
          let e : Int := ds.foldl (fun n d => n * 10 + digitValue d) 0
          let rest := r.dropWhile isDigit
          (scaled negative significand (if up then exponent + e else exponent - e)).map (·, rest)
      else (scaled negative significand exponent).map (·, s)
    | [] => (scaled negative significand exponent).map (·, s)

/-- What follows the whole part, of which `dropped` digits did not fit. -/
def fractionPart (negative : Bool) (significand dropped : Nat) : Reader Binary64 := fun s =>
  match s with
  | '.' :: r =>
    let (n, count, rest) := takeDigits significand 0 r
    let tail := rest.dropWhile isDigit
    if count = 0 ∧ tail.length = rest.length then none
    else exponentPart negative n ((dropped : Int) - count) tail
  | _ => exponentPart negative significand dropped s

def isNumberTail (s : List Char) : Bool :=
  match s with
  | c :: _ => c = '.' || c = 'e' || c = 'E'
  | [] => false

/-- A number without its sign. -/
def unsignedNumber (negative : Bool) : Reader Json := fun s =>
  let (n, count, r) := takeDigits 0 0 s
  let more := r.takeWhile isDigit
  let rest := r.dropWhile isDigit
  if count = 0 then none
  else if s.head? = some '0' ∧ (1 < count ∨ more ≠ []) then none
  else if more ≠ [] ∨ isNumberTail rest then
    (fractionPart negative n more.length rest).map fun (x, r) => (.real x, r)
  else if !negative then some (.number n, rest)
  else if n = 0 ∨ 9223372036854775808 < n then some (.real (Binary64.ofNat n).negate, rest)
  else some (.number (-n), rest)

def number : Reader Json
  | '-' :: r => unsignedNumber true r
  | s => unsignedNumber false s

mutual

def value : (fuel depth : Nat) → Reader Json
  | 0, _, _ => none
  | fuel + 1, depth, s =>
    match s with
    | 'n' :: 'u' :: 'l' :: 'l' :: r => some (.null, r)
    | 't' :: 'r' :: 'u' :: 'e' :: r => some (.bool true, r)
    | 'f' :: 'a' :: 'l' :: 's' :: 'e' :: r => some (.bool false, r)
    | '"' :: r => (stringBody r).map fun (cs, r) => (.text (.ofList cs), r)
    | '[' :: r =>
      if depth ≤ 1 then none
      else
        match skipBlanks r with
        | ']' :: r => some (.array [], r)
        | r => (items fuel (depth - 1) r).map fun (xs, r) => (.array xs, r)
    | '{' :: r =>
      if depth ≤ 1 then none
      else
        match skipBlanks r with
        | '}' :: r => some (.object [], r)
        | r => (fields fuel (depth - 1) r).map fun (xs, r) => (.object xs, r)
    | s => number s

/-- The items of an array up to its end; there is one at least. -/
def items : (fuel depth : Nat) → Reader (List Json)
  | 0, _, _ => none
  | fuel + 1, depth, s =>
    match value fuel depth s with
    | none => none
    | some (x, r) =>
      match skipBlanks r with
      | ',' :: r => (items fuel depth (skipBlanks r)).map fun (xs, r) => (x :: xs, r)
      | ']' :: r => some ([x], r)
      | _ => none

/-- The fields of an object up to its end; there is one at least. -/
def fields : (fuel depth : Nat) → Reader (List (String × Json))
  | 0, _, _ => none
  | fuel + 1, depth, s =>
    match s with
    | '"' :: r =>
      match stringBody r with
      | none => none
      | some (k, r) =>
        match skipBlanks r with
        | ':' :: r =>
          match value fuel depth (skipBlanks r) with
          | none => none
          | some (x, r) =>
            match skipBlanks r with
            | ',' :: r =>
              (fields fuel depth (skipBlanks r)).map fun (xs, r) => ((.ofList k, x) :: xs, r)
            | '}' :: r => some ([(.ofList k, x)], r)
            | _ => none
        | _ => none
    | _ => none

end

def deepest : Nat := 128

end Read

/-- The value of a whole text. -/
def parse? (text : String) : Option Json :=
  let s := Read.skipBlanks text.toList
  match Read.value (2 * s.length + 2) Read.deepest s with
  | some (x, r) => if Read.skipBlanks r = [] then some x else none
  | none => none

end DocRoot.Json
