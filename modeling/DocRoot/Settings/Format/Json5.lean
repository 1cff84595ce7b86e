import DocRoot.Settings.Data
import DocRoot.Text.LetterTable
import DocRoot.Text.Lowercase

/-!
# Settings in relaxed JSON

Comments, bare names as keys, single quotes, commas at the end, numbers with a sign, a
bare point or hexadecimal digits, and texts that go on over a line end after a
backslash.
-/

set_option autoImplicit false

namespace DocRoot.Settings.Json5

open Json.Read (Reader unit? hexValue? isDigit digitValue isHighSurrogate isLowSurrogate)

def isLineEnd (c : Char) : Bool :=
  c = '\n' || c = '\r' || c.toNat == 0x2028 || c.toNat == 0x2029

def isSpaceSeparator (c : Char) : Bool :=
  let n := c.toNat
  n == 0x20 || n == 0xA0 || n == 0x1680 || (0x2000 ≤ n && n ≤ 0x200A) || n == 0x202F || n == 0x205F
    || n == 0x3000

def isBlank (c : Char) : Bool :=
  c = '\t' || c = '\x0b' || c = '\x0c' || c.toNat == 0xFEFF || isSpaceSeparator c || isLineEnd c

/-- What follows a comment that was opened with a star. -/
def afterStar : List Char → Option (List Char)
  | [] => none
  | '*' :: '/' :: r => some r
  | _ :: r => afterStar r

/-- The text without blanks and comments in front. A comment that is not closed stays. -/
def skip : (fuel : Nat) → List Char → List Char
  | 0, s => s
  | fuel + 1, s =>
    match s with
    | '/' :: '/' :: r => skip fuel (r.dropWhile (!isLineEnd ·))
    | '/' :: '*' :: r =>
      match afterStar r with
      | some r => skip fuel r
      | none => s
    | c :: r => if isBlank c then skip fuel r else s
    | [] => []

def skipAll (s : List Char) : List Char := skip s.length s

/-- The character after a backslash, but for digits and the two forms of number. -/
def shortEscape? (c : Char) : Option Char :=
  if c = 'b' then some '\x08'
  else if c = 'f' then some '\x0c'
  else if c = 'n' then some '\n'
  else if c = 'r' then some '\r'
  else if c = 't' then some '\t'
  else if c = 'v' then some '\x0b'
  else if isDigit c ∨ c = 'x' ∨ c = 'u' ∨ isLineEnd c then none
  else some c

def stringBody (quote : Char) : Reader (List Char)
  | [] => none
  | '\\' :: '\r' :: '\n' :: r => stringBody quote r
  | '\\' :: '0' :: r => (stringBody quote r).map fun (cs, r) => ('\x00' :: cs, r)
  | '\\' :: 'x' :: a :: b :: r => do
    let n := (← hexValue? a) * 16 + (← hexValue? b)
    let (cs, r) ← stringBody quote r
    return (Char.ofNat n :: cs, r)
  | '\\' :: 'u' :: a :: b :: c :: d :: '\\' :: 'u' :: e :: f :: g :: h :: r => do
    let n ← unit? a b c d
    if isLowSurrogate n then none
    else if isHighSurrogate n then
      let m ← unit? e f g h
      if isLowSurrogate m then
        let (cs, r) ← stringBody quote r
        return (Char.ofNat (0x10000 + (n - 0xD800) * 1024 + (m - 0xDC00)) :: cs, r)
      else none
    else
      let (cs, r) ← stringBody quote ('\\' :: 'u' :: e :: f :: g :: h :: r)
      return (Char.ofNat n :: cs, r)
  | '\\' :: 'u' :: a :: b :: c :: d :: r => do
    let n ← unit? a b c d
    if isHighSurrogate n || isLowSurrogate n then none
    let (cs, r) ← stringBody quote r
    return (Char.ofNat n :: cs, r)
  | '\\' :: c :: r =>
    if isLineEnd c then stringBody quote r
    else
      match shortEscape? c with
      | some e => (stringBody quote r).map fun (cs, r) => (e :: cs, r)
      | none => none
  | c :: r =>
    if c = quote then some ([], r)
    else if c = '\\' ∨ isLineEnd c then none
    else (stringBody quote r).map fun (cs, r) => (c :: cs, r)

def isNameStart (c : Char) : Bool :=
  c.isAlpha || c = '$' || c = '_' || (0x80 ≤ c.toNat && Text.inRanges Text.letterRanges c)

def isNamePart (c : Char) : Bool :=
  isNameStart c || c.isDigit || c = '^' || c = '\x60'
    || (0x80 ≤ c.toNat && Text.inRanges Text.nameMarkRanges c)

/-- The rest of a bare name, in which a letter may be an escape. -/
def nameRest : List Char → List Char × List Char
  | '\\' :: 'u' :: a :: b :: c :: d :: r =>
    match unit? a b c d with
    | some n =>
      if isHighSurrogate n || isLowSurrogate n then ([], r)
      else (Char.ofNat n :: (nameRest r).1, (nameRest r).2)
    | none => ([], '\\' :: 'u' :: a :: b :: c :: d :: r)
  | c :: r => if isNamePart c then (c :: (nameRest r).1, (nameRest r).2) else ([], c :: r)
  | [] => ([], [])

def key : Reader (List Char)
  | '"' :: r => stringBody '"' r
  | '\'' :: r => stringBody '\'' r
  | c :: r =>
    if isNameStart c ∨ c = '\\' then
      let name := nameRest (c :: r)
      if name.1 = [] then none else some name
    else none
  | [] => none

/-- A number without a point or an exponent, which has to be whole. -/
def wholeNumber (negative : Bool) (ds : List Char) : Option Data :=
  let n : Int := ds.foldl (fun n d => n * 10 + digitValue d) 0
  let n := if negative then -n else n
  if Data.isInt n then some (.int n) else none

def fractional (negative : Bool) (digits : List Char) (exponent : Int) : Option Data :=
  let x := Binary64.ofDecimal negative (digits.foldl (fun n d => n * 10 + digitValue d) 0) exponent
  if x.isInfinite then none else some (.float x)

/-- The exponent, if one is there, and the rest. -/
def exponent? (s : List Char) : Option (Int × List Char) :=
  match s with
  | e :: r =>
    if e = 'e' ∨ e = 'E' then
      let (negative, r) :=
        match r with
        | '-' :: r => (true, r)
        | '+' :: r => (false, r)
        | r => (false, r)
      let ds := r.takeWhile isDigit
      if ds = [] then none
      else
        let n : Int := ds.foldl (fun n d => n * 10 + digitValue d) 0
        some (if negative then -n else n, r.dropWhile isDigit)
    else none
  | [] => none

/-- Digits, a point and an exponent, of which not all have to be there. -/
def decimal (negative : Bool) (s : List Char) : Option (Data × List Char) :=
  let whole :=
    match s with
    | '0' :: _ => ['0']
    | s => s.takeWhile isDigit
  let r := s.drop whole.length
  match r with
  | '.' :: after =>
    let places := after.takeWhile isDigit
    if whole = [] ∧ places = [] then none
    else
      let r := after.dropWhile isDigit
      let (e, r) := (exponent? r).getD (0, r)
      (fractional negative (whole ++ places) (e - places.length)).map (·, r)
  | r =>
    if whole = [] then none
    else
      match exponent? r with
      | some (e, r) => (fractional negative whole e).map (·, r)
      | none => (wholeNumber negative whole).map (·, r)

def hexadecimal (s : List Char) : Option (Data × List Char) :=
  let ds := s.takeWhile fun c => (hexValue? c).isSome
  let n := ds.foldl (fun n c => n * 16 + (hexValue? c).getD 0) 0
  if ds = [] ∨ 4294967295 < n then none else some (.int n, s.drop ds.length)

def number (s : List Char) : Option (Data × List Char) :=
  match s with
  | '0' :: 'x' :: r => hexadecimal r
  | '0' :: 'X' :: r => hexadecimal r
  | 'I' :: 'n' :: 'f' :: 'i' :: 'n' :: 'i' :: 't' :: 'y' :: r => some (.float (.infinite false), r)
  | 'N' :: 'a' :: 'N' :: r => some (.float .nan, r)
  | '-' :: 'I' :: 'n' :: 'f' :: 'i' :: 'n' :: 'i' :: 't' :: 'y' :: r =>
    some (.float (.infinite true), r)
  | '-' :: 'N' :: 'a' :: 'N' :: r => some (.float .nan, r)
  | '-' :: r => signed true r
  | '+' :: r => signed false r
  | r => decimal false r
where
  /-- A sign and hexadecimal digits do not go together. -/
  signed (negative : Bool) (s : List Char) : Option (Data × List Char) :=
    match s with
    | '0' :: 'x' :: _ => none
    | '0' :: 'X' :: _ => none
    | s => decimal negative s

mutual

def value : (fuel : Nat) → Reader Data
  | 0, _ => none
  | fuel + 1, s =>
    match s with
    | 'n' :: 'u' :: 'l' :: 'l' :: r => some (.nil, r)
    | 't' :: 'r' :: 'u' :: 'e' :: r => some (.bool true, r)
    | 'f' :: 'a' :: 'l' :: 's' :: 'e' :: r => some (.bool false, r)
    | '"' :: r => (stringBody '"' r).map fun (cs, r) => (.text (.ofList cs), r)
    | '\'' :: r => (stringBody '\'' r).map fun (cs, r) => (.text (.ofList cs), r)
    | '[' :: r =>
      match skipAll r with
      | ']' :: r => some (.array [], r)
      | r => (items fuel r).map fun (xs, r) => (.array xs, r)
    | '{' :: r =>
      match skipAll r with
      | '}' :: r => some (.table [], r)
      | r => (fields fuel r).map fun (xs, r) => (.table (Data.keepLast xs), r)
    | s => number s

def items : (fuel : Nat) → Reader (List Data)
  | 0, _ => none
  | fuel + 1, s =>
    match value fuel s with
    | none => none
    | some (x, r) =>
      match skipAll r with
      | ',' :: r =>
        match skipAll r with
        | ']' :: r => some ([x], r)
        | r => (items fuel r).map fun (xs, r) => (x :: xs, r)
      | ']' :: r => some ([x], r)
      | _ => none

def fields : (fuel : Nat) → Reader (List (String × Data))
  | 0, _ => none
  | fuel + 1, s =>
    match key s with
    | none => none
    | some (k, r) =>
      match skipAll r with
      | ':' :: r =>
        match value fuel (skipAll r) with
        | none => none
        | some (x, r) =>
          match skipAll r with
          | ',' :: r =>
            match skipAll r with
            | '}' :: r => some ([(.ofList k, x)], r)
            | r => (fields fuel r).map fun (xs, r) => ((.ofList k, x) :: xs, r)
          | '}' :: r => some ([(.ofList k, x)], r)
          | _ => none
      | _ => none

end

def parse? (text : String) : Option Data :=
  let s := skipAll text.toList
  match value (2 * s.length + 2) s with
  | some (x, r) => if skipAll r = [] then some x else none
  | none => none

end DocRoot.Settings.Json5
