import DocRoot.AccessLog.Moment
import DocRoot.Settings.Data

/-!
# Texts, numbers and times of day

The values of a settings file in tables that hold no other values. A date or a time of
day is kept as its text, in the one form that it has.
-/

set_option autoImplicit false

namespace DocRoot.Settings.Toml

open Json.Read (Reader hexValue? isDigit digitValue)

def isSpace (c : Char) : Bool := c = ' ' || c = '\t'

/-- Whether a character may stand in a comment or a text as it is. -/
def isPlain (c : Char) : Bool := c = '\t' || (0x20 ≤ c.toNat && c.toNat ≠ 0x7F)

def skipSpaces (s : List Char) : List Char := s.dropWhile isSpace

/-- The text after one line end in front. -/
def lineEnd? : List Char → Option (List Char)
  | '\n' :: r => some r
  | '\r' :: '\n' :: r => some r
  | _ => none

/-! ### Texts -/

def hexNumber? (ds : List Char) : Option Nat :=
  ds.foldlM (fun n d => (hexValue? d).map (n * 16 + ·)) 0

/-- The character with a number that is spelled out. -/
def scalar? (ds : List Char) : Option Char := do
  let n ← hexNumber? ds
  if 0x10FFFF < n ∨ (0xD800 ≤ n ∧ n < 0xE000) then none else some (Char.ofNat n)

def shortEscape? (c : Char) : Option Char :=
  if c = 'b' then some '\x08'
  else if c = 'f' then some '\x0c'
  else if c = 'n' then some '\n'
  else if c = 'r' then some '\r'
  else if c = 't' then some '\t'
  else if c = '"' ∨ c = '\\' then some c
  else none

/-- Puts a character in front of what a reader has read. -/
def prepend (cs : List Char) (x : Option (List Char × List Char)) :
    Option (List Char × List Char) :=
  x.map fun (ds, r) => (cs ++ ds, r)

/-- A text of one line up to its closing quote. -/
def basicBody : Reader (List Char)
  | [] => none
  | '"' :: r => some ([], r)
  | '\\' :: 'u' :: a :: b :: c :: d :: r =>
    (scalar? [a, b, c, d]).bind fun e => prepend [e] (basicBody r)
  | '\\' :: 'U' :: a :: b :: c :: d :: e :: f :: g :: h :: r =>
    (scalar? [a, b, c, d, e, f, g, h]).bind fun e => prepend [e] (basicBody r)
  | '\\' :: c :: r => (shortEscape? c).bind fun e => prepend [e] (basicBody r)
  | c :: r => if isPlain c && c ≠ '\\' then prepend [c] (basicBody r) else none

/-- Whether a line ends after nothing but spaces. -/
def endsLine (s : List Char) : Bool := (lineEnd? (skipSpaces s)).isSome

/-- A text of several lines up to its closing quotes, with up to two quotes in front of
them. After a backslash at the end of a line, which is when `gap` holds, blanks and line
ends do not count. -/
def basicLines : (gap : Bool) → Reader (List Char)
  | _, [] => none
  | gap, '\r' :: '\n' :: r => if gap then basicLines true r else prepend ['\n'] (basicLines false r)
  | _, '"' :: '"' :: '"' :: '"' :: '"' :: r => some (['"', '"'], r)
  | _, '"' :: '"' :: '"' :: '"' :: r => some (['"'], r)
  | _, '"' :: '"' :: '"' :: r => some ([], r)
  | _, '\\' :: 'u' :: a :: b :: c :: d :: r =>
    (scalar? [a, b, c, d]).bind fun e => prepend [e] (basicLines false r)
  | _, '\\' :: 'U' :: a :: b :: c :: d :: e :: f :: g :: h :: r =>
    (scalar? [a, b, c, d, e, f, g, h]).bind fun e => prepend [e] (basicLines false r)
  | _, '\\' :: c :: r =>
    if isSpace c || c = '\n' || c = '\r' then
      if endsLine (c :: r) then basicLines true r else none
    else (shortEscape? c).bind fun e => prepend [e] (basicLines false r)
  | gap, c :: r =>
    if gap && (isSpace c || c = '\n') then basicLines true r
    else if (isPlain c && c ≠ '\\') || c = '\n' then prepend [c] (basicLines false r)
    else none

def literalBody : Reader (List Char)
  | [] => none
  | c :: r =>
    if c = '\'' then some ([], r) else if isPlain c then prepend [c] (literalBody r) else none

def literalLines : Reader (List Char)
  | [] => none
  | '\r' :: '\n' :: r => prepend ['\n'] (literalLines r)
  | '\'' :: '\'' :: '\'' :: '\'' :: '\'' :: r => some (['\'', '\''], r)
  | '\'' :: '\'' :: '\'' :: '\'' :: r => some (['\''], r)
  | '\'' :: '\'' :: '\'' :: r => some ([], r)
  | c :: r => if isPlain c || c = '\n' then prepend [c] (literalLines r) else none

/-- The text without a line end in front. -/
def skipLineEnd (s : List Char) : List Char := (lineEnd? s).getD s

def string? : List Char → Option (List Char × List Char)
  | '"' :: '"' :: '"' :: r => basicLines false (skipLineEnd r)
  | '"' :: r => basicBody r
  | '\'' :: '\'' :: '\'' :: r => literalLines (skipLineEnd r)
  | '\'' :: r => literalBody r
  | _ => none

/-! ### Numbers -/

/-- Digits that go on, with single underscores between them. -/
def moreDigits (p : Char → Bool) : List Char → List Char × List Char
  | '_' :: c :: r =>
    if p c then (c :: (moreDigits p r).1, (moreDigits p r).2) else ([], '_' :: c :: r)
  | c :: r => if p c then (c :: (moreDigits p r).1, (moreDigits p r).2) else ([], c :: r)
  | [] => ([], [])

def digits? (p : Char → Bool) : List Char → Option (List Char × List Char)
  | c :: r => if p c then some (c :: (moreDigits p r).1, (moreDigits p r).2) else none
  | [] => none

def sign : List Char → Bool × List Char
  | '-' :: r => (true, r)
  | '+' :: r => (false, r)
  | r => (false, r)

/-- Digits without a zero in front. -/
def decimalDigits? : List Char → Option (List Char × List Char)
  | '0' :: r => some (['0'], r)
  | s => digits? isDigit s

def ofDigits (radix : Nat) (ds : List Char) : Nat :=
  ds.foldl (fun n d => n * radix + (hexValue? d).getD 0) 0

def signed (negative : Bool) (n : Nat) : Int := if negative then -n else n

def wholeOf (n : Int) (r : List Char) : Option (Data × List Char) :=
  if Data.isInt n then some (.int n, r) else none

def inRadix? (radix : Nat) (s : List Char) : Option (Data × List Char) := do
  let isDigit (c : Char) : Bool := ((hexValue? c).map (decide <| · < radix)).getD false
  let (ds, r) ← digits? isDigit s
  wholeOf (ofDigits radix ds) r

def integer? : List Char → Option (Data × List Char)
  | '0' :: 'x' :: r => inRadix? 16 r
  | '0' :: 'o' :: r => inRadix? 8 r
  | '0' :: 'b' :: r => inRadix? 2 r
  | s => do
    let (ds, r) ← decimalDigits? (sign s).2
    wholeOf (signed (sign s).1 (ofDigits 10 ds)) r

def exponent? : List Char → Option (Int × List Char)
  | c :: r =>
    if c = 'e' ∨ c = 'E' then do
      let (ds, rest) ← digits? isDigit (sign r).2
      return (signed (sign r).1 (ofDigits 10 ds), rest)
    else none
  | [] => none

/-- A number with a point or an exponent. One that is too large is none, unless it is
negative. -/
def fractional? (s : List Char) : Option (Data × List Char) := do
  let (whole, r) ← decimalDigits? (sign s).2
  let (places, exponent, r) ←
    match r with
    | '.' :: r => do
      let (places, r) ← digits? isDigit r
      let (e, r) := (exponent? r).getD (0, r)
      some (places, e, r)
    | r => (exponent? r).map fun (e, r) => ([], e, r)
  let x := Binary64.ofDecimal (sign s).1 (ofDigits 10 (whole ++ places)) (exponent - places.length)
  if x = .infinite false then none else some (.float x, r)

def special? (s : List Char) : Option (Data × List Char) :=
  match (sign s).2 with
  | 'i' :: 'n' :: 'f' :: r => some (.float (.infinite (sign s).1), r)
  | 'n' :: 'a' :: 'n' :: r => some (.float .nan, r)
  | _ => none

/-! ### Times -/

/-- Two digits between two bounds. -/
def twoDigits? (least most : Nat) : List Char → Option (Nat × List Char)
  | a :: b :: r =>
    if isDigit a && isDigit b then
      let n := digitValue a * 10 + digitValue b
      if least ≤ n ∧ n ≤ most then some (n, r) else none
    else none
  | _ => none

def year? (s : List Char) : Option (Nat × List Char) := do
  let (a, r) ← twoDigits? 0 99 s
  let (b, r) ← twoDigits? 0 99 r
  return (a * 100 + b, r)

def isLeapYear (year : Nat) : Bool := year % 4 == 0 && (year % 100 != 0 || year % 400 == 0)

def daysOf (year month : Nat) : Nat :=
  if month = 2 then (if isLeapYear year then 29 else 28)
  else if month = 4 ∨ month = 6 ∨ month = 9 ∨ month = 11 then 30
  else 31

def char? (c : Char) : List Char → Option (List Char)
  | d :: r => if d = c then some r else none
  | [] => none

def date? (s : List Char) : Option (String × List Char) := do
  let (year, r) ← year? s
  let (month, r) ← twoDigits? 1 12 (← char? '-' r)
  let (day, r) ← twoDigits? 1 (daysOf year month) (← char? '-' r)
  return (Moment.padded 4 year ++ "-" ++ Moment.padded 2 month ++ "-" ++ Moment.padded 2 day, r)

/-- A fraction of a second to nine places, without zeros at the end. -/
def fraction? (s : List Char) : Option (String × List Char) := do
  let r ← char? '.' s
  let ds := r.takeWhile isDigit
  if ds = [] then none
  let kept := ((ds.take 9).reverse.dropWhile (· = '0')).reverse
  return (if kept = [] then "" else "." ++ .ofList kept, r.dropWhile isDigit)

def clock? (s : List Char) : Option (String × List Char) := do
  let (hour, r) ← twoDigits? 0 23 s
  let (minute, r) ← twoDigits? 0 59 (← char? ':' r)
  let (second, r) ← twoDigits? 0 60 (← char? ':' r)
  let (fraction, r) ←
    match r with
    | '.' :: _ => fraction? r
    | _ => some ("", r)
  return (Moment.padded 2 hour ++ ":" ++ Moment.padded 2 minute ++ ":" ++ Moment.padded 2 second
    ++ fraction, r)

/-- The offset from universal time; one of nothing is positive. -/
def offset? : List Char → Option (String × List Char)
  | c :: r =>
    if c = 'Z' ∨ c = 'z' then some ("Z", r)
    else if c = '+' ∨ c = '-' then do
      let (hour, r) ← twoDigits? 0 23 r
      let (minute, r) ← twoDigits? 0 59 (← char? ':' r)
      let mark := if c = '-' ∧ (hour, minute) ≠ (0, 0) then "-" else "+"
      return (mark ++ Moment.padded 2 hour ++ ":" ++ Moment.padded 2 minute, r)
    else none
  | [] => none

/-- A date, a time of day, or both, and then perhaps an offset. -/
def time? (s : List Char) : Option (String × List Char) :=
  match date? s with
  | none => clock? s
  | some (date, r) =>
    let withClock : Option (String × List Char) :=
      match r with
      | c :: r =>
        if c = 'T' ∨ c = 't' ∨ c = ' ' then do
          let (clock, r) ← clock? r
          let (offset, r) := (offset? r).getD ("", r)
          return (date ++ "T" ++ clock ++ offset, r)
        else none
      | [] => none
    some (withClock.getD (date, r))

def number? (s : List Char) : Option (Data × List Char) :=
  match time? s, fractional? s, special? s with
  | some (t, r), _, _ => some (.text t, r)
  | _, some x, _ => some x
  | _, _, some x => some x
  | _, _, _ => integer? s

/-- A truth value, or a number that has no digits. -/
def word? : List Char → Option (Data × List Char)
  | 't' :: 'r' :: 'u' :: 'e' :: r => some (.bool true, r)
  | 'f' :: 'a' :: 'l' :: 's' :: 'e' :: r => some (.bool false, r)
  | s => special? s

end DocRoot.Settings.Toml
