import DocRoot.Decimal.Reading
import DocRoot.Settings.Data
import DocRoot.Text.Blank

/-!
# Settings in object notation with names

A structure is written in parentheses with its fields, and may have a name in front; a
map is written in braces with texts as keys. `Some(x)` is `x`, `None` and a bare name
are nothing, and a character is a text. Containers nest at most 128 deep.
-/

set_option autoImplicit false

namespace DocRoot.Settings.Ron

open Json.Read (Reader hexValue? isDigit digitValue)

def isBlank (c : Char) : Bool :=
  c = ' ' || c = '\t' || c = '\n' || c = '\r' || c = '\x0b' || c = '\x0c' || c.toNat == 0x85
    || c.toNat == 0x200E || c.toNat == 0x200F || c.toNat == 0x2028 || c.toNat == 0x2029

/-- What follows a comment in stars that is open `depth` times more than once. -/
def afterStars : (depth : Nat) → List Char → Option (List Char)
  | _, [] => none
  | depth, '/' :: '*' :: r => afterStars (depth + 1) r
  | 0, '*' :: '/' :: r => some r
  | depth + 1, '*' :: '/' :: r => afterStars depth r
  | depth, _ :: r => afterStars depth r

/-- The text without blanks and comments in front; none if a comment is not closed. -/
def skip : (fuel : Nat) → List Char → Option (List Char)
  | 0, s => some s
  | fuel + 1, s =>
    match s with
    | '/' :: '/' :: r => skip fuel (r.dropWhile (· ≠ '\n'))
    | '/' :: '*' :: r => (afterStars 0 r).bind (skip fuel)
    | '/' :: _ => none
    | c :: r => if isBlank c then skip fuel r else some s
    | [] => some []

def skipAll (s : List Char) : Option (List Char) := skip (s.length + 1) s

def isNameStart (c : Char) : Bool := c.isAlpha || c = '_'
def isNamePart (c : Char) : Bool := c.isAlphanum || c = '_'
def isRawPart (c : Char) : Bool := isNamePart c || c = '.' || c = '+' || c = '-'

/-- The text after a word, if it stands there whole. -/
def word? (w : String) (s : List Char) : Option (List Char) :=
  if w.toList.isPrefixOf s then
    match s.drop w.length with
    | c :: r => if isNamePart c then none else some (c :: r)
    | [] => some []
  else none

/-- A name, plain or after `r#`. -/
def name? : Reader (List Char)
  | 'r' :: '"' :: _ => none
  | 'r' :: '#' :: r =>
    let n := r.takeWhile isRawPart
    if n = [] then none else some (n, r.dropWhile isRawPart)
  | c :: r =>
    if isNameStart c then
      let s := c :: r
      let n := s.takeWhile isNamePart
      if n.length < (s.takeWhile isRawPart).length then none else some (n, s.dropWhile isNamePart)
    else none
  | [] => none

/-- Up to six hexadecimal digits and a closing brace. -/
def scalar? (s : List Char) : Option (Char × List Char) :=
  let ds := (s.takeWhile fun c => (hexValue? c).isSome).take 6
  match s.drop ds.length with
  | '}' :: r =>
    let n := ds.foldl (fun n c => n * 16 + (hexValue? c).getD 0) 0
    if ds = [] ∨ 0x10FFFF < n ∨ (0xD800 ≤ n ∧ n < 0xE000) then none else some (Char.ofNat n, r)
  | _ => none

/-- The character after a backslash. -/
def escape? : List Char → Option (Char × List Char)
  | '\'' :: r => some ('\'', r)
  | '"' :: r => some ('"', r)
  | '\\' :: r => some ('\\', r)
  | 'n' :: r => some ('\n', r)
  | 'r' :: r => some ('\r', r)
  | 't' :: r => some ('\t', r)
  | '0' :: r => some ('\x00', r)
  | 'x' :: a :: b :: r => do return (Char.ofNat ((← hexValue? a) * 16 + (← hexValue? b)), r)
  | 'u' :: '{' :: r => scalar? r
  | _ => none

def stringBody : (fuel : Nat) → Reader (List Char)
  | 0, _ => none
  | _ + 1, [] => none
  | _ + 1, '"' :: r => some ([], r)
  | fuel + 1, '\\' :: r => do
    let (c, r) ← escape? r
    let (cs, r) ← stringBody fuel r
    return (c :: cs, r)
  | fuel + 1, c :: r => (stringBody fuel r).map fun (cs, r) => (c :: cs, r)

/-- The text up to a quote that is followed by as many number signs. -/
def rawBody (hashes : List Char) : Reader (List Char)
  | [] => none
  | c :: r =>
    if c = '"' ∧ hashes.isPrefixOf r then some ([], r.drop hashes.length)
    else (rawBody hashes r).map fun (cs, r) => (c :: cs, r)

def rawString : Reader (List Char) := fun s =>
  let hashes := s.takeWhile (· = '#')
  match s.drop hashes.length with
  | '"' :: r => rawBody hashes r
  | _ => none

def character : Reader (List Char)
  | '\\' :: r =>
    match escape? r with
    | some (c, '\'' :: r) => some ([c], r)
    | _ => none
  | c :: '\'' :: r => some ([c], r)
  | _ => none

def isIntPart (c : Char) : Bool := (hexValue? c).isSome || c = '_'
def isFloatPart (c : Char) : Bool :=
  isDigit c || c = 'e' || c = 'E' || c = '.' || c = '+' || c = '-' || c = '_'

/-- A whole number without its sign, with underscores between the digits. -/
def whole? (s : List Char) : Option (Nat × List Char) :=
  let (radix, s) :=
    match s with
    | '0' :: 'x' :: r => (16, r)
    | '0' :: 'b' :: r => (2, r)
    | '0' :: 'o' :: r => (8, r)
    | r => (10, r)
  let ds := s.takeWhile isIntPart
  if ds = [] ∨ ds.head? = some '_' then none
  else
    let vs := (ds.filter (· ≠ '_')).map fun c => (hexValue? c).getD 0
    if vs.any (radix ≤ ·) then none
    else some (vs.foldl (fun n d => n * radix + d) 0, s.drop ds.length)

def mostWord : Nat := 18446744073709551615

def number (s : List Char) : Option (Data × List Char) :=
  let (signed, negative, r) :=
    match s with
    | '-' :: r => (true, true, r)
    | '+' :: r => (true, false, r)
    | r => (false, false, r)
  let floats := s.takeWhile isFloatPart
  let asFloat : Option (Data × List Char) :=
    if floats.contains '_' then none
    else (Binary64.ofDigits? floats).map fun x => (.float x, s.drop floats.length)
  let unsignedFloats := (r.takeWhile isFloatPart).length
  if (r.takeWhile isIntPart).length < unsignedFloats then asFloat
  else
    match whole? r with
    | some (n, rest) =>
      let v : Int := if negative then -n else n
      if Data.isInt v then some (.int v, rest)
      else if !signed ∧ n ≤ mostWord then some (.float (Binary64.ofNat n), rest)
      else asFloat
    | none => asFloat

/-- Whether what stands after an opening parenthesis are fields with names. -/
def hasFields (s : List Char) : Bool :=
  match name? s with
  | some (_, r) =>
    match skipAll r with
    | some (':' :: _) => true
    | _ => false
  | none => false

mutual

def value : (fuel depth : Nat) → Reader Data
  | 0, _, _ => none
  | fuel + 1, depth, s =>
    match word? "true" s, word? "false" s, word? "None" s, word? "inf" s, word? "-inf" s,
        word? "NaN" s with
    | some r, _, _, _, _, _ => some (.bool true, r)
    | _, some r, _, _, _, _ => some (.bool false, r)
    | _, _, some r, _, _, _ => some (.nil, r)
    | _, _, _, some r, _, _ => some (.float (.infinite false), r)
    | _, _, _, _, some r, _ => some (.float (.infinite true), r)
    | _, _, _, _, _, some r => some (.float .nan, r)
    | _, _, _, _, _, _ =>
      match word? "Some" s with
      | some r => optional fuel depth r
      | none =>
        match s with
        | '(' :: ')' :: r => some (.nil, r)
        | _ =>
          match name? s with
          | some (_, r) => (skipAll r).bind (structured fuel depth)
          | none =>
            match s with
            | '(' :: _ => structured fuel depth s
            | '[' :: r =>
              if depth = 0 then none
              else (elements fuel (depth - 1) ']' false r).map fun (xs, r) => (.array xs, r)
            | '{' :: r =>
              if depth = 0 then none
              else
                (entries fuel (depth - 1) '}' false r).map fun (xs, r) =>
                  (.table (Data.keepLast xs), r)
            | '"' :: r => (stringBody (r.length + 1) r).map fun (cs, r) => (.text (.ofList cs), r)
            | 'r' :: r => (rawString r).map fun (cs, r) => (.text (.ofList cs), r)
            | '\'' :: r => (character r).map fun (cs, r) => (.text (.ofList cs), r)
            | c :: _ => if isDigit c || c = '+' || c = '-' || c = '.' then number s else none
            | [] => none

/-- What `Some` holds. -/
def optional : (fuel depth : Nat) → Reader Data
  | 0, _, _ => none
  | fuel + 1, depth, s =>
    match skipAll s with
    | some ('(' :: r) =>
      if depth = 0 then none
      else do
        let r ← skipAll r
        let (x, r) ← value fuel (depth - 1) r
        match ← skipAll r with
        | ')' :: r => return (x, r)
        | ',' :: r =>
          match ← skipAll r with
          | ')' :: r => return (x, r)
          | _ => none
        | _ => none
    | _ => none

/-- What a name may be followed by: fields, elements, or nothing. -/
def structured : (fuel depth : Nat) → Reader Data
  | 0, _, _ => none
  | fuel + 1, depth, s =>
    match s with
    | '(' :: r =>
      if depth = 0 then none
      else
        match skipAll r with
        | none => none
        | some r =>
          if hasFields r then
            (entries fuel (depth - 1) ')' false r).map fun (xs, r) => (.table (Data.keepLast xs), r)
          else (elements fuel (depth - 1) ')' false r).map fun (xs, r) => (.array xs, r)
    | s => some (.nil, s)

/-- The elements up to the closing mark; after the first a comma has to stand between. -/
def elements : (fuel depth : Nat) → (close : Char) → (needComma : Bool) → Reader (List Data)
  | 0, _, _, _, _ => none
  | fuel + 1, depth, close, needComma, s => do
    match ← skipAll s with
    | [] => none
    | c :: r =>
      if c = close then return ([], r)
      else if needComma then none
      else
        let (x, r) ← value fuel depth (c :: r)
        match ← skipAll r with
        | ',' :: r =>
          let (xs, r) ← elements fuel depth close false r
          return (x :: xs, r)
        | r =>
          let (xs, r) ← elements fuel depth close true r
          return (x :: xs, r)

/-- The fields up to the closing mark. In parentheses a key is a name, in braces a text. -/
def entries : (fuel depth : Nat) → (close : Char) → (needComma : Bool) →
    Reader (List (String × Data))
  | 0, _, _, _, _ => none
  | fuel + 1, depth, close, needComma, s => do
    match ← skipAll s with
    | [] => none
    | c :: r =>
      if c = close then return ([], r)
      else if needComma then none
      else
        let (k, r) ←
          if close = ')' then (name? (c :: r)).map fun (n, r) => (Data.text (.ofList n), r)
          else value fuel depth (c :: r)
        let .text k := k | none
        match ← skipAll r with
        | ':' :: r =>
          let (x, r) ← value fuel depth (← skipAll r)
          match ← skipAll r with
          | ',' :: r =>
            let (xs, r) ← entries fuel depth close false r
            return ((k, x) :: xs, r)
          | r =>
            let (xs, r) ← entries fuel depth close true r
            return ((k, x) :: xs, r)
        | _ => none

end

def extensionNames : List String :=
  ["unwrap_newtypes", "implicit_some", "unwrap_variant_newtypes"]

/-- The names in an attribute up to its end. -/
def extensionList : (fuel : Nat) → List Char → Option (List Char)
  | 0, _ => none
  | fuel + 1, s => do
    let (n, r) ← name? (← skipAll s)
    if !extensionNames.contains (String.ofList n) then none
    let r ← skipAll r
    match r with
    | ')' :: r => return r
    | ',' :: r =>
      match ← skipAll r with
      | ')' :: r => return r
      | r => extensionList fuel r
    | _ => none

/-- The text after the attributes in front of the value. -/
def skipAttributes : (fuel : Nat) → List Char → Option (List Char)
  | 0, _ => none
  | fuel + 1, s =>
    match s with
    | '#' :: r => do
      let '!' :: r ← skipAll r | none
      let '[' :: r ← skipAll r | none
      let r ← word? "enable" (← skipAll r)
      let '(' :: r ← skipAll r | none
      let r ← extensionList r.length r
      let ']' :: r ← skipAll r | none
      skipAttributes fuel (← skipAll r)
    | s => some s

def deepest : Nat := 128

def parse? (text : String) : Option Data := do
  let s ← skipAll text.toList
  let s ← skipAttributes (s.length + 1) s
  let (x, r) ← value (3 * s.length + 3) deepest s
  if (← skipAll r) = [] then return x else none

end DocRoot.Settings.Ron
