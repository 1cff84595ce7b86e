import DocRoot.Settings.Format.Toml.Scalar
import DocRoot.Settings.Format.Toml.Tables

/-!
# Settings in tables with headers

Lines of a key and its value, under the headers of the tables that they belong to.
Lists and tables may also be written as values, nested less than 80 deep, and a key may
lead through fewer than 80 tables.
-/

set_option autoImplicit false

namespace DocRoot.Settings.Toml

open Json.Read (Reader isDigit)

def deepest : Nat := 79

def isBareKey (c : Char) : Bool := c.isAlphanum || c = '_' || c = '-'

def simpleKey? : List Char → Option (String × List Char)
  | '"' :: r => (basicBody r).map fun (cs, r) => (.ofList cs, r)
  | '\'' :: r => (literalBody r).map fun (cs, r) => (.ofList cs, r)
  | s =>
    let k := s.takeWhile isBareKey
    if k = [] then none else some (.ofList k, s.dropWhile isBareKey)

/-- Names with points and spaces between them. -/
def key? : (fuel : Nat) → List Char → Option (List String × List Char)
  | 0, _ => none
  | fuel + 1, s => do
    let (k, r) ← simpleKey? (skipSpaces s)
    match skipSpaces r with
    | '.' :: r =>
      let (ks, r) ← key? fuel r
      return (k :: ks, r)
    | r => return ([k], r)

/-- A key as the tables it leads through and the name in the last of them. -/
def path? (s : List Char) : Option (List String × String × List Char) := do
  let (ks, r) ← key? deepest s
  let k ← ks.getLast?
  return (ks.dropLast, k, r)

def skipComment : List Char → List Char
  | '#' :: r => r.dropWhile isPlain
  | s => s

/-- The text without blanks, line ends and comments in front. -/
def skipAll : (fuel : Nat) → List Char → List Char
  | 0, s => s
  | fuel + 1, s =>
    match s with
    | '\r' :: '\n' :: r => skipAll fuel r
    | '#' :: r => skipAll fuel (r.dropWhile isPlain)
    | c :: r => if isSpace c || c = '\n' then skipAll fuel r else s
    | [] => []

def skip (s : List Char) : List Char := skipAll s.length s

mutual

def value : (fuel depth : Nat) → Reader Data
  | 0, _, _ => none
  | fuel + 1, depth, s =>
    match s with
    | '[' :: r =>
      if depth = 0 then none
      else (items fuel (depth - 1) (skip r)).map fun (xs, r) => (.array xs, r)
    | '{' :: r =>
      if depth = 0 then none
      else
        match skipSpaces r with
        | '}' :: r => some (.table [], r)
        | r => (fields fuel (depth - 1) [] r).map fun (fs, r) => (.table (Item.fieldsData fs), r)
    | c :: _ =>
      if c = '"' || c = '\'' then (string? s).map fun (cs, r) => (.text (.ofList cs), r)
      else if isDigit c || c = '+' || c = '-' then number? s
      else word? s
    | [] => none

/-- The items up to the closing bracket, after a comma or the opening bracket. -/
def items : (fuel depth : Nat) → Reader (List Data)
  | 0, _, _ => none
  | _ + 1, _, ']' :: r => some ([], r)
  | fuel + 1, depth, s => do
    let (x, r) ← value fuel depth s
    match skip r with
    | ',' :: r =>
      let (xs, r) ← items fuel depth (skip r)
      return (x :: xs, r)
    | ']' :: r => return ([x], r)
    | _ => none

/-- The fields up to the closing brace, on top of those before. -/
def fields : (fuel depth : Nat) → Fields → Reader Fields
  | 0, _, _, _ => none
  | fuel + 1, depth, fs, s => do
    let (path, k, r) ← path? s
    let r ← char? '=' r
    let (x, r) ← value fuel depth (skipSpaces r)
    let fs ← Item.insert k x path fs
    match skipSpaces r with
    | ',' :: r => fields fuel depth fs r
    | '}' :: r => return (fs, r)
    | _ => none

end

/-- The text after the end of a line that has been read. -/
def endLine (s : List Char) : Option (List Char) :=
  match skipComment (skipSpaces s) with
  | [] => some []
  | r => lineEnd? r

/-- Reads line after line into the tables. The fields of a line belong to the table whose
header came last. -/
def lines : (fuel : Nat) → (current : List String) → Fields → List Char → Option Fields
  | 0, _, _, _ => none
  | fuel + 1, current, root, s =>
    match skipSpaces s with
    | [] => some root
    | '#' :: r => (endLine ('#' :: r)).bind (lines fuel current root)
    | '\n' :: r => lines fuel current root r
    | '\r' :: r => (lineEnd? ('\r' :: r)).bind (lines fuel current root)
    | '[' :: '[' :: r => do
      let (path, k, r) ← path? r
      let r ← endLine (← char? ']' (← char? ']' r))
      let root ← Item.alterAt (Item.openElement k) path root
      lines fuel (path ++ [k]) root r
    | '[' :: r => do
      let (path, k, r) ← path? r
      let r ← endLine (← char? ']' r)
      let root ← Item.alterAt (Item.openTable k) path root
      lines fuel (path ++ [k]) root r
    | r => do
      let (path, k, r) ← path? r
      let r ← char? '=' r
      let (x, r) ← value (2 * r.length + 2) deepest (skipSpaces r)
      let r ← endLine r
      let root ← Item.alterAt (Item.insert k x path) current root
      lines fuel current root r

/-- A byte order mark may stand in front. -/
def skipMark : List Char → List Char
  | c :: r => if c.toNat = 0xFEFF then r else c :: r
  | [] => []

def parse? (text : String) : Option Data :=
  let s := skipMark text.toList
  (lines (s.length + 1) [] [] s).map fun fs => .table (Item.fieldsData fs)

end DocRoot.Settings.Toml
