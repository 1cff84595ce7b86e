import DocRoot.Settings.Data
import DocRoot.Text.Blank

/-!
# Settings in sections of lines

A section begins with its name in brackets, and of two sections with one name the later
replaces the other. A key goes on to the next equals sign or colon, a value to the end
of its line or, in quotes, to the closing quote and then to the end of the line. A
backslash escapes in all of them. Every value is a text. A comment starts in the first
column.
-/

set_option autoImplicit false

namespace DocRoot.Settings.Ini

/-- The text up to the first character that ends it, escapes resolved, and what is left
from that character on. Unless `mayEnd`, the text has to be ended by a character. -/
def untilChar (ends : Char → Bool) (mayEnd : Bool) : List Char → Option (List Char × List Char)
  | [] => if mayEnd then some ([], []) else none
  | '\\' :: 'x' :: a :: b :: c :: d :: r => do
    let n ← Json.Read.unit? (if a = '+' then '0' else a) b c d
    if Json.Read.isHighSurrogate n || Json.Read.isLowSurrogate n then none
    let (cs, r) ← untilChar ends mayEnd r
    return (Char.ofNat n :: cs, r)
  | ['\\'] => none
  | '\\' :: c :: r =>
    (untilChar ends mayEnd r).bind fun (cs, r) =>
      if c = '0' then some ('\x00' :: cs, r)
      else if c = 'a' then some ('\x07' :: cs, r)
      else if c = 'b' then some ('\x08' :: cs, r)
      else if c = 't' then some ('\t' :: cs, r)
      else if c = 'r' then some ('\r' :: cs, r)
      else if c = 'n' then some ('\n' :: cs, r)
      else if c = '\n' then some (cs, r)
      else if c = 'x' then none
      else some (c :: cs, r)
  | c :: r =>
    if ends c then some ([], c :: r)
    else (untilChar ends mayEnd r).map fun (cs, r) => (c :: cs, r)

def isLineEnd (c : Char) : Bool := c = '\n' || c = '\r'

def toLineEnd (s : List Char) : Option (List Char × List Char) := untilChar isLineEnd true s

def quoted (quote : Char) (s : List Char) : Option (List Char × List Char) := do
  let (inside, r) ← untilChar (· = quote) false s
  let (after, r) ← toLineEnd (r.drop 1)
  return (inside ++ after, r)

def value (s : List Char) : Option (List Char × List Char) :=
  match s.dropWhile fun c => Text.isWhite c && !isLineEnd c with
  | '"' :: r => quoted '"' r
  | '\'' :: r => quoted '\'' r
  | r => toLineEnd r

/-- What has been read: the fields before any section, and the sections, later ones first,
each with its fields, later ones first. -/
structure Draft where
  general : List (String × Data)
  sections : List (String × List (String × Data))
  current : Option String

namespace Draft

def addTo (name : String) (e : String × Data) :
    List (String × List (String × Data)) → List (String × List (String × Data))
  | [] => [(name, [e])]
  | (n, es) :: r => if n = name then (n, e :: es) :: r else (n, es) :: addTo name e r

def add (d : Draft) (key value : String) : Draft :=
  match d.current with
  | none => { d with general := (key, .text value) :: d.general }
  | some name => { d with sections := addTo name (key, .text value) d.sections }

def openSection (d : Draft) (name : String) : Draft :=
  { d with sections := (name, []) :: d.sections, current := some name }

def fields (d : Draft) : List (String × Data) :=
  Data.keepLast (d.general.reverse
    ++ d.sections.reverse.map fun (n, es) => (n, .table (Data.keepLast es.reverse)))

end Draft

/-- Whether `c` ends the white space in front of the next item; the column of that item is
the first one if no other character of its line was passed. -/
def skipWhite : (first : Bool) → List Char → Bool × List Char
  | first, [] => (first, [])
  | first, c :: r =>
    if Text.isWhite c then skipWhite (c = '\n') r else (first, c :: r)

def read : (fuel : Nat) → (first : Bool) → (key : List Char) → Draft → List Char → Option Draft
  | 0, _, _, _, _ => none
  | fuel + 1, first, key, d, s =>
    match skipWhite first s with
    | (_, []) => some d
    | (first, c :: r) =>
      if c = ';' ∨ c = '#' then
        if first then
          let rest := r.dropWhile (· ≠ '\n')
          read fuel (rest ≠ []) key d (rest.drop 1)
        else none
      else if c = '[' then do
        let (name, r) ← untilChar (· = ']') false r
        read fuel false key (d.openSection (.ofList (Text.trimChars name))) (r.drop 1)
      else if c = '=' ∨ c = ':' then
        if key = [] then none
        else do
          let (v, r) ← value r
          read fuel false [] (d.add (.ofList key) (.ofList (Text.trimChars v))) r
      else do
        let (k, r) ← untilChar (fun c => c = '=' || c = ':') false (c :: r)
        read fuel false (Text.trimChars k) d r

def parse? (text : String) : Option Data :=
  let s := text.toList
  (read (s.length + 1) true [] ⟨[], [], none⟩ s).map fun d => .table d.fields

end DocRoot.Settings.Ini
