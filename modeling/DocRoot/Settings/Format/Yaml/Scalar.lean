import DocRoot.Json.Reader
import DocRoot.Settings.Format.Yaml.Cursor

/-!
# Scalars

A scalar is written plain, between quotes or as a block of lines. Lines of plain and
quoted scalars are folded: a single line end reads as a space, and of several all but
the first are kept.
-/

set_option autoImplicit false

namespace DocRoot.Settings.Yaml

/-- The blanks and line ends inside a scalar that nothing has followed yet. -/
structure Gap where
  /-- Whether there was a line end. -/
  broken : Bool
  /-- Whether the first line end is among those counted. -/
  first : Bool
  /-- The line ends after the first. -/
  breaks : Nat
  blanks : List Char

namespace Gap

def none : Gap := ⟨false, false, 0, []⟩

/-- What the gap reads as. -/
def text (g : Gap) : List Char :=
  if g.broken then
    if g.first && g.breaks = 0 then [' '] else List.replicate g.breaks '\n'
  else g.blanks

def addBlank (g : Gap) (c : Char) : Gap := { g with blanks := g.blanks ++ [c] }

def addBreak (g : Gap) : Gap :=
  if g.broken then { g with breaks := g.breaks + 1 } else ⟨true, true, 0, []⟩

end Gap

/-! ### Plain scalars -/

/-- Whether a plain scalar may go on with `c` when `next` follows. -/
def isPlainPart (inFlow : Bool) (c : Char) (next : Option Char) : Bool :=
  if c = ':' then !(endsWord next || (inFlow && (next.map isFlow).getD false))
  else !(inFlow && isFlow c)

def plainWord (inFlow : Bool) : List Char → List Char
  | [] => []
  | c :: r =>
    if endsWord (some c) || !isPlainPart inFlow c r.head? then [] else c :: plainWord inFlow r

/-- Passes blanks and line ends inside a plain scalar. A tab may not indent a line. -/
def plainGap (indent : Int) : (fuel : Nat) → Gap → Cursor → Option (Gap × Cursor)
  | 0, g, cur => some (g, cur)
  | fuel + 1, g, cur =>
    match cur.head? with
    | some c =>
      if isBreak c then plainGap indent fuel g.addBreak cur.skipBreak
      else if !isBlank c then some (g, cur)
      else if !cur.fresh then plainGap indent fuel (g.addBlank c) (cur.skip 1)
      else if (cur.column : Int) < indent ∧ c = '\t' then
        match cur.skipToLineEnd true with
        | some (cur, _) => if cur.atLineEnd then plainGap indent fuel g cur else none
        | none => none
      else plainGap indent fuel g (cur.skip 1)
    | none => some (g, cur)

/-- A plain scalar whose further lines are indented at least as far as `indent`. The text
so far is kept last character first. -/
def plain (inFlow : Bool) (indent : Int) : (fuel : Nat) → (acc : List Char) → Gap → Cursor →
    Option (List Char × Cursor)
  | 0, acc, _, cur => some (acc.reverse, cur)
  | fuel + 1, acc, gap, cur =>
    if cur.atDocumentMark ∨ cur.head? = some '#' then some (acc.reverse, cur)
    else if inFlow && cur.head? = some '-' && (cur.next?.map isFlow).getD false then none
    else
      let word := plainWord inFlow cur.rest
      let acc := if word = [] then acc else word.reverse ++ (gap.text.reverse ++ acc)
      let gap := if word = [] then gap else .none
      let cur := cur.take word.length
      match cur.head? with
      | none => some (acc.reverse, cur)
      | some c =>
        if !(isBlank c || isBreak c) then some (acc.reverse, cur)
        else do
          let (gap, cur) ← plainGap indent (fuel + 1) gap cur
          if !inFlow ∧ (cur.column : Int) < indent then return (acc.reverse, cur)
          else plain inFlow indent fuel acc gap cur

/-! ### Quoted scalars -/

/-- The character that an escape stands for, with the digits that spell it, or none. -/
def escape? : Char → Option (Option Char × Nat)
  | '0' => some (some '\x00', 0)
  | 'a' => some (some '\x07', 0)
  | 'b' => some (some '\x08', 0)
  | 't' => some (some '\t', 0)
  | '\t' => some (some '\t', 0)
  | 'n' => some (some '\n', 0)
  | 'v' => some (some '\x0b', 0)
  | 'f' => some (some '\x0c', 0)
  | 'r' => some (some '\r', 0)
  | 'e' => some (some '\x1b', 0)
  | ' ' => some (some ' ', 0)
  | '"' => some (some '"', 0)
  | '/' => some (some '/', 0)
  | '\\' => some (some '\\', 0)
  | 'N' => some (some '\u0085', 0)
  | '_' => some (some '\u00a0', 0)
  | 'L' => some (some '\u2028', 0)
  | 'P' => some (some '\u2029', 0)
  | 'x' => some (none, 2)
  | 'u' => some (none, 4)
  | 'U' => some (none, 8)
  | _ => none

/-- The character with the number that `count` hexadecimal digits spell. -/
def numbered? (count : Nat) (s : List Char) : Option Char := do
  let ds := s.take count
  if ds.length < count then none
  let n ← ds.foldlM (fun n d => (Json.Read.hexValue? d).map (n * 16 + ·)) 0
  if 0x10FFFF < n ∨ (0xD800 ≤ n ∧ n < 0xE000) then none else some (Char.ofNat n)

/-- The characters up to a blank, a line end or the closing quote, last character first in
front of those before them, and whether they end in an escaped line end. -/
def quotedWord (single : Bool) : (fuel : Nat) → (acc : List Char) → Cursor →
    Option (List Char × Cursor × Bool)
  | 0, acc, cur => some (acc, cur, false)
  | fuel + 1, acc, cur =>
    match cur.rest with
    | [] => some (acc, cur, false)
    | c :: r =>
      if endsWord (some c) then some (acc, cur, false)
      else if single then
        if c = '\'' then
          if r.head? = some '\'' then quotedWord single fuel ('\'' :: acc) (cur.take 2)
          else some (acc, cur, false)
        else quotedWord single fuel (c :: acc) (cur.take 1)
      else if c = '"' then some (acc, cur, false)
      else if c = '\\' then
        match r with
        | [] => none
        | e :: r =>
          if isBreak e then some (acc, (cur.take 1).skipBreak, true)
          else
            match escape? e with
            | none => none
            | some (some d, _) => quotedWord single fuel (d :: acc) (cur.take 2)
            | some (none, count) =>
              (numbered? count r).bind fun d =>
                quotedWord single fuel (d :: acc) (cur.take (2 + count))
      else quotedWord single fuel (c :: acc) (cur.take 1)

/-- Passes blanks and line ends between quotes. -/
def quotedGap (indent : Int) : (fuel : Nat) → Gap → Cursor → Option (Gap × Cursor)
  | 0, g, cur => some (g, cur)
  | fuel + 1, g, cur =>
    match cur.head? with
    | some c =>
      if isBreak c then quotedGap indent fuel g.addBreak cur.skipBreak
      else if !isBlank c then some (g, cur)
      else if !g.broken then quotedGap indent fuel (g.addBlank c) (cur.skip 1)
      else if c = '\t' ∧ (cur.column : Int) < indent then none
      else quotedGap indent fuel g (cur.skip 1)
    | none => some (g, cur)

/-- A quoted scalar after its opening quote. Its lines are indented at least as far as
`indent`, and no mark of a document may stand in it. The text so far is kept last
character first. -/
def quoted (single : Bool) (indent : Int) : (fuel : Nat) → (acc : List Char) → Cursor →
    Option (List Char × Cursor)
  | 0, _, _ => none
  | fuel + 1, acc, cur =>
    if cur.atDocumentMark ∨ cur.head? = none ∨ (cur.column : Int) < indent then none
    else do
      let (acc, cur, escaped) ← quotedWord single (fuel + 1) acc cur
      if cur.head? = some (if single then '\'' else '"') then return (acc.reverse, cur.take 1)
      let (gap, cur) ← quotedGap indent (fuel + 1) { Gap.none with broken := escaped } cur
      quoted single indent fuel (gap.text.reverse ++ acc) cur

/-! ### Block scalars -/

inductive Chomping
  | clip
  | strip
  | keep
  deriving DecidableEq, Repr

def chomping? : Char → Option Chomping
  | '+' => some .keep
  | '-' => some .strip
  | _ => none

/-- The signs after the mark of a block: what becomes of its last line ends, and how far it
is indented, or zero. -/
def blockHeader (cur : Cursor) : Option (Chomping × Nat × Cursor) :=
  let digit? (cur : Cursor) : Option (Option Nat) :=
    match cur.head? with
    | some c =>
      if c = '0' then none else if c.isDigit then some (some (c.toNat - 48)) else some none
    | none => some none
  match cur.head?.bind chomping? with
  | some chomping => do
    let cur := cur.take 1
    match ← digit? cur with
    | some n => return (chomping, n, cur.take 1)
    | none => return (chomping, 0, cur)
  | none => do
    match ← digit? cur with
    | some n =>
      let cur := cur.take 1
      match cur.head?.bind chomping? with
      | some chomping => return (chomping, n, cur.take 1)
      | none => return (.clip, n, cur)
    | none => return (.clip, 0, cur)

/-- Passes the spaces of a line up to the column `indent`, and lines that have no more. -/
def blockIndent (indent : Nat) : (fuel breaks : Nat) → Cursor → Nat × Cursor
  | 0, breaks, cur => (breaks, cur)
  | fuel + 1, breaks, cur =>
    let cur := cur.skip ((cur.rest.take (indent - cur.column)).takeWhile (· = ' ')).length
    match cur.head? with
    | some c =>
      if isBreak c then blockIndent indent fuel (breaks + 1) cur.skipBreak else (breaks, cur)
    | none => (breaks, cur)

/-- Passes the spaces in front of the first line with content, and finds the greatest
column reached. -/
def firstIndent : (fuel breaks most : Nat) → Cursor → Nat × Nat × Cursor
  | 0, breaks, most, cur => (breaks, most, cur)
  | fuel + 1, breaks, most, cur =>
    let cur := cur.skip (cur.rest.takeWhile (· = ' ')).length
    let most := max most cur.column
    match cur.head? with
    | some c =>
      if isBreak c then firstIndent fuel (breaks + 1) most cur.skipBreak else (breaks, most, cur)
    | none => (breaks, most, cur)

def newlines (n : Nat) : List Char := List.replicate n '\n'

/-- What has been read of a block: its text, last character first, whether a line end
follows it, how many more do, and whether its last line began with a blank. -/
structure Block where
  text : List Char
  ended : Bool
  breaks : Nat
  blankLine : Bool

/-- Reads the lines that begin at the column `indent`. -/
def blockLines (literal : Bool) (indent : Nat) : (fuel : Nat) → Block → Cursor → Block × Cursor
  | 0, b, cur => (b, cur)
  | fuel + 1, b, cur =>
    match cur.head? with
    | none => (b, cur)
    | some c =>
      if cur.column ≠ indent ∨ (indent = 0 ∧ cur.atDocumentEnd) then (b, cur)
      else
        let blank := isBlank c
        let gap :=
          if !literal ∧ b.ended ∧ !b.blankLine ∧ !blank then
            if b.breaks = 0 then [' '] else newlines b.breaks
          else (if b.ended then ['\n'] else []) ++ newlines b.breaks
        let line := cur.rest.takeWhile (!isBreak ·)
        let text := line.reverse ++ (gap.reverse ++ b.text)
        let cur := cur.skip line.length
        match cur.head? with
        | none => (⟨text, false, 0, blank⟩, cur)
        | some _ =>
          let cur := cur.skipBreak
          let (breaks, cur) := blockIndent indent (fuel + 1) 0 cur
          blockLines literal indent fuel ⟨text, true, breaks, blank⟩ cur

/-- A block scalar after its mark, inside of what is indented by `parent`. -/
def block (literal : Bool) (parent : Int) (cur : Cursor) : Option (List Char × Cursor) := do
  let line := cur.line
  let (chomping, increment, cur) ← blockHeader cur
  let (cur, _) ← cur.skipToLineEnd true
  if !cur.atLineEnd then none
  let broken := cur.head?.isSome
  let cur := if broken then cur.skipBreak else cur
  if cur.head? = some '\t' then none
  let fuel := cur.rest.length + 1
  let (indent, breaks, cur) :=
    if increment = 0 then
      let (breaks, most, cur) := firstIndent fuel 0 0 cur
      let indent := max most (parent + 1).toNat
      (if 0 < parent then max indent 1 else indent, breaks, cur)
    else
      let indent := if 0 ≤ parent then parent.toNat + increment else increment
      let (breaks, cur) := blockIndent indent fuel 0 cur
      (indent, breaks, cur)
  if cur.head? = none then
    let text :=
      if chomping = .strip ∨ cur.line = line then []
      else if chomping = .clip ∨ breaks = 0 then (if broken then ['\n'] else [])
      else newlines breaks
    return (text, cur)
  if cur.column < indent ∧ parent < cur.column then none
  let (b, cur) := blockLines literal indent fuel ⟨[], false, breaks, false⟩ cur
  let lines := b.text.reverse
  let last := if b.ended then ['\n'] else []
  let ending := if cur.head? = none ∧ max indent 1 ≤ cur.column then ['\n'] else []
  match chomping with
  | .strip => return (lines, cur)
  | .clip => return (lines ++ last ++ ending, cur)
  | .keep => return (lines ++ last ++ ending ++ newlines b.breaks, cur)

end DocRoot.Settings.Yaml
