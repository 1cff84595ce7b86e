import DocRoot.Settings.Format.Yaml.Scalar
import DocRoot.Text.LetterTable
import DocRoot.Text.Lowercase

/-!
# Tokens

Scanning turns a text into tokens. Indentation becomes tokens that open and close
blocks. What may turn out to be a key is remembered as a candidate, and when the colon
comes the token for the key is put in front of it.
-/

set_option autoImplicit false

namespace DocRoot.Settings.Yaml

inductive Token
  | version
  | tagDirective (handle start : String)
  | documentStart
  | documentEnd
  | sequenceStart
  | mappingStart
  | blockEnd
  | flowSequenceStart
  | flowSequenceEnd
  | flowMappingStart
  | flowMappingEnd
  | blockEntry
  | flowEntry
  | key
  | value
  | alias (name : String)
  | anchor (name : String)
  | tag (handle suffix : String)
  | scalar (plain : Bool) (text : String)
  deriving DecidableEq, Repr

/-- A token that a key may begin with. -/
structure Candidate where
  possible : Bool
  required : Bool
  token : Nat
  index : Nat
  line : Nat
  column : Nat

def Candidate.none : Candidate := ⟨false, false, 0, 0, 0, 0⟩

/-- A step of indentation: the column before it, and whether it opened a block. -/
structure Indent where
  before : Int
  isBlock : Bool

structure Scan where
  cursor : Cursor
  /-- The tokens so far, later ones first. -/
  tokens : List Token
  count : Nat
  indent : Int
  indents : List Indent
  /-- A candidate for each open flow collection and one for what is outside of them, the
  innermost first. -/
  candidates : List Candidate
  keyAllowed : Bool
  /-- The place where a colon may follow a key without a blank after it. -/
  adjacent : Nat
  flowMapping : Bool
  /-- For each open flow sequence whether a mapping of one pair is open in it. -/
  pairs : List Bool

namespace Scan

def start (text : List Char) : Scan where
  cursor := .start text
  tokens := []
  count := 0
  indent := -1
  indents := []
  candidates := [.none]
  keyAllowed := true
  adjacent := 0
  flowMapping := false
  pairs := []

def level (s : Scan) : Nat := s.candidates.length - 1
def inFlow (s : Scan) : Bool := s.level != 0
def column (s : Scan) : Int := s.cursor.column

def push (s : Scan) (t : Token) : Scan := { s with tokens := t :: s.tokens, count := s.count + 1 }

/-- Puts a token in front of all but the first `n`. -/
def insert (s : Scan) (n : Nat) (t : Token) : Scan :=
  let later := s.count - n
  { s with tokens := s.tokens.take later ++ t :: s.tokens.drop later, count := s.count + 1 }

/-! ### Indentation -/

def openBlock (s : Scan) (column : Nat) (place : Option Nat) (t : Token) : Scan :=
  if s.inFlow then s
  else
    let s :=
      match s.indents with
      | i :: r =>
        if s.indent ≤ (column : Int) && !i.isBlock then { s with indent := i.before, indents := r }
        else s
      | [] => s
    if s.indent < (column : Int) then
      let s := { s with indents := ⟨s.indent, true⟩ :: s.indents, indent := column }
      match place with
      | some n => s.insert n t
      | none => s.push t
    else s

/-- Goes one column further in without opening a block. -/
def stepIn (s : Scan) : Scan :=
  match s.indents with
  | i :: _ =>
    if !s.inFlow && i.isBlock then
      { s with indents := ⟨s.indent, false⟩ :: s.indents, indent := s.indent + 1 }
    else s
  | [] => s

/-- Takes back the steps that opened no block. -/
def stepOut (s : Scan) : Scan :=
  let rec go : Int → List Indent → Int × List Indent
    | indent, i :: r => if i.isBlock then (indent, i :: r) else go i.before r
    | indent, [] => (indent, [])
  let (indent, indents) := go s.indent s.indents
  { s with indent, indents }

/-- Closes the blocks that are further in than a column. -/
def closeBlocks (s : Scan) (column : Int) : Scan :=
  let rec go : Int → List Indent → Nat → Int × List Indent × Nat
    | indent, i :: r, ends =>
      if column < indent then go i.before r (if i.isBlock then ends + 1 else ends)
      else (indent, i :: r, ends)
    | indent, [], ends => (indent, [], ends)
  if s.inFlow then s
  else
    let (indent, indents, ends) := go s.indent s.indents 0
    { s with
      indent, indents
      tokens := List.replicate ends .blockEnd ++ s.tokens, count := s.count + ends }

/-! ### Candidates for keys -/

def candidate (s : Scan) : Candidate := s.candidates.headD .none

def setCandidate (s : Scan) (c : Candidate) : Scan :=
  { s with candidates := c :: s.candidates.tail }

def saveCandidate (s : Scan) : Scan :=
  if s.keyAllowed then
    let required :=
      !s.inFlow && s.indent == s.column && (s.indents.head?.map (·.isBlock)).getD false
    let c := s.cursor
    s.setCandidate ⟨true, required, s.count, c.index, c.line, c.column⟩
  else s

/-- Gives up the candidate, unless it has to be a key. -/
def dropCandidate (s : Scan) : Option Scan :=
  let c := s.candidate
  if c.possible && c.required then none else some (s.setCandidate { c with possible := false })

/-- Outside of flow collections a key ends on its line and within 1024 characters. -/
def dropStale (s : Scan) : Option Scan := do
  let candidates ← s.candidates.mapM fun c =>
    if c.possible && !s.inFlow
        && (c.line < s.cursor.line || c.index + 1024 < s.cursor.index) then
      if c.required then none else some { c with possible := false }
    else some c
  return { s with candidates }

def allowKey (s : Scan) (allowed : Bool) : Scan := { s with keyAllowed := allowed }

/-! ### Between tokens -/

/-- Moves to the next token. A tab may not indent what is in a block. -/
def skipToNext : (fuel : Nat) → Scan → Option Scan
  | 0, s => some s
  | fuel + 1, s =>
    let cur := s.cursor
    match cur.head? with
    | some c =>
      if c = '\t' && !s.indents.isEmpty && cur.fresh && (cur.column : Int) < s.indent then
        match cur.skipToLineEnd true with
        | some (cur, _) => if cur.atLineEnd then skipToNext fuel { s with cursor := cur } else none
        | none => none
      else if isBlank c then skipToNext fuel { s with cursor := cur.skip 1 }
      else if isBreak c then
        skipToNext fuel { s with cursor := cur.skipBreak, keyAllowed := s.keyAllowed || !s.inFlow }
      else if c = '#' then skipToNext fuel { s with cursor := cur.skipLine }
      else some s
    | none => some s

def next (s : Scan) : Option Scan := skipToNext (s.cursor.rest.length + 1) s

/-- Moves over characters and then to the end of the line, if nothing else is on it. -/
def takeToLineEnd (s : Scan) (n : Nat) : Option Scan :=
  ((s.cursor.take n).skipToLineEnd true).map fun (cursor, _) => { s with cursor }

/-- The spaces, line ends and comments after the mark of a key, of which there has to be
a space or a line end. -/
def skipAfterKey : (fuel : Nat) → (passed : Bool) → Scan → Option Scan
  | 0, _, _ => none
  | fuel + 1, passed, s =>
    let cur := s.cursor
    match cur.head? with
    | some c =>
      if c = ' ' then skipAfterKey fuel true { s with cursor := cur.skip 1 }
      else if isBreak c then
        skipAfterKey fuel true
          { s with cursor := cur.skipBreak, keyAllowed := s.keyAllowed || !s.inFlow }
      else if c = '#' then skipAfterKey fuel passed { s with cursor := cur.skipLine }
      else if passed && c ≠ '\t' then some s
      else none
    | none => if passed then some s else none

/-! ### Flow collections -/

/-- Closes the mapping of one pair that is open in the innermost flow sequence. -/
def closePair (s : Scan) : Scan :=
  match s.pairs with
  | true :: r => ({ s with pairs := false :: r, flowMapping := false }).push .flowMappingEnd
  | _ => s

def deepestFlow : Nat := 255

def openFlow (s : Scan) (isMapping : Bool) : Option Scan := do
  let s := s.saveCandidate.stepIn
  if deepestFlow ≤ s.level then none
  let s := { s with candidates := .none :: s.candidates, keyAllowed := true }
  let s :=
    if isMapping then { s with flowMapping := true } else { s with pairs := false :: s.pairs }
  let s ← s.takeToLineEnd 1
  return s.push (if isMapping then .flowMappingStart else .flowSequenceStart)

def closeFlow (s : Scan) (isMapping : Bool) : Option Scan := do
  let s ← s.dropCandidate
  let s := if s.inFlow then { s with candidates := s.candidates.tail } else s
  let s := s.allowKey false
  let s := if isMapping then s else { s.closePair with pairs := s.pairs.tail }
  let s ← s.takeToLineEnd 1
  let s := if s.inFlow then { s with adjacent := s.cursor.index } else s
  return s.push (if isMapping then .flowMappingEnd else .flowSequenceEnd)

def flowEntry (s : Scan) : Option Scan := do
  let s ← s.dropCandidate
  let s ← (s.allowKey true).closePair.takeToLineEnd 1
  return s.push .flowEntry

/-! ### Entries, keys and values -/

def blockEntry (s : Scan) : Option Scan := do
  if s.inFlow || !s.keyAllowed then none
  let column := s.cursor.column
  let s := ({ s with cursor := s.cursor.take 1 }).openBlock column none .sequenceStart
  let (cursor, passed) ← s.cursor.skipToLineEnd true
  if passed.tab && cursor.head? = some '-' && endsWord cursor.next? then none
  let (cursor, _) ← cursor.skipToLineEnd false
  let s := { s with cursor }
  let s := if (cursor.head?.map fun c => isBreak c || isFlow c).getD false then s.stepIn else s
  let s ← s.dropCandidate
  return (s.allowKey true).push .blockEntry

def explicitKey (s : Scan) : Option Scan := do
  if !s.inFlow && !s.keyAllowed then none
  let s :=
    if s.inFlow then { s with flowMapping := true }
    else s.openBlock s.cursor.column none .mappingStart
  let s := (← s.dropCandidate).allowKey (!s.inFlow)
  let s ← skipAfterKey (s.cursor.rest.length + 2) false { s with cursor := s.cursor.take 1 }
  return s.push .key

def isWordChar (c : Char) : Bool :=
  c.isAlphanum || (0x80 ≤ c.toNat && Text.inRanges Text.letterRanges c)

def value (s : Scan) : Option Scan := do
  let c := s.candidate
  let start := s.cursor
  let isPair := !s.pairs.isEmpty && !s.flowMapping
  let s := if isPair then { s with pairs := true :: s.pairs.tail } else s
  let cursor := start.take 1
  let cursor ←
    if cursor.head? = some '\t' then do
      let (cursor, passed) ← cursor.skipToLineEnd true
      let word := (cursor.head?.map fun d => d = '-' || isWordChar d).getD false
      if !passed.space && word then none else some cursor
    else some cursor
  let s := { s with cursor }
  let s ←
    if c.possible then do
      let s := s.insert c.token .key
      if isPair && c.line < start.line then none
      let s := if isPair then s.insert c.token .flowMappingStart else s
      let s := (s.openBlock c.column (some c.token) .mappingStart).stepIn
      some ((s.setCandidate { c with possible := false }).allowKey false)
    else do
      let s := if isPair then s.push .flowMappingStart else s
      if s.inFlow then some (s.allowKey false)
      else if !s.keyAllowed then none
      else some ((s.openBlock start.column none .mappingStart).stepIn.allowKey true)
  return s.push .value

/-! ### Anchors, tags and directives -/

def isAnchorPart (c : Char) : Bool :=
  !(isBlank c || isBreak c || isFlow c || c.toNat == 0xFEFF)

def anchor (s : Scan) (make : String → Token) : Option Scan := do
  let s := s.saveCandidate.allowKey false
  let cursor := s.cursor.take 1
  let name := cursor.rest.takeWhile isAnchorPart
  if name = [] then none
  return ({ s with cursor := cursor.take name.length }).push (make (.ofList name))

def isUriPart (c : Char) : Bool :=
  c.isAlphanum || c = '-' || "#;/?:@&=+$,_.!~*'()[]%".toList.contains c

def isTagPart (c : Char) : Bool := isUriPart c && !isFlow c && c ≠ '!'

/-- The octets of one character after percent signs, as a number that puts one octet after
the other. -/
def uriEscape : (width code : Nat) → Cursor → Option (Char × Cursor)
  | 0, _, _ => none
  | width + 1, code, cur =>
    match cur.rest with
    | '%' :: a :: b :: _ => do
      let byte := (← Json.Read.hexValue? a) * 16 + (← Json.Read.hexValue? b)
      if byte / 64 ≠ 2 then none
      let code := code * 256 + byte
      let cur := cur.take 3
      if width = 0 then
        if 0x10FFFF < code ∨ (0xD800 ≤ code ∧ code < 0xE000) then none
        else some (Char.ofNat code, cur)
      else uriEscape width code cur
    | _ => none

def uriChar (cur : Cursor) : Option (Char × Cursor) :=
  match cur.rest with
  | '%' :: a :: b :: _ => do
    let byte := (← Json.Read.hexValue? a) * 16 + (← Json.Read.hexValue? b)
    let cur := cur.take 3
    if byte < 0x80 then some (Char.ofNat byte, cur)
    else if byte / 32 = 6 then uriEscape 1 byte cur
    else if byte / 16 = 14 then uriEscape 2 byte cur
    else if byte / 8 = 30 then uriEscape 3 byte cur
    else none
  | '%' :: _ => none
  | c :: _ => some (c, cur.take 1)
  | [] => none

def uri (part : Char → Bool) :
    (fuel : Nat) → (acc : List Char) → Cursor → Option (List Char × Cursor)
  | 0, acc, cur => some (acc, cur)
  | fuel + 1, acc, cur =>
    match cur.head? with
    | some c =>
      if part c then (uriChar cur).bind fun (c, cur) => uri part fuel (acc ++ [c]) cur
      else some (acc, cur)
    | none => some (acc, cur)

def uriOf (part : Char → Bool) (cur : Cursor) : Option (List Char × Cursor) :=
  uri part (cur.rest.length + 1) [] cur

/-- A handle: an exclamation mark, a name and perhaps one more mark. -/
def handle (cur : Cursor) : Option (List Char × Cursor) :=
  match cur.rest with
  | '!' :: r =>
    let name := '!' :: r.takeWhile isNamePart
    let cur := cur.take name.length
    if cur.head? = some '!' then some (name ++ ['!'], cur.take 1) else some (name, cur)
  | _ => none

def isWhole (handle : List Char) : Bool :=
  2 ≤ handle.length && handle.getLast? == some '!'

def tag (s : Scan) : Option Scan := do
  let s := s.saveCandidate.allowKey false
  let cur := s.cursor
  let (handle, suffix, cur) ←
    if cur.next? = some '<' then do
      let (suffix, cur) ← uriOf isUriPart (cur.take 2)
      if cur.head? ≠ some '>' then none
      some ([], suffix, cur.take 1)
    else do
      let (handle, cur) ← handle cur
      let (suffix, after) ← uriOf isTagPart cur
      if isWhole handle then
        if suffix = [] then none else some (handle, suffix, after)
      else
        let suffix := handle.drop 1 ++ suffix
        some (if suffix = [] then ([], ['!'], after) else (['!'], suffix, after))
  let ends := endsWord cur.head? || (s.inFlow && (cur.head?.map isFlow).getD false)
  if !ends then none
  return ({ s with cursor := cur }).push (.tag (.ofList handle) (.ofList suffix))

def skipBlanks (cur : Cursor) : Cursor := cur.skip (cur.rest.takeWhile isBlank).length

/-- A part of a version number, of at most nine digits. -/
def versionPart (cur : Cursor) : Option Cursor :=
  let n := (cur.rest.takeWhile Char.isDigit).length
  if n = 0 ∨ 9 < n then none else some (cur.take n)

def versionDirective (cur : Cursor) : Option Cursor := do
  let cur ← versionPart (skipBlanks cur)
  if cur.head? = some '.' then versionPart (cur.take 1) else none

def tagDirective (cur : Cursor) : Option (Token × Cursor) := do
  let (handle, cur) ← handle (skipBlanks cur)
  if handle ≠ ['!'] && !isWhole handle then none
  let cur := skipBlanks cur
  let c ← cur.head?
  if c ≠ '!' && !isTagPart c then none
  let (first, cur) ← if c = '!' then some (c, cur.take 1) else uriChar cur
  let (rest, cur) ← uriOf isUriPart cur
  if endsWord cur.head? then
    some (.tagDirective (.ofList handle) (.ofList (first :: rest)), cur)
  else none

def directive (s : Scan) : Option Scan := do
  let s := (← (s.closeBlocks (-1)).dropCandidate).allowKey false
  let cur := s.cursor.take 1
  let name := cur.rest.takeWhile isNamePart
  let cur := cur.take name.length
  if name = [] || !endsWord cur.head? then none
  let (token, cur) ←
    if name = "YAML".toList then (versionDirective cur).map fun cur => (Token.version, cur)
    else if name = "TAG".toList then tagDirective cur
    else some (.tagDirective "" "", cur.skipLine)
  let (cur, _) ← cur.skipToLineEnd true
  if !cur.atLineEnd then none
  return ({ s with cursor := cur.skipBreak }).push token

def documentMark (s : Scan) (t : Token) : Option Scan := do
  let s := (← (s.closeBlocks (-1)).dropCandidate).allowKey false
  let s := ({ s with cursor := s.cursor.take 3 }).push t
  if t = .documentEnd then
    let s ← s.takeToLineEnd 0
    if s.cursor.atLineEnd then some s else none
  else some s

/-! ### Scalars -/

def blockScalar (s : Scan) (literal : Bool) : Option Scan := do
  let s := (s.saveCandidate.allowKey true).stepOut
  let (text, cursor) ← block literal s.indent (s.cursor.take 1)
  return ({ s with cursor }).push (.scalar false (.ofList text))

def quotedScalar (s : Scan) (single : Bool) : Option Scan := do
  let s := s.saveCandidate.allowKey false
  let line := s.cursor.line
  let cur := s.cursor.take 1
  let (text, cur) ← quoted single s.indent (cur.rest.length + 2) [] cur
  let (cur, _) ← cur.skipToLineEnd true
  let mayFollow : Bool :=
    match cur.head? with
    | some c =>
      isBreak c || (s.inFlow && (c = ',' || c = '}' || c = ']'))
        || (c = ':' && (s.inFlow || cur.line == line))
    | none => true
  if !mayFollow then none
  let s ← ({ s with cursor := cur }).next
  return ({ s with adjacent := s.cursor.index }).push (.scalar false (.ofList text))

def plainScalar (s : Scan) : Option Scan := do
  let s := (s.saveCandidate.allowKey false).stepOut
  let indent := s.indent + 1
  if s.inFlow && s.column < indent then none
  let (text, cursor) ← plain s.inFlow indent (s.cursor.rest.length + 1) [] .none s.cursor
  let s := if cursor.fresh then s.allowKey true else s
  return ({ s with cursor }).push (.scalar true (.ofList text))

/-! ### The whole text -/

/-- Closes what is open at the end of the text. -/
def finish (s : Scan) : Option Scan := do
  if s.candidates.any fun c => c.required && c.possible then none
  (s.closeBlocks (-1)).dropCandidate

/-- Reads one token that begins with `c`. -/
def token (s : Scan) (c : Char) : Option Scan :=
  let next := s.cursor.next?
  let beforeFlow := s.inFlow && (next.map isFlow).getD false
  if s.cursor.column = 0 ∧ c = '%' then s.directive
  else if s.cursor.column = 0 ∧ Cursor.marks '-' s.cursor.rest then s.documentMark .documentStart
  else if s.cursor.column = 0 ∧ Cursor.marks '.' s.cursor.rest then s.documentMark .documentEnd
  else if s.column < s.indent then none
  else
    match c with
    | '[' => s.openFlow false
    | '{' => s.openFlow true
    | ']' => s.closeFlow false
    | '}' => s.closeFlow true
    | ',' => s.flowEntry
    | '*' => s.anchor .alias
    | '&' => s.anchor .anchor
    | '!' => s.tag
    | '\'' => s.quotedScalar true
    | '"' => s.quotedScalar false
    | '%' => none
    | '@' => none
    | '\x60' => none
    | _ =>
      if c = '-' ∧ endsWord next then s.blockEntry
      else if c = '?' ∧ endsWord next then s.explicitKey
      else if c = ':' ∧ (endsWord next
          ∨ (s.inFlow ∧ (beforeFlow ∨ s.cursor.index = s.adjacent))) then s.value
      else if c = '|' ∧ !s.inFlow then s.blockScalar true
      else if c = '>' ∧ !s.inFlow then s.blockScalar false
      else s.plainScalar

def run : (fuel : Nat) → Scan → Option Scan
  | 0, _ => none
  | fuel + 1, s => do
    let s ← (← s.next).dropStale
    let s := s.closeBlocks s.column
    match s.cursor.head? with
    | none => s.finish
    | some c => run fuel (← s.token c)

end Scan

/-- A character of number zero ends the text. -/
def tokens? (text : String) : Option (List Token) :=
  let s := text.toList.takeWhile (·.toNat ≠ 0)
  (Scan.run (s.length + 2) (.start s)).map fun s => s.tokens.reverse

end DocRoot.Settings.Yaml
