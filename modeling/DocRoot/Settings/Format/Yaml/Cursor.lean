/-!
# A place in a text

A cursor knows its line and its column, and whether nothing but blanks stands in front
of it on the line, which is where indentation counts.
-/

set_option autoImplicit false

namespace DocRoot.Settings.Yaml

def isBlank (c : Char) : Bool := c = ' ' || c = '\t'
def isBreak (c : Char) : Bool := c = '\n' || c = '\r'
def isFlow (c : Char) : Bool := c = ',' || c = '[' || c = ']' || c = '{' || c = '}'

/-- The characters of handles and names of directives. -/
def isNamePart (c : Char) : Bool := c.isAlphanum || c = '_' || c = '-'

/-- Whether a character, or the end of the text, ends a word. -/
def endsWord : Option Char → Bool
  | some c => isBlank c || isBreak c
  | none => true

def endsLine : Option Char → Bool
  | some c => isBreak c
  | none => true

structure Cursor where
  rest : List Char
  index : Nat
  line : Nat
  column : Nat
  fresh : Bool

namespace Cursor

def start (text : List Char) : Cursor := ⟨text, 0, 0, 0, true⟩

def head? (c : Cursor) : Option Char := c.rest.head?
def next? (c : Cursor) : Option Char := c.rest[1]?

/-- Moves over characters that leave the indentation as it is. -/
def skip (c : Cursor) (n : Nat) : Cursor :=
  { c with rest := c.rest.drop n, index := c.index + n, column := c.column + n }

/-- Moves over characters that are no blanks. -/
def take (c : Cursor) (n : Nat) : Cursor :=
  if n = 0 then c else { c.skip n with fresh := false }

/-- Moves over one line end. -/
def skipBreak (c : Cursor) : Cursor :=
  match c.rest with
  | '\r' :: '\n' :: r => ⟨r, c.index + 2, c.line + 1, 0, true⟩
  | _ :: r => ⟨r, c.index + 1, c.line + 1, 0, true⟩
  | [] => c

/-- Moves to the end of the line. -/
def skipLine (c : Cursor) : Cursor := c.take (c.rest.takeWhile (!isBreak ·)).length

/-- What was passed on the way to the next token of a line. -/
structure Passed where
  tab : Bool
  space : Bool

/-- Moves over blanks and a comment after them; with `tabs`, tabs are blanks. A comment
that no blank stands in front of is none. -/
def skipToLineEnd (c : Cursor) (tabs : Bool) : Option (Cursor × Passed) :=
  let blanks := c.rest.takeWhile fun d => d = ' ' || (tabs && d = '\t')
  let after := c.skip blanks.length
  let passed : Passed := ⟨blanks.contains '\t', blanks.contains ' '⟩
  if after.head? = some '#' then
    if blanks = [] then none else some (after.skipLine, passed)
  else some (after, passed)

def atLineEnd (c : Cursor) : Bool := endsLine c.head?

def marks (mark : Char) : List Char → Bool
  | x :: y :: z :: r => x = mark && y = mark && z = mark && endsWord r.head?
  | _ => false

def atDocumentEnd (c : Cursor) : Bool := c.column == 0 && marks '.' c.rest

/-- Whether a mark that starts or ends a document stands here. -/
def atDocumentMark (c : Cursor) : Bool :=
  c.column == 0 && (marks '-' c.rest || marks '.' c.rest)

end Cursor

end DocRoot.Settings.Yaml
