import DocRoot.Decimal.Shortest

/-!
# JSON values and their text

A whole number is kept apart from the others, so that it stays exact. The text is
compact and on one line: every control character of a string is written as an escape.
-/

set_option autoImplicit false

namespace DocRoot

inductive Json
  | null
  | bool (b : Bool)
  | number (n : Int)
  | real (x : Binary64)
  | text (s : String)
  | array (items : List Json)
  | object (fields : List (String × Json))
  deriving Repr

namespace Json

def hexDigit (n : Nat) : Char := Char.ofNat (if n < 10 then 0x30 + n else 0x57 + n)

def escapeChar (c : Char) : List Char :=
  if c = '"' then ['\\', '"']
  else if c = '\\' then ['\\', '\\']
  else if c = '\x08' then ['\\', 'b']
  else if c = '\x0c' then ['\\', 'f']
  else if c = '\n' then ['\\', 'n']
  else if c = '\r' then ['\\', 'r']
  else if c = '\t' then ['\\', 't']
  else if c.toNat < 0x20 then
    ['\\', 'u', '0', '0', hexDigit (c.toNat / 16), hexDigit (c.toNat % 16)]
  else [c]

def quote (s : String) : String := String.ofList ('"' :: (s.toList.flatMap escapeChar ++ ['"']))

mutual

def print : Json → String
  | null => "null"
  | bool b => if b then "true" else "false"
  | number n => toString n
  | real x => x.text
  | text s => quote s
  | array items => "[" ++ printItems items ++ "]"
  | object fields => "\x7b" ++ printFields fields ++ "\x7d"

def printItems : List Json → String
  | [] => ""
  | [x] => print x
  | x :: y :: r => print x ++ "," ++ printItems (y :: r)

def printFields : List (String × Json) → String
  | [] => ""
  | [(k, x)] => quote k ++ ":" ++ print x
  | (k, x) :: f :: r => quote k ++ ":" ++ print x ++ "," ++ printFields (f :: r)

end

def optionalText : Option String → Json
  | some s => .text s
  | none => .null

end Json

end DocRoot
