import DocRoot.Utf8

/-!
# Names and paths

A name is a byte string between slashes. A path is walked as its list of steps, and an
empty step or `.` stays where it is. `segments` keeps every piece of a text, so the list
is as long as the text. `steps` drops the empty pieces, and a slash at the end counts as
a last step `.`, because it asks for a directory.
-/

set_option autoImplicit false

namespace DocRoot

abbrev Name := Bytes

/-- The place of a node, as the names that lead to it from the top. -/
abbrev Location := List Name

namespace Path

def slash : UInt8 := 0x2F
def dot : Name := [0x2E]
def dotdot : Name := [0x2E, 0x2E]

def isAbsolute (raw : Bytes) : Bool := raw.head? == some slash

def endsInSlash (raw : Bytes) : Bool := raw.getLast? == some slash

/-- The pieces that hold a name. -/
def pieces (raw : Bytes) : List Name := (raw.splitOn slash).filter (· ≠ [])

def steps (raw : Bytes) : List Name :=
  pieces raw ++ if endsInSlash raw && !(pieces raw).isEmpty then [dot] else []

/-- What stands between the slashes of a text, the slash in front of it left out. -/
def segments (raw : Bytes) : List Name :=
  if isAbsolute raw then (raw.splitOn slash).tail else raw.splitOn slash

/-- The steps of `raw` seen from a directory with the given steps. -/
def join (dir : List Name) (raw : Bytes) : List Name :=
  if isAbsolute raw then segments raw else dir ++ segments raw

/-- A step that leads nowhere. -/
def stays (s : Name) : Bool := s = [] ∨ s = dot

theorem stays_eq_false_iff {s : Name} : stays s = false ↔ s ≠ [] ∧ s ≠ dot := by
  simp [stays]

/-- Whether steps can only follow a directory: a slash at the end or `..` does, a name
does not say so before it is looked up. -/
def asksDirectory (rest : List Name) : Bool :=
  !rest.isEmpty && (rest.dropWhile stays).head?.all (· = dotdot)

/-- The number of bytes of the text that spells the steps from the top. -/
def textLength : List Name → Nat
  | [] => 0
  | s :: rest => s.length + 1 + textLength rest

@[simp] theorem textLength_nil : textLength [] = 0 := rfl

@[simp] theorem textLength_append (p q : List Name) :
    textLength (p ++ q) = textLength p + textLength q := by
  induction p with
  | nil => simp
  | cons s p ih => simp [textLength, ih, Nat.add_assoc]

/-- The last name, where the steps end in one. -/
def lastName? (steps : List Name) : Option Name :=
  (steps.filter (!stays ·)).getLast?.filter (· ≠ dotdot)

/-- What follows the last dot of a name, unless that dot is the first byte. -/
def extension? (n : Name) : Option Bytes :=
  let tail := n.reverse.takeWhile (· ≠ 0x2E)
  if tail.length + 1 < n.length then some tail.reverse else none

end Path

namespace Location

/-- The text of a location, undecodable parts replaced. -/
def display (l : Location) : String :=
  match l with
  | [] => "/"
  | _ => Utf8.lossy (l.flatMap fun n => Path.slash :: n)

@[simp] theorem display_nil : display [] = "/" := rfl

/-- Whether `l` is `root` or lies below it, name by name. -/
def isWithin (root l : Location) : Bool := root.isPrefixOf l

theorem isWithin_iff (root l : Location) : isWithin root l = true ↔ root <+: l :=
  List.isPrefixOf_iff_prefix

end Location

end DocRoot
