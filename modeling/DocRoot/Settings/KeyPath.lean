import DocRoot.Settings.Value

/-!
# Paths of keys

The key of a top-level field may be a path such as `server.port` or
`serve.index_files[0]`. A key that is no path is taken whole.
-/

set_option autoImplicit false

namespace DocRoot.Settings

inductive KeyStep
  | field (name : String)
  | index (n : Int)
  deriving DecidableEq, Repr

structure KeyPath where
  head : String
  steps : List KeyStep
  deriving DecidableEq, Repr

namespace KeyPath

def isNameChar (c : Char) : Bool :=
  c.isAlphanum || c = ' ' || c = '_' || c = '-'

def skipSpaces (s : List Char) : List Char := s.dropWhile fun c => c = ' ' || c = '\t'

/-- A whole number between spaces. -/
def index? (s : List Char) : Option (Int × List Char) :=
  let s := skipSpaces s
  let (negative, s) :=
    match s with
    | '-' :: r => (true, r)
    | s => (false, s)
  let ds := s.takeWhile Char.isDigit
  if ds = [] then none
  else
    let n : Int := ds.foldl (fun n d => n * 10 + (d.toNat - 48)) 0
    let n := if negative then -n else n
    if Data.isInt n then some (n, skipSpaces (s.dropWhile Char.isDigit)) else none

/-- The steps that make up all of a text. -/
def steps? : (fuel : Nat) → List Char → Option (List KeyStep)
  | _, [] => some []
  | 0, _ => none
  | fuel + 1, '.' :: r =>
    let name := r.takeWhile isNameChar
    if name = [] then none
    else (steps? fuel (r.dropWhile isNameChar)).map (.field (.ofList name) :: ·)
  | fuel + 1, '[' :: r =>
    match index? r with
    | some (n, ']' :: r) => (steps? fuel r).map (.index n :: ·)
    | _ => none
  | _, _ => none

def parse? (key : String) : Option KeyPath :=
  let s := key.toList
  let head := s.takeWhile isNameChar
  if head = [] then none
  else (steps? s.length (s.dropWhile isNameChar)).map (⟨.ofList head, ·⟩)

/-- The path that a key stands for. -/
def ofKey (key : String) : KeyPath := (parse? key).getD ⟨key, []⟩

end KeyPath

namespace Value

def asArray : Value → Value
  | array o items => .array o items
  | _ => .array none []

/-- Changes one item, which the list is made long enough to have. -/
def alterItem (parent : Value) (n : Int) (f : Value → Value) : Value :=
  match asArray parent with
  | array o items =>
    let i := if 0 ≤ n then n.toNat else items.length - n.natAbs
    let items := items ++ List.replicate (i + 1 - items.length) (.nil none)
    .array o (items.modify i f)
  | v => v

/-- Lays a value over the place that the steps lead to. What is in the way of a step is
replaced by an empty table or list. -/
def assignAt (v : Value) : (head : String) → List KeyStep → Value → Value
  | key, [], parent => assign key v parent
  | key, .field name :: r, parent =>
    alterField parent key fun old => assignAt v name r (asTable (old.getD (.nil none)))
  | key, .index n :: r, parent =>
    alterField parent key fun old => assignItem v n r (old.getD (.nil none))
where
  assignItem (v : Value) (n : Int) : List KeyStep → Value → Value
    | [], parent => alterItem parent n fun _ => v
    | .field name :: r, parent => alterItem parent n fun old => assignAt v name r (asTable old)
    | .index m :: r, parent => alterItem parent n fun old => assignItem v m r old

/-- Lays a top-level field over the values so far. -/
def assignKey (key : String) (v : Value) (root : Value) : Value :=
  let path := KeyPath.ofKey key
  assignAt v path.head path.steps root

/-- Lays every field of a settings file over the values so far. -/
def overlay (root : Value) (o : Origin) (fields : List (String × Data)) : Value :=
  fields.foldl (fun root e => assignKey e.1 (ofData o e.2) root) root

end Value

end DocRoot.Settings
