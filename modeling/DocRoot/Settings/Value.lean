import DocRoot.Settings.Data
import DocRoot.Text.Lowercase

/-!
# Values being laid over each other

Settings are laid over the defaults one field at a time. A value knows the file that
it was read from; one that was made in passing knows none.
-/

set_option autoImplicit false

namespace DocRoot.Settings

abbrev Origin := Option String

inductive Value
  | nil (origin : Origin)
  | bool (origin : Origin) (b : Bool)
  | int (origin : Origin) (n : Int)
  | float (origin : Origin) (x : Binary64)
  | text (origin : Origin) (s : String)
  | array (origin : Origin) (items : List Value)
  | table (origin : Origin) (fields : List (String × Value))
  deriving Repr

namespace Value

def emptyTable : Value := .table none []

def origin : Value → Origin
  | nil o => o
  | bool o _ => o
  | int o _ => o
  | float o _ => o
  | text o _ => o
  | array o _ => o
  | table o _ => o

mutual

def ofData (o : Origin) : Data → Value
  | .nil => .nil o
  | .bool b => .bool o b
  | .int n => .int o n
  | .float x => .float o x
  | .text s => .text o s
  | .array items => .array o (ofItems o items)
  | .table fields => .table o (ofFields o fields)

def ofItems (o : Origin) : List Data → List Value
  | [] => []
  | x :: r => ofData o x :: ofItems o r

def ofFields (o : Origin) : List (String × Data) → List (String × Value)
  | [] => []
  | (k, x) :: r => (k, ofData o x) :: ofFields o r

end

/-- The last field with this name. -/
def field? (fields : List (String × Value)) (key : String) : Option Value :=
  (fields.reverse.find? (·.1 == key)).map (·.2)

def fields : Value → List (String × Value)
  | table _ fs => fs
  | _ => []

/-- The fields with one of them changed, or added at the end. -/
def alter (fs : List (String × Value)) (key : String) (f : Option Value → Value) :
    List (String × Value) :=
  if fs.any (·.1 == key) then fs.map fun e => if e.1 = key then (e.1, f (some e.2)) else e
  else fs ++ [(key, f none)]

/-- The value as a table; what is none becomes an empty one. -/
def asTable : Value → Value
  | table o fs => .table o fs
  | _ => emptyTable

def alterField (parent : Value) (key : String) (f : Option Value → Value) : Value :=
  match asTable parent with
  | table o fs => .table o (alter fs (Text.lowercase key) f)
  | v => v

mutual

/-- Lays a value over the field of a table. A table is laid over it field by field, and
anything else takes its place. -/
def assign (key : String) : Value → Value → Value
  | .table _ incoming, parent =>
    alterField parent key fun old => assignAll incoming (old.getD emptyTable)
  | v, parent => alterField parent key fun _ => v

def assignAll : List (String × Value) → Value → Value
  | [], target => target
  | (k, v) :: r, target => assignAll r (assign k v target)

end

end Value

end DocRoot.Settings
