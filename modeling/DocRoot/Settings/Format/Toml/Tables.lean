import DocRoot.Settings.Data

/-!
# Tables that are filled in line by line

A table comes to be by a header of its own, because the header of a table inside it
passed through, or because a dotted key did. How it came to be decides what may still be
put into it: a header takes over a table that headers have passed through, and a dotted
key adds only to a table that dotted keys have made.
-/

set_option autoImplicit false

namespace DocRoot.Settings.Toml

inductive Made
  | header
  | passing
  | dotted
  deriving DecidableEq, Repr

inductive Item
  | value (d : Data)
  | table (made : Made) (fields : List (String × Item))
  /-- The tables of a list, later ones first. -/
  | tables (items : List (List (String × Item)))
  deriving Repr

abbrev Fields := List (String × Item)

namespace Item

def field? (fs : Fields) (key : String) : Option Item := (fs.find? (·.1 == key)).map (·.2)

/-- The fields with one put in place, or added at the end. -/
def put (fs : Fields) (key : String) (x : Item) : Fields :=
  if fs.any (·.1 == key) then fs.map fun e => if e.1 = key then (key, x) else e
  else fs ++ [(key, x)]

/-- Adds a value under a dotted key, which has no field yet. A dotted key passes through
tables that have no header and ends in one that dotted keys have made. -/
def insert (key : String) (d : Data) : (path : List String) → Fields → Option Fields
  | [], fs => if fs.any (·.1 == key) then none else some (fs ++ [(key, .value d)])
  | k :: r, fs =>
    match field? fs k with
    | none => (insert key d r []).map fun inner => put fs k (.table .dotted inner)
    | some (.table made inner) =>
      if made = .header ∨ (r = [] ∧ made = .passing) then none
      else (insert key d r inner).map fun inner => put fs k (.table made inner)
    | some (.tables (last :: before)) =>
      if r = [] then none
      else (insert key d r last).map fun last => put fs k (.tables (last :: before))
    | some _ => none

/-- Changes the fields of the table at a path, through the last table of each list. A
table that is missing on the way is made in passing. -/
def alterAt (f : Fields → Option Fields) : (path : List String) → Fields → Option Fields
  | [], fs => f fs
  | k :: r, fs =>
    match field? fs k with
    | none => (alterAt f r []).map fun inner => put fs k (.table .passing inner)
    | some (.table made inner) =>
      (alterAt f r inner).map fun inner => put fs k (.table made inner)
    | some (.tables (last :: before)) =>
      (alterAt f r last).map fun last => put fs k (.tables (last :: before))
    | some _ => none

/-- Opens the table of a header. -/
def openTable (key : String) (fs : Fields) : Option Fields :=
  match field? fs key with
  | none => some (put fs key (.table .header []))
  | some (.table .passing inner) => some (put fs key (.table .header inner))
  | some _ => none

/-- Opens one more table of a list. -/
def openElement (key : String) (fs : Fields) : Option Fields :=
  match field? fs key with
  | none => some (put fs key (.tables [[]]))
  | some (.tables items) => some (put fs key (.tables ([] :: items)))
  | some _ => none

mutual

def data : Item → Data
  | .value d => d
  | .table _ fs => .table (fieldsData fs)
  | .tables items => .array (tablesData items).reverse

def fieldsData : List (String × Item) → List (String × Data)
  | [] => []
  | (k, x) :: r => (k, data x) :: fieldsData r

def tablesData : List (List (String × Item)) → List Data
  | [] => []
  | fs :: r => .table (fieldsData fs) :: tablesData r

end

end Item

end DocRoot.Settings.Toml
