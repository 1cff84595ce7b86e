import DocRoot.Decimal.Binary64
import DocRoot.Json.Reader

/-!
# Data of a settings file

Every format of settings file is read as the same data: nothing, truth values, whole
numbers of 64 bits, other numbers, texts, lists and tables.
-/

set_option autoImplicit false

namespace DocRoot.Settings

inductive Data
  | nil
  | bool (b : Bool)
  | int (n : Int)
  | float (x : Binary64)
  | text (s : String)
  | array (items : List Data)
  | table (fields : List (String × Data))
  deriving Repr

namespace Data

def leastInt : Int := -9223372036854775808
def mostInt : Int := 9223372036854775807

def isInt (n : Int) : Bool := leastInt ≤ n && n ≤ mostInt

/-- The fields without those that a later one of the same name replaces. -/
def keepLast {α : Type} : List (String × α) → List (String × α)
  | [] => []
  | e :: r => if r.any (·.1 == e.1) then keepLast r else e :: keepLast r

mutual

def ofJson : Json → Data
  | .null => .nil
  | .bool b => .bool b
  | .number n => if isInt n then .int n else .float (Binary64.ofNat n.toNat)
  | .real x => .float x
  | .text s => .text s
  | .array items => .array (ofJsonItems items)
  | .object fields => .table (keepLast (ofJsonFields fields))

def ofJsonItems : List Json → List Data
  | [] => []
  | x :: r => ofJson x :: ofJsonItems r

def ofJsonFields : List (String × Json) → List (String × Data)
  | [] => []
  | (k, x) :: r => (k, ofJson x) :: ofJsonFields r

end

end Data

end DocRoot.Settings
