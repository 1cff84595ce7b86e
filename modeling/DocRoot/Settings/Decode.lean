import DocRoot.Decimal.Shortest
import DocRoot.Settings.Basic
import DocRoot.Settings.Value
import DocRoot.Text.Quoted

/-!
# From values to settings

A field takes its value from any kind of value that can stand for it: truth values,
numbers and texts turn into each other by fixed rules. A section may be a table or a
list of its fields in order. What does not fit is named with its key and its file.
-/

set_option autoImplicit false

namespace DocRoot.Settings

/-- What was found where something else was expected. -/
inductive Found
  | nothing
  | truth (b : Bool)
  | signed (n : Int)
  | unsigned (n : Nat)
  | whole (n : Int)
  | fractional (x : Binary64)
  | text (s : String)
  | list
  | table
  deriving Repr

namespace Found

/-- A number with a point in it. -/
def pointed (x : Binary64) : String :=
  match x with
  | .finite _ _ _ => if x.text.toList.contains '.' then x.text else x.text ++ ".0"
  | _ => x.text

def label : Found → String
  | nothing => "unit value"
  | truth b => "boolean `" ++ (if b then "true" else "false") ++ "`"
  | signed n => "64-bit integer `" ++ toString n ++ "`"
  | unsigned n => "64-bit unsigned integer `" ++ toString n ++ "`"
  | whole n => "integer `" ++ toString n ++ "`"
  | fractional x => "floating point `" ++ pointed x ++ "`"
  | text s => "string " ++ Text.quote s
  | list => "sequence"
  | table => "map"

end Found

inductive LoadError
  /-- The text is not of its format, or is no table. -/
  | unreadable
  /-- A table has a key that is neither a text nor a whole number. The program stops. -/
  | foreignKey
  /-- A field of a wrong type. -/
  | field (found : Found) (expected key : String) (origin : Origin)
  /-- A section or a list that is none. -/
  | shape (found : Found) (expected : String)
  deriving Repr

namespace LoadError

def message : LoadError → String
  | unreadable => "malformed settings file"
  | foreignKey => "internal error: entered unreachable code"
  | field found expected key origin =>
    "invalid type: " ++ found.label ++ ", expected " ++ expected ++ " for key `" ++ key ++ "`"
      ++ (match origin with
        | some file => " in " ++ file
        | none => "")
  | shape found expected => "invalid type: " ++ found.label ++ ", expected " ++ expected

end LoadError

namespace Value

/-- What a value is called where a list or a section was expected. -/
def shapeFound : Value → Found
  | nil _ => .nothing
  | bool _ b => .truth b
  | int _ n => .whole n
  | float _ x => .fractional x
  | text _ s => .text s
  | array _ _ => .list
  | table _ _ => .table

def truthWords : List String := ["true", "on", "yes"]
def falsehoodWords : List String := ["false", "off", "no"]

def mostWord : Nat := 18446744073709551615

/-- Decimal digits after an optional plus sign, within 64 bits. -/
def wordOf? (s : String) : Option Nat :=
  let ds :=
    match s.toList with
    | '+' :: r => r
    | r => r
  if ds = [] ∨ !ds.all Char.isDigit then none
  else
    let n := ds.foldl (fun n d => n * 10 + (d.toNat - 48)) 0
    if n ≤ mostWord then some n else none

def toWord (key : String) : Value → Except LoadError Nat
  | bool _ b => .ok (if b then 1 else 0)
  | int o n =>
    if n < 0 then .error (.field (.signed n) "an unsigned 64 bit or less integer" key o)
    else .ok n.toNat
  | float _ x => .ok (x.roundToNat mostWord)
  | text o s =>
    let word := Text.lowercase s
    if truthWords.contains word then .ok 1
    else if falsehoodWords.contains word then .ok 0
    else
      match wordOf? s with
      | some n => .ok n
      | none => .error (.field (.text s) "an integer" key o)
  | nil o => .error (.field .nothing "an integer" key o)
  | array o _ => .error (.field .list "an integer" key o)
  | table o _ => .error (.field .table "an integer" key o)

def toUInt64 (key : String) (v : Value) : Except LoadError UInt64 :=
  (v.toWord key).map UInt64.ofNat

def toPort (key : String) (v : Value) : Except LoadError UInt16 := do
  let n ← v.toWord key
  if n < 65536 then return .ofNat n
  else throw (.field (.unsigned n) "an unsigned 16 bit integer" key none)

def toBool (key : String) : Value → Except LoadError Bool
  | bool _ b => .ok b
  | int _ n => .ok (n != 0)
  | float _ x => .ok (!x.isZero)
  | text o s =>
    let word := Text.lowercase s
    if word = "1" ∨ truthWords.contains word then .ok true
    else if word = "0" ∨ falsehoodWords.contains word then .ok false
    else .error (.field (.text word) "a boolean" key o)
  | nil o => .error (.field .nothing "a boolean" key o)
  | array o _ => .error (.field .list "a boolean" key o)
  | table o _ => .error (.field .table "a boolean" key o)

def toText (key : String) : Value → Except LoadError String
  | text _ s => .ok s
  | bool _ b => .ok (if b then "true" else "false")
  | int _ n => .ok (toString n)
  | float _ x => .ok x.text
  | nil o => .error (.field .nothing "a string" key o)
  | array o _ => .error (.field .list "a string" key o)
  | table o _ => .error (.field .table "a string" key o)

/-- A field that may be left empty. -/
def toOption {α : Type} (read : String → Value → Except LoadError α) (key : String) :
    Value → Except LoadError (Option α)
  | nil _ => .ok none
  | v => (read key v).map some

def toTextItems (key : String) : (i : Nat) → List Value → Except LoadError (List String)
  | _, [] => .ok []
  | i, v :: r => do
    let s ← v.toText (key ++ "[" ++ toString i ++ "]")
    return s :: (← toTextItems key (i + 1) r)

def toTexts (key : String) : Value → Except LoadError (List String)
  | array _ items => toTextItems key 0 items
  | v => .error (.shape v.shapeFound "a sequence")

/-- A section, which gives a field by its name or its place, with the key to name it by. -/
structure Section where
  field? : (name : String) → (place : Nat) → Option (String × Value)

/-- The section under a name; one that is missing has no fields. -/
def sectionOf (name label : String) : Option Value → Except LoadError Section
  | none => .ok ⟨fun _ _ => none⟩
  | some (table _ fs) => .ok ⟨fun n _ => (Value.field? fs n).map (name ++ "." ++ n, ·)⟩
  | some (array _ items) =>
    .ok ⟨fun _ i => items[i]?.map (name ++ "[" ++ toString i ++ "]", ·)⟩
  | some v => .error (.shape v.shapeFound ("struct " ++ label))

/-- A field of a section, or what it is when nothing is said. -/
def Section.get {α : Type} (s : Section) (name : String) (place : Nat) (default : α)
    (read : String → Value → Except LoadError α) : Except LoadError α :=
  match s.field? name place with
  | some (key, v) => read key v
  | none => .ok default

end Value

open Value in
def ofValue (v : Value) : Except LoadError Settings := do
  let fs := v.fields
  let d := defaults
  let s ← sectionOf "server" "ServerConfig" (Value.field? fs "server")
  let host ← s.get "host" 0 d.server.host toText
  let port ← s.get "port" 1 d.server.port toPort
  let workers ← s.get "workers" 2 d.server.workers (toOption toUInt64)
  let l ← sectionOf "logging" "LoggingConfig" (Value.field? fs "logging")
  let accessLog ← l.get "access_log" 0 d.logging.accessLog toBool
  let format ← l.get "access_log_format" 1 d.logging.accessLogFormat toText
  let accessFile ← l.get "access_log_file" 2 d.logging.accessLogFile (toOption toText)
  let errorFile ← l.get "error_log_file" 3 d.logging.errorLogFile (toOption toText)
  let p ← sectionOf "performance" "PerformanceConfig" (Value.field? fs "performance")
  let keepAlive ← p.get "keep_alive" 0 d.performance.keepAlive toBool
  let timeout ← p.get "header_read_timeout" 1 d.performance.headerReadTimeout toUInt64
  let most ← p.get "max_connections" 2 d.performance.maxConnections (toOption toUInt64)
  let e ← sectionOf "serve" "ServeConfig" (Value.field? fs "serve")
  let index ← e.get "index_files" 0 d.serve.indexFiles toTexts
  let listing ← e.get "directory_listing" 1 d.serve.directoryListing toBool
  return ⟨⟨host, port, workers⟩, ⟨accessLog, format, accessFile, errorFile⟩,
    ⟨keepAlive, timeout, most⟩, ⟨index, listing⟩⟩

end DocRoot.Settings
