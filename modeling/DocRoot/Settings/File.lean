import DocRoot.FileTree.Walk
import DocRoot.Settings.Decode
import DocRoot.Settings.Format.Ini
import DocRoot.Settings.Format.Json5
import DocRoot.Settings.Format.Ron
import DocRoot.Settings.Format.Toml
import DocRoot.Settings.Format.Yaml
import DocRoot.Settings.KeyPath

/-!
# Loading settings

A settings file is found by its name without an extension, and its extension says how
it is read. Its fields are laid over the defaults. Without a file, or with one that is
no text, the defaults stand.
-/

set_option autoImplicit false

namespace DocRoot.Settings

inductive Format
  | toml
  | json
  | yaml
  | ini
  | ron
  | json5
  deriving DecidableEq, Repr

namespace Format

def ofExtension? (e : String) : Option Format :=
  if e = "toml" then some .toml
  else if e = "json" then some .json
  else if e = "yaml" ∨ e = "yml" then some .yaml
  else if e = "ini" then some .ini
  else if e = "ron" then some .ron
  else if e = "json5" then some .json5
  else none

/-- The data of a text. -/
def read (f : Format) (text : String) : Except LoadError Data :=
  let orUnreadable (d : Option Data) : Except LoadError Data :=
    match d with
    | some d => .ok d
    | none => .error .unreadable
  match f with
  | toml => orUnreadable (Toml.parse? text)
  | json => orUnreadable ((Json.parse? text).map Data.ofJson)
  | ini => orUnreadable (Ini.parse? text)
  | ron => orUnreadable (Ron.parse? text)
  | json5 => orUnreadable (Json5.parse? text)
  | yaml =>
    match Yaml.parse text with
    | .ok d => .ok d
    | .error .malformed => .error .unreadable
    | .error .foreignKey => .error .foreignKey

end Format

/-- A settings file: how it is read, and its steps from the directory that it was looked
up in. -/
structure Source where
  format : Format
  steps : List Name
  deriving DecidableEq, Repr

namespace Source

/-- The name that messages show. -/
def origin (s : Source) : String :=
  Utf8.lossy ([Path.slash].intercalate (s.steps.filter (· ≠ Path.dot)))

/-- The steps with an extension added to the last name. -/
def withExtension (steps : List Name) (e : String) : List Name :=
  let steps := steps.filter (· ≠ Path.dot)
  match steps.getLast? with
  | some n => if n = Path.dotdot then steps else steps.dropLast ++ [n ++ utf8 ("." ++ e)]
  | none => steps

def formatOf? (steps : List Name) : Option Format := do
  let e ← Path.extension? (← Path.lastName? steps)
  Format.ofExtension? (Utf8.lossy e)

/-- The file of this very name if it is there, and otherwise the first with one of the
extensions added. -/
def find? (t : FileTree) (dir : List Name) (name : Bytes) : Option Source :=
  let steps := Path.steps name
  if t.isFile (dir ++ steps) then (formatOf? steps).map (⟨·, steps⟩)
  else
    fileExtensions.findSome? fun e =>
      let steps := withExtension steps e
      if t.isFile (dir ++ steps) then (Format.ofExtension? e).map (⟨·, steps⟩) else none

/-- The text of the file, if it has one. -/
def text? (t : FileTree) (dir : List Name) (s : Source) : Option String :=
  match t.read (dir ++ s.steps) with
  | .ok content => Utf8.text? content
  | .error _ => none

end Source

/-- The values that stand when nothing is laid over them. -/
def defaultValues : Value :=
  .table none
    [("server", .table none
      [("host", .text none defaultHost), ("port", .int none defaultPort.toNat)])]

/-- The settings that a text gives. -/
def ofText (f : Format) (origin : String) (text : String) : Except LoadError Settings := do
  match ← f.read text with
  | .table fields => ofValue (Value.overlay defaultValues (some origin) fields)
  | _ => throw .unreadable

def load (t : FileTree) (dir : List Name) (name : Bytes) : Except LoadError Settings :=
  match Source.find? t dir name with
  | none => ofValue defaultValues
  | some s =>
    match s.text? t dir with
    | none => ofValue defaultValues
    | some text => ofText s.format s.origin text

end DocRoot.Settings
