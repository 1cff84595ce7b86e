import DocRoot.FileTree.Walk

/-!
# Changing a file tree

What is written goes to the place the path leads to, links included. A change that
fails half way keeps what it did before it failed, so a change gives the tree and,
beside it, the fault if there was one.
-/

set_option autoImplicit false

namespace DocRoot.FileTree

/-- Makes one directory, in a directory that is there. -/
def makeDirectory (t : FileTree) (steps : List Name) : Except Fault FileTree := do
  acceptPath steps
  match steps.getLast? with
  | none => .error .alreadyThere
  | some name =>
    let dir ← t.resolve steps.dropLast
    if (t.at? dir).any (!·.isDirectory) then .error .notADirectory
    else if name = Path.dot ∨ name = Path.dotdot then .error .alreadyThere
    else if maxNameLength < name.length then .error .nameTooLong
    else
      match t.at? (dir ++ [name]) with
      | some _ => .error .alreadyThere
      | none => .ok (t.put (dir ++ [name]) .directory)

/-- Makes the directory below `base` whose steps are given last first, and before it
those above it that are missing. -/
def makeDirectoriesFrom (t : FileTree) (base : List Name) :
    (reversed : List Name) → FileTree × Option Fault
  | [] => (t, none)
  | name :: up =>
    let steps := base ++ (name :: up).reverse
    match t.makeDirectory steps with
    | .ok u => (u, none)
    | .error e =>
      if e = .noEntry then
        match makeDirectoriesFrom t base up with
        | (u, some e) => (u, some e)
        | (u, none) =>
          match u.makeDirectory steps with
          | .ok v => (v, none)
          | .error e => if e = .alreadyThere ∧ u.isDirectory steps then (u, none) else (u, some e)
      else if e = .alreadyThere ∧ t.isDirectory steps then (t, none)
      else (t, some e)

def makeDirectories (t : FileTree) (base names : List Name) : FileTree × Option Fault :=
  t.makeDirectoriesFrom base (names.filter (· ≠ Path.dot)).reverse

/-- Opens the file for writing at its end, made empty if it is missing. -/
def openAppend (t : FileTree) (base : List Name) (raw : Bytes) :
    Except Fault (Location × FileTree) :=
  if raw = [] then .error .noEntry
  else do
    let steps := Path.join base raw
    if raw.contains 0 then throw .nulInName
    acceptPath steps
    if Path.endsInSlash raw then
      -- the name in front of the slashes is not looked up, only what it would stand in
      let start := if Path.isAbsolute raw then [] else base
      let dir ← t.resolve (start ++ (Path.steps raw).dropLast.dropLast)
      if (t.at? dir).any (·.isDirectory) then throw .isADirectory else throw .notADirectory
    let l ← t.locate .create steps
    match t.at? l with
    | none => return (l, t.put l (.file []))
    | some .directory => throw .isADirectory
    | some (.special s) =>
      if let some cause := s.openFault then throw cause
      return (l, t)
    | some _ => return (l, t)

/-- Writes at the end of an opened file. -/
def append (t : FileTree) (l : Location) (data : Bytes) : Except Fault FileTree :=
  match t.at? l with
  | some (.file content) => .ok (t.put l (.file (content ++ data)))
  | some (.special s) =>
    match s.writeFault with
    | some cause => .error cause
    | none => .ok t
  | _ => .error .noEntry

/-- What is made at a path, or that it is taken away. -/
inductive Effect
  | file (content : Bytes)
  | directory
  | link (target : Bytes)
  | special (s : Special)
  | remove
  deriving DecidableEq, Repr

/-- A change from outside. -/
structure Change where
  path : Bytes
  effect : Effect
  deriving DecidableEq, Repr

namespace Change

def file (path content : Bytes) : Change := ⟨path, .file content⟩
def directory (path : Bytes) : Change := ⟨path, .directory⟩
def link (path target : Bytes) : Change := ⟨path, .link target⟩
def socket (path : Bytes) : Change := ⟨path, .special .socket⟩
def remove (path : Bytes) : Change := ⟨path, .remove⟩

end Change

/-- The tree after a change, whose path is seen from `base`. Directories on the way
to what is made are made too. What cannot be done is left undone. -/
def change (t : FileTree) (base : List Name) (c : Change) : FileTree :=
  let names := Path.pieces c.path
  let start := if Path.isAbsolute c.path then [] else base
  let parent := (t.makeDirectories start names.dropLast).1
  let place (ending : Ending) (n : Node) : FileTree :=
    match parent.locate ending (start ++ names) with
    | .ok l => if (parent.at? l).any (!·.isFile) then parent else parent.put l n
    | .error _ => parent
  let fresh (n : Node) : FileTree :=
    match parent.resolve (start ++ names.dropLast), names.getLast? with
    | .ok dir, some name =>
      if (parent.at? (dir ++ [name])).isSome then parent else parent.put (dir ++ [name]) n
    | _, _ => parent
  match c.effect with
  | .file content => place .create (.file content)
  | .directory => (t.makeDirectories start names).1
  | .link target => fresh (.link target)
  | .special s => fresh (.special s)
  | .remove =>
    match t.locate .keep (start ++ names) with
    | .ok l => t.erase l
    | .error _ => t

end DocRoot.FileTree
