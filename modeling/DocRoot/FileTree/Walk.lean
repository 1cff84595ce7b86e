import DocRoot.FileTree.Basic

/-!
# Walking a path

The walk goes name by name from a directory. A link is replaced by the steps of its
target, forty times at most; `..` leads to the directory above the place reached,
which after a link is the directory above the place the link led to. Only a
directory can be walked through. What is no link is looked up with a slash behind it
too where the rest of the steps asks for a directory.
-/

set_option autoImplicit false

namespace DocRoot.FileTree

/-- What to do with the last name. -/
inductive Ending
  /-- It must exist; a link is followed. -/
  | follow
  /-- It must exist; a link is the answer. -/
  | keep
  /-- It may be missing; a link is followed. -/
  | create
  deriving DecidableEq, Repr

def maxNameLength : Nat := 255
def maxPathLength : Nat := 4095
def maxLinks : Nat := 40

/-- The paths that a place is looked up by before the rest of the steps is taken. -/
def lookedUp (place : Location) (rest : List Name) : List Location :=
  if Path.asksDirectory rest then [place, place ++ [[]]] else [place]

/-- A link is only read, so nothing is put behind it. -/
def lookups (t : FileTree) (place : Location) (rest : List Name) : List Location :=
  if (t.at? place).any (·.isLink) then [place] else lookedUp place rest

/-- Where the steps lead, given what a link met on the way leads to. `visits` says
which paths can be looked up. -/
def walkWith (t : FileTree) (ending : Ending) (visits : Location → Bool)
    (onLink : Location → List Name → Except Fault Location) :
    Location → List Name → Except Fault Location
  | here, [] => .ok here
  | here, s :: rest =>
    if Path.stays s then walkWith t ending visits onLink here rest
    else if s = Path.dotdot then walkWith t ending visits onLink here.dropLast rest
    else if maxNameLength < s.length then .error .nameTooLong
    else if !(t.lookups (here ++ [s]) rest).all visits then .error .nameTooLong
    else
      match t.at? (here ++ [s]) with
      | none => if rest = [] ∧ ending = .create then .ok (here ++ [s]) else .error .noEntry
      | some .directory => walkWith t ending visits onLink (here ++ [s]) rest
      | some (.link target) =>
        if rest = [] ∧ ending = .keep then .ok (here ++ [s])
        else
          onLink (if Path.isAbsolute target then [] else here) (Path.steps target ++ rest)
      | some _ => if rest = [] then .ok (here ++ [s]) else .error .notADirectory

/-- The walk that may still follow `links` links. -/
def walk (t : FileTree) (ending : Ending) (visits : Location → Bool) :
    (links : Nat) → Location → List Name → Except Fault Location
  | 0 => walkWith t ending visits fun _ _ => .error .tooManyLinks
  | links + 1 => walkWith t ending visits (walk t ending visits links)

/-- A path the system accepts: not too long, and no NUL in it. -/
def acceptPath (steps : List Name) : Except Fault Unit :=
  if steps.any (·.contains 0) then .error .nulInName
  else if maxPathLength < Path.textLength steps then .error .nameTooLong
  else .ok ()

def locate (t : FileTree) (ending : Ending) (steps : List Name) : Except Fault Location := do
  acceptPath steps
  walk t ending (fun _ => true) maxLinks [] steps

/-- The place that the steps lead to. -/
def resolve (t : FileTree) (steps : List Name) : Except Fault Location := t.locate .follow steps

/-- The place that the steps lead to, spelled without links. Every place on the way is looked
up by its own spelling, with a slash behind it where a directory is asked for, so each of
these has to fit a path, and the steps as a whole need not. -/
def canonicalize (t : FileTree) (steps : List Name) : Except Fault Location :=
  if steps.any (·.contains 0) then .error .nulInName
  else walk t .follow (fun l => Path.textLength l ≤ maxPathLength) maxLinks [] steps

/-- What the steps lead to. -/
def node (t : FileTree) (steps : List Name) : Except Fault Node := do
  let l ← t.resolve steps
  match t.at? l with
  | some n => .ok n
  | none => .error .noEntry

def isDirectory (t : FileTree) (steps : List Name) : Bool :=
  match t.node steps with
  | .ok n => n.isDirectory
  | .error _ => false

def isFile (t : FileTree) (steps : List Name) : Bool :=
  match t.node steps with
  | .ok n => n.isFile
  | .error _ => false

def read (t : FileTree) (steps : List Name) : Except Fault Bytes := do
  let n ← t.node steps
  n.reading.result

/-- The entries of the directory that the steps lead to. -/
def list (t : FileTree) (steps : List Name) : Except Fault (List (Name × Node)) := do
  let l ← t.resolve steps
  match t.at? l with
  | some .directory => .ok (t.entries l)
  | _ => .error .notADirectory

end DocRoot.FileTree
