import DocRoot.FileTree.Change

/-!
# The log book

A program keeps an access log and an error log. Until the book is opened both go to the
error stream. It is opened once, with a file for each log or none, which means the
stream. A line that a file does not take goes to the stream, with the reason after it.
-/

set_option autoImplicit false

namespace DocRoot

inductive LogKind
  | access
  | error
  deriving DecidableEq, Repr

inductive LogTarget
  | stream
  | file (place : Location)
  deriving DecidableEq, Repr

structure LogTargets where
  access : LogTarget
  error : LogTarget
  deriving DecidableEq, Repr

namespace LogTargets

def of (ts : LogTargets) : LogKind → LogTarget
  | .access => ts.access
  | .error => ts.error

end LogTargets

structure LogBook where
  targets : Option LogTargets
  files : FileTree
  /-- The lines of the error stream. -/
  stream : List String
  deriving Repr

namespace LogBook

/-- The book of a program that has just begun. -/
def closed (files : FileTree) : LogBook := ⟨none, files, []⟩

def alreadyOpen : Fault := .custom .alreadyExists "Log writer already initialized"

/-- Opens a file at its end, with the directories that lead to it. -/
def openFile (files : FileTree) (base : List Name) (path : Bytes) :
    FileTree × Except Fault Location :=
  let start := if Path.isAbsolute path then [] else base
  let names := (Path.pieces path).filter (· ≠ Path.dot)
  match files.makeDirectories start names.dropLast with
  | (files, some e) => (files, .error e)
  | (files, none) =>
    match files.openAppend base path with
    | .ok (place, files) => (files, .ok place)
    | .error e => (files, .error e)

def openTarget (files : FileTree) (base : List Name) :
    Option String → FileTree × Except Fault LogTarget
  | none => (files, .ok .stream)
  | some path =>
    let (files, place) := openFile files base (utf8 path)
    (files, place.map .file)

/-- Opens the files of both logs, the access log first. What was made before a fault
stays. -/
def openTargets (files : FileTree) (base : List Name) (access error : Option String) :
    FileTree × Except Fault LogTargets :=
  match openTarget files base access with
  | (files, .error e) => (files, .error e)
  | (files, .ok a) =>
    match openTarget files base error with
    | (files, .error e) => (files, .error e)
    | (files, .ok e) => (files, .ok ⟨a, e⟩)

/-- Opens the book, unless it is open. -/
def openWith (b : LogBook) (base : List Name) (access error : Option String) :
    LogBook × Except Fault Unit :=
  match openTargets b.files base access error with
  | (files, .error e) => ({ b with files }, .error e)
  | (files, .ok ts) =>
    match b.targets with
    | some _ => ({ b with files }, .error alreadyOpen)
    | none => ({ b with files, targets := some ts }, .ok ())

def target (b : LogBook) (kind : LogKind) : LogTarget :=
  match b.targets with
  | some ts => ts.of kind
  | none => .stream

def unwritten (e : Fault) : String := "[ERROR] Failed to write log line: " ++ e.message

def write (b : LogBook) (kind : LogKind) (line : String) : LogBook :=
  match b.target kind with
  | .stream => { b with stream := b.stream ++ [line] }
  | .file place =>
    match b.files.append place (utf8 (line ++ "\n")) with
    | .ok files => { b with files }
    | .error e => { b with stream := b.stream ++ [line, unwritten e] }

@[simp] theorem target_closed (files : FileTree) (kind : LogKind) :
    (closed files).target kind = .stream := rfl

theorem write_targets (b : LogBook) (kind : LogKind) (line : String) :
    (b.write kind line).targets = b.targets := by
  unfold write
  split
  · rfl
  · split <;> rfl

theorem openWith_of_open (b : LogBook) (base : List Name) (access error : Option String)
    {ts : LogTargets} (h : b.targets = some ts) :
    (b.openWith base access error).1.targets = some ts ∧
      (b.openWith base access error).2 ≠ .ok () := by
  unfold openWith
  split
  · exact ⟨h, by simp⟩
  · simp [h]

end LogBook

end DocRoot
