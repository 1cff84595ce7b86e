import DocRoot.Percent
import DocRoot.Path

/-!
# The path of a request

The path is unescaped once, read as text, cut at the slashes and walked: empty
pieces and `.` are passed over and `..` takes back the last name that stands, or
nothing at the top. So the names that remain lead nowhere but down.
-/

set_option autoImplicit false

namespace DocRoot.RequestPath

/-- The unescaped text, if it is text and holds no NUL. -/
def decoded? (raw : String) : Option (List Char) :=
  (Utf8.decode? (Percent.decode (utf8 raw))).filter ('\x00' ∉ ·)

/-- One more piece on top of the names that stand, the last of them first. -/
def push (standing : List (List Char)) (piece : List Char) : List (List Char) :=
  if piece = [] ∨ piece = ['.'] then standing
  else if piece = ['.', '.'] then standing.tail
  else piece :: standing

/-- The names left of a list of pieces, processed on top of those that stand. -/
def walk (standing : List (List Char)) (pieces : List (List Char)) : List (List Char) :=
  pieces.foldl push standing

@[simp] theorem walk_nil (s : List (List Char)) : walk s [] = s := rfl

@[simp] theorem walk_cons (s : List (List Char)) (p : List Char) (ps : List (List Char)) :
    walk s (p :: ps) = walk (push s p) ps := rfl

@[simp] theorem walk_append (s : List (List Char)) (ps qs : List (List Char)) :
    walk s (ps ++ qs) = walk (walk s ps) qs := by
  simp [walk]

def names (text : List Char) : List String :=
  ((walk [] (text.splitOn '/')).reverse).map String.ofList

/-- The names below the root that a request path asks for. -/
def translate? (raw : String) : Option (List String) := (decoded? raw).map names

/-- The names as the file system knows them. -/
def location (names : List String) : Location := names.map utf8

/-- The steps behind a root. Without a name they are the one behind its slash. -/
def steps (names : List String) : List Name :=
  if names = [] then [[]] else location names

@[simp] theorem steps_nil : steps [] = [[]] := rfl

@[simp] theorem steps_concat (names : List String) (name : String) :
    steps (names ++ [name]) = location names ++ [utf8 name] := by
  simp [steps, location]

theorem steps_of_ne_nil {names : List String} (h : names ≠ []) : steps names = location names :=
  if_neg h

/-- The path with a slash at its end and exactly one in front. -/
def directoryForm (path : String) (query : Option String) : String :=
  let body := String.ofList ('/' :: (path.toList.dropWhile (· = '/') ++ ['/']))
  match query with
  | some q => body ++ "?" ++ q
  | none => body

def endsInSlash (path : String) : Bool := path.toList.getLast? == some '/'

/-- The path as a heading shows it, undecodable parts replaced. -/
def display (path : String) : String := Utf8.lossy (Percent.decode (utf8 path))

end DocRoot.RequestPath
