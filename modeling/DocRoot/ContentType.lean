import DocRoot.Path

/-!
# Content types by extension

A table lists keys such as `.html` with a type. The last entry of a key wins, and
the entry of the empty key is what everything else gets.
-/

set_option autoImplicit false

namespace DocRoot.ContentType

def octetStream : String := "application/octet-stream"

abbrev Table := List (String × String)

namespace Table

def standard : Table :=
  [(".manifest", "text/cache-manifest"),
    (".html", "text/html"),
    (".png", "image/png"),
    (".jpg", "image/jpg"),
    (".svg", "image/svg+xml"),
    (".css", "text/css"),
    (".js", "application/x-javascript"),
    ("", octetStream)]

/-- The type of the last entry with this key. -/
def find? (t : Table) (key : String) : Option String :=
  (t.reverse.find? (·.1 == key)).map (·.2)

@[simp] theorem find?_nil (key : String) : find? [] key = none := rfl

def fallback (t : Table) : String := (t.find? "").getD octetStream

def lookup (t : Table) (key : String) : String := (t.find? key).getD t.fallback

/-- The type of a file reached by these steps, by the extension of the last name. -/
def ofSteps (t : Table) (steps : List Name) : String :=
  match (Path.lastName? steps).bind Path.extension? |>.bind Utf8.text? with
  | some e => t.lookup ("." ++ e)
  | none => t.fallback

end Table

end DocRoot.ContentType
