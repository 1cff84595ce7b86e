import DocRoot.FileTree.Walk
import DocRoot.Html
import DocRoot.Percent
import DocRoot.Refusal
import DocRoot.Text.Lowercase

/-!
# Directory listings

A page with one line for every entry that is not hidden, in the order of the shown
names without regard to case. What leads to a directory is linked with a slash. A
link is shown with an at sign, and a directory that is no link with the slash.
-/

set_option autoImplicit false

namespace DocRoot.Listing

structure Item where
  shown : String
  link : String
  deriving DecidableEq, Repr

namespace Item

def ofEntry (name : String) (isLink leadsToDirectory : Bool) : Item :=
  let link := if leadsToDirectory then name ++ "/" else name
  ⟨if isLink then name ++ "@" else link, link⟩

def sortKey (i : Item) : Bytes := utf8 (Text.lowercase i.shown)

def href (i : Item) : String :=
  String.ofList ((Percent.encode (utf8 i.link)).map fun b => Char.ofNat b.toNat)

def html (i : Item) : String :=
  "<li><a href=\"" ++ i.href ++ "\">" ++ Html.escape i.shown ++ "</a></li>\n"

end Item

/-- The items in the order of their keys, each key taken once; ties stay as they are. -/
def sort (items : List Item) : List Item :=
  ((items.map fun i => (i.sortKey, i)).mergeSort fun a b => decide (a.1 ≤ b.1)).map (·.2)

def page (display : String) (items : List Item) : String :=
  let title := "Directory listing for " ++ Html.escape display
  "<!DOCTYPE HTML>\n<html lang=\"en\">\n<head>\n<meta charset=\"utf-8\">\n<title>" ++ title
    ++ "</title>\n</head>\n<body>\n<h1>" ++ title ++ "</h1>\n<hr>\n<ul>\n"
    ++ String.join (items.map Item.html) ++ "</ul>\n<hr>\n</body>\n</html>\n"

/-- Whether an entry leads to a hidden place. One that leads nowhere is not hidden. -/
def isHidden (t : FileTree) (hidden : List Location) (steps : List Name) : Bool :=
  match t.canonicalize steps with
  | .ok l => hidden.contains l
  | .error _ => false

def items (t : FileTree) (dir : List Name) (hidden : List Location)
    (entries : List (Name × Node)) : List Item :=
  (entries.filter fun e => !isHidden t hidden (dir ++ [e.1])).map fun e =>
    Item.ofEntry (Utf8.lossy e.1) e.2.isLink (t.isDirectory (dir ++ [e.1]))

def render (t : FileTree) (dir : List Name) (display : String) (hidden : List Location) :
    Except Refusal String :=
  match t.list dir with
  | .ok entries => .ok (page display (sort (items t dir hidden entries)))
  | .error _ => .error (.listingDenied display)

end DocRoot.Listing
