/-!
# Text inside HTML

`escape` replaces the three characters that can open markup, the ampersand first,
so that the ampersands of the entities it writes are left alone.
-/

set_option autoImplicit false

namespace DocRoot.Html

def replaceChar (c : Char) (w : List Char) (cs : List Char) : List Char :=
  cs.flatMap fun x => if x = c then w else [x]

@[simp] theorem replaceChar_append (c : Char) (w cs ds : List Char) :
    replaceChar c w (cs ++ ds) = replaceChar c w cs ++ replaceChar c w ds := by
  simp [replaceChar]

def escapeChars (cs : List Char) : List Char :=
  replaceChar '>' "&gt;".toList (replaceChar '<' "&lt;".toList (replaceChar '&' "&amp;".toList cs))

@[simp] theorem escapeChars_append (cs ds : List Char) :
    escapeChars (cs ++ ds) = escapeChars cs ++ escapeChars ds := by
  simp [escapeChars]

def escape (s : String) : String := String.ofList (escapeChars s.toList)

end DocRoot.Html
