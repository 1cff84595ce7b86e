import DocRoot.ContentType
import DocRoot.FileTree.Walk
import DocRoot.Settings.Basic

/-!
# Sites

A site is a root with the settings it is served under. The places that its settings
files lead to when it is made are hidden for as long as it is served.
-/

set_option autoImplicit false

namespace DocRoot

structure Site where
  settings : Settings
  root : Location
  types : ContentType.Table
  hidden : List Location
  deriving DecidableEq, Repr

namespace Site

/-- The places that the names of settings files lead to, in a directory. -/
def settingsPlaces (t : FileTree) (root : Location) : List Location :=
  Settings.fileNames.filterMap fun n => (t.canonicalize (root ++ [utf8 n])).toOption

def make (t : FileTree) (settings : Settings) (steps : List Name) : Except Fault Site := do
  let root ← t.canonicalize steps
  return ⟨settings, root, .standard, settingsPlaces t root⟩

end Site

end DocRoot
