import DocRoot.Proofs.FileTree.Place
import DocRoot.Settings.File
import DocRoot.Site

/-!
# Which file settings come from

The bare name of a settings file does not say how to read it, so settings come from a file
with one of the extensions added, if from any. The places of these names are what a site
hides.
-/

set_option autoImplicit false

namespace DocRoot

open FileTree

namespace Settings

theorem mem_fileNames_iff {name : String} :
    name ∈ fileNames ↔ ∃ e ∈ fileExtensions, name = fileStem ++ "." ++ e := by
  simp only [fileNames, List.mem_map, eq_comm]

namespace Source

variable {t : FileTree} {dir : List Name} {source : Source}

theorem withExtension_fileStem (e : String) :
    withExtension (Path.steps (utf8 fileStem)) e = [utf8 (fileStem ++ "." ++ e)] := by
  have hsteps : Path.steps (utf8 fileStem) = [utf8 fileStem] := rfl
  have hdot : utf8 fileStem ≠ Path.dot := by decide
  have hdotdot : utf8 fileStem ≠ Path.dotdot := by decide
  simp [withExtension, hsteps, hdot, hdotdot]

/-- Of the names with an extension the first that leads to a file is taken, unless there is a
file of the bare name. -/
theorem find?_fileStem (t : FileTree) (dir : List Name) :
    find? t dir (utf8 fileStem) =
      if t.isFile (dir ++ [utf8 fileStem]) then none
      else
        fileExtensions.findSome? fun e =>
          if t.isFile (dir ++ [utf8 (fileStem ++ "." ++ e)]) then
            (Format.ofExtension? e).map (⟨·, [utf8 (fileStem ++ "." ++ e)]⟩)
          else none := by
  have hsteps : Path.steps (utf8 fileStem) = [utf8 fileStem] := rfl
  have hbare : formatOf? [utf8 fileStem] = none := rfl
  simp only [find?, withExtension_fileStem]
  rw [hsteps, hbare, Option.map_none]

/-- Settings come from a file that one of the names leads to. -/
theorem exists_name_of_find? (h : find? t dir (utf8 fileStem) = some source) :
    ∃ name ∈ fileNames, source.steps = [utf8 name] ∧ t.isFile (dir ++ [utf8 name]) = true := by
  rw [find?_fileStem] at h
  split at h
  · cases h
  obtain ⟨e, he, h⟩ := List.exists_of_findSome?_eq_some h
  split at h
  · rename_i hfile
    obtain ⟨f, _, rfl⟩ := Option.map_eq_some_iff.mp h
    exact ⟨_, mem_fileNames_iff.mpr ⟨e, he, rfl⟩, rfl, hfile⟩
  · cases h

theorem find?_eq_toml (bare : t.isFile (dir ++ [utf8 fileStem]) = false)
    (toml : t.isFile (dir ++ [utf8 "fileserver.toml"]) = true) :
    find? t dir (utf8 fileStem) = some ⟨.toml, [utf8 "fileserver.toml"]⟩ := by
  have hname : utf8 (fileStem ++ "." ++ "toml") = utf8 "fileserver.toml" := rfl
  rw [find?_fileStem, bare, if_neg Bool.false_ne_true, fileExtensions, List.findSome?_cons, hname,
    toml]
  rfl

end Source

section Text
variable {t : FileTree} {dir : List Name} {text : String} {s : Settings}

theorem ofText_eq_ok {f : Format} {origin : String}
    (h : (ofText f origin text).toOption = some s) : ofText f origin text = .ok s := by
  cases hx : ofText f origin text with
  | error e =>
    rw [hx] at h
    cases h
  | ok s' =>
    rw [hx] at h
    exact congrArg Except.ok (Option.some.inj h)

/-- What is loaded from a file of a root are the settings that its text gives. -/
theorem load_toml
    (used : Source.find? t dir (utf8 fileStem) = some ⟨.toml, [utf8 "fileserver.toml"]⟩)
    (content : t.read (dir ++ [utf8 "fileserver.toml"]) = .ok (utf8 text))
    (h : ofText .toml "fileserver.toml" text = .ok s) :
    load t dir (utf8 fileStem) = .ok s := by
  have horigin : Source.origin ⟨.toml, [utf8 "fileserver.toml"]⟩ = "fileserver.toml" := by decide
  simp only [load, used, Source.text?, content, text?_utf8, horigin, h]

end Text

end Settings

section Names
variable {name : String}

theorem plain_of_fileName (named : name ∈ Settings.fileNames) : Plain (utf8 name) := by
  have all : ∀ n ∈ Settings.fileNames, Path.stays (utf8 n) = false ∧ utf8 n ≠ Path.dotdot ∧
      (utf8 n).length ≤ maxNameLength := by decide
  obtain ⟨hmoves, hdd, hfits⟩ := all name named
  exact ⟨hmoves, hdd, hfits⟩

theorem zero_not_mem_fileName (named : name ∈ Settings.fileNames) : 0 ∉ utf8 name := by
  have all : ∀ n ∈ Settings.fileNames, 0 ∉ utf8 n := by decide
  exact all name named

end Names

/-- A root whose only file has the name of settings. -/
def laterSettings (content : Bytes) : FileTree :=
  ⟨[([utf8 "www"], .directory), ([utf8 "www", utf8 "fileserver.toml"], .file content)]⟩

theorem Settings.load_laterSettings {text : String} {s : Settings}
    (h : ofText .toml "fileserver.toml" text = .ok s) :
    load (laterSettings (utf8 text)) [utf8 "www"] (utf8 fileStem) = .ok s :=
  load_toml rfl rfl h

theorem Site.mem_settingsPlaces_iff {t : FileTree} {root place : Location} :
    place ∈ settingsPlaces t root ↔
      ∃ name ∈ Settings.fileNames, t.canonicalize (root ++ [utf8 name]) = .ok place := by
  have htoOption : ∀ x : Except Fault Location, x.toOption = some place ↔ x = .ok place := by
    intro x
    cases x <;> simp [Except.toOption]
  simp only [settingsPlaces, List.mem_filterMap, htoOption]

end DocRoot
