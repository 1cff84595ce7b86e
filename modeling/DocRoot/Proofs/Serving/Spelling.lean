import DocRoot.Exchange
import DocRoot.Proofs.ContentType
import DocRoot.Proofs.Http.Target
import DocRoot.Proofs.RequestPath
import DocRoot.Proofs.Serving.Containment

/-!
# Everything inside is served

A file under the root that is not hidden is sent to whoever asks for its names, however
the path is spelled, with all its bytes and the type of its name.
-/

set_option autoImplicit false

namespace DocRoot

open Http FileTree RequestPath

/-- A file below these directories of the root that clients may see. The system finds it
under its own place, and its names are such as stand in paths. -/
structure Site.Shows (site : Site) (t : FileTree) (dirs : List String) (name : String)
    (content : Bytes) : Prop where
  found : t.resolve (site.root ++ location (dirs ++ [name])) =
    .ok (site.root ++ location (dirs ++ [name]))
  file : t.at? (site.root ++ location (dirs ++ [name])) = some (.file content)
  shown : site.root ++ location (dirs ++ [name]) ∉ site.hidden
  pieces : ∀ s ∈ dirs ++ [name], IsPiece s

section Shown
variable {site : Site} {t : FileTree} {place : Location} {dirs : List String}
  {name path : String} {content : Bytes}

/-- A place that is found under its own spelling can be spelled on the way, too. -/
theorem Site.admits_place (h : t.resolve place = .ok place) (hw : site.root <+: place)
    (hs : place ∉ site.hidden) : site.Admits t place place := by
  obtain ⟨n, hn, hl⟩ := holds_of_resolve h
  have hn' : t.Holds ([] ++ place) n := hn
  obtain ⟨seen, hleads, hseen⟩ := hn'.leads hl
  obtain ⟨_, hfits⟩ := acceptPath_eq_ok_iff.mp (resolve_eq_ok_iff.mp h).1
  refine ⟨h, ⟨seen, hleads, ?_⟩, hw, hs⟩
  intro p hp
  exact (textLength_mono (hseen p hp)).trans hfits

theorem isName_of_plain {s : String} (hp : IsPiece s) (hs : Plain (utf8 s))
    (hz : 0 ∉ utf8 s) : IsName s where
  toIsPiece := hp
  no_nul := fun h => hz ((Utf8.mem_encode_iff (c := '\x00') (by decide)).mpr h)
  ne_dot := by
    rintro rfl
    exact hs.ne_dot (by decide)
  ne_dotdot := by
    rintro rfl
    exact hs.ne_dotdot (by decide)

theorem Site.Shows.isName (h : site.Shows t dirs name content) :
    ∀ s ∈ dirs ++ [name], IsName s := by
  intro s hs
  have hm : utf8 s ∈ site.root ++ location (dirs ++ [name]) :=
    List.mem_append_right _ (List.mem_map_of_mem hs)
  obtain ⟨n, hn, _⟩ := holds_of_resolve h.found
  obtain ⟨hz, _⟩ := acceptPath_eq_ok_iff.mp (resolve_eq_ok_iff.mp h.found).1
  exact isName_of_plain (h.pieces s hs) (hn.plain _ hm) (hz _ hm)

theorem Site.Shows.denotes (h : site.Shows t dirs name content)
    (hp : Percent.decode (utf8 path) = (dirs ++ [name]).flatMap (Path.slash :: utf8 ·)) :
    Serving.Denotes t site path
      (.file (site.root ++ location (dirs ++ [name])) (site.root ++ location (dirs ++ [name]))
        content) := by
  have hadm := Site.admits_place h.found (List.prefix_append _ _) h.shown
  have hslash := endsInSlash_of_spelled (h.pieces name (by simp)) hp
  have hasked : site.Admits t (site.root ++ RequestPath.steps (dirs ++ [name]))
      (site.root ++ location (dirs ++ [name])) := by
    rwa [RequestPath.steps_of_ne_nil (by simp)]
  exact .file (.of_names (translate?_of_spelled h.isName hp) hasked h.file) hslash

theorem Site.Shows.types (h : site.Shows t dirs name content) :
    ContentType.Types .standard name
      (ContentType.Table.standard.ofSteps (site.root ++ location (dirs ++ [name]))) := by
  have hn := h.isName name (by simp)
  have hlast : site.root ++ location (dirs ++ [name]) =
      site.root ++ location dirs ++ [utf8 name] := by
    simp [location]
  rw [hlast]
  exact ContentType.Table.types_ofSteps _ _ hn.ne_empty hn.ne_dot hn.ne_dotdot

end Shown

/-- Every file under the root that is not hidden is served under every spelling of its
names, byte for byte. It does not count which bytes a path may hold, what stands behind the path,
or how it was read, and of a target that begins with a slash the path is what stands in front of
the query and the fragment. -/
theorem every_spelling_is_served {t₀ t : FileTree} {settings : Settings} {steps : List Name}
    {site : Site} (made : Site.make t₀ settings steps = .ok site)
    {dirs : List String} {name : String} {content : Bytes}
    (shows : site.Shows t dirs name content) :
    ∃ type, ContentType.Types .standard name type ∧
      (∀ r peer timing, r.method = .get →
        Percent.decode (utf8 r.target.path) = (dirs ++ [name]).flatMap (Path.slash :: utf8 ·) →
        (Exchange.handle t site r peer timing).response =
          Response.carrying type content false) ∧
      ∀ (raw : Bytes) (target : Target), raw.head? = some Path.slash →
        Target.parse raw = .ok target →
        Percent.decode (raw.takeWhile (!Target.endsPath ·)) =
          (dirs ++ [name]).flatMap (Path.slash :: utf8 ·) →
        ∀ r peer timing, r.method = .get → r.target = target →
          (Exchange.handle t site r peer timing).response =
            Response.carrying type content false := by
  have served : ∀ r peer timing, r.method = .get →
      Percent.decode (utf8 r.target.path) = (dirs ++ [name]).flatMap (Path.slash :: utf8 ·) →
      (Exchange.handle t site r peer timing).response =
        Response.carrying (ContentType.Table.standard.ofSteps
          (site.root ++ location (dirs ++ [name]))) content false := by
    intro r peer timing hm spelled
    rw [Serving.handle_response hm (shows.denotes spelled),
      Serving.response_file (Site.types_of_make made)]
  refine ⟨_, shows.types, served, ?_⟩
  intro raw target origin parsed spelled r peer timing hm ht
  subst ht
  rw [← Target.path_of_origin_form origin parsed] at spelled
  exact served r peer timing hm spelled

/-- A root with one file, in a directory of it. -/
def oneFile (dir name : String) (content : Bytes) : FileTree :=
  ⟨[([utf8 "www"], .directory), ([utf8 "www", utf8 dir], .directory),
    ([utf8 "www", utf8 dir, utf8 name], .file content)]⟩

theorem every_spelling_is_served_oneFile :
    Site.make (oneFile "a b" "é#%41.png" [0, 0xFF]) .defaults [utf8 "www"] = .ok .www ∧
      Site.www.Shows (oneFile "a b" "é#%41.png" [0, 0xFF]) ["a b"] "é#%41.png" [0, 0xFF] ∧
      Target.parse (utf8 "/a%20b%2F%c3%A9%23%2541.pn%67?q#f") =
        .ok ⟨"/a%20b%2F%c3%A9%23%2541.pn%67", some "q"⟩ ∧
      ∃ type, ContentType.Types .standard "é#%41.png" type ∧
        ∀ r peer timing, r.method = .get →
          r.target = ⟨"/a%20b%2F%c3%A9%23%2541.pn%67", some "q"⟩ →
          (Exchange.handle (oneFile "a b" "é#%41.png" [0, 0xFF]) .www r peer timing).response =
              Response.carrying type [0, 0xFF] false := by
  have made : Site.make (oneFile "a b" "é#%41.png" [0, 0xFF]) .defaults [utf8 "www"] =
      .ok .www := rfl
  have pieces : ∀ s ∈ ["a b"] ++ ["é#%41.png"], IsPiece s := by
    intro s hs
    simp only [List.cons_append, List.nil_append, List.mem_cons, List.not_mem_nil, or_false] at hs
    rcases hs with rfl | rfl
    · exact ⟨by decide, by decide⟩
    · exact ⟨by decide, by decide⟩
  have shows : Site.www.Shows (oneFile "a b" "é#%41.png" [0, 0xFF]) ["a b"] "é#%41.png"
      [0, 0xFF] :=
    ⟨rfl, rfl, List.not_mem_nil, pieces⟩
  have parsed : Target.parse (utf8 "/a%20b%2F%c3%A9%23%2541.pn%67?q#f") =
      .ok ⟨"/a%20b%2F%c3%A9%23%2541.pn%67", some "q"⟩ := rfl
  obtain ⟨type, htype, _, served⟩ := every_spelling_is_served made shows
  exact ⟨made, shows, parsed, type, htype, served _ _ rfl parsed (by decide)⟩

end DocRoot
