import DocRoot.Proofs.Path
import DocRoot.Proofs.RequestPath
import DocRoot.Proofs.RequestPath.Standing
import DocRoot.Proofs.Serving.Denotes

/-!
# What a path is translated to

A raw path says a text, unless its bytes are no text or hold a NUL, and then it is refused.
The names it is translated to are the pieces of the text that stand. They are such as can
only lead down from where they are joined.
-/

set_option autoImplicit false

namespace DocRoot

namespace RequestPath

variable {raw : String} {names : List String} {text : List Char} {path : Bytes}

/-- The text that a raw path says. -/
def Says (raw text : String) : Prop := Percent.Decodes (utf8 raw) (utf8 text)

theorem decoded?_eq_some_iff :
    decoded? raw = some text ↔ Says raw (String.ofList text) ∧ '\x00' ∉ text := by
  rw [decoded?, Option.filter_eq_some_iff, decide_eq_true_iff, Says, Percent.decodes_iff]
  refine and_congr_left fun _ => ?_
  have htext : utf8 (String.ofList text) = Utf8.encode text := by rw [utf8, String.toList_ofList]
  rw [htext]
  constructor
  · intro h
    exact (Utf8.encode_of_decode? h).symm
  · intro h
    rw [h, Utf8.decode?_encode]

theorem translate?_eq_some_iff :
    translate? raw = some names ↔
      ∃ text : String, Says raw text ∧ '\x00' ∉ text.toList ∧
        names = RequestPath.names text.toList := by
  rw [translate?, Option.map_eq_some_iff]
  constructor
  · rintro ⟨text, hd, rfl⟩
    obtain ⟨hspelled, hnul⟩ := decoded?_eq_some_iff.mp hd
    exact ⟨_, hspelled, by simpa using hnul, by rw [String.toList_ofList]⟩
  · rintro ⟨text, hspelled, hnul, rfl⟩
    exact ⟨text.toList, decoded?_eq_some_iff.mpr ⟨by simpa using hspelled, hnul⟩, rfl⟩

/-- A path is refused for its bytes alone: they are no text, or there is a NUL among them. -/
theorem translate?_eq_none_iff_of_decodes {bytes : Bytes}
    (h : Percent.Decodes (utf8 raw) bytes) :
    translate? raw = none ↔ ¬(List.toByteArray bytes).IsValidUTF8 ∨ 0 ∈ bytes := by
  rw [translate?_eq_none_iff, Percent.decodes_iff.mp h, Utf8.isValidUTF8_iff]
  have hnul : ∀ s : String, '\x00' ∈ s.toList ↔ 0 ∈ utf8 s :=
    fun s => (Utf8.mem_encode_iff (c := '\x00') (by decide)).symm
  constructor
  · intro hall
    by_cases htext : ∃ s : String, utf8 s = bytes
    · obtain ⟨s, rfl⟩ := htext
      refine Or.inr ((hnul s).mp ?_)
      exact Classical.byContradiction fun hno => hall s hno rfl
    · exact Or.inl htext
  · rintro hor s hno rfl
    rcases hor with hnone | hzero
    · exact hnone ⟨s, rfl⟩
    · exact hno ((hnul s).mpr hzero)

section Pieces

theorem of_mem_splitOn {p : List Char} (h : p ∈ text.splitOn '/') :
    ∀ c ∈ p, c ≠ '/' ∧ c ∈ text := by
  induction text generalizing p with
  | nil =>
    obtain rfl : p = [] := by simpa using h
    simp
  | cons d text ih =>
    rw [List.splitOn_cons_eq_if_modifyHead] at h
    split at h
    · rcases List.mem_cons.mp h with rfl | hrest
      · simp
      · intro c hc
        exact (ih hrest c hc).imp_right (List.mem_cons_of_mem d)
    · rename_i hd
      obtain ⟨first, rest, hsplit⟩ := List.exists_cons_of_ne_nil (List.splitOn_ne_nil '/' text)
      rw [hsplit] at h ih
      rcases List.mem_cons.mp h with rfl | hrest
      · intro c hc
        rcases List.mem_cons.mp hc with rfl | hfirst
        · exact ⟨by simpa using hd, List.mem_cons_self⟩
        · exact (ih List.mem_cons_self c hfirst).imp_right (List.mem_cons_of_mem d)
      · intro c hc
        exact (ih (List.mem_cons_of_mem _ hrest) c hc).imp_right (List.mem_cons_of_mem d)

/-- Each name that is left stood among the pieces. -/
theorem Leaves.exists_nameAt {pieces : List (List Char)} (h : Leaves pieces names) {s : String}
    (hs : s ∈ names) : ∃ i, pieces[i]? = some s.toList ∧ NameAt pieces i := by
  obtain ⟨places, _, hmem, hread⟩ := h
  have hsome : some s.toList ∈ places.map (pieces[·]?) := by
    rw [← hread]
    exact List.mem_map_of_mem hs
  obtain ⟨i, hi, heq⟩ := List.mem_map.mp hsome
  exact ⟨i, heq, ((hmem i).mp hi).1⟩

/-- What is left of a text without NUL are names. -/
theorem Leaves.isName (h : Leaves (text.splitOn '/') names) (hnul : '\x00' ∉ text) :
    ∀ s ∈ names, IsName s := by
  intro s hs
  obtain ⟨i, hget, p, hp, hempty, hdot, hdotdot⟩ := h.exists_nameAt hs
  obtain rfl := Option.some.inj (hget.symm.trans hp)
  have hchars := of_mem_splitOn (List.mem_of_getElem? hget)
  exact
    { ne_empty := by
        rintro rfl
        exact hempty rfl
      no_slash := fun hc => (hchars '/' hc).1 rfl
      no_nul := fun hc => hnul (hchars '\x00' hc).2
      ne_dot := by
        rintro rfl
        exact hdot rfl
      ne_dotdot := by
        rintro rfl
        exact hdotdot rfl }

theorem leaves_names (text : List Char) : Leaves (text.splitOn '/') (RequestPath.names text) :=
  leaves_walk _

end Pieces

section Relative

/-- The names as one path, each written behind those before it. -/
def relative (names : List String) : Bytes := (location names).foldl Path.push []

theorem IsName.pieces_utf8 {s : String} (h : IsName s) :
    Path.isAbsolute (utf8 s) = false ∧ Path.pieces (utf8 s) = [utf8 s] := by
  have hslash : Path.slash ∉ utf8 s :=
    fun hm => h.no_slash ((Utf8.mem_encode_iff (c := '/') (by decide)).mp hm)
  have hne : utf8 s ≠ [] := fun he => h.ne_empty (utf8_injective (he.trans utf8_empty.symm))
  refine ⟨Path.isAbsolute_of_not_mem hslash, ?_⟩
  simp [Path.pieces, List.splitOn_eq_singleton hslash, hne]

/-- Names written behind a path, one by one, are more pieces of it. -/
theorem foldl_push (h : ∀ s ∈ names, IsName s) (path : Bytes) :
    Path.isAbsolute ((location names).foldl Path.push path) = Path.isAbsolute path ∧
      Path.pieces ((location names).foldl Path.push path) =
        Path.pieces path ++ location names := by
  induction names generalizing path with
  | nil => simp [location]
  | cons s names ih =>
    obtain ⟨hs, hnames⟩ := List.forall_mem_cons.mp h
    obtain ⟨habs, hpieces⟩ := hs.pieces_utf8
    obtain ⟨hstart, hrest⟩ := ih hnames (Path.push path (utf8 s))
    rw [Path.isAbsolute_push habs] at hstart
    rw [Path.pieces_push habs, hpieces, List.append_assoc] at hrest
    exact ⟨hstart, hrest⟩

theorem isAbsolute_relative (h : ∀ s ∈ names, IsName s) :
    Path.isAbsolute (relative names) = false :=
  (foldl_push h []).1

theorem pieces_relative (h : ∀ s ∈ names, IsName s) :
    Path.pieces (relative names) = location names :=
  (foldl_push h []).2

end Relative

end RequestPath

namespace Serving

open Http

/-- A path is refused as malformed exactly if it is translated to nothing. -/
theorem load_badPath_iff {t : FileTree} {site : Site} {target : Target} {isHead : Bool}
    {path : String} :
    (load t site target isHead).result = .error (.badPath path) ↔
      path = target.path ∧ RequestPath.translate? target.path = none := by
  obtain ⟨v, hv⟩ := exists_denotes t site target.path
  constructor
  · intro h
    rw [load_result isHead hv] at h
    cases hv with
    | malformed hn =>
      cases h
      exact ⟨rfl, hn⟩
    | @unreadable _ _ _ cause =>
      rw [Verdict.result] at h
      rcases Refusal.ofFault_cases target.path cause with hr | hr
      · cases hr.symm.trans (Except.error.inj h)
      · cases hr.symm.trans (Except.error.inj h)
    | _ => cases h
  · rintro ⟨rfl, hn⟩
    simp only [load, hn, Outcome.refuse]

end Serving

/-- A path is refused if its bytes, unescaped once, are no text or hold a NUL. Otherwise it is
translated to the pieces of the text that stand, and these are names: written behind an
absolute root, they lead below it. -/
theorem path_is_translated_to_what_stands (raw : String) :
    ∃ bytes, Percent.Decodes (utf8 raw) bytes ∧
      (RequestPath.translate? raw = none ↔
        ¬(List.toByteArray bytes).IsValidUTF8 ∨ 0 ∈ bytes) ∧
      (∀ t site query isHead path,
        (Serving.load t site ⟨raw, query⟩ isHead).result = .error (.badPath path) ↔
          path = raw ∧ RequestPath.translate? raw = none) ∧
      ∀ names, RequestPath.translate? raw = some names →
        (∃ text : String, utf8 text = bytes ∧
          RequestPath.Leaves (text.toList.splitOn '/') names) ∧
        (∀ s ∈ names, RequestPath.IsName s) ∧
        Path.isAbsolute (RequestPath.relative names) = false ∧
        Path.pieces (RequestPath.relative names) = RequestPath.location names ∧
        ∀ root, Path.isAbsolute root = true →
          Path.isAbsolute (Path.push root (RequestPath.relative names)) = true ∧
            Path.pieces (Path.push root (RequestPath.relative names)) =
              Path.pieces root ++ RequestPath.location names := by
  have hdecodes : Percent.Decodes (utf8 raw) (Percent.decode (utf8 raw)) :=
    Percent.decodes_iff.mpr rfl
  refine ⟨_, hdecodes, RequestPath.translate?_eq_none_iff_of_decodes hdecodes,
    fun _ _ _ _ _ => Serving.load_badPath_iff, ?_⟩
  intro names hnames
  obtain ⟨text, hspelled, hnul, rfl⟩ := RequestPath.translate?_eq_some_iff.mp hnames
  have hleaves := RequestPath.leaves_names text.toList
  have hname := hleaves.isName hnul
  have habs := RequestPath.isAbsolute_relative hname
  have hpieces := RequestPath.pieces_relative hname
  refine ⟨⟨text, (Percent.decodes_iff.mp hspelled).symm, hleaves⟩, hname, habs, hpieces, ?_⟩
  intro root hroot
  rw [Path.isAbsolute_push habs, Path.pieces_push habs, hpieces]
  exact ⟨hroot, rfl⟩

example : RequestPath.translate? "/a/%2e%2E%2f../b%2/%252e" = some ["b%2", "%2e"] := by decide

end DocRoot
