import DocRoot.Proofs.Percent
import DocRoot.Proofs.Utf8
import DocRoot.RequestPath

/-!
# Paths that spell names

Names that a file system knows can be spelled one after the other with a slash before
each. Whatever decodes to such a spelling is read as these names again.
-/

set_option autoImplicit false

namespace DocRoot.RequestPath

/-- A text that stands between two slashes. -/
structure IsPiece (s : String) : Prop where
  ne_empty : s ≠ ""
  no_slash : '/' ∉ s.toList

/-- A piece that is not taken for a step. -/
structure IsName (s : String) : Prop extends IsPiece s where
  no_nul : '\x00' ∉ s.toList
  ne_dot : s ≠ "."
  ne_dotdot : s ≠ ".."

instance (s : String) : Decidable (IsName s) :=
  decidable_of_iff ((s ≠ "" ∧ '/' ∉ s.toList) ∧ '\x00' ∉ s.toList ∧ s ≠ "." ∧ s ≠ "..")
    ⟨fun h => ⟨⟨h.1.1, h.1.2⟩, h.2.1, h.2.2.1, h.2.2.2⟩,
      fun h => ⟨⟨h.ne_empty, h.no_slash⟩, h.no_nul, h.ne_dot, h.ne_dotdot⟩⟩

def spell (names : List String) : List Char := names.flatMap ('/' :: ·.toList)

section Spelling
variable {names : List String} {path : String}

theorem encode_spell (names : List String) :
    Utf8.encode (spell names) = names.flatMap (Path.slash :: utf8 ·) := by
  induction names with
  | nil => rfl
  | cons s names ih =>
    have hspell : spell (s :: names) = '/' :: (s.toList ++ spell names) := rfl
    rw [hspell, Utf8.encode_cons, Utf8.encode_append, ih]
    rfl

theorem splitOn_append_spell {text : List Char} (ht : '/' ∉ text)
    (h : ∀ s ∈ names, IsName s) :
    (text ++ spell names).splitOn '/' = text :: names.map String.toList := by
  induction names generalizing text with
  | nil => simpa [spell] using List.splitOn_eq_singleton ht
  | cons s names ih =>
    obtain ⟨hs, hnames⟩ := List.forall_mem_cons.mp h
    have hspell : spell (s :: names) = '/' :: (s.toList ++ spell names) := rfl
    rw [hspell, List.splitOn_append_cons_self_of_not_mem ht, ih hs.no_slash hnames]
    rfl

theorem push_name {s : String} (h : IsName s) (standing : List (List Char)) :
    push standing s.toList = s.toList :: standing := by
  have hempty : s.toList ≠ [] := fun he => h.ne_empty (String.toList_inj.mp he)
  have hdot : s.toList ≠ ['.'] := fun he => h.ne_dot (String.toList_inj.mp he)
  have hdotdot : s.toList ≠ ['.', '.'] := fun he => h.ne_dotdot (String.toList_inj.mp he)
  simp [push, hempty, hdot, hdotdot]

theorem walk_names (h : ∀ s ∈ names, IsName s) (standing : List (List Char)) :
    walk standing (names.map String.toList) = (names.map String.toList).reverse ++ standing := by
  induction names generalizing standing with
  | nil => rfl
  | cons s names ih =>
    obtain ⟨hs, hnames⟩ := List.forall_mem_cons.mp h
    rw [List.map_cons, walk_cons, push_name hs, ih hnames, List.reverse_cons, List.append_assoc]
    rfl

theorem names_spell (h : ∀ s ∈ names, IsName s) : RequestPath.names (spell names) = names := by
  have hsplit : (spell names).splitOn '/' = [] :: names.map String.toList :=
    splitOn_append_spell List.not_mem_nil h
  have hskip : push [] [] = [] := rfl
  rw [RequestPath.names, hsplit, walk_cons, hskip, walk_names h, List.append_nil,
    List.reverse_reverse, List.map_map]
  simp [Function.comp_def]

theorem nul_not_mem_spell (h : ∀ s ∈ names, IsName s) : '\x00' ∉ spell names := by
  intro hc
  obtain ⟨s, hs, hm⟩ := List.mem_flatMap.mp hc
  rcases List.mem_cons.mp hm with he | hm
  · exact absurd he (by decide)
  · exact (h s hs).no_nul hm

theorem translate?_of_spelled (h : ∀ s ∈ names, IsName s)
    (hp : Percent.decode (utf8 path) = names.flatMap (Path.slash :: utf8 ·)) :
    translate? path = some names := by
  have hd : decoded? path = some (spell names) := by
    rw [decoded?, hp, ← encode_spell, Utf8.decode?_encode]
    exact Option.filter_eq_some_iff.mpr ⟨rfl, by simpa using nul_not_mem_spell h⟩
  rw [translate?, hd, Option.map_some, names_spell h]

/-- A path that cannot be translated is the spelling of no text without NUL. -/
theorem translate?_eq_none_iff :
    translate? path = none ↔
      ∀ s : String, '\x00' ∉ s.toList → Percent.decode (utf8 path) ≠ utf8 s := by
  rw [translate?, Option.map_eq_none_iff, decoded?, Option.filter_eq_none_iff]
  constructor
  · intro h s hs he
    have hd : Utf8.decode? (Percent.decode (utf8 path)) = some s.toList := by
      rw [he, utf8, Utf8.decode?_encode]
    exact h _ hd (by simpa using hs)
  · intro h text hd hz
    apply h (String.ofList text) (by simpa using hz)
    have htext : utf8 (String.ofList text) = Utf8.encode text := by rw [utf8, String.toList_ofList]
    rw [htext, Utf8.encode_of_decode? hd]

/-- A path that ends in a slash is decoded to one that does, so it spells no names. -/
theorem endsInSlash_of_spelled {name : String} (hn : IsPiece name)
    (hp : Percent.decode (utf8 path) = (names ++ [name]).flatMap (Path.slash :: utf8 ·)) :
    endsInSlash path = false := by
  rw [← Bool.not_eq_true]
  intro hs
  obtain ⟨before, hb⟩ := List.getLast?_eq_some_iff.mp (beq_iff_eq.mp hs)
  have hpath : utf8 path = Utf8.encode before ++ 0x2F :: [] := by
    rw [utf8, hb, Utf8.encode_append]
    rfl
  rw [hpath, Percent.decode_append_slash, Percent.decode_nil, List.flatMap_append] at hp
  have hlast := congrArg List.getLast? hp
  have hne : utf8 name ≠ [] := fun he => hn.ne_empty (utf8_injective (he.trans utf8_empty.symm))
  have hm : 0x2F ∈ utf8 name := by
    apply List.mem_of_getLast?
    simpa [List.getLast?_append, List.getLast?_cons, List.getLast?_eq_some_getLast hne]
      using hlast.symm
  exact hn.no_slash ((Utf8.mem_encode_iff (c := '/') (by decide)).mp hm)

end Spelling

section Pieces

theorem utf8_append_slash (a b : String) : utf8 (a ++ "/" ++ b) = utf8 a ++ 0x2F :: utf8 b := by
  have hslash : utf8 "/" = [0x2F] := by decide
  rw [utf8_append, utf8_append, hslash, List.append_assoc, List.singleton_append]

/-- What stands on the two sides of a slash is decoded apart. -/
theorem decoded?_append_slash (a b : String) :
    decoded? (a ++ "/" ++ b) = (decoded? a).bind fun x => (decoded? b).map (x ++ '/' :: ·) := by
  rw [decoded?, utf8_append_slash, Percent.decode_append_slash, Utf8.decode?_append_slash]
  cases hx : Utf8.decode? (Percent.decode (utf8 a)) with
  | none => simp [decoded?, hx]
  | some x =>
    cases hy : Utf8.decode? (Percent.decode (utf8 b)) with
    | none => simp [decoded?, hx, hy]
    | some y =>
      by_cases hnx : '\x00' ∈ x <;> by_cases hny : '\x00' ∈ y <;>
        simp [decoded?, hx, hy, Option.filter, hnx, hny]

/-- The pieces behind a slash are walked on top of what those before it leave. -/
theorem translate?_append_slash (a b : String) :
    translate? (a ++ "/" ++ b) = (decoded? a).bind fun x => (decoded? b).map fun y =>
      ((walk (walk [] (x.splitOn '/')) (y.splitOn '/')).reverse).map String.ofList := by
  rw [translate?, decoded?_append_slash]
  cases decoded? a with
  | none => rfl
  | some x =>
    cases decoded? b with
    | none => rfl
    | some y =>
      simp only [Option.bind_some, Option.map_some, names, List.splitOn_append_cons_self,
        walk_append]

theorem decoded?_empty : decoded? "" = some [] := rfl

@[simp] theorem translate?_slash_append (path : String) :
    translate? ("/" ++ path) = translate? path := by
  have h := translate?_append_slash "" path
  rw [String.empty_append, decoded?_empty, Option.bind_some] at h
  rw [h, translate?]
  rfl

@[simp] theorem translate?_append_slash_end (path : String) :
    translate? (path ++ "/") = translate? path := by
  have h := translate?_append_slash path ""
  rw [String.append_empty, decoded?_empty] at h
  rw [h, translate?]
  cases decoded? path with
  | none => rfl
  | some x => rfl

end Pieces

section Child
variable {path name : String} {names : List String}

theorem exists_eq_append_slash (h : endsInSlash path = true) : ∃ before, path = before ++ "/" := by
  obtain ⟨before, hb⟩ := List.getLast?_eq_some_iff.mp (beq_iff_eq.mp h)
  refine ⟨String.ofList before, String.toList_inj.mp ?_⟩
  rw [String.toList_append, String.toList_ofList, hb]
  rfl

theorem decoded?_text (h : IsName name) : decoded? (Percent.text name) = some name.toList := by
  rw [decoded?, Percent.utf8_text, Percent.decode_encode, utf8, Utf8.decode?_encode]
  exact Option.filter_eq_some_iff.mpr ⟨rfl, by simpa using h.no_nul⟩

/-- Behind a slash at the end of a path an escaped name is the last of its names. -/
theorem translate?_append_text (hs : endsInSlash path = true) (hp : translate? path = some names)
    (hn : IsName name) : translate? (path ++ Percent.text name) = some (names ++ [name]) := by
  obtain ⟨before, rfl⟩ := exists_eq_append_slash hs
  rw [translate?_append_slash_end] at hp
  obtain ⟨text, htext, rfl⟩ := Option.map_eq_some_iff.mp hp
  have hpiece : name.toList.splitOn '/' = [name.toList] := List.splitOn_eq_singleton hn.no_slash
  rw [translate?_append_slash, htext, decoded?_text hn, Option.bind_some, Option.map_some, hpiece,
    walk_cons, walk_nil, push_name hn, List.reverse_cons, List.map_append, List.map_singleton,
    String.ofList_toList]
  rfl

theorem endsInSlash_append_slash (path : String) : endsInSlash (path ++ "/") = true := by
  simp [endsInSlash]

theorem endsInSlash_append_text (hn : IsName name) :
    endsInSlash (path ++ Percent.text name) = false := by
  rw [← Bool.not_eq_true]
  intro hs
  have hne : (Percent.text name).toList ≠ [] :=
    fun he => Percent.text_ne_empty hn.ne_empty (String.toList_inj.mp he)
  have hlast : (Percent.text name).toList.getLast? = some '/' := by
    have h := beq_iff_eq.mp hs
    rw [String.toList_append, List.getLast?_append, List.getLast?_eq_some_getLast hne] at h
    rw [List.getLast?_eq_some_getLast hne]
    exact h
  exact Percent.slash_not_mem_text hn.no_slash (List.mem_of_getLast? hlast)

end Child

end DocRoot.RequestPath
