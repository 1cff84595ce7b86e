import DocRoot.Proofs.RequestPath.Translation

/-!
# Paths behind one another

A path behind a slash is translated on top of what stands in front of it: its steps up may
take back names that stand there, and nothing else is shared. The names that come out, escaped
and written one after the other, are a path that is translated to them again.
-/

set_option autoImplicit false

namespace DocRoot

namespace RequestPath

variable {a b raw : String} {names above : List String} {text : List Char}

theorem isName_of_translate? (h : translate? raw = some names) : ∀ s ∈ names, IsName s := by
  obtain ⟨text, _, hnul, rfl⟩ := translate?_eq_some_iff.mp h
  exact (leaves_names text.toList).isName hnul

section Composed

theorem translate?_append_slash_isSome :
    (translate? (a ++ "/" ++ b)).isSome = true ↔
      (translate? a).isSome = true ∧ (translate? b).isSome = true := by
  rw [translate?_append_slash, translate?, translate?]
  cases decoded? a <;> cases decoded? b <;> simp

/-- The names that stand in front are as good as the pieces that left them. -/
theorem walk_names_append (h : ∀ s ∈ above, IsName s) (pieces : List (List Char)) :
    walk [] (above.map String.toList ++ pieces) =
      walk (above.map String.toList).reverse pieces := by
  rw [walk_append, walk_names h, List.append_nil]

theorem translate?_behind (ha : translate? a = some above) (hb : decoded? b = some text) :
    translate? (a ++ "/" ++ b) =
      some ((walk [] (above.map String.toList ++ text.splitOn '/')).reverse.map
        String.ofList) := by
  obtain ⟨front, hfront, rfl⟩ := Option.map_eq_some_iff.mp ha
  have hstack : (RequestPath.names front).map String.toList =
      (walk [] (front.splitOn '/')).reverse := by
    simp [RequestPath.names, Function.comp_def]
  rw [walk_names_append (isName_of_translate? ha), hstack, List.reverse_reverse,
    translate?_append_slash, hfront, hb]
  rfl

/-- A path none of whose steps up overreaches adds its own names. -/
theorem translate?_behind_of_not_overreaches (ha : translate? a = some above)
    (hb : decoded? b = some text) (hup : ∀ j, ¬Overreaches (text.splitOn '/') j) :
    translate? (a ++ "/" ++ b) = some (above ++ RequestPath.names text) := by
  rw [translate?_behind ha hb, walk_names_append (isName_of_translate? ha),
    walk_of_not_overreaches hup, List.reverse_append, List.reverse_reverse, List.map_append]
  simp [RequestPath.names, Function.comp_def]

end Composed

section Spelled

theorem decode_slash_append (s : String) :
    Percent.decode (utf8 ("/" ++ s)) = Path.slash :: Percent.decode (utf8 s) := by
  have hslash := utf8_append_slash "" s
  rw [String.empty_append, utf8_empty, List.nil_append] at hslash
  rw [hslash]
  exact Percent.decode_append_slash [] (utf8 s)

theorem decode_intercalate_text (s : String) (names : List String) :
    Percent.decode (utf8 ("/" ++ "/".intercalate ((s :: names).map Percent.text))) =
      (s :: names).flatMap (Path.slash :: utf8 ·) := by
  induction names generalizing s with
  | nil =>
    rw [List.map_cons, List.map_nil, String.intercalate_singleton, decode_slash_append,
      Percent.utf8_text, Percent.decode_encode]
    simp
  | cons s' names ih =>
    have hrest := ih s'
    rw [decode_slash_append] at hrest
    rw [List.map_cons, List.map_cons, String.intercalate_cons_cons, ← List.map_cons,
      decode_slash_append, utf8_append_slash, Percent.decode_append_slash, Percent.utf8_text,
      Percent.decode_encode, List.flatMap_cons, ← hrest]
    rfl

/-- Names that were escaped and written one after the other are read again. -/
theorem translate?_intercalate_text (h : ∀ s ∈ names, IsName s) :
    translate? ("/" ++ "/".intercalate (names.map Percent.text)) = some names := by
  cases names with
  | nil => rfl
  | cons s names => exact translate?_of_spelled h (decode_intercalate_text s names)

end Spelled

end RequestPath

/-- A path behind a slash is translated if both sides are, and then on top of the names in
front of it, which it adds to unless one of its steps up overreaches. What comes out is
translated to itself when it is escaped and written as a path again. -/
theorem translation_composes (a b : String) :
    ((RequestPath.translate? (a ++ "/" ++ b)).isSome = true ↔
      (RequestPath.translate? a).isSome = true ∧ (RequestPath.translate? b).isSome = true) ∧
    (∀ above below, RequestPath.translate? a = some above →
      RequestPath.translate? b = some below →
      ∃ (text : String) (names : List String), RequestPath.Says b text ∧
        RequestPath.translate? (a ++ "/" ++ b) = some names ∧
        RequestPath.Leaves (above.map String.toList ++ text.toList.splitOn '/') names ∧
        ((∀ j, ¬RequestPath.Overreaches (text.toList.splitOn '/') j) →
          names = above ++ below)) ∧
    ∀ path names, RequestPath.translate? path = some names →
      RequestPath.translate? ("/" ++ "/".intercalate (names.map Percent.text)) =
        some names := by
  refine ⟨RequestPath.translate?_append_slash_isSome, ?_, ?_⟩
  · intro above below ha hb
    obtain ⟨text, hspelled, hnul, rfl⟩ := RequestPath.translate?_eq_some_iff.mp hb
    have hdecoded : RequestPath.decoded? b = some text.toList :=
      RequestPath.decoded?_eq_some_iff.mpr ⟨by simpa using hspelled, hnul⟩
    have hbehind := RequestPath.translate?_behind ha hdecoded
    refine ⟨text, _, hspelled, hbehind, RequestPath.leaves_walk _, ?_⟩
    intro hup
    have hadds := RequestPath.translate?_behind_of_not_overreaches ha hdecoded hup
    exact Option.some.inj (hbehind.symm.trans hadds)
  · intro path names h
    exact RequestPath.translate?_intercalate_text (RequestPath.isName_of_translate? h)

end DocRoot
