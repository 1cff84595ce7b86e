import DocRoot.ContentType
import DocRoot.Proofs.Http.Response
import Mathlib.Data.List.TakeWhile

/-!
# Types by name

A file has the type of its extension, which is what follows the last dot of its name,
unless nothing stands before that dot. Whatever is looked up, the answer is a type of the
table or the one for anything. Each of the standard types is a header value, and none is
that of a listing.
-/

set_option autoImplicit false

namespace DocRoot

namespace Path

variable {stem e : Bytes}

theorem extension?_of_not_mem {n : Name} (h : 0x2E ∉ n) : extension? n = none := by
  have hall : n.reverse.takeWhile (· ≠ 0x2E) = n.reverse := by
    apply List.takeWhile_eq_self_iff.mpr
    intro b hb
    have hne : b ≠ 0x2E := fun he => h (he ▸ List.mem_reverse.mp hb)
    simpa using hne
  simp only [extension?, hall, List.length_reverse]
  exact if_neg (by omega)

theorem extension?_append_dot (he : 0x2E ∉ e) :
    extension? (stem ++ 0x2E :: e) = if stem = [] then none else some e := by
  have htail : (stem ++ 0x2E :: e).reverse.takeWhile (· ≠ 0x2E) = e.reverse := by
    rw [List.reverse_append, List.reverse_cons, List.append_assoc, List.takeWhile_append_of_pos]
    · simp
    · intro b hb
      have hne : b ≠ 0x2E := fun hx => he (hx ▸ List.mem_reverse.mp hb)
      simpa using hne
  simp only [extension?, htail, List.length_reverse, List.reverse_reverse, List.length_append,
    List.length_cons]
  by_cases hs : stem = []
  · subst hs
    simp
  · have := List.length_pos_iff.mpr hs
    rw [if_pos (by omega), if_neg hs]

end Path

namespace ContentType

/-- A name that ends in a dot and an extension, with something left in front. -/
structure HasExtension (name e : String) : Prop where
  split : ∃ stem, stem ≠ "" ∧ name = stem ++ "." ++ e
  last : '.' ∉ e.toList

theorem utf8_dot : utf8 "." = [0x2E] := by decide

theorem HasExtension.extension?_eq {name e : String} (h : HasExtension name e) :
    Path.extension? (utf8 name) = some (utf8 e) := by
  obtain ⟨stem, hs, rfl⟩ := h.split
  have he : 0x2E ∉ utf8 e := fun hm =>
    h.last ((Utf8.mem_encode_iff (c := '.') (by decide)).mp hm)
  have hne : utf8 stem ≠ [] := fun hn => hs (utf8_injective (hn.trans utf8_empty.symm))
  rw [utf8_append, utf8_append, utf8_dot, List.append_assoc, List.singleton_append,
    Path.extension?_append_dot he, if_neg hne]

theorem exists_hasExtension {name : String} {x : Bytes}
    (h : Path.extension? (utf8 name) = some x) :
    ∃ e, x = utf8 e ∧ HasExtension name e := by
  have hdot : '.' ∈ name.toList := by
    apply Classical.byContradiction
    intro hnot
    have hb : 0x2E ∉ utf8 name := fun hm =>
      hnot ((Utf8.mem_encode_iff (c := '.') (by decide)).mp hm)
    rw [Path.extension?_of_not_mem hb] at h
    cases h
  obtain ⟨after, before, hrev, hlast⟩ := List.eq_append_cons_of_mem (List.mem_reverse.mpr hdot)
  have hname : name = String.ofList before.reverse ++ "." ++ String.ofList after.reverse := by
    apply String.toList_inj.mp
    have := congrArg List.reverse hrev
    simpa using this
  have hlast' : '.' ∉ (String.ofList after.reverse).toList := by simpa using hlast
  by_cases hs : String.ofList before.reverse = ""
  · have he : 0x2E ∉ utf8 (String.ofList after.reverse) := fun hm =>
      hlast' ((Utf8.mem_encode_iff (c := '.') (by decide)).mp hm)
    rw [hname, hs, String.empty_append, utf8_append, utf8_dot,
      ← List.nil_append (_ ++ _), List.singleton_append, Path.extension?_append_dot he,
      if_pos rfl] at h
    cases h
  · have hext : HasExtension name (String.ofList after.reverse) := ⟨⟨_, hs, hname⟩, hlast'⟩
    exact ⟨_, Option.some.inj (h.symm.trans hext.extension?_eq), hext⟩

theorem HasExtension.unique {name e e' : String} (h : HasExtension name e)
    (h' : HasExtension name e') : e = e' :=
  utf8_injective (Option.some.inj (h.extension?_eq.symm.trans h'.extension?_eq))

/-- The type of a file by its name: that of its extension, or else the fallback. -/
inductive Types (t : Table) (name : String) : String → Prop
  | listed {e type : String} : HasExtension name e → ("." ++ e, type) ∈ t → Types t name type
  | unlisted : (∀ e type, HasExtension name e → ("." ++ e, type) ∉ t) → Types t name t.fallback

namespace Table

variable {t : Table} {key type : String}

theorem mem_entry_of_find? (h : t.find? key = some type) : (key, type) ∈ t := by
  obtain ⟨e, he, rfl⟩ := Option.map_eq_some_iff.mp h
  obtain rfl : e.1 = key := by simpa using List.find?_some he
  exact List.mem_reverse.mp (List.mem_of_find?_eq_some he)

theorem mem_of_find? (h : t.find? key = some type) : type ∈ t.map (·.2) :=
  List.mem_map.mpr ⟨_, mem_entry_of_find? h, rfl⟩

theorem fallback_mem (t : Table) : t.fallback = octetStream ∨ t.fallback ∈ t.map (·.2) := by
  unfold fallback
  cases h : t.find? "" with
  | none => exact Or.inl rfl
  | some type => exact Or.inr (mem_of_find? h)

theorem lookup_mem (t : Table) (key : String) :
    t.lookup key = octetStream ∨ t.lookup key ∈ t.map (·.2) := by
  unfold lookup
  cases h : t.find? key with
  | none => exact fallback_mem t
  | some type => exact Or.inr (mem_of_find? h)

theorem ofSteps_mem (t : Table) (steps : List Name) :
    t.ofSteps steps = octetStream ∨ t.ofSteps steps ∈ t.map (·.2) := by
  unfold ofSteps
  split
  · exact lookup_mem t _
  · exact fallback_mem t

theorem standard_ofSteps_mem (steps : List Name) :
    standard.ofSteps steps ∈ standard.map (·.2) := by
  rcases ofSteps_mem standard steps with h | h
  · rw [h]
    decide
  · exact h

theorem noControl_standard_ofSteps (steps : List Name) :
    Http.NoControl (standard.ofSteps steps) := by
  have h : ∀ type ∈ standard.map (·.2), Http.NoControl type := by decide
  exact h _ (standard_ofSteps_mem steps)

theorem wholeValue_standard_ofSteps (steps : List Name) :
    Http.WholeValue (utf8 (standard.ofSteps steps)) := by
  have h : ∀ type ∈ standard.map (·.2), Http.WholeValue (utf8 type) := by decide
  exact h _ (standard_ofSteps_mem steps)

theorem standard_ofSteps_ne_htmlType (steps : List Name) :
    standard.ofSteps steps ≠ Http.Response.htmlType := by
  have h : ∀ type ∈ standard.map (·.2), type ≠ Http.Response.htmlType := by decide
  exact h _ (standard_ofSteps_mem steps)

theorem not_mem_of_find?_eq_none (h : t.find? key = none) : (key, type) ∉ t := by
  intro hm
  have hnone := List.find?_eq_none.mp (Option.map_eq_none_iff.mp h) _ (List.mem_reverse.mpr hm)
  simp at hnone

theorem types_ofSteps (t : Table) (dir : List Name) {name : String} (hne : name ≠ "")
    (hd : name ≠ ".") (hdd : name ≠ "..") : Types t name (t.ofSteps (dir ++ [utf8 name])) := by
  have hne' : utf8 name ≠ [] := fun h => hne (utf8_injective (h.trans utf8_empty.symm))
  have hd' : utf8 name ≠ Path.dot := fun h => hd (utf8_injective (h.trans utf8_dot.symm))
  have hdd' : utf8 name ≠ Path.dotdot := by
    have hdots : utf8 ".." = Path.dotdot := by decide
    exact fun h => hdd (utf8_injective (h.trans hdots.symm))
  have hlast : Path.lastName? (dir ++ [utf8 name]) = some (utf8 name) := by
    simp [Path.lastName?, Path.stays_eq_false_iff.mpr ⟨hne', hd'⟩, hdd']
  unfold ofSteps
  rw [hlast, Option.bind_some]
  cases hx : Path.extension? (utf8 name) with
  | none =>
    refine .unlisted ?_
    intro e type he
    rw [he.extension?_eq] at hx
    cases hx
  | some x =>
    obtain ⟨e, rfl, he⟩ := exists_hasExtension hx
    simp only [Option.bind_some, text?_utf8, lookup]
    cases hf : t.find? ("." ++ e) with
    | some type => exact .listed he (mem_entry_of_find? hf)
    | none =>
      refine .unlisted ?_
      intro e' type he' hm
      obtain rfl := he.unique he'
      exact not_mem_of_find?_eq_none hf hm

end Table

end ContentType

end DocRoot
