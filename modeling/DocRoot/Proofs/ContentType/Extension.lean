import DocRoot.Proofs.ContentType
import DocRoot.Proofs.Path

/-!
# Types of paths

A path has the type of its last name, whatever stands in front of that name, and behind it slashes
and single dots. The name has the type that the table's last entry gives to the text from its last
dot on. Where nothing does, the last entry of the empty key says the type.
-/

set_option autoImplicit false

namespace DocRoot

namespace Path

/-- What may stand behind a last name: slashes, and single dots, each behind a slash. -/
inductive Trailing : Bytes → Prop
  | nil : Trailing []
  | slash {rest : Bytes} : Trailing rest → Trailing (slash :: rest)
  | here {rest : Bytes} : Trailing rest → Trailing (slash :: dot ++ rest)

/-- The last name of a path stands at its front or behind a slash. -/
structure LastName (raw : Bytes) (n : Name) : Prop where
  ne_nil : n ≠ []
  slash_not_mem : slash ∉ n
  ne_dot : n ≠ dot
  place : ∃ front behind, (front = [] ∨ endsInSlash front = true) ∧ Trailing behind ∧
    raw = front ++ n ++ behind

section Named
variable {raw a b behind : Bytes} {n : Name}

/-- The pieces of a path that are no single dots. -/
def named (raw : Bytes) : List Name := (pieces raw).filter (!stays ·)

theorem named_append_slash (a b : Bytes) : named (a ++ slash :: b) = named a ++ named b := by
  rw [named, pieces_append_slash, List.filter_append, named, named]

theorem Trailing.named_append (h : Trailing behind) (n : Bytes) :
    named (n ++ behind) = named n := by
  induction h generalizing n with
  | nil => rw [List.append_nil]
  | slash _ ih =>
    have hrest := ih []
    rw [List.nil_append] at hrest
    rw [named_append_slash, hrest]
    exact List.append_nil _
  | here _ ih =>
    rw [List.cons_append, named_append_slash, ih dot]
    exact List.append_nil _

theorem LastName.getLast?_named (h : LastName raw n) : (named raw).getLast? = some n := by
  obtain ⟨front, behind, hfront, hbehind, rfl⟩ := h.place
  have hn : named n = [n] := by
    rw [named, pieces, List.splitOn_eq_singleton h.slash_not_mem]
    simp [h.ne_nil, stays_eq_false_iff.mpr ⟨h.ne_nil, h.ne_dot⟩]
  rw [hbehind.named_append]
  rcases hfront with rfl | hslash
  · rw [List.nil_append, hn]
    rfl
  · obtain ⟨before, rfl⟩ := List.getLast?_eq_some_iff.mp (beq_iff_eq.mp hslash)
    rw [List.append_assoc, List.singleton_append, named_append_slash, hn, List.getLast?_concat]

theorem lastName_append (hne : n ≠ []) (hslash : slash ∉ n) (hdot : n ≠ dot)
    (h : Trailing behind) : LastName (n ++ behind) n :=
  ⟨hne, hslash, hdot, [], behind, .inl rfl, h, rfl⟩

theorem LastName.cons (h : LastName raw n) (b : UInt8) : ∃ m, LastName (b :: raw) m := by
  obtain ⟨front, behind, hfront, hbehind, rfl⟩ := h.place
  by_cases hkept : endsInSlash (b :: front) = true
  · exact ⟨n, { h with place := ⟨b :: front, behind, .inr hkept, hbehind, rfl⟩ }⟩
  · -- Only a byte in front of the whole name, and no slash, makes the name longer.
    have hnil : front = [] := by
      rcases hfront with hnil | hend
      · exact hnil
      · obtain ⟨before, rfl⟩ := List.getLast?_eq_some_iff.mp (beq_iff_eq.mp hend)
        rw [endsInSlash, ← List.cons_append, List.getLast?_concat] at hkept
        exact absurd rfl hkept
    subst hnil
    have hb : b ≠ slash := fun hb => hkept (hb ▸ rfl)
    have hslash : slash ∉ b :: n := List.not_mem_cons_of_ne_of_not_mem hb.symm h.slash_not_mem
    have hdot : b :: n ≠ dot := fun heq => h.ne_nil (List.tail_eq_of_cons_eq heq)
    exact ⟨b :: n, lastName_append (List.cons_ne_nil _ _) hslash hdot hbehind⟩

/-- A path without a last name is nothing but what trails, or that behind a single dot. -/
theorem exists_lastName_or (raw : Bytes) :
    (∃ n, LastName raw n) ∨ Trailing raw ∨ ∃ rest, Trailing rest ∧ raw = dot ++ rest := by
  induction raw with
  | nil => exact .inr (.inl .nil)
  | cons b raw ih =>
    rcases ih with ⟨n, hn⟩ | hraw | ⟨rest, hrest, rfl⟩
    · exact .inl (hn.cons b)
    · by_cases hb : b = slash
      · exact .inr (.inl (hb ▸ .slash hraw))
      · by_cases hdot : [b] = dot
        · exact .inr (.inr ⟨raw, hraw, hdot ▸ rfl⟩)
        · have hslash : slash ∉ [b] := fun h => hb (List.mem_singleton.mp h).symm
          exact .inl ⟨[b], lastName_append (List.cons_ne_nil _ _) hslash hdot hraw⟩
    · by_cases hb : b = slash
      · exact .inr (.inl (hb ▸ .here hrest))
      · have hslash : slash ∉ b :: dot :=
          List.not_mem_cons_of_ne_of_not_mem (Ne.symm hb) (by decide)
        have hdot : b :: dot ≠ dot := List.cons_ne_self _ _
        exact .inl ⟨b :: dot, lastName_append (List.cons_ne_nil _ _) hslash hdot hrest⟩

theorem getLast?_named_eq_some_iff : (named raw).getLast? = some n ↔ LastName raw n := by
  refine ⟨?_, LastName.getLast?_named⟩
  intro h
  rcases exists_lastName_or raw with ⟨n', hn⟩ | hraw | ⟨rest, hrest, rfl⟩
  · obtain rfl := Option.some.inj (hn.getLast?_named.symm.trans h)
    exact hn
  · have hnone := hraw.named_append []
    rw [List.nil_append] at hnone
    rw [hnone] at h
    cases h
  · rw [hrest.named_append] at h
    cases h

theorem lastName?_steps (raw : Bytes) :
    lastName? (steps raw) = (named raw).getLast?.filter (· ≠ dotdot) := by
  have hsteps : (steps raw).filter (!stays ·) = named raw := by
    rw [steps, List.filter_append, named]
    split
    · simp [stays]
    · simp
  rw [lastName?, hsteps]

theorem lastName?_steps_eq_some_iff :
    lastName? (steps raw) = some n ↔ LastName raw n ∧ n ≠ dotdot := by
  rw [lastName?_steps, Option.filter_eq_some_iff, getLast?_named_eq_some_iff]
  simp

end Named

section Extended
variable {raw : Bytes} {n : Name} {x : Bytes} {e : String}

/-- The text behind the last dot of a name, with something in front of that dot. Two dots alone
are no name. -/
structure Extended (n : Name) (e : String) : Prop where
  ne_dotdot : n ≠ dotdot
  split : ∃ stem, stem ≠ [] ∧ n = stem ++ utf8 ("." ++ e)
  last : '.' ∉ e.toList

theorem extension?_eq_some_iff :
    extension? n = some x ↔ ∃ stem, stem ≠ [] ∧ n = stem ++ 0x2E :: x ∧ 0x2E ∉ x := by
  constructor
  · intro h
    have hdot : 0x2E ∈ n := by
      apply Classical.byContradiction
      intro hnot
      rw [extension?_of_not_mem hnot] at h
      cases h
    obtain ⟨after, before, hrev, hlast⟩ :=
      List.eq_append_cons_of_mem (List.mem_reverse.mpr hdot)
    have hsplit : n = before.reverse ++ 0x2E :: after.reverse := by
      rw [← List.reverse_reverse n, hrev]
      simp
    have hnot : 0x2E ∉ after.reverse := fun hm => hlast (List.mem_reverse.mp hm)
    rw [hsplit, extension?_append_dot hnot] at h
    split at h
    · cases h
    · rename_i hstem
      obtain rfl := Option.some.inj h
      exact ⟨_, hstem, hsplit, hnot⟩
  · rintro ⟨stem, hstem, rfl, hnot⟩
    rw [extension?_append_dot hnot, if_neg hstem]

theorem dot_mem_utf8_iff : 0x2E ∈ utf8 e ↔ '.' ∈ e.toList :=
  Utf8.mem_encode_iff (c := '.') (by decide)

theorem extended_iff : Extended n e ↔
    n ≠ dotdot ∧ ∃ x, extension? n = some x ∧ Utf8.text? x = some e := by
  have hbytes : ∀ stem : Bytes, stem ++ utf8 ("." ++ e) = stem ++ 0x2E :: utf8 e := by
    intro stem
    rw [utf8_append, ContentType.utf8_dot, List.singleton_append]
  constructor
  · intro h
    obtain ⟨stem, hstem, hn⟩ := h.split
    have hnot : 0x2E ∉ utf8 e := fun hm => h.last (dot_mem_utf8_iff.mp hm)
    exact ⟨h.ne_dotdot, utf8 e,
      extension?_eq_some_iff.mpr ⟨stem, hstem, hn.trans (hbytes stem), hnot⟩, text?_utf8 e⟩
  · rintro ⟨hne, x, hx, htext⟩
    obtain ⟨stem, hstem, hn, hnot⟩ := extension?_eq_some_iff.mp hx
    obtain rfl := Utf8.utf8_of_text? htext
    exact ⟨hne, ⟨stem, hstem, hn.trans (hbytes stem).symm⟩,
      fun hm => hnot (dot_mem_utf8_iff.mpr hm)⟩

/-- The extension that is looked up for a path. -/
theorem lookedUp_eq_some_iff :
    ((lastName? (steps raw)).bind extension?).bind Utf8.text? = some e ↔
      ∃ n, LastName raw n ∧ Extended n e := by
  simp only [Option.bind_eq_some_iff, lastName?_steps_eq_some_iff, extended_iff]
  constructor
  · rintro ⟨x, ⟨n, ⟨hlast, hne⟩, hx⟩, htext⟩
    exact ⟨n, hlast, hne, x, hx, htext⟩
  · rintro ⟨n, hlast, hne, x, hx, htext⟩
    exact ⟨x, ⟨n, ⟨hlast, hne⟩, hx⟩, htext⟩

end Extended

end Path

namespace ContentType.Table

variable {t : Table} {key type e : String} {raw : Bytes} {n : Name}

/-- The last entry of a key has this type. -/
def Gives (t : Table) (key type : String) : Prop :=
  ∃ before after, t = before ++ (key, type) :: after ∧ ∀ entry ∈ after, entry.1 ≠ key

theorem find?_eq_some_iff : t.find? key = some type ↔ t.Gives key type := by
  constructor
  · intro h
    obtain ⟨entry, hentry, rfl⟩ := Option.map_eq_some_iff.mp h
    obtain ⟨hkey, after, before, hrev, hnot⟩ := List.find?_eq_some_iff_append.mp hentry
    obtain rfl := beq_iff_eq.mp hkey
    refine ⟨before.reverse, after.reverse, ?_, ?_⟩
    · rw [← List.reverse_reverse t, hrev]
      simp
    · intro other hother
      simpa using hnot other (List.mem_reverse.mp hother)
  · rintro ⟨before, after, rfl, hnot⟩
    refine Option.map_eq_some_iff.mpr ⟨(key, type), ?_, rfl⟩
    refine List.find?_eq_some_iff_append.mpr ⟨beq_self_eq_true key, after.reverse, before.reverse,
      by simp, ?_⟩
    intro other hother
    simpa using hnot other (List.mem_reverse.mp hother)

theorem find?_eq_none_iff : t.find? key = none ↔ ∀ type, ¬t.Gives key type := by
  simp only [← find?_eq_some_iff, Option.eq_none_iff_forall_ne_some, ne_eq]

/-- The type of what has no other: that of the empty key, or that of bytes of any kind. -/
inductive Rest (t : Table) : String → Prop
  | entry {type : String} : t.Gives "" type → Rest t type
  | noEntry : (∀ entry ∈ t, entry.1 ≠ "") → Rest t octetStream

/-- What a path has for a type. -/
inductive PathType (t : Table) (raw : Bytes) : String → Prop
  | listed {n : Name} {e type : String} : Path.LastName raw n → Path.Extended n e →
    t.Gives ("." ++ e) type → PathType t raw type
  | rest {type : String} : (∀ n e type', Path.LastName raw n → Path.Extended n e →
    ¬t.Gives ("." ++ e) type') → Rest t type → PathType t raw type

theorem rest_fallback (t : Table) : Rest t t.fallback := by
  unfold fallback
  cases h : t.find? "" with
  | some type => exact .entry (find?_eq_some_iff.mp h)
  | none =>
    refine .noEntry ?_
    rintro ⟨key, type⟩ hmem rfl
    exact not_mem_of_find?_eq_none h hmem

theorem Rest.eq_fallback (h : Rest t type) : t.fallback = type := by
  cases h with
  | entry hgives => rw [fallback, find?_eq_some_iff.mpr hgives, Option.getD_some]
  | noEntry hnot =>
    have hnone : t.find? "" = none := by
      refine find?_eq_none_iff.mpr ?_
      rintro type ⟨before, after, rfl, _⟩
      exact hnot ("", type) (List.mem_append_right _ List.mem_cons_self) rfl
    rw [fallback, hnone, Option.getD_none]

theorem PathType.ofSteps_eq (h : PathType t raw type) : t.ofSteps (Path.steps raw) = type := by
  cases h with
  | listed hlast hext hgives =>
    rw [ofSteps, Path.lookedUp_eq_some_iff.mpr ⟨_, hlast, hext⟩]
    simp only [lookup, find?_eq_some_iff.mpr hgives, Option.getD_some]
  | rest hnot hrest =>
    rw [ofSteps]
    split
    · rename_i e he
      obtain ⟨n, hlast, hext⟩ := Path.lookedUp_eq_some_iff.mp he
      have hnone : t.find? ("." ++ e) = none :=
        find?_eq_none_iff.mpr fun type' => hnot n e type' hlast hext
      rw [lookup, hnone, Option.getD_none, hrest.eq_fallback]
    · exact hrest.eq_fallback

theorem exists_pathType (t : Table) (raw : Bytes) : ∃ type, PathType t raw type := by
  by_cases h : ∃ n e type, Path.LastName raw n ∧ Path.Extended n e ∧ t.Gives ("." ++ e) type
  · obtain ⟨n, e, type, hlast, hext, hgives⟩ := h
    exact ⟨type, .listed hlast hext hgives⟩
  · refine ⟨t.fallback, .rest ?_ (rest_fallback t)⟩
    intro n e type hlast hext hgives
    exact h ⟨n, e, type, hlast, hext, hgives⟩

theorem ofSteps_eq_iff : t.ofSteps (Path.steps raw) = type ↔ PathType t raw type := by
  constructor
  · rintro rfl
    obtain ⟨type, h⟩ := exists_pathType t raw
    exact h.ofSteps_eq.symm ▸ h
  · exact PathType.ofSteps_eq

theorem PathType.of_lastName {raw' : Bytes}
    (same : ∀ n, Path.LastName raw n ↔ Path.LastName raw' n) (h : PathType t raw type) :
    PathType t raw' type := by
  cases h with
  | listed hlast hext hgives => exact .listed ((same _).mp hlast) hext hgives
  | rest hnot hrest =>
    exact .rest (fun n e type' hlast => hnot n e type' ((same n).mpr hlast)) hrest

theorem find?_filter {p : String × String → Bool} (h : ∀ entry, entry.1 = key → p entry = true) :
    find? (t.filter p) key = t.find? key := by
  have hboth : ∀ entry : String × String,
      decide (p entry = true ∧ (entry.1 == key) = true) = (entry.1 == key) := by
    intro entry
    by_cases hkey : entry.1 = key
    · simp [hkey, h entry hkey]
    · simp [hkey]
  rw [find?, ← List.filter_reverse, List.find?_filter, find?]
  simp only [hboth]

/-- A path that is a name with this extension. -/
theorem lastName_extended {stem : Bytes} (hstem : stem ≠ []) (hslash : Path.slash ∉ stem)
    (he : e ≠ "") (hdot : '.' ∉ e.toList) (hslash' : '/' ∉ e.toList) :
    Path.LastName (stem ++ utf8 ("." ++ e)) (stem ++ utf8 ("." ++ e)) ∧
      Path.Extended (stem ++ utf8 ("." ++ e)) e := by
  have hlength : 3 ≤ (stem ++ utf8 ("." ++ e)).length := by
    have hne : utf8 e ≠ [] := fun h => he (utf8_injective (h.trans utf8_empty.symm))
    have hstem' := List.length_pos_iff.mpr hstem
    have he' := List.length_pos_iff.mpr hne
    rw [utf8_append, utf8_dot, List.length_append, List.length_append, List.length_singleton]
    omega
  have hnot : Path.slash ∉ stem ++ utf8 ("." ++ e) := by
    rw [List.mem_append, not_or]
    refine ⟨hslash, fun hm => ?_⟩
    have hchar := (Utf8.mem_encode_iff (c := '/') (by decide)).mp hm
    rw [String.toList_append, List.mem_append] at hchar
    rcases hchar with hchar | hchar
    · exact absurd hchar (by decide)
    · exact hslash' hchar
  have hne : ∀ n : Name, n.length < 3 → stem ++ utf8 ("." ++ e) ≠ n := by
    rintro n hn rfl
    omega
  refine ⟨?_, hne _ (by decide), ⟨stem, hstem, rfl⟩, hdot⟩
  have hlast := Path.lastName_append (hne [] (by decide)) hnot (hne _ (by decide)) .nil
  rwa [List.append_nil] at hlast

theorem ofSteps_filter {p : String × String → Bool}
    (h : ∀ entry, (∀ e, '.' ∉ e.toList → entry.1 = "." ++ e → p entry = true) ∧
      (entry.1 = "" → p entry = true)) :
    ofSteps (t.filter p) (Path.steps raw) = t.ofSteps (Path.steps raw) := by
  have hfallback : fallback (t.filter p) = t.fallback := by
    rw [fallback, find?_filter fun entry => (h entry).2, fallback]
  rw [ofSteps, ofSteps]
  split
  · rename_i e he
    obtain ⟨n, -, hext⟩ := Path.lookedUp_eq_some_iff.mp he
    rw [lookup, find?_filter fun entry => (h entry).1 e hext.last, hfallback, lookup]
  · exact hfallback

/-- A path has the type that its last name has by what follows its last dot. Two paths of the same
last name have the same type, and behind any other bytes an extension of the table leads to its
type. What has two dots is the key of nothing. -/
theorem type_follows_last_dot (t : Table) (raw : Bytes) :
    (∀ type, t.ofSteps (Path.steps raw) = type ↔ PathType t raw type) ∧
      (∀ raw', (∀ n, Path.LastName raw n ↔ Path.LastName raw' n) →
        t.ofSteps (Path.steps raw) = t.ofSteps (Path.steps raw')) ∧
      (∀ (stem : Bytes) (e type : String), stem ≠ [] → Path.slash ∉ stem →
        e ≠ "" → '.' ∉ e.toList → '/' ∉ e.toList → t.Gives ("." ++ e) type →
        t.ofSteps (Path.steps (stem ++ utf8 ("." ++ e))) = type) ∧
      ofSteps (t.filter fun entry => entry.1.toList.count '.' ≤ 1) (Path.steps raw) =
        t.ofSteps (Path.steps raw) := by
  refine ⟨fun type => ofSteps_eq_iff, ?_, ?_, ?_⟩
  · intro raw' same
    exact (PathType.of_lastName same (ofSteps_eq_iff.mp rfl)).ofSteps_eq.symm
  · intro stem e type hstem hslash he hdot hslash' hgives
    obtain ⟨hlast, hext⟩ := lastName_extended hstem hslash he hdot hslash'
    exact (PathType.listed hlast hext hgives).ofSteps_eq
  · refine ofSteps_filter ?_
    rintro ⟨key, type⟩
    refine ⟨?_, ?_⟩
    · rintro e hdot rfl
      have hcount : ("." ++ e).toList.count '.' = 1 := by
        rw [String.toList_append, List.count_append, List.count_eq_zero.mpr hdot]
        rfl
      exact decide_eq_true (Nat.le_of_eq hcount)
    · rintro rfl
      rfl

example : standard.ofSteps (Path.steps (utf8 "docs/..html/./")) = "text/html" := by decide

end ContentType.Table

end DocRoot
