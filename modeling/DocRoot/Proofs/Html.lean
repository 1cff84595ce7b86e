import DocRoot.Html

/-!
# Escaped text and the marks around it

Escaping writes each character on its own: an ampersand and the two angle brackets as an entity,
all else as it is. No angle bracket is left, so those of a page belong to its tags, and a page is
read tag by tag: each runs from one angle bracket to the other, and text follows up to the next.
-/

set_option autoImplicit false

namespace DocRoot.Html

/-- What one character is written as. -/
def entity (c : Char) : List Char :=
  if c = '&' then "&amp;".toList
  else if c = '<' then "&lt;".toList
  else if c = '>' then "&gt;".toList
  else [c]

/-- A character that may stand beside tags. -/
def IsText (c : Char) : Prop := c ≠ '<' ∧ c ≠ '>'

instance (c : Char) : Decidable (IsText c) := inferInstanceAs (Decidable (_ ∧ _))

def AllText (cs : List Char) : Prop := ∀ c ∈ cs, IsText c

instance (cs : List Char) : Decidable (AllText cs) := List.decidableBAll IsText cs

section Escape
variable {c : Char} {cs : List Char}

@[elab_as_elim] theorem entity_cases {motive : Char → List Char → Prop}
    (amp : motive '&' "&amp;".toList) (lt : motive '<' "&lt;".toList)
    (gt : motive '>' "&gt;".toList) (plain : ∀ c, c ≠ '&' → IsText c → motive c [c]) (c : Char) :
    motive c (entity c) := by
  unfold entity
  split
  · rename_i h
    exact h ▸ amp
  · rename_i hamp
    split
    · rename_i h
      exact h ▸ lt
    · rename_i hlt
      split
      · rename_i h
        exact h ▸ gt
      · rename_i hgt
        exact plain c hamp ⟨hlt, hgt⟩

/-- A later replacement finds nothing in what an earlier one has written. -/
theorem escapeChars_eq_flatMap (cs : List Char) : escapeChars cs = cs.flatMap entity := by
  have hone : ∀ c, escapeChars [c] = entity c := by
    intro c
    induction c using entity_cases with
    | amp => rfl
    | lt => rfl
    | gt => rfl
    | plain c hamp htext => simp [escapeChars, replaceChar, hamp, htext.1, htext.2]
  induction cs with
  | nil => rfl
  | cons c cs ih =>
    have hcons : escapeChars (c :: cs) = escapeChars [c] ++ escapeChars cs :=
      escapeChars_append [c] cs
    rw [hcons, hone, ih, List.flatMap_cons]

theorem escape_append (s u : String) : escape (s ++ u) = escape s ++ escape u := by
  rw [escape, String.toList_append, escapeChars_append, String.ofList_append, escape, escape]

theorem allText_entity (c : Char) : AllText (entity c) := by
  induction c using entity_cases with
  | amp => decide
  | lt => decide
  | gt => decide
  | plain c _ htext => exact List.forall_mem_singleton.mpr htext

theorem allText_escape (s : String) : AllText (escape s).toList := by
  intro c hc
  rw [escape, String.toList_ofList, escapeChars_eq_flatMap] at hc
  obtain ⟨d, _, hd⟩ := List.mem_flatMap.mp hc
  exact allText_entity d c hd

/-- The text that is written with entities, read once from left to right. -/
def unescapeChars : List Char → List Char
  | '&' :: 'a' :: 'm' :: 'p' :: ';' :: cs => '&' :: unescapeChars cs
  | '&' :: 'l' :: 't' :: ';' :: cs => '<' :: unescapeChars cs
  | '&' :: 'g' :: 't' :: ';' :: cs => '>' :: unescapeChars cs
  | c :: cs => c :: unescapeChars cs
  | [] => []

def unescape (s : String) : String := String.ofList (unescapeChars s.toList)

theorem unescapeChars_cons (h : c ≠ '&') (cs : List Char) :
    unescapeChars (c :: cs) = c :: unescapeChars cs := by
  rw [unescapeChars]
  all_goals
    rintro cs' rfl
    exact absurd rfl h

theorem unescapeChars_entity_append (c : Char) (cs : List Char) :
    unescapeChars (entity c ++ cs) = c :: unescapeChars cs := by
  induction c using entity_cases with
  | amp => rfl
  | lt => rfl
  | gt => rfl
  | plain c hamp _ => exact unescapeChars_cons hamp cs

theorem unescape_escape (s : String) : unescape (escape s) = s := by
  have hchars : unescapeChars (escapeChars s.toList) = s.toList := by
    rw [escapeChars_eq_flatMap]
    induction s.toList with
    | nil => rfl
    | cons c cs ih => rw [List.flatMap_cons, unescapeChars_entity_append, ih]
  rw [unescape, escape, String.toList_ofList, hchars, String.ofList_toList]

/-- What stands in escaped text for the characters that are not written themselves. -/
def entities : List (List Char) := ["&amp;".toList, "&lt;".toList, "&gt;".toList]

/-- An ampersand stands only where one of the entities begins. -/
def EntitiesOnly (cs : List Char) : Prop :=
  ∀ rest, '&' :: rest <:+ cs → ∃ e ∈ entities, e <+: '&' :: rest

theorem EntitiesOnly.cons (hc : c ≠ '&') (h : EntitiesOnly cs) : EntitiesOnly (c :: cs) := by
  intro rest hrest
  rcases List.suffix_cons_iff.mp hrest with heq | hrest
  · exact absurd (List.head_eq_of_cons_eq heq).symm hc
  · exact h rest hrest

/-- An entity has one ampersand, which is its first character. -/
theorem EntitiesOnly.entity_append {name : List Char} (he : '&' :: name ∈ entities)
    (hname : '&' ∉ name) (h : EntitiesOnly cs) : EntitiesOnly ('&' :: name ++ cs) := by
  have hbehind : EntitiesOnly (name ++ cs) := by
    clear he
    induction name with
    | nil => exact h
    | cons c name ih =>
      obtain ⟨hc, hname⟩ := List.ne_and_not_mem_of_not_mem_cons hname
      exact (ih hname).cons (Ne.symm hc)
  intro rest hrest
  rcases List.suffix_cons_iff.mp hrest with heq | hrest
  · exact ⟨_, he, heq ▸ List.prefix_append _ _⟩
  · exact hbehind rest hrest

theorem entitiesOnly_flatMap (cs : List Char) : EntitiesOnly (cs.flatMap entity) := by
  induction cs with
  | nil =>
    intro rest hrest
    exact absurd (List.suffix_nil.mp hrest) (List.cons_ne_nil _ _)
  | cons c cs ih =>
    rw [List.flatMap_cons]
    induction c using entity_cases with
    | amp => exact ih.entity_append (by decide) (by decide)
    | lt => exact ih.entity_append (by decide) (by decide)
    | gt => exact ih.entity_append (by decide) (by decide)
    | plain c hamp _ => exact ih.cons hamp

/-- The three replacements, one after the other, are one pass that writes each character on its
own, so texts may be escaped piece by piece. What is written has no angle bracket and no ampersand
but those of its entities, and the text is read back from it, also where it looks like an entity. -/
theorem escaped_text_reads_back (s u : String) :
    escape s = String.ofList (s.toList.flatMap entity) ∧
      escape (s ++ u) = escape s ++ escape u ∧
      AllText (escape s).toList ∧
      EntitiesOnly (escape s).toList ∧
      unescape (escape s) = s ∧
      (escape s = escape u ↔ s = u) := by
  have hpass : escape s = String.ofList (s.toList.flatMap entity) := by
    rw [escape, escapeChars_eq_flatMap]
  refine ⟨hpass, escape_append s u, allText_escape s, ?_, unescape_escape s, ?_⟩
  · rw [hpass, String.toList_ofList]
    exact entitiesOnly_flatMap s.toList
  · constructor
    · intro h
      rw [← unescape_escape s, h, unescape_escape]
    · exact congrArg escape

example : escape "&lt; <b>" = "&amp;lt; &lt;b&gt;" := by decide

end Escape

/-- A tag and the text up to the next one. -/
structure Mark where
  tag : String
  text : String
  deriving DecidableEq

namespace Mark

/-- Neither the tag nor the text ends before it should. -/
structure Closed (m : Mark) : Prop where
  tag : AllText m.tag.toList
  text : AllText m.text.toList

instance (m : Mark) : Decidable m.Closed :=
  decidable_of_iff (AllText m.tag.toList ∧ AllText m.text.toList)
    ⟨fun h => ⟨h.1, h.2⟩, fun h => ⟨h.tag, h.text⟩⟩

def write (m : Mark) : String := "<" ++ m.tag ++ ">" ++ m.text

/-- What a mark writes behind its first bracket. -/
def piece (m : Mark) : List Char := m.tag.toList ++ '>' :: m.text.toList

/-- The mark whose tag begins where the piece does. -/
def ofPiece (piece : List Char) : Mark :=
  ⟨String.ofList (piece.takeWhile (· ≠ '>')), String.ofList (piece.dropWhile (· ≠ '>')).tail⟩

variable {m : Mark}

theorem toList_write (m : Mark) : m.write.toList = '<' :: m.piece := by
  simp [write, piece]

theorem ofPiece_piece (h : m.Closed) : ofPiece m.piece = m := by
  have htag : ∀ c ∈ m.tag.toList, decide (c ≠ '>') = true := by
    intro c hc
    exact decide_eq_true (h.tag c hc).2
  rw [ofPiece, piece, List.takeWhile_append_of_pos htag, List.dropWhile_append_of_pos htag]
  simp

theorem Closed.not_mem_piece (h : m.Closed) : '<' ∉ m.piece := by
  intro hc
  rcases List.mem_append.mp hc with hc | hc
  · exact (h.tag _ hc).1 rfl
  · rcases List.mem_cons.mp hc with hc | hc
    · exact absurd hc (by decide)
    · exact (h.text _ hc).1 rfl

theorem Closed.count_write (h : m.Closed) {c : Char} (hc : ¬IsText c) :
    m.write.toList.count c = 1 := by
  have htag : m.tag.toList.count c = 0 := List.count_eq_zero.mpr fun hm => hc (h.tag c hm)
  have htext : m.text.toList.count c = 0 := List.count_eq_zero.mpr fun hm => hc (h.text c hm)
  have hangle : c = '<' ∨ c = '>' := by
    by_cases hlt : c = '<'
    · exact Or.inl hlt
    · exact Or.inr (Classical.byContradiction fun hgt => hc ⟨hlt, hgt⟩)
  rw [toList_write, piece, List.count_cons, List.count_append, List.count_cons, htag, htext]
  rcases hangle with rfl | rfl <;> rfl

end Mark

/-- The marks of a page, read from one opening bracket to the next. -/
def marks (page : String) : List Mark := (page.toList.splitOn '<').tail.map Mark.ofPiece

section Marks
variable {ms : List Mark}

def writeAll (ms : List Mark) : String := String.join (ms.map Mark.write)

@[simp] theorem writeAll_nil : writeAll [] = "" := rfl

@[simp] theorem writeAll_cons (m : Mark) (ms : List Mark) :
    writeAll (m :: ms) = m.write ++ writeAll ms := by
  rw [writeAll, List.map_cons, String.join_cons, writeAll]

@[simp] theorem writeAll_append (ms ms' : List Mark) :
    writeAll (ms ++ ms') = writeAll ms ++ writeAll ms' := by
  rw [writeAll, List.map_append, String.join_append, writeAll, writeAll]

theorem splitOn_writeAll {before : List Char} (hb : '<' ∉ before) (h : ∀ m ∈ ms, m.Closed) :
    (before ++ (writeAll ms).toList).splitOn '<' = before :: ms.map Mark.piece := by
  induction ms generalizing before with
  | nil => simpa using List.splitOn_eq_singleton hb
  | cons m ms ih =>
    obtain ⟨hm, hms⟩ := List.forall_mem_cons.mp h
    rw [writeAll_cons, String.toList_append, Mark.toList_write, List.cons_append,
      List.splitOn_append_cons_self_of_not_mem hb, ih hm.not_mem_piece hms, List.map_cons]

/-- A page that is written mark by mark is read so. -/
theorem marks_writeAll (h : ∀ m ∈ ms, m.Closed) : marks (writeAll ms) = ms := by
  have hsplit : (writeAll ms).toList.splitOn '<' = [] :: ms.map Mark.piece :=
    splitOn_writeAll List.not_mem_nil h
  have hone : ∀ m ∈ ms, (Mark.ofPiece ∘ Mark.piece) m = id m :=
    fun m hm => Mark.ofPiece_piece (h m hm)
  rw [marks, hsplit, List.tail_cons, List.map_map, List.map_congr_left hone, List.map_id]

/-- Each mark has one bracket of each kind, and there are no others. -/
theorem count_writeAll (h : ∀ m ∈ ms, m.Closed) {c : Char} (hc : ¬IsText c) :
    (writeAll ms).toList.count c = ms.length := by
  induction ms with
  | nil => rfl
  | cons m ms ih =>
    obtain ⟨hm, hms⟩ := List.forall_mem_cons.mp h
    rw [writeAll_cons, String.toList_append, List.count_append, hm.count_write hc, ih hms,
      List.length_cons, Nat.add_comm]

end Marks

end DocRoot.Html
