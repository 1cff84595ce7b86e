import DocRoot.Proofs.AccessLog.CommonForm

/-!
# What the combined form leaves open

The combined form puts two headers between quotes as they were sent. A header may itself hold
what stands between them, a quote, a blank and a quote, and then the line has a second reading.
A line has one reading exactly if that mark stands in it once.
-/

set_option autoImplicit false

namespace DocRoot

open Http

/-- The characters of a header that is shown. -/
def Http.Header.IsPlain (c : Char) : Prop := c = '\t' ∨ 0x20 ≤ c.toNat ∧ c.toNat ≤ 0x7E

instance : DecidablePred Http.Header.IsPlain := fun c =>
  inferInstanceAs (Decidable (c = '\t' ∨ 0x20 ≤ c.toNat ∧ c.toNat ≤ 0x7E))

namespace Http.Header

theorem isTextByte_iff {b : UInt8} :
    isTextByte b = true ↔ b.toNat = 9 ∨ 0x20 ≤ b.toNat ∧ b.toNat ≤ 0x7E := by
  simp [isTextByte, UInt8.le_iff_toNat_le, ← UInt8.toNat_inj]

theorem isPlain_iff {c : Char} : IsPlain c ↔ c.toNat = 9 ∨ 0x20 ≤ c.toNat ∧ c.toNat ≤ 0x7E := by
  have htab : c = '\t' ↔ c.toNat = 9 := Char.toNat_inj.symm
  rw [IsPlain, htab]

/-- A text has only bytes that are shown if it has only such characters. -/
theorem all_isTextByte_iff {s : String} :
    (utf8 s).all isTextByte = true ↔ Text.Over IsPlain s := by
  constructor
  · intro h c hc
    have hbytes : ∀ b ∈ Utf8.encodeChar c, isTextByte b = true :=
      fun b hb => List.all_eq_true.mp h b (List.mem_flatMap.mpr ⟨c, hc, hb⟩)
    by_cases hlow : c.toNat < 0x80
    · have hb := hbytes (UInt8.ofNat c.toNat) (by rw [Utf8.encodeChar_of_lt hlow]; simp)
      rw [isTextByte_iff, UInt8.toNat_ofNat', Nat.mod_eq_of_lt (by omega)] at hb
      exact isPlain_iff.mpr hb
    · obtain ⟨b, hb⟩ := List.exists_mem_of_ne_nil _ (Utf8.encodeChar_ne_nil c)
      have hhigh := Utf8.le_of_mem_encodeChar (Nat.not_lt.mp hlow) hb
      have := isTextByte_iff.mp (hbytes b hb)
      omega
  · intro h
    apply List.all_eq_true.mpr
    intro b hb
    obtain ⟨c, hc, hm⟩ := List.mem_flatMap.mp hb
    have hplain := isPlain_iff.mp (h c hc)
    rw [Utf8.encodeChar_of_lt (by omega), List.mem_singleton] at hm
    rw [isTextByte_iff, hm, UInt8.toNat_ofNat', Nat.mod_eq_of_lt (by omega)]
    exact hplain

theorem isFieldByte_of_isTextByte {b : UInt8} (h : isTextByte b = true) : isFieldByte b = true := by
  have := isTextByte_iff.mp h
  simp only [isFieldByte, Bool.or_eq_true, Bool.and_eq_true, beq_iff_eq, bne_iff_ne, ne_eq,
    decide_eq_true_eq, UInt8.le_iff_toNat_le, ← UInt8.toNat_inj, UInt8.reduceToNat]
  omega

theorem parse_plain {name : Bytes} {s : String} (token : isToken name = true)
    (plain : Text.Over IsPlain s) :
    parse name (utf8 s) = .ok ⟨Utf8.lossy (name.map lowerByte), utf8 s⟩ := by
  have hfield : isFieldValue (utf8 s) = true := by
    apply List.all_eq_true.mpr
    intro b hb
    exact isFieldByte_of_isTextByte (List.all_eq_true.mp (all_isTextByte_iff.mpr plain) b hb)
  simp [parse, token, hfield]

end Http.Header

namespace AccessLog

/-- What stands between the two headers of a line in the combined form. -/
def mark : List Char := ['"', ' ', '"']

section Mark
variable {r u r' u' : List Char}

theorem mark_append (x : List Char) : mark ++ x = '"' :: ' ' :: '"' :: x := rfl

/-- One reading of two texts with the mark between them begins another one, which has the mark
again in the rest. -/
theorem mark_infix_of_longer {a : List Char} (ha : a ≠ []) (h : mark ++ u = a ++ (mark ++ u')) :
    ∃ b, a = '"' :: ' ' :: b ∧ '"' :: u = b ++ (mark ++ u') := by
  cases a with
  | nil => exact absurd rfl ha
  | cons x a =>
    simp only [mark_append, List.cons_append, List.cons.injEq] at h
    obtain ⟨rfl, h⟩ := h
    cases a with
    | nil =>
      simp at h
    | cons y b =>
      simp only [List.cons_append, List.cons.injEq] at h
      obtain ⟨rfl, h⟩ := h
      exact ⟨b, rfl, h⟩

/-- If the mark stands in the texts only once, they have no other reading. -/
theorem reading_unique (front : ¬mark <:+: r ++ ['"']) (back : ¬mark <:+: '"' :: u)
    (h : r' ++ (mark ++ u') = r ++ (mark ++ u)) : r' = r ∧ u' = u := by
  rcases List.append_eq_append_iff.mp h with ⟨a, rfl, hrest⟩ | ⟨a, rfl, hrest⟩
  · by_cases ha : a = []
    · subst ha
      exact ⟨(List.append_nil r').symm, List.append_cancel_left hrest⟩
    · -- the mark of the other reading ends in the first text
      obtain ⟨b, rfl, hb⟩ := mark_infix_of_longer ha hrest
      refine absurd ?_ front
      cases b with
      | nil => exact ⟨r', [], by simp [mark]⟩
      | cons z b =>
        obtain rfl : '"' = z := (List.cons.inj hb).1
        exact ⟨r', b ++ ['"'], by simp [mark]⟩
  · by_cases ha : a = []
    · subst ha
      exact ⟨List.append_nil r, (List.append_cancel_left hrest).symm⟩
    · -- or else it begins in the second
      obtain ⟨b, rfl, hb⟩ := mark_infix_of_longer ha hrest
      exact absurd ⟨b, u', by rw [hb, List.append_assoc]⟩ back

/-- If it stands in them once more, they have. -/
theorem exists_other_reading (h : mark <:+: r ++ ['"'] ∨ mark <:+: '"' :: u) :
    ∃ r' u', r' ++ (mark ++ u') = r ++ (mark ++ u) ∧ r' ≠ r := by
  rcases h with ⟨a, b, hab⟩ | ⟨a, b, hab⟩
  · refine ⟨a, b ++ ' ' :: '"' :: u, ?_, ?_⟩
    · calc a ++ (mark ++ (b ++ ' ' :: '"' :: u)) = (a ++ mark ++ b) ++ ' ' :: '"' :: u := by simp
        _ = r ++ (mark ++ u) := by rw [hab]; simp [mark]
    · rintro rfl
      have := congrArg List.length hab
      simp [mark] at this
  · refine ⟨r ++ '"' :: ' ' :: a, b, ?_, ?_⟩
    · calc (r ++ '"' :: ' ' :: a) ++ (mark ++ b) = r ++ '"' :: ' ' :: (a ++ mark ++ b) := by simp
        _ = r ++ (mark ++ u) := by rw [hab]; rfl
    · simp

end Mark

namespace Entry

variable {e e₁ e₂ : Entry}

/-- A header as it is shown; one that was not sent is a dash. -/
def shown (header : Option String) : String := header.getD "-"

/-- The mark stands between the headers and nowhere else. -/
structure Delimited (e : Entry) : Prop where
  referer : ¬mark <:+: (shown e.referer).toList ++ ['"']
  userAgent : ¬mark <:+: '"' :: (shown e.userAgent).toList

theorem toList_combined (e : Entry) :
    e.combined.toList = e.common.toList ++ ' ' :: '"' ::
      ((shown e.referer).toList ++ (mark ++ (shown e.userAgent).toList) ++ ['"']) := by
  simp [combined, shown, mark]

theorem splitOn_append_blank (xs ys : List Char) :
    (xs ++ ' ' :: ys).splitOn ' ' = xs.splitOn ' ' ++ ys.splitOn ' ' := by
  simp only [List.splitOn_eq_splitOnP]
  exact List.splitOnP_append_cons xs ys (by decide)

/-- A line in the combined form tells all that the common form shows, and the headers with the
mark between them. -/
theorem Unbroken.combined_eq_iff (h₁ : e₁.Unbroken) (h₂ : e₂.Unbroken) :
    e₁.combined = e₂.combined ↔
      e₁.common = e₂.common ∧
        (shown e₁.referer).toList ++ (mark ++ (shown e₁.userAgent).toList) =
          (shown e₂.referer).toList ++ (mark ++ (shown e₂.userAgent).toList) := by
  rw [← String.toList_inj, toList_combined, toList_combined]
  constructor
  · intro h
    have hsplit := congrArg (List.splitOn ' ') h
    rw [splitOn_append_blank, splitOn_append_blank, h₁.splitOn_common, h₂.splitOn_common] at hsplit
    obtain ⟨hpieces, _⟩ := List.append_inj hsplit (by simp [Entry.pieces])
    have hcommon : e₁.common = e₂.common := by
      rw [common_eq, common_eq,
        List.map_injective_iff.mpr (fun _ _ => String.toList_inj.mp) hpieces]
    rw [hcommon] at h
    have htail := List.append_cancel_left h
    simp only [List.cons.injEq, true_and] at htail
    exact ⟨hcommon, List.append_cancel_right htail⟩
  · rintro ⟨hcommon, hheaders⟩
    rw [hcommon, hheaders]

end Entry

end AccessLog

namespace Exchange.Recorded

variable {e : AccessLog.Entry}

theorem over_shown (h : Recorded e) :
    Text.Over Header.IsPlain (AccessLog.Entry.shown e.referer) ∧
      Text.Over Header.IsPlain (AccessLog.Entry.shown e.userAgent) := by
  obtain ⟨_, _, _, _⟩ := h
  have hshown : ∀ (r : Request) (name : String),
      Text.Over Header.IsPlain (AccessLog.Entry.shown (r.headerText? name)) := by
    intro r name
    cases hr : r.headerText? name with
    | none =>
      intro c hc
      obtain rfl : c = '-' := by simpa [AccessLog.Entry.shown] using hc
      exact .inr (by decide)
    | some s => exact Header.all_isTextByte_iff.mp (r.all_isTextByte_headerText? hr)
  exact ⟨hshown _ _, hshown _ _⟩

/-- The same request may come with any two headers that are plain text. -/
theorem with_headers (h : Recorded e) {referer userAgent : String}
    (plain : Text.Over Header.IsPlain referer) (plain' : Text.Over Header.IsPlain userAgent) :
    ∃ e', Recorded e' ∧ e'.common = e.common ∧ e'.referer = some referer ∧
      e'.userAgent = some userAgent := by
  obtain @⟨method, target, version, _, _, read, peer, response, timing⟩ := h
  obtain ⟨m, uri, fields, hm, huri, _, rfl⟩ := Request.make_eq_ok_iff.mp read
  have hreferer : Header.parse (utf8 "referer") (utf8 referer) =
      .ok ⟨"referer", utf8 referer⟩ := Header.parse_plain (by decide) plain
  have hagent : Header.parse (utf8 "user-agent") (utf8 userAgent) =
      .ok ⟨"user-agent", utf8 userAgent⟩ := Header.parse_plain (by decide) plain'
  have made : Request.make method target version
      [(utf8 "referer", utf8 referer), (utf8 "user-agent", utf8 userAgent)] =
        .ok ⟨m, uri, version, [⟨"referer", utf8 referer⟩, ⟨"user-agent", utf8 userAgent⟩]⟩ := by
    refine Request.make_eq_ok_iff.mpr ⟨m, uri, _, hm, huri, ?_, rfl⟩
    simp [hreferer, hagent, bind, Except.bind, pure, Except.pure]
  refine ⟨_, .of made peer response timing, rfl, ?_, ?_⟩
  · simp [entry, Request.headerText?, Header.all_isTextByte_iff.mpr plain]
  · simp [entry, Request.headerText?, Header.all_isTextByte_iff.mpr plain']

end Exchange.Recorded

open AccessLog Entry in
/-- A line in the combined form tells which headers were sent exactly if the mark between them
does not stand in the headers too. -/
theorem combined_line_determines_headers_iff {e : Entry} (recorded : Exchange.Recorded e) :
    (∀ e', Exchange.Recorded e' → e'.combined = e.combined →
      shown e'.referer = shown e.referer ∧ shown e'.userAgent = shown e.userAgent) ↔
      e.Delimited := by
  constructor
  · intro determined
    apply Classical.byContradiction
    intro hopen
    have htwice : mark <:+: (shown e.referer).toList ++ ['"'] ∨
        mark <:+: '"' :: (shown e.userAgent).toList := by
      apply Classical.byContradiction
      rw [not_or]
      exact fun h => hopen ⟨h.1, h.2⟩
    obtain ⟨r', u', hread, hne⟩ := exists_other_reading htwice
    -- the other reading is made of the same characters, so it can be sent
    obtain ⟨hreferer, hagent⟩ := recorded.over_shown
    have hplain : ∀ c ∈ r' ++ (mark ++ u'), Header.IsPlain c := by
      rw [hread]
      have hmark : ∀ c ∈ mark, Header.IsPlain c := by simp [mark, Header.IsPlain]
      simp only [List.forall_mem_append]
      exact ⟨hreferer, hmark, hagent⟩
    simp only [List.forall_mem_append] at hplain
    obtain ⟨hr', _, hu'⟩ := hplain
    obtain ⟨e', recorded', hcommon, href', hagent'⟩ :=
      recorded.with_headers (Text.Over.ofList hr') (Text.Over.ofList hu')
    have hsame : e'.combined = e.combined := by
      refine (recorded'.unbroken.combined_eq_iff recorded.unbroken).mpr ⟨hcommon, ?_⟩
      simpa [shown, href', hagent'] using hread
    obtain ⟨hshown, _⟩ := determined e' recorded' hsame
    refine hne ?_
    simpa [shown, href'] using congrArg String.toList hshown
  · rintro ⟨front, back⟩ e' recorded' hsame
    obtain ⟨_, hread⟩ := (recorded'.unbroken.combined_eq_iff recorded.unbroken).mp hsame
    obtain ⟨hr, hu⟩ := reading_unique front back hread
    exact ⟨String.toList_inj.mp hr, String.toList_inj.mp hu⟩

/-- The entry of a request for the root with these headers. -/
def headedEntry (headers : List Header) : AccessLog.Entry :=
  Exchange.entry ⟨.get, ⟨"/", none⟩, .http11, headers⟩ .neighbour ⟨200, [], []⟩
    ⟨⟨1753000000, 0, 7200⟩, 15⟩

theorem combined_line_determines_headers_iff_quoted :
    Exchange.Recorded (headedEntry [⟨"referer", utf8 "say \"hi\" \\"⟩]) ∧
      ∀ e', Exchange.Recorded e' →
        e'.combined = (headedEntry [⟨"referer", utf8 "say \"hi\" \\"⟩]).combined →
          AccessLog.Entry.shown e'.referer = "say \"hi\" \\" ∧
            AccessLog.Entry.shown e'.userAgent = "-" := by
  have read : Request.make (utf8 "GET") (utf8 "/") .http11
      [(utf8 "Referer", utf8 "say \"hi\" \\")] =
        .ok ⟨.get, ⟨"/", none⟩, .http11, [⟨"referer", utf8 "say \"hi\" \\"⟩]⟩ := rfl
  have recorded : Exchange.Recorded (headedEntry [⟨"referer", utf8 "say \"hi\" \\"⟩]) :=
    .of read _ _ _
  have delimited : (headedEntry [⟨"referer", utf8 "say \"hi\" \\"⟩]).Delimited :=
    ⟨by decide, by decide⟩
  exact ⟨recorded, (combined_line_determines_headers_iff recorded).mpr delimited⟩

/-- Two requests with other headers leave the same line. -/
theorem combined_line_is_forged :
    ∃ e₁ e₂ : AccessLog.Entry, Exchange.Recorded e₁ ∧ Exchange.Recorded e₂ ∧
      e₁.combined = e₂.combined ∧
      (e₁.referer = some "a\" \"b" ∧ e₁.userAgent = some "c") ∧
      (e₂.referer = some "a" ∧ e₂.userAgent = some "b\" \"c") ∧
      ¬(AccessLog.Entry.shown e₁.referer = AccessLog.Entry.shown e₂.referer ∧
        AccessLog.Entry.shown e₁.userAgent = AccessLog.Entry.shown e₂.userAgent) := by
  have first : Request.make (utf8 "GET") (utf8 "/") .http11
      [(utf8 "Referer", utf8 "a\" \"b"), (utf8 "User-Agent", utf8 "c")] =
        .ok ⟨.get, ⟨"/", none⟩, .http11,
          [⟨"referer", utf8 "a\" \"b"⟩, ⟨"user-agent", utf8 "c"⟩]⟩ := rfl
  have second : Request.make (utf8 "GET") (utf8 "/") .http11
      [(utf8 "Referer", utf8 "a"), (utf8 "User-Agent", utf8 "b\" \"c")] =
        .ok ⟨.get, ⟨"/", none⟩, .http11,
          [⟨"referer", utf8 "a"⟩, ⟨"user-agent", utf8 "b\" \"c"⟩]⟩ := rfl
  refine ⟨headedEntry _, headedEntry _, .of first _ _ _, .of second _ _ _, ?_, ⟨rfl, rfl⟩,
    ⟨rfl, rfl⟩, by decide⟩
  have hcommon : ∀ headers, (headedEntry headers).common = (headedEntry []).common :=
    fun _ => rfl
  rw [AccessLog.Entry.combined, AccessLog.Entry.combined, hcommon, hcommon]
  rfl

end DocRoot
