import DocRoot.Http.Head
import DocRoot.Http.Response
import DocRoot.Proofs.Text.Alphabet

/-!
# What the builders send

A text without control characters is a header value, and so is every number. Responses
whose headers are such values are built as asked for, with nothing to tell.
-/

set_option autoImplicit false

namespace DocRoot.Http

/-- A text that no header value has to refuse. -/
def NoControl (s : String) : Prop := ∀ c ∈ s.toList, 0x20 ≤ c.toNat ∧ c.toNat ≠ 0x7F

instance (s : String) : Decidable (NoControl s) :=
  decidable_of_iff (s.toList.all (fun c => 0x20 ≤ c.toNat && c.toNat != 0x7F) = true)
    (by simp [NoControl])

theorem NoControl.append {s u : String} (hs : NoControl s) (hu : NoControl u) :
    NoControl (s ++ u) :=
  Text.Over.append_iff.mpr ⟨hs, hu⟩

/-- A header value that is read as it is written: no blank is at its front or its end. -/
structure WholeValue (v : Bytes) : Prop where
  legal : isFieldValue v = true
  front : ∀ b ∈ v.head?, HeadReader.isBlank b = false
  back : ∀ b ∈ v.getLast?, HeadReader.isBlank b = false

instance (v : Bytes) : Decidable (WholeValue v) :=
  decidable_of_iff ((isFieldValue v && v.head?.all (!HeadReader.isBlank ·) &&
      v.getLast?.all (!HeadReader.isBlank ·)) = true) (by
    simp only [Bool.and_eq_true, Option.all_eq_true, Bool.not_eq_true']
    exact ⟨fun ⟨⟨h, hf⟩, hb⟩ => ⟨h, hf, hb⟩, fun ⟨h, hf, hb⟩ => ⟨⟨h, hf⟩, hb⟩⟩)

/-- A value without blanks and control bytes is read as it is. -/
theorem wholeValue_of_visible {v : Bytes} (h : v.all HeadReader.isTargetByte = true) :
    WholeValue v := by
  have hbyte : ∀ b ∈ v, isFieldByte b = true ∧ HeadReader.isBlank b = false := by
    intro b hb
    have hvisible := List.all_eq_true.mp h b hb
    simp only [HeadReader.isTargetByte, isFieldByte, HeadReader.isBlank, Bool.and_eq_true,
      Bool.or_eq_true, Bool.or_eq_false_iff, decide_eq_true_eq, bne_iff_ne, beq_iff_eq,
      beq_eq_false_iff_ne, UInt8.le_iff_toNat_le, ne_eq, ← UInt8.toNat_inj,
      UInt8.reduceToNat] at hvisible ⊢
    omega
  refine ⟨List.all_eq_true.mpr fun b hb => (hbyte b hb).1, ?_, ?_⟩
  · intro b hb
    exact (hbyte b (List.mem_of_mem_head? hb)).2
  · intro b hb
    exact (hbyte b (List.mem_of_getLast? hb)).2

theorem isFieldByte_of_mem {c : Char} (h : 0x20 ≤ c.toNat ∧ c.toNat ≠ 0x7F) {b : UInt8}
    (hb : b ∈ Utf8.encodeChar c) : isFieldByte b = true := by
  have hnum : 0x20 ≤ b.toNat ∧ b.toNat ≠ 0x7F := by
    by_cases hc : c.toNat < 0x80
    · rw [Utf8.encodeChar_of_lt hc, List.mem_singleton] at hb
      have hcb := (Utf8.ofNat_eq_iff (b := b) (by omega)).mp hb.symm
      omega
    · have := Utf8.le_of_mem_encodeChar (Nat.not_lt.mp hc) hb
      omega
  have hne : b ≠ 0x7F := fun he => hnum.2 (by simp [he])
  have hle : 0x20 ≤ b := UInt8.le_iff_toNat_le.mpr hnum.1
  simp [isFieldByte, hne, hle]

theorem isFieldValue_utf8 {s : String} (h : NoControl s) : isFieldValue (utf8 s) = true := by
  apply List.all_eq_true.mpr
  intro b hb
  obtain ⟨c, hc, hm⟩ := List.mem_flatMap.mp hb
  exact isFieldByte_of_mem (h c hc) hm

theorem noControl_toString (n : Nat) : NoControl (toString n) :=
  Text.Over.number (by decide) n

/-- The bytes of a text in visible ASCII characters. -/
theorem all_isTargetByte_utf8 {s : String}
    (h : Text.Over (fun c => 0x20 < c.toNat ∧ c.toNat < 0x7F) s) :
    (utf8 s).all HeadReader.isTargetByte = true := by
  apply List.all_eq_true.mpr
  intro b hb
  obtain ⟨c, hc, hm⟩ := List.mem_flatMap.mp hb
  obtain ⟨hlow, hhigh⟩ := h c hc
  rw [Utf8.encodeChar_of_lt (by omega), List.mem_singleton] at hm
  have hcb := (Utf8.ofNat_eq_iff (b := b) (by omega)).mp hm.symm
  simp only [HeadReader.isTargetByte, Bool.and_eq_true, decide_eq_true_eq, bne_iff_ne,
    UInt8.le_iff_toNat_le, ne_eq, ← UInt8.toNat_inj, UInt8.reduceToNat]
  omega

theorem wholeValue_toString (n : Nat) : WholeValue (utf8 (toString n)) :=
  wholeValue_of_visible (all_isTargetByte_utf8 (Text.Over.number (by decide) n))

namespace Response

theorem assemble_eq {status spare : Nat} {headers : List Header} {body : Bytes}
    (h : ∀ x ∈ headers, isFieldValue x.value = true) :
    assemble status spare headers body = (⟨status, headers, body⟩, []) :=
  if_pos (List.all_eq_true.mpr h)

theorem isFieldValue_text (name : String) {s : String} (h : NoControl s) :
    isFieldValue (text name s).value = true :=
  isFieldValue_utf8 h

theorem isFieldValue_count (name : String) (n : Nat) :
    isFieldValue (count name n).value = true :=
  isFieldValue_text name (noControl_toString n)

/-- The full response with these bytes, or for `HEAD` its headers alone. -/
def carrying (type : String) (data : Bytes) (isHead : Bool) : Response :=
  ⟨200, [text "content-type" type, count "content-length" data.length],
    if isHead then [] else data⟩

@[simp] theorem carrying_type (type : String) (data : Bytes) (isHead : Bool) :
    (carrying type data isHead).header? "content-type" = some (utf8 type) := by
  simp [carrying, header?, text]

@[simp] theorem carrying_length (type : String) (data : Bytes) (isHead : Bool) :
    (carrying type data isHead).header? "content-length" = some (utf8 (toString data.length)) := by
  simp [carrying, header?, text, count]

/-- The header tells the number of bytes, also where the bytes are left out. -/
theorem length_eq_of_carrying_eq {type : String} {data data' : Bytes} {isHead : Bool}
    (h : carrying type data isHead = carrying type data' isHead) : data.length = data'.length := by
  have hcount := congrArg (header? · "content-length") h
  simp only [carrying_length, Option.some.injEq] at hcount
  exact Text.number_injective (utf8_injective hcount)

theorem ofFile_eq {type : String} (h : NoControl type) (data : Bytes) (isHead : Bool) :
    ofFile data type isHead = (carrying type data isHead, []) := by
  apply assemble_eq
  intro x hx
  simp only [List.mem_cons, List.not_mem_nil, or_false] at hx
  rcases hx with rfl | rfl
  · exact isFieldValue_utf8 h
  · exact isFieldValue_count _ _

theorem noControl_htmlType : NoControl htmlType := by decide

theorem redirect_of_isFieldValue {target : String} (h : isFieldValue (utf8 target) = true) :
    redirect target =
      (⟨301, [text "location" target, count "content-length" 0], []⟩, []) := by
  apply assemble_eq
  intro x hx
  simp only [List.mem_cons, List.not_mem_nil, or_false] at hx
  rcases hx with rfl | rfl
  · exact h
  · exact isFieldValue_count _ _

theorem redirect_eq {target : String} (h : NoControl target) :
    redirect target =
      (⟨301, [text "location" target, count "content-length" 0], []⟩, []) :=
  redirect_of_isFieldValue (isFieldValue_utf8 h)

/-- A redirect that no header can hold is sent bare, with the status of a success. -/
theorem redirect_of_not_isFieldValue {target : String} (h : isFieldValue (utf8 target) = false) :
    redirect target = (⟨200, [], []⟩, [.unbuilt 301]) := by
  apply if_neg
  intro hall
  have hfirst := List.all_eq_true.mp hall (text "location" target) List.mem_cons_self
  cases h.symm.trans hfirst

theorem error_eq (status : Nat) (message : String) (isHead : Bool) :
    error status message isHead =
      (⟨status,
        [text "content-type" "text/html;charset=utf-8", text "connection" "close",
          count "content-length" (utf8 (errorPage status message)).length],
        if isHead then [] else utf8 (errorPage status message)⟩, []) := by
  apply assemble_eq
  intro x hx
  simp only [List.mem_cons, List.not_mem_nil, or_false] at hx
  rcases hx with rfl | rfl | rfl
  · exact isFieldValue_utf8 (s := "text/html;charset=utf-8") (by decide)
  · exact isFieldValue_utf8 (s := "close") (by decide)
  · exact isFieldValue_count _ _

theorem error_status (status : Nat) (message : String) (isHead : Bool) :
    (error status message isHead).1.status = status := by
  rw [error_eq]

theorem error_tells_nothing (status : Nat) (message : String) (isHead : Bool) :
    (error status message isHead).2 = [] := by
  rw [error_eq]

end Response

end DocRoot.Http
