import DocRoot.Proofs.Serving.Logging

/-!
# The common form can be read back

Nothing is escaped in the common form, and nothing has to be: a blank stands between its pieces
and in none of them, whatever a client asks for. So a line has one reading.
-/

set_option autoImplicit false

namespace DocRoot

open Http

/-- The entry of a request, whoever sent it, whatever the answer and whenever. -/
inductive Exchange.Recorded : AccessLog.Entry → Prop
  | of {method target : Bytes} {version : Version} {headers : List (Bytes × Bytes)} {r : Request} :
      Request.make method target version headers = .ok r →
      ∀ (peer : SocketAddr) (response : Response) (timing : Timing),
        Exchange.Recorded (entry r peer response timing)

/-- No blank is in the text. -/
abbrev Unbroken (s : String) : Prop := Text.Over (· ≠ ' ') s

namespace Unbroken

variable {s : String}

theorem of_bytes (ok : UInt8 → Bool) (bad : ok 0x20 = false) (h : (utf8 s).all ok = true) :
    Unbroken s := by
  have hblank : ' ' ∉ s.toList := Text.not_mem_of_bytes (by decide) bad h
  exact fun c hc he => hblank (he ▸ hc)

theorem onDigits : Text.OnDigits (· ≠ ' ') := by decide

theorem not_mem (h : Unbroken s) : ' ' ∉ s.toList := fun hb => h ' ' hb rfl

end Unbroken

namespace Moment

/-- The day and the hour, which the offset follows after a blank. -/
def dayText (t : Moment) : String :=
  padded 2 t.date.day ++ "/" ++ monthName t.date.month ++ "/" ++ yearText t.date.year ++ ":"
    ++ t.clock

theorem logText_eq (t : Moment) : t.logText = t.dayText ++ " " ++ offsetText "" t.offset := rfl

theorem unbroken_dayText (t : Moment) : Unbroken t.dayText := by
  have hd := Unbroken.onDigits
  have hday := over_padded hd 2 t.date.day
  have hmonth : Unbroken (monthName t.date.month) := over_monthName (by decide) _
  have hyear : Unbroken (yearText t.date.year) := over_yearText hd (by decide) (by decide) _
  have hclock : Unbroken t.clock := over_clock hd (by decide) t
  simp only [dayText, Text.Over.append_iff]
  exact ⟨⟨⟨⟨⟨⟨hday, by decide⟩, hmonth⟩, by decide⟩, hyear⟩, by decide⟩, hclock⟩

theorem unbroken_offsetText (offset : Int) : Unbroken (offsetText "" offset) :=
  over_offsetText Unbroken.onDigits (by decide) (by decide) (by decide) offset

end Moment

theorem Http.Method.unbroken_token {m : Method} {bs : Bytes} (h : Method.ofBytes? bs = some m) :
    Unbroken m.token :=
  .of_bytes isTokenByte (by decide) (all_isTokenByte h)

theorem Http.Target.Legal.unbroken_text {uri : Target} (h : uri.Legal) : Unbroken uri.text := by
  have hpath : Unbroken uri.path := .of_bytes isPathByte (by decide) h.path
  unfold Target.text
  split
  · rename_i q hq
    have hquery : Unbroken q := .of_bytes isQueryByte (by decide) (h.query q hq)
    have hmark : Unbroken "?" := by decide
    exact Text.Over.append_iff.mpr ⟨Text.Over.append_iff.mpr ⟨hpath, hmark⟩, hquery⟩
  · exact hpath

namespace AccessLog.Entry

/-- What a blank stands between in the common form. -/
def pieces (e : Entry) : List String :=
  [e.remote, "-", "-", "[" ++ e.time.dayText, Moment.offsetText "" e.time.offset ++ "]",
    "\"" ++ e.method, e.target, "HTTP/" ++ e.version.label ++ "\"", toString e.status, e.sizeText]

theorem common_eq (e : Entry) : e.common = " ".intercalate e.pieces := by
  simp only [common, requestLine, Moment.logText_eq, pieces, ← String.toList_inj,
    String.toList_append, String.toList_intercalate, List.map_cons, List.map_nil]
  simp [List.intercalate]

/-- The parts of an entry that are shown as they are have no blanks. -/
structure Unbroken (e : Entry) : Prop where
  remote : DocRoot.Unbroken e.remote
  method : DocRoot.Unbroken e.method
  target : DocRoot.Unbroken e.target

variable {e e₁ e₂ : Entry}

theorem Unbroken.pieces (h : e.Unbroken) : ∀ piece ∈ e.pieces, DocRoot.Unbroken piece := by
  have hlabel : ∀ v : Version, DocRoot.Unbroken v.label := by
    intro v
    cases v <;> decide
  have hnumber : ∀ n : Nat, DocRoot.Unbroken (toString n) :=
    fun n => .number DocRoot.Unbroken.onDigits n
  have hsize : DocRoot.Unbroken e.sizeText := .ite (by decide) (hnumber _)
  simp only [Entry.pieces, List.forall_mem_cons, List.not_mem_nil, false_imp_iff, implies_true,
    and_true, Text.Over.append_iff]
  exact ⟨h.remote, by decide, by decide, ⟨by decide, e.time.unbroken_dayText⟩,
    ⟨Moment.unbroken_offsetText _, by decide⟩, ⟨by decide, h.method⟩, h.target,
    ⟨⟨by decide, hlabel _⟩, by decide⟩, hnumber _, hsize⟩

/-- Cut at its blanks, a line gives its pieces. -/
theorem Unbroken.splitOn_common (h : e.Unbroken) :
    e.common.toList.splitOn ' ' = e.pieces.map String.toList := by
  have hblank : ∀ cs ∈ e.pieces.map String.toList, ' ' ∉ cs := by
    intro cs hcs
    obtain ⟨piece, hpiece, rfl⟩ := List.mem_map.mp hcs
    exact (h.pieces piece hpiece).not_mem
  rw [common_eq, String.toList_intercalate]
  exact List.splitOn_intercalate ' ' hblank (List.cons_ne_nil _ _)

theorem toString_ne_dash (n : Nat) : toString n ≠ "-" := by
  intro h
  have hdash : Text.Over (· ≠ '-') (toString n) := .number (by decide) n
  exact hdash '-' (by rw [h]; decide) rfl

theorem sizeText_injective (h : e₁.sizeText = e₂.sizeText) : e₁.bodyBytes = e₂.bodyBytes := by
  unfold sizeText at h
  split at h
  · rename_i h₁
    split at h
    · rename_i h₂
      rw [h₁, h₂]
    · exact absurd h.symm (toString_ne_dash _)
  · split at h
    · exact absurd h (toString_ne_dash _)
    · exact Text.number_injective h

/-- What the common form shows of two entries is the same. -/
structure ShownAlike (e₁ e₂ : Entry) : Prop where
  remote : e₁.remote = e₂.remote
  time : e₁.time.logText = e₂.time.logText
  method : e₁.method = e₂.method
  target : e₁.target = e₂.target
  version : e₁.version.label = e₂.version.label
  status : e₁.status = e₂.status
  bodyBytes : e₁.bodyBytes = e₂.bodyBytes

theorem shownAlike_of_pieces (h : e₁.pieces = e₂.pieces) : e₁.ShownAlike e₂ := by
  simp only [pieces, List.cons.injEq, true_and, and_true, String.append_right_inj,
    String.append_left_inj] at h
  obtain ⟨hremote, hday, hoffset, hmethod, htarget, hversion, hstatus, hsize⟩ := h
  have htime : e₁.time.logText = e₂.time.logText := by
    rw [Moment.logText_eq, hday, hoffset, ← Moment.logText_eq]
  exact ⟨hremote, htime, hmethod, htarget, hversion, Text.number_injective hstatus,
    sizeText_injective hsize⟩

theorem Unbroken.pieces_eq (h₁ : e₁.Unbroken) (h₂ : e₂.Unbroken) (h : e₁.common = e₂.common) :
    e₁.pieces = e₂.pieces := by
  have hmap : e₁.pieces.map String.toList = e₂.pieces.map String.toList := by
    rw [← h₁.splitOn_common, ← h₂.splitOn_common, h]
  exact List.map_injective_iff.mpr (fun _ _ => String.toList_inj.mp) hmap

end AccessLog.Entry

theorem Exchange.Recorded.unbroken {e : AccessLog.Entry} (h : Recorded e) : e.Unbroken := by
  obtain ⟨read, peer, response, timing⟩ := h
  have htarget := (Request.legal_of_make read).unbroken_text
  obtain ⟨m, uri, fields, hm, _, _, rfl⟩ := Request.make_eq_ok_iff.mp read
  exact ⟨Ip.over_text Unbroken.onDigits (by decide) (by decide) (by decide) (by decide) _,
    Method.unbroken_token hm, htarget⟩

/-- Two entries with the same line in the common form agree in all that the form shows, whatever
stands in their targets. -/
theorem common_line_determines_fields {e₁ e₂ : AccessLog.Entry} (first : Exchange.Recorded e₁)
    (second : Exchange.Recorded e₂) (same : e₁.common = e₂.common) : e₁.ShownAlike e₂ :=
  AccessLog.Entry.shownAlike_of_pieces (first.unbroken.pieces_eq second.unbroken same)

/-- The entry of a target with quotes, a bracket and digits in it, answered in this time. -/
def forgedTarget (micros : Nat) : AccessLog.Entry :=
  Exchange.entry (Request.get "/\"]\"HTTP/1.1\"200") .neighbour ⟨404, [], utf8 "gone"⟩
    ⟨⟨1753000000, 0, 7200⟩, micros⟩

theorem recorded_forgedTarget (micros : Nat) : Exchange.Recorded (forgedTarget micros) := by
  have read : Request.make (utf8 "GET") (utf8 "/\"]\"HTTP/1.1\"200") .http11 [] =
      .ok (Request.get "/\"]\"HTTP/1.1\"200") := rfl
  exact .of read _ _ _

theorem common_line_determines_fields_forgedTarget :
    Exchange.Recorded (forgedTarget 15) ∧ Exchange.Recorded (forgedTarget 400) ∧
      (forgedTarget 15).common = (forgedTarget 400).common ∧
      (forgedTarget 15).ShownAlike (forgedTarget 400) := by
  have same : (forgedTarget 15).common = (forgedTarget 400).common := rfl
  exact ⟨recorded_forgedTarget 15, recorded_forgedTarget 400, same,
    common_line_determines_fields (recorded_forgedTarget 15) (recorded_forgedTarget 400) same⟩

end DocRoot
