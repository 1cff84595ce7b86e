import DocRoot.Proofs.AccessLog
import DocRoot.Proofs.Json.RoundTrip

/-!
# The JSON form loses nothing

An entry in the JSON form is one line of JSON, and what is read from it is the entry: every
text as it was, a header that was not sent apart from all texts, and every number exact.
-/

set_option autoImplicit false

namespace DocRoot

namespace Json.Read

variable {depth n : Nat}

theorem Readable.natural (depth : Nat) (h : n < UInt64.size) : Readable depth (.number n) := by
  have hword : n ≤ mostUnsigned := Nat.le_of_lt_succ h
  exact .number depth n (by omega) (Int.ofNat_le.mpr hword)

theorem Readable.optionalText (depth : Nat) (s : Option String) :
    Readable depth (Json.optionalText s) := by
  cases s with
  | none => exact .null depth
  | some s => exact .text depth s

end Json.Read

namespace AccessLog.Entry

/-- The fields tell the entry: each of its parts under its own key, and no other key. -/
structure ToldBy (e : Entry) (fields : List (String × Json)) : Prop where
  keys : (fields.map (·.1)).Perm
    ["remote_addr", "time", "method", "target", "http_version", "status", "body_bytes", "referer",
      "user_agent", "request_time_us"]
  remote : fields.lookup "remote_addr" = some (.text e.remote)
  time : fields.lookup "time" = some (.text e.time.isoText)
  method : fields.lookup "method" = some (.text e.method)
  target : fields.lookup "target" = some (.text e.target)
  version : fields.lookup "http_version" = some (.text e.version.label)
  status : fields.lookup "status" = some (.number e.status)
  bodyBytes : fields.lookup "body_bytes" = some (.number e.bodyBytes)
  micros : fields.lookup "request_time_us" = some (.number e.micros)
  referer : fields.lookup "referer" = some (e.referer.elim .null .text)
  userAgent : fields.lookup "user_agent" = some (e.userAgent.elim .null .text)

variable {e : Entry}

theorem exists_toldBy (e : Entry) : ∃ fields, e.toJson = .object fields ∧ e.ToldBy fields := by
  have hoptional : ∀ s : Option String, Json.optionalText s = s.elim .null .text := by
    intro s
    cases s <;> rfl
  refine ⟨_, rfl, ?_, rfl, rfl, rfl, rfl, rfl, rfl, rfl, rfl, ?_, ?_⟩
  · simp only [List.map_cons, List.map_nil]
    decide
  · rw [← hoptional]
    rfl
  · rw [← hoptional]
    rfl

theorem readable_toJson (status : e.status < UInt16.size) (size : e.bodyBytes < UInt64.size)
    (time : e.micros < UInt64.size) : Json.Read.Readable Json.Read.deepest e.toJson := by
  have status' : e.status < UInt64.size := Nat.lt_trans status (by decide)
  refine .object (by decide) ?_
  simp only [List.forall_mem_cons, List.not_mem_nil, false_imp_iff, implies_true, and_true]
  exact ⟨.natural _ size, .text _ _, .text _ _, .optionalText _ _, .text _ _, .natural _ time,
    .natural _ status', .text _ _, .text _ _, .optionalText _ _⟩

end AccessLog.Entry

open AccessLog

/-- A line in the JSON form is one line, and the object that is read from it tells the entry. -/
theorem json_line_reads_back (e : Entry) (status : e.status < UInt16.size)
    (size : e.bodyBytes < UInt64.size) (time : e.micros < UInt64.size) :
    OneLine (e.line (.ofName "json")) ∧
      ∃ fields, Json.parse? (e.line (.ofName "json")) = some (.object fields) ∧
        e.ToldBy fields := by
  obtain ⟨fields, hfields, told⟩ := e.exists_toldBy
  have hline : e.line (.ofName "json") = e.toJson.print := rfl
  rw [hline]
  refine ⟨e.toJson.oneLine_print, fields, ?_, told⟩
  rw [Json.parse?_print (Entry.readable_toJson status size time), hfields]

/-- An entry with quotes, backslashes and line ends in its texts and numbers as great as a word
holds. -/
def stubbornEntry : Entry where
  remote := "\"::1\"\r\n"
  time := ⟨1753000000, 123456789, 5400⟩
  method := "G\\ET\x00"
  target := "/a b?\"\x7d,\x7b\"é\u2028"
  version := .http2
  status := 65535
  bodyBytes := 18446744073709551615
  referer := none
  userAgent := some "-"
  micros := 18446744073709551615

theorem json_line_reads_back_stubbornEntry :
    stubbornEntry.status < UInt16.size ∧ stubbornEntry.bodyBytes < UInt64.size ∧
      stubbornEntry.micros < UInt64.size ∧
      ∃ fields, Json.parse? (stubbornEntry.line (.ofName "json")) = some (.object fields) ∧
        fields.lookup "target" = some (.text stubbornEntry.target) ∧
        fields.lookup "body_bytes" = some (.number 18446744073709551615) ∧
        fields.lookup "referer" = some .null ∧ fields.lookup "user_agent" = some (.text "-") := by
  have status : stubbornEntry.status < UInt16.size := by decide
  have size : stubbornEntry.bodyBytes < UInt64.size := by decide
  have time : stubbornEntry.micros < UInt64.size := by decide
  obtain ⟨_, fields, hread, told⟩ := json_line_reads_back stubbornEntry status size time
  exact ⟨status, size, time, fields, hread, told.target, told.bodyBytes, told.referer,
    told.userAgent⟩

end DocRoot
