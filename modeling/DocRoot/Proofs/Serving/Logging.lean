import DocRoot.Proofs.AccessLog
import DocRoot.Proofs.Serving.Concealment
import DocRoot.Proofs.Serving.HeadOnly
import DocRoot.Proofs.Serving.LoggedRun
import DocRoot.Proofs.Serving.Notices

/-!
# What a request leaves in the logs

Whatever comes of a request, a site with an access log writes one entry for it, which is one
line and tells what was sent. The other log gets a line when the request leads out of the
root or the system fails, and only then.
-/

set_option autoImplicit false

namespace DocRoot

open Http FileTree Serving

section Texts
variable {method target : Bytes} {version : Version} {headers : List (Bytes × Bytes)} {r : Request}

theorem Http.isTokenByte_lt (b : UInt8) (h : isTokenByte b = true) : b.toNat < 0x80 := by
  simp only [isTokenByte, isAlnum, Bool.or_eq_true, Bool.and_eq_true, decide_eq_true_eq,
    UInt8.le_iff_toNat_le, UInt8.reduceToNat, List.contains_iff_mem, List.mem_cons,
    List.not_mem_nil, or_false, ← UInt8.toNat_inj] at h
  omega

/-- Bytes below 0x80 are the bytes of what they are read as. -/
theorem Utf8.utf8_lossy_of_lt {bs : Bytes} (h : ∀ b ∈ bs, b.toNat < 0x80) :
    utf8 (lossy bs) = bs := by
  have hread : decodeLossy bs = bs.map fun b => Char.ofNat b.toNat := by
    conv_lhs => rw [← encode_map_ofNat h]
    exact decodeLossy_encode _
  rw [lossy, utf8, String.toList_ofList, hread, encode_map_ofNat h]

theorem Http.Method.all_isTokenByte {m : Method} {bs : Bytes} (h : Method.ofBytes? bs = some m) :
    (utf8 m.token).all isTokenByte = true := by
  unfold ofBytes? at h
  split at h
  · rename_i htoken
    obtain rfl := Option.some.inj h
    simp only [isToken, Bool.and_eq_true] at htoken
    have hbytes : utf8 (Utf8.lossy bs) = bs := by
      apply Utf8.utf8_lossy_of_lt
      exact fun b hb => isTokenByte_lt b (List.all_eq_true.mp htoken.2 b hb)
    rw [token_ofToken, hbytes]
    exact htoken.2
  · cases h

/-- Neither a blank nor a control byte below it is in the method or the target. No reader of
requests lets one pass. -/
structure Http.Request.Visible (r : Request) : Prop where
  method : (utf8 r.method.token).all (0x20 < ·) = true
  target : (utf8 r.target.text).all (0x20 < ·) = true

theorem Http.isTokenByte_visible (b : UInt8) (h : isTokenByte b = true) : 0x20 < b := by
  simp only [isTokenByte, isAlnum, Bool.or_eq_true, Bool.and_eq_true, decide_eq_true_eq,
    UInt8.le_iff_toNat_le, UInt8.reduceToNat, List.contains_iff_mem, List.mem_cons,
    List.not_mem_nil, or_false, ← UInt8.toNat_inj, UInt8.lt_iff_toNat_lt] at h ⊢
  omega

theorem Http.isTargetByte_visible (b : UInt8) (h : HeadReader.isTargetByte b = true) :
    0x20 < b := by
  simp only [HeadReader.isTargetByte, Bool.and_eq_true, decide_eq_true_eq,
    UInt8.le_iff_toNat_le, UInt8.reduceToNat, UInt8.lt_iff_toNat_lt] at h ⊢
  omega

theorem Http.Request.visible_of_make (read : Request.make method target version headers = .ok r) :
    r.Visible := by
  have htarget := (legal_of_make read).all_isTargetByte_text
  obtain ⟨m, uri, fields, hm, _, _, rfl⟩ := Request.make_eq_ok_iff.mp read
  refine ⟨List.all_eq_true.mpr fun b hb => ?_, List.all_eq_true.mpr fun b hb => ?_⟩
  · have hbyte := isTokenByte_visible b (List.all_eq_true.mp (Method.all_isTokenByte hm) b hb)
    exact decide_eq_true hbyte
  · exact decide_eq_true (isTargetByte_visible b (List.all_eq_true.mp htarget b hb))

theorem OneLine.of_visible {s : String} (h : (utf8 s).all (0x20 < ·) = true) : OneLine s :=
  .of_bytes (0x20 < ·) (by decide) (by decide) h

/-- Of a header that is no plain text nothing is shown. -/
theorem Http.Request.all_isTextByte_headerText? (r : Request) {name s : String}
    (h : r.headerText? name = some s) : (utf8 s).all Header.isTextByte = true := by
  unfold headerText? at h
  split at h
  · split at h
    · rename_i hplain
      rwa [Utf8.utf8_of_text? h]
    · cases h
  · cases h

theorem Http.Request.oneLine_headerText? (r : Request) {name s : String}
    (h : r.headerText? name = some s) : OneLine s :=
  .of_bytes Header.isTextByte (by decide) (by decide) (r.all_isTextByte_headerText? h)

theorem Exchange.oneLine_entry (visible : r.Visible) (peer : SocketAddr) (response : Response)
    (timing : Timing) (format : AccessLog.Format) :
    OneLine ((entry r peer response timing).line format) := by
  have hmethod : OneLine r.method.token := .of_visible visible.method
  have htarget : OneLine r.target.text := .of_visible visible.target
  have hheader : ∀ name s, r.headerText? name = some s → OneLine s :=
    fun _ _ h => r.oneLine_headerText? h
  exact AccessLog.Entry.oneLine_line (e := entry r peer response timing) peer.ip.oneLine_text
    hmethod htarget (hheader "referer") (hheader "user-agent") format

end Texts

/-- What an entry tells of a response. A body with no bytes is shown as a dash. -/
structure AccessLog.Entry.Reports (e : Entry) (method : Method) (response : Response) : Prop where
  status : e.status = response.status
  size : e.bodyBytes = response.body.length
  shown : e.sizeText = if response.body = [] then "-" else toString response.body.length
  bodiless : method = .head → e.bodyBytes = 0

section Exchanges
variable {t : FileTree} {site : Site}

theorem Serving.head_body (target : Target) : (answer t site .head target).1.body = [] := by
  simp only [answer, serve_head, Response.headOnly]

theorem Exchange.reports_entry (r : Request) (peer : SocketAddr) (timing : Timing) :
    (entry r peer (handle t site r peer timing).response timing).Reports r.method
      (handle t site r peer timing).response where
  status := rfl
  size := rfl
  shown := by simp only [AccessLog.Entry.sizeText, entry, List.length_eq_zero_iff]
  bodiless := by
    intro hm
    simp only [entry, handle, hm, head_body, List.length_nil]

theorem Exchange.filter_error_lines (x : Exchange) :
    (x.lines site).filter (·.1 = .error) = x.notices.map LogLine.ofNotice := by
  have hnotices : (x.notices.map LogLine.ofNotice).filter (·.1 = .error) =
      x.notices.map LogLine.ofNotice := by
    apply List.filter_eq_self.mpr
    intro l hl
    obtain ⟨n, _, rfl⟩ := List.mem_map.mp hl
    rfl
  have haccess : (((accessLine? site x).map ((LogKind.access, ·))).toList).filter
      (·.1 = .error) = [] := by
    cases accessLine? site x <;> rfl
  rw [lines, List.filter_append, hnotices, haccess, List.append_nil]

theorem Exchange.filter_access_lines (x : Exchange) :
    (x.lines site).filter (·.1 = .access) =
      ((accessLine? site x).map ((LogKind.access, ·))).toList := by
  have hnotices : (x.notices.map LogLine.ofNotice).filter (·.1 = .access) = [] := by
    apply List.filter_eq_nil_iff.mpr
    intro l hl
    obtain ⟨n, _, rfl⟩ := List.mem_map.mp hl
    simp [LogLine.ofNotice]
  have haccess : (((accessLine? site x).map ((LogKind.access, ·))).toList).filter
      (·.1 = .access) = ((accessLine? site x).map ((LogKind.access, ·))).toList := by
    cases accessLine? site x <;> rfl
  rw [lines, List.filter_append, hnotices, haccess, List.nil_append]

theorem Exchange.accessLine?_handle (r : Request) (peer : SocketAddr) (timing : Timing) :
    accessLine? site (handle t site r peer timing) =
      if site.settings.logging.accessLog then
        some ((entry r peer (handle t site r peer timing).response timing).line
          (.ofName site.settings.logging.accessLogFormat))
      else none := by
  simp only [accessLine?, handle]
  split <;> rfl

end Exchanges

/-- A request leaves one entry in the access log, if there is one, and in the other log what
is told of a path that leads out of the root, of a fault, or of a redirect that cannot be
written. The last does not come up where the target holds no control character. -/
theorem requests_are_logged {t₀ t : FileTree} {settings : Settings} {steps : List Name}
    {site : Site} (made : Site.make t₀ settings steps = .ok site) {r : Request}
    (visible : r.Visible) (peer : SocketAddr) (timing : Timing) :
    (∃ e : AccessLog.Entry,
      e.Reports r.method (Exchange.handle t site r peer timing).response ∧
      (∀ format, OneLine (e.line format)) ∧
      ((Exchange.handle t site r peer timing).lines site).filter (·.1 = .access) =
        if site.settings.logging.accessLog then
          [(.access, e.line (.ofName site.settings.logging.accessLogFormat))]
        else []) ∧
    ((Exchange.handle t site r peer timing).lines site).filter (·.1 = .error) =
      (Exchange.handle t site r peer timing).notices.map (LogKind.error, ·.line) ∧
    (r.method = .get ∨ r.method = .head →
      Tells t site r.target (Exchange.handle t site r peer timing).response.status
        (Exchange.handle t site r peer timing).notices) ∧
    (r.target.Clear → ¬Unwritten t site r.target) ∧
    (r.method ≠ .get → r.method ≠ .head →
      (Exchange.handle t site r peer timing).notices = []) := by
  have types := Site.types_of_make made
  refine ⟨⟨_, Exchange.reports_entry r peer timing, ?_, ?_⟩, ?_, ?_, not_unwritten_of_clear, ?_⟩
  · exact Exchange.oneLine_entry visible peer _ timing
  · rw [Exchange.filter_access_lines, Exchange.accessLine?_handle]
    split <;> rfl
  · exact Exchange.filter_error_lines _
  · rintro (hm | hm)
    · simpa only [Exchange.handle, answer, hm] using tells_serve types t r.target false
    · simpa only [Exchange.handle, answer, hm] using tells_serve types t r.target true
  · intro hget hhead
    simp only [Exchange.handle]
    cases hm : r.method with
    | get => exact absurd hm hget
    | head => exact absurd hm hhead
    | other token => exact refused_method_tells_nothing token r.target

theorem requests_are_logged_besideKey :
    Site.make (besideKey (.file (utf8 "shown"))) .defaults [utf8 "www"] = .ok .www ∧
      Request.make (utf8 "GET") (utf8 "/out") .http11 [] = .ok (Request.get "/out") ∧
      ((Exchange.handle (besideKey (.file (utf8 "shown"))) .www (Request.get "/out") .neighbour
        ⟨⟨0, 0, 0⟩, 0⟩).lines Site.www).filter (·.1 = .error) =
          [(.error, "[WARN] Path traversal attempt blocked: /out -> /key")] := by
  have made : Site.make (besideKey (.file (utf8 "shown"))) .defaults [utf8 "www"] = .ok .www := rfl
  have read : Request.make (utf8 "GET") (utf8 "/out") .http11 [] = .ok (Request.get "/out") := rfl
  have hout : Site.www.LeadsOut (besideKey (.file (utf8 "shown")))
      (Site.www.root ++ RequestPath.steps ["out"]) [utf8 "key"] := ⟨rfl, rfl, by decide⟩
  obtain ⟨_, hlines, htold, _⟩ :=
    requests_are_logged (t := besideKey (.file (utf8 "shown"))) made
      (Request.visible_of_make read) .neighbour ⟨⟨0, 0, 0⟩, 0⟩
  obtain ⟨_, hnotices⟩ := (htold (.inl rfl)).outside [utf8 "key"] (.node rfl hout)
  have hline : (Notice.outside "/out" [utf8 "key"]).line =
      "[WARN] Path traversal attempt blocked: /out -> /key" := by decide
  refine ⟨made, read, ?_⟩
  rw [hlines, hnotices]
  exact congrArg (fun l => [(LogKind.error, l)]) hline

section Detour

/-- Down past all long names, up again and out of the root. -/
def wayOut : Bytes :=
  (List.replicate 16 (utf8 "a/")).flatten ++ (List.replicate 17 (utf8 "../")).flatten ++
    utf8 "key"

/-- A link that takes this way to a key beside the root. -/
def detourKey : FileTree :=
  ⟨([utf8 "www"], .directory) :: (deepFile [] 16 [utf8 "www"] ++
    [([utf8 "www", utf8 "out"], .link wayOut), ([utf8 "key"], .file (utf8 "kept"))])⟩

theorem steps_wayOut :
    Path.steps wayOut = List.replicate 16 (utf8 "a") ++
      (List.replicate 16 Path.dotdot ++ [Path.dotdot, utf8 "key"]) := by
  decide +kernel

theorem leads_detourKey :
    ∃ seen, detourKey.Leads maxLinks [] [utf8 "www", utf8 "out"] seen [utf8 "key"] ∧
      [utf8 "www"] ++ List.replicate 16 longName ∈ seen := by
  have hwww : Plain (utf8 "www") := ⟨by decide, by decide, by decide⟩
  have hout : Plain (utf8 "out") := ⟨by decide, by decide, by decide⟩
  have hkey : Plain (utf8 "key") := ⟨by decide, by decide, by decide⟩
  have hroot : detourKey.at? ([] ++ [utf8 "www"]) = some .directory := rfl
  have hlink : detourKey.at? ([utf8 "www"] ++ [utf8 "out"]) = some (.link wayOut) := rfl
  have hkept : detourKey.at? ([] ++ [utf8 "key"]) = some (.file (utf8 "kept")) := rfl
  have hbelow : ∀ e ∈ deepFile [] 16 [utf8 "www"], detourKey.at? e.1 = some e.2 :=
    at?_deepFile [] 16 [utf8 "www"] _
  have hup : detourKey.Leads 23 [utf8 "www"] [Path.dotdot, utf8 "key"] [[] ++ [utf8 "key"]]
      ([] ++ [utf8 "key"]) := .dotdot (.leaf hkey hkept rfl rfl)
  obtain ⟨before, hdown, hmem⟩ := leads_past_longNames hbelow hup
  have hway : detourKey.Leads 39 (if Path.isAbsolute wayOut then [] else [utf8 "www"])
      (Path.steps wayOut ++ []) (before ++ [[] ++ [utf8 "key"]]) ([] ++ [utf8 "key"]) := by
    have hrelative : Path.isAbsolute wayOut = false := by decide
    rw [hrelative, List.append_nil, steps_wayOut]
    exact hdown
  refine ⟨_, .directory hwww hroot (.link hout hlink hway), ?_⟩
  exact List.mem_append_right _ (List.mem_cons_of_mem _ (List.mem_append_left _
    (hmem (by decide))))

theorem canonicalize_detourKey (place : Location) :
    detourKey.canonicalize (Site.www.root ++ RequestPath.steps ["out"]) ≠ .ok place := by
  obtain ⟨seen, hl, hmem⟩ := leads_detourKey
  exact canonicalize_ne_ok hl hmem textLength_longNames

theorem not_admits_detourKey (place : Location) :
    ¬Site.www.Admits detourKey (Site.www.root ++ RequestPath.steps ["out"]) place :=
  fun h => canonicalize_detourKey place h.canonical

theorem not_strays_detourKey (place : Location) : ¬Strays detourKey .www "/out" place := by
  have names : RequestPath.translate? "/out" = some ["out"] := rfl
  intro h
  cases h with
  | node hn hout =>
    obtain rfl := Option.some.inj (names.symm.trans hn)
    exact canonicalize_detourKey place hout.spelled
  | index ha _ _ _ => exact ha.not_missing names not_admits_detourKey

/-- A path that leads out of the root past a place whose own path is too long to be looked up
is refused, and nothing is told of it. -/
theorem stray_past_a_detour_is_not_told :
    Site.make detourKey .defaults [utf8 "www"] = .ok .www ∧
      Request.make (utf8 "GET") (utf8 "/out") .http11 [] = .ok (Request.get "/out") ∧
      RequestPath.translate? "/out" = some ["out"] ∧
      detourKey.resolve (Site.www.root ++ RequestPath.location ["out"]) = .ok [utf8 "key"] ∧
      detourKey.at? [utf8 "key"] = some (.file (utf8 "kept")) ∧
      ¬Site.www.root <+: [utf8 "key"] ∧
      (Exchange.handle detourKey .www (Request.get "/out") .neighbour
        ⟨⟨0, 0, 0⟩, 0⟩).notices = [] := by
  have read : Request.make (utf8 "GET") (utf8 "/out") .http11 [] = .ok (Request.get "/out") := rfl
  have names : RequestPath.translate? "/out" = some ["out"] := rfl
  obtain ⟨seen, hl, _⟩ := leads_detourKey
  refine ⟨rfl, read, names, resolve_eq_ok_iff.mpr ⟨rfl, seen, hl⟩, rfl, by decide, ?_⟩
  have missing : Denotes detourKey .www (Request.get "/out").target.path .missing :=
    .missing names not_admits_detourKey
  have hclear := (Request.legal_of_make read).clear
  have htold : (serve detourKey .www (Request.get "/out").target false).2 = _ :=
    serve_tells_of_fault rfl missing not_strays_detourKey (not_unwritten_of_clear hclear)
  simpa only [Exchange.handle, answer, Request.get, Verdict.faultNotices] using htold

end Detour

end DocRoot
