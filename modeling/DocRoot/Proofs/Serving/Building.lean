import DocRoot.Proofs.Http.Target
import DocRoot.Proofs.Serving.Convergence
import DocRoot.Proofs.Serving.Status

/-!
# Responses as they are built

No legal target holds a control byte, so no value that goes into a header is refused, and
every response is one of three kinds: content with its length, a redirect, or a page that
says what is wrong and that the connection ends.
-/

set_option autoImplicit false

namespace DocRoot

open Http FileTree Serving

namespace Http

section Legal
variable {target : Target} {s : String} {ok : UInt8 → Bool}

/-- What is made of visible bytes holds no control character. -/
theorem noControl_of_visible (h : (utf8 s).all HeadReader.isTargetByte = true) : NoControl s := by
  intro c hc
  by_cases hlow : c.toNat < 0x80
  · have hb := List.all_eq_true.mp h _ ((Utf8.mem_encode_iff hlow).mpr hc)
    simp only [HeadReader.isTargetByte, Bool.and_eq_true, decide_eq_true_eq, bne_iff_ne, ne_eq,
      UInt8.le_iff_toNat_le, ← UInt8.toNat_inj, UInt8.toNat_ofNat', UInt8.reduceToNat] at hb
    omega
  · omega

theorem visible_of_all (hok : ∀ b, ok b = true → HeadReader.isTargetByte b = true)
    (h : (utf8 s).all ok = true) : (utf8 s).all HeadReader.isTargetByte = true :=
  List.all_eq_true.mpr fun b hb => hok b (List.all_eq_true.mp h b hb)

theorem Target.isTargetByte_of_isPathByte (b : UInt8) (h : isPathByte b = true) :
    HeadReader.isTargetByte b = true := by
  simp only [isPathByte, HeadReader.isTargetByte, Bool.or_eq_true, Bool.and_eq_true, beq_iff_eq,
    decide_eq_true_eq, bne_iff_ne, ne_eq, UInt8.le_iff_toNat_le, ← UInt8.toNat_inj,
    UInt8.reduceToNat] at h ⊢
  omega

theorem Target.isTargetByte_of_isQueryByte (b : UInt8) (h : isQueryByte b = true) :
    HeadReader.isTargetByte b = true := by
  simp only [isQueryByte, HeadReader.isTargetByte, Bool.or_eq_true, Bool.and_eq_true, beq_iff_eq,
    decide_eq_true_eq, bne_iff_ne, ne_eq, UInt8.le_iff_toNat_le, ← UInt8.toNat_inj,
    UInt8.reduceToNat] at h ⊢
  omega

theorem Target.noControl_of_path (h : (utf8 s).all isPathByte = true) : NoControl s :=
  noControl_of_visible (visible_of_all isTargetByte_of_isPathByte h)

/-- No control character stands in the path or in the query. -/
structure Target.Clear (target : Target) : Prop where
  path : NoControl target.path
  query : ∀ q, target.query = some q → NoControl q

theorem Target.Legal.clear (h : target.Legal) : target.Clear where
  path := noControl_of_path h.path
  query := fun q hq =>
    noControl_of_visible (visible_of_all isTargetByte_of_isQueryByte (h.query q hq))

theorem Target.Clear.noControl_directoryForm (h : target.Clear) :
    NoControl (RequestPath.directoryForm target.path target.query) :=
  DocRoot.noControl_directoryForm h.path h.query

theorem Target.Legal.all_isTargetByte_text (h : target.Legal) :
    (utf8 target.text).all HeadReader.isTargetByte = true := by
  have hpath : (utf8 target.path).all HeadReader.isTargetByte = true :=
    visible_of_all isTargetByte_of_isPathByte h.path
  unfold Target.text
  split
  · rename_i q hq
    have hquery : (utf8 q).all HeadReader.isTargetByte = true :=
      visible_of_all isTargetByte_of_isQueryByte (h.query q hq)
    have hmark : (utf8 "?").all HeadReader.isTargetByte = true := by decide
    rw [utf8_append, utf8_append, List.all_append, List.all_append, hpath, hmark, hquery]
    rfl
  · exact hpath

theorem Target.Legal.wholeValue_directoryForm (h : target.Legal) :
    WholeValue (utf8 (RequestPath.directoryForm target.path target.query)) := by
  rw [RequestPath.directoryForm_eq_text]
  exact wholeValue_of_visible (legal_directoryForm h).all_isTargetByte_text

/-- Where the target is to be redirected to can stand in a header. -/
def Target.Redirectable (target : Target) : Prop :=
  isFieldValue (utf8 (RequestPath.directoryForm target.path target.query)) = true

theorem Target.Clear.redirectable (h : target.Clear) : target.Redirectable :=
  isFieldValue_utf8 h.noControl_directoryForm

end Legal

section Made
variable {method target : Bytes} {version : Version} {headers : List (Bytes × Bytes)} {r : Request}

/-- What each part of a request is read from. -/
theorem Request.make_eq_ok_iff :
    make method target version headers = .ok r ↔
      ∃ m uri fields, Method.ofBytes? method = some m ∧ Target.parse target = .ok uri ∧
        headers.mapM (fun h => Header.parse h.1 h.2) = .ok fields ∧
        r = ⟨m, uri, version, fields⟩ := by
  unfold make
  cases Method.ofBytes? method with
  | none => simp [throw, throwThe, MonadExceptOf.throw]
  | some m =>
    cases Target.parse target with
    | error e => simp [bind, Except.bind, Except.mapError]
    | ok uri =>
      cases headers.mapM (fun h => Header.parse h.1 h.2) with
      | error e => simp [bind, Except.bind, Except.mapError]
      | ok fields => simp [bind, Except.bind, Except.mapError, pure, Except.pure, eq_comm]

theorem Request.legal_of_make (read : make method target version headers = .ok r) :
    r.target.Legal := by
  obtain ⟨_, _, _, _, huri, _, rfl⟩ := make_eq_ok_iff.mp read
  exact Target.legal_of_parse huri

end Made

end Http

namespace Serving

/-- What is sent in the end, for `HEAD` without the body. -/
inductive Built (isHead : Bool) : Response → Prop
  | content {type : String} (data : Bytes) :
      WholeValue (utf8 type) → Built isHead (.carrying type data isHead)
  | moved {location : String} :
      WholeValue (utf8 location) →
      Built isHead ⟨301, [Response.text "location" location, Response.count "content-length" 0], []⟩
  | refused (refusal : Refusal) :
      Built isHead (Response.error refusal.status refusal.message isHead).1

variable {t : FileTree} {site : Site} {target : Target} {isHead : Bool} {r : Response}

theorem built_of_refusal {v : Verdict} {refusal : Refusal}
    (h : v.result t site target isHead = .error refusal) :
    Built isHead (v.response t site target isHead) := by
  rw [Verdict.response_of_refusal h]
  exact .refused refusal

theorem built_serve (types : site.types = .standard) (legal : target.Legal) :
    Built isHead (serve t site target isHead).1 := by
  obtain ⟨v, h⟩ := exists_denotes t site target.path
  rw [serve_response h]
  cases v with
  | malformed => exact built_of_refusal rfl
  | missing => exact built_of_refusal rfl
  | unreadable => exact built_of_refusal rfl
  | moved =>
    rw [← serve_response h, serve_of_moved h legal.clear.noControl_directoryForm]
    exact .moved legal.wholeValue_directoryForm
  | file steps place content =>
    rw [response_file types]
    exact .content content (ContentType.Table.wholeValue_standard_ofSteps steps)
  | listing steps place =>
    rw [response_listing]
    exact .content _ (by decide)

theorem built_answer (types : site.types = .standard) (legal : target.Legal) (method : Method) :
    Built (decide (method = .head)) (answer t site method target).1 := by
  cases method with
  | get => exact built_serve types legal
  | head => exact built_serve types legal
  | other token => exact .refused (.unsupportedMethod token)

theorem Built.headers_ne_nil (h : Built isHead r) : r.headers ≠ [] := by
  cases h with
  | content => simp [Response.carrying]
  | moved => simp
  | refused => simp [Response.error_eq]

end Serving

end DocRoot
