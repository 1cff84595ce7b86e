import DocRoot.Proofs.Serving.Building
import DocRoot.Proofs.Serving.Convergence

/-!
# Two spellings of one path

Paths that decode to the same bytes ask for the same node, so they have the same verdict if
both or neither end in a slash. The answer shows the path in one place only, the location of
a redirect, and there the two spellings lead to the same names.
-/

set_option autoImplicit false

namespace DocRoot

open Http Serving

namespace RequestPath

variable {path path' : String}

theorem translate?_of_decode_eq (h : Percent.decode (utf8 path') = Percent.decode (utf8 path)) :
    translate? path' = translate? path := by
  rw [translate?, translate?, decoded?, decoded?, h]

theorem display_of_decode_eq (h : Percent.decode (utf8 path') = Percent.decode (utf8 path)) :
    display path' = display path := by
  rw [display, display, h]

theorem question_not_mem_directoryForm (legal : (utf8 path).all Target.isPathByte = true) :
    '?' ∉ (directoryForm path none).toList := by
  rw [directoryForm_eq_append, String.toList_append, String.toList_append]
  intro hm
  simp only [List.mem_append, String.toList_ofList] at hm
  rcases hm with (hslash | hpath) | hslash
  · exact absurd hslash (by decide)
  · have hquestion : '?' ∈ path.toList := (List.dropWhile_suffix _).mem hpath
    have hbyte := (Utf8.mem_encode_iff (c := '?') (by decide)).mpr hquestion
    exact absurd (List.all_eq_true.mp legal _ hbyte) (by decide)
  · exact absurd hslash (by decide)

end RequestPath

namespace Http

/-- A redirect as it is built. -/
def Response.leadingTo (location : String) : Response :=
  ⟨301, [text "location" location, count "content-length" 0], []⟩

/-- Whether a redirect can be built is up to the query, if the path holds no control
character. -/
theorem Response.redirect_of_noControl {path : String} (hp : NoControl path)
    (query : Option String) :
    (redirect (RequestPath.directoryForm path query)).1 =
      if query.all fun q => isFieldValue (utf8 q) then
        leadingTo (RequestPath.directoryForm path query)
      else ⟨200, [], []⟩ := by
  have hbody : isFieldValue (utf8 (RequestPath.directoryForm path none)) = true :=
    isFieldValue_utf8 (noControl_directoryForm hp (by simp))
  have hvalue : isFieldValue (utf8 (RequestPath.directoryForm path query)) =
      query.all fun q => isFieldValue (utf8 q) := by
    cases query with
    | none => exact hbody
    | some q =>
      have hmark : isFieldValue (utf8 "?") = true := by decide
      have happend : RequestPath.directoryForm path (some q) =
          RequestPath.directoryForm path none ++ "?" ++ q := rfl
      unfold isFieldValue at hbody hmark
      rw [happend, isFieldValue, utf8_append, utf8_append, List.all_append, List.all_append,
        hbody, hmark]
      rfl
  have hlength : isFieldValue (count "content-length" 0).value = true := isFieldValue_count _ _
  simp only [redirect, assemble, List.all_cons, List.all_nil, text, hvalue, hlength,
    Bool.and_true]
  split <;> rfl

end Http

namespace Serving

variable {t : FileTree} {site : Site} {target target' : Target} {path path' : String}
  {isHead : Bool} {v : Verdict} {method : Method}

theorem Denotes.of_translate (h : Denotes t site path v)
    (hn : RequestPath.translate? path' = RequestPath.translate? path)
    (hs : RequestPath.endsInSlash path' = RequestPath.endsInSlash path) :
    Denotes t site path' v := by
  cases h with
  | malformed h => exact .malformed (hn.trans h)
  | missing h hnot => exact .missing (hn.trans h) hnot
  | moved ha h => exact .moved (ha.of_translate hn) (hs.trans h)
  | index ha h hi hadm hf => exact .index (ha.of_translate hn) (hs.trans h) hi hadm hf
  | indexRefused ha h hi hnot => exact .indexRefused (ha.of_translate hn) (hs.trans h) hi hnot
  | listing ha h hno hl => exact .listing (ha.of_translate hn) (hs.trans h) hno hl
  | unlisted ha h hno hl => exact .unlisted (ha.of_translate hn) (hs.trans h) hno hl
  | slashed ha hd h => exact .slashed (ha.of_translate hn) hd (hs.trans h)
  | file ha h => exact .file (ha.of_translate hn) (hs.trans h)
  | special ha h hc => exact .special (ha.of_translate hn) (hs.trans h) hc
  | unreadable ha h hc => exact .unreadable (ha.of_translate hn) (hs.trans h) hc

/-- Only a redirect shows how the path was spelled. -/
theorem response_of_decode_eq
    (decoded : Percent.decode (utf8 target'.path) = Percent.decode (utf8 target.path))
    (hv : v ≠ .moved) :
    v.response t site target' isHead = v.response t site target isHead := by
  cases v with
  | moved => exact absurd rfl hv
  | listing steps place =>
    simp only [Verdict.response, Verdict.result, Verdict.page,
      RequestPath.display_of_decode_eq decoded]
  | unreadable cause =>
    -- the page for what is missing does not show the path
    simp only [Verdict.response, Verdict.result, Refusal.ofFault]
    split <;> rfl
  | _ => rfl

/-- Answers to two spellings: the same, or redirects to two spellings. -/
theorem serve_of_decode_eq (hp : NoControl target.path) (hp' : NoControl target'.path)
    (decoded : Percent.decode (utf8 target'.path) = Percent.decode (utf8 target.path))
    (ending : RequestPath.endsInSlash target'.path = RequestPath.endsInSlash target.path)
    (query : target'.query = target.query) :
    ((serve t site target isHead).1.status ≠ 301 ∧
        (serve t site target' isHead).1 = (serve t site target isHead).1) ∨
      (serve t site target isHead).1 =
          .leadingTo (RequestPath.directoryForm target.path target.query) ∧
        (serve t site target' isHead).1 =
          .leadingTo (RequestPath.directoryForm target'.path target.query) := by
  obtain ⟨v, hv⟩ := exists_denotes t site target.path
  have hv' : Denotes t site target'.path v :=
    hv.of_translate (RequestPath.translate?_of_decode_eq decoded) ending
  rw [serve_response hv, serve_response hv']
  by_cases hmoved : v = .moved
  · subst hmoved
    simp only [Verdict.response, Verdict.result, query, Response.redirect_of_noControl hp,
      Response.redirect_of_noControl hp']
    split
    · exact Or.inr ⟨rfl, rfl⟩
    · exact Or.inl ⟨by simp, rfl⟩
  · exact Or.inl ⟨fun hs => hmoved (eq_moved_of_status hs), response_of_decode_eq decoded hmoved⟩

theorem answer_of_decode_eq (t : FileTree) (site : Site) (method : Method)
    (hp : NoControl target.path) (hp' : NoControl target'.path)
    (decoded : Percent.decode (utf8 target'.path) = Percent.decode (utf8 target.path))
    (ending : RequestPath.endsInSlash target'.path = RequestPath.endsInSlash target.path)
    (query : target'.query = target.query) :
    ((answer t site method target).1.status ≠ 301 ∧
        (answer t site method target').1 = (answer t site method target).1) ∨
      (answer t site method target).1 =
          .leadingTo (RequestPath.directoryForm target.path target.query) ∧
        (answer t site method target').1 =
          .leadingTo (RequestPath.directoryForm target'.path target.query) := by
  cases method with
  | get => exact serve_of_decode_eq hp hp' decoded ending query
  | head => exact serve_of_decode_eq hp hp' decoded ending query
  | other token =>
    have hs : (answer t site (.other token) target).1.status = 501 := Response.error_status ..
    exact Or.inl ⟨by rw [hs]; decide, rfl⟩

end Serving

/-- Two legal paths that decode to the same bytes and end alike are answered alike, whatever
the method and the query. On a redirect the two locations may be spelled differently, but
their paths are translated to the same names and end in a slash, and their query is that of
the request. -/
theorem respelled_path_is_answered_alike (t : FileTree) (site : Site) (r r' : Request)
    (peer peer' : SocketAddr) (timing timing' : Timing) (method : r'.method = r.method)
    (query : r'.target.query = r.target.query)
    (legal : (utf8 r.target.path).all Target.isPathByte = true)
    (legal' : (utf8 r'.target.path).all Target.isPathByte = true)
    (decoded : Percent.decode (utf8 r'.target.path) = Percent.decode (utf8 r.target.path))
    (ending : RequestPath.endsInSlash r'.target.path = RequestPath.endsInSlash r.target.path) :
    ((Exchange.handle t site r peer timing).response.status ≠ 301 →
      (Exchange.handle t site r' peer' timing').response =
        (Exchange.handle t site r peer timing).response) ∧
    ((Exchange.handle t site r peer timing).response.status = 301 →
      ∃ next next' : Target,
        (Exchange.handle t site r peer timing).response = .leadingTo next.text ∧
        (Exchange.handle t site r' peer' timing').response = .leadingTo next'.text ∧
        next.query = r.target.query ∧ next'.query = r.target.query ∧
        '?' ∉ next.path.toList ∧ '?' ∉ next'.path.toList ∧
        RequestPath.endsInSlash next.path = true ∧ RequestPath.endsInSlash next'.path = true ∧
        RequestPath.translate? next'.path = RequestPath.translate? next.path) := by
  have hp : NoControl r.target.path := Target.noControl_of_path legal
  have hp' : NoControl r'.target.path := Target.noControl_of_path legal'
  have hcases := Serving.answer_of_decode_eq t site r.method hp hp' decoded ending query
  simp only [Exchange.handle, method]
  rcases hcases with ⟨hstatus, hsame⟩ | ⟨hx, hx'⟩
  · exact ⟨fun _ => hsame, fun hs => absurd hs hstatus⟩
  · rw [RequestPath.directoryForm_eq_text] at hx hx'
    refine ⟨fun hs => absurd (congrArg Response.status hx) hs, ?_⟩
    intro _
    refine ⟨_, _, hx, hx', rfl, rfl, RequestPath.question_not_mem_directoryForm legal,
      RequestPath.question_not_mem_directoryForm legal',
      RequestPath.endsInSlash_directoryForm _, RequestPath.endsInSlash_directoryForm _, ?_⟩
    rw [RequestPath.translate?_directoryForm, RequestPath.translate?_directoryForm,
      RequestPath.translate?_of_decode_eq decoded]

/-- The directory in a second spelling. -/
def respelledDocsRequest : Request := ⟨.head, ⟨"/%2fx/..%2Fdocs/%2E", some ""⟩, .http10, []⟩

theorem respelled_path_is_answered_alike_docs :
    Percent.decode (utf8 respelledDocsRequest.target.path) =
        Percent.decode (utf8 docsRequest.target.path) ∧
      (Exchange.handle docsTree Site.www docsRequest .neighbour ⟨⟨0, 0, 0⟩, 0⟩).response.status =
        301 ∧
      ∃ next next' : Target,
        (Exchange.handle docsTree Site.www docsRequest .neighbour ⟨⟨0, 0, 0⟩, 0⟩).response =
          .leadingTo next.text ∧
        (Exchange.handle docsTree Site.www respelledDocsRequest .neighbour
          ⟨⟨0, 0, 0⟩, 0⟩).response = .leadingTo next'.text ∧
        next.query = some "" ∧ next'.query = some "" ∧
        RequestPath.translate? next'.path = RequestPath.translate? next.path := by
  have plain : NoControl
      (RequestPath.directoryForm docsRequest.target.path docsRequest.target.query) := by
    decide
  have moved : (Exchange.handle docsTree Site.www docsRequest .neighbour
      ⟨⟨0, 0, 0⟩, 0⟩).response.status = 301 :=
    handle_of_moved (.inr rfl) denotes_docs plain
  have decoded : Percent.decode (utf8 respelledDocsRequest.target.path) =
      Percent.decode (utf8 docsRequest.target.path) := by
    decide
  obtain ⟨_, redirected⟩ := respelled_path_is_answered_alike docsTree Site.www docsRequest
    respelledDocsRequest .neighbour .neighbour ⟨⟨0, 0, 0⟩, 0⟩ ⟨⟨0, 0, 0⟩, 0⟩ rfl rfl (by decide)
    (by decide) decoded (by decide)
  obtain ⟨next, next', hx, hx', hq, hq', _, _, _, _, hnames⟩ := redirected moved
  exact ⟨decoded, moved, next, next', hx, hx', hq, hq', hnames⟩

end DocRoot
