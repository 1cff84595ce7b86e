import DocRoot.Proofs.Serving.Building
import DocRoot.Proofs.Serving.Convergence

/-!
# What the operator is told

A place outside the root that the check has met is told, a node that cannot be read, and a
redirect that no header can hold. Each is told once, and no two come together. Every response
to a legal target is built as asked for, so of these the last is never told.
-/

set_option autoImplicit false

namespace DocRoot

open Http FileTree Serving

section Outside
variable {t : FileTree} {site : Site} {steps : List Name} {place l : Location}

/-- The steps lead to a place outside the root, and each path looked up on the way fits. -/
structure Site.LeadsOut (site : Site) (t : FileTree) (steps : List Name) (place : Location) :
    Prop where
  found : t.resolve steps = .ok place
  spelled : t.canonicalize steps = .ok place
  outside : ¬site.root <+: place

namespace Serving

theorem ensureServable_of_leadsOut (path : String) (h : site.LeadsOut t steps place) :
    ensureServable t site steps path = ⟨.error (.notFound path), [.outside path place]⟩ := by
  have hout : Location.isWithin site.root place = false := by
    rw [Bool.eq_false_iff]
    exact fun hb => h.outside ((Location.isWithin_iff _ _).mp hb)
  simp [ensureServable, h.spelled, hout]

theorem ensureServable_tells_nothing (path : String) (hr : t.resolve steps = .ok l)
    (h : ∀ place, ¬site.LeadsOut t steps place) :
    (ensureServable t site steps path).notices = [] := by
  unfold ensureServable
  cases hc : t.canonicalize steps with
  | error e => rfl
  | ok place =>
    have hplace := resolve_of_canonicalize (resolve_eq_ok_iff.mp hr).1 hc
    have hw : site.root <+: place :=
      Classical.byContradiction fun hout => h place ⟨hplace, hc, hout⟩
    simp only [(Location.isWithin_iff _ _).mpr hw, Bool.not_true, Bool.false_eq_true, if_false]
    split <;> rfl

/-- The path asks for what is outside the root, or for a directory whose first index is. -/
inductive Strays (t : FileTree) (site : Site) (path : String) : Location → Prop
  | node {names : List String} {place : Location} :
      RequestPath.translate? path = some names →
      site.LeadsOut t (site.root ++ RequestPath.steps names) place →
      Strays t site path place
  | index {steps index : List Name} {dir place : Location} :
      Asks t site path steps dir .directory → RequestPath.endsInSlash path = true →
      FirstIndex t steps site.settings.serve.indexFiles index →
      site.LeadsOut t index place → Strays t site path place

end Serving

end Outside

namespace Serving

variable {t : FileTree} {site : Site} {target : Target} {isHead : Bool} {steps index : List Name}
  {place l : Location} {names : List String} {n : Node} {v : Verdict}

theorem load_of_strays (h : Strays t site target.path place) :
    load t site target isHead =
      ⟨.error (.notFound target.path), [.outside target.path place]⟩ := by
  cases h with
  | node hn hout =>
    obtain ⟨m, hm, _⟩ := holds_of_resolve hout.found
    simp [load, hn, node_of_resolve hout.found hm, ensureServable_of_leadsOut _ hout, Outcome.bind]
  | index ha hs hi hout =>
    simp [load_of_asks ha, Node.isDirectory, hs, sendDirectory, findIndex_eq_some_iff.mpr hi,
      ensureServable_of_leadsOut _ hout, Outcome.bind]

theorem missing_tells_nothing (hn : RequestPath.translate? target.path = some names)
    (hnot : ∀ place, ¬site.Admits t (site.root ++ RequestPath.steps names) place)
    (hstray : ∀ place, ¬Strays t site target.path place) :
    (load t site target isHead).notices = [] := by
  simp only [load, hn]
  cases hnode : t.node (site.root ++ RequestPath.steps names) with
  | error e => rfl
  | ok n =>
    obtain ⟨l, hr, _⟩ := node_eq_ok_iff.mp hnode
    obtain ⟨notices, hens⟩ := ensureServable_of_not_admits target.path hr hnot
    have hnone := ensureServable_tells_nothing target.path hr
      fun place hout => hstray place (.node hn hout)
    rw [hens] at hnone
    simpa [hens, Outcome.bind] using hnone

theorem refused_index_tells_nothing (ha : Asks t site target.path steps place .directory)
    (hs : RequestPath.endsInSlash target.path = true)
    (hi : FirstIndex t steps site.settings.serve.indexFiles index)
    (hnot : ∀ place, ¬site.Admits t index place)
    (hstray : ∀ place, ¬Strays t site target.path place) :
    (load t site target isHead).notices = [] := by
  obtain ⟨l, _, hr, _⟩ := hi.leadsToFile
  obtain ⟨notices, hens⟩ := ensureServable_of_not_admits target.path hr hnot
  have hnone := ensureServable_tells_nothing target.path hr
    fun place hout => hstray place (.index ha hs hi hout)
  rw [hens] at hnone
  simpa [load_of_asks ha, Node.isDirectory, hs, sendDirectory, findIndex_eq_some_iff.mpr hi, hens,
    Outcome.bind] using hnone

/-- While a path is loaded nothing is told, unless it leads out of the root or to a redirect
that cannot be written. -/
theorem load_tells_nothing (types : site.types = .standard) (h : Denotes t site target.path v)
    (hstray : ∀ place, ¬Strays t site target.path place)
    (hmoved : v = .moved → target.Redirectable) :
    (load t site target isHead).notices = [] := by
  have htype : ∀ steps, NoControl (site.types.ofSteps steps) := by
    rw [types]
    exact ContentType.Table.noControl_standard_ofSteps
  cases h with
  | malformed hn => simp [load, hn, Outcome.refuse]
  | missing hn hnot => exact missing_tells_nothing hn hnot hstray
  | moved ha hs =>
    simp [load_of_asks ha, hs, Node.isDirectory, Outcome.told,
      Response.redirect_of_isFieldValue (hmoved rfl)]
  | index ha hs hi hadm hf =>
    simp [load_of_asks ha, hs, Node.isDirectory, sendDirectory, findIndex_eq_some_iff.mpr hi,
      ensureServable_of_admits target.path hadm, sendFile_of_content hadm.found hf rfl,
      Outcome.told, Response.ofFile_eq (htype _)]
  | indexRefused ha hs hi hnot => exact refused_index_tells_nothing ha hs hi hnot hstray
  | listing ha hs hno hl =>
    have hlist := list_of_resolve ha.admitted.found ha.held
    simp [load_of_asks ha, hs, Node.isDirectory, sendDirectory, findIndex_eq_none_iff.mpr hno, hl,
      Listing.render, hlist, Outcome.told, Response.ofListing,
      Response.ofFile_eq Response.noControl_htmlType]
  | unlisted ha hs hno hl =>
    simp [load_of_asks ha, hs, Node.isDirectory, sendDirectory, findIndex_eq_none_iff.mpr hno, hl,
      Outcome.refuse]
  | slashed ha hd hs => simp [load_of_asks ha, hd, hs, Outcome.refuse]
  | file ha hs =>
    simp [load_of_asks ha, hs, Node.isDirectory, sendFile_of_content ha.admitted.found ha.held rfl,
      Outcome.told, Response.ofFile_eq (htype _)]
  | special ha hs hc =>
    simp [load_of_asks ha, hs, Node.isDirectory, sendFile_of_content ha.admitted.found ha.held hc,
      Outcome.told, Response.ofFile_eq (htype _)]
  | unreadable ha hs hc =>
    simp [load_of_asks ha, hs, Node.isDirectory, sendFile_of_fault ha.admitted.found ha.held hc,
      Outcome.refuse]

theorem serve_of_refusal {refusal : Refusal} {notices : List Notice}
    (h : load t site target isHead = ⟨.error refusal, notices⟩) :
    (serve t site target isHead).1.status = refusal.status ∧
      (serve t site target isHead).2 = notices ++ refusalNotices target.path refusal := by
  constructor
  · simp only [serve, h, Response.error_status]
  · simp only [serve, h, Response.error_tells_nothing, List.append_nil]

/-- A path that leads out of the root is missing. -/
theorem Strays.serve_status (h : Strays t site target.path place) :
    (serve t site target isHead).1.status = 404 :=
  (serve_of_refusal (load_of_strays h)).1

theorem Strays.serve_tells (h : Strays t site target.path place) :
    (serve t site target isHead).2 = [.outside target.path place] :=
  (serve_of_refusal (load_of_strays h)).2

/-- A directory is asked for without a slash at the end, and where to redirect to no header can
hold. -/
def Unwritten (t : FileTree) (site : Site) (target : Target) : Prop :=
  Denotes t site target.path .moved ∧ ¬target.Redirectable

theorem Unwritten.serve_eq (h : Unwritten t site target) :
    serve t site target isHead = (⟨200, [], []⟩, [.unbuilt 301]) := by
  obtain ⟨moved, hvalue⟩ := h
  have hbare := Response.redirect_of_not_isFieldValue (Bool.not_eq_true _ ▸ hvalue)
  cases moved with
  | moved ha hs =>
    simp [serve, load_of_asks ha, hs, Node.isDirectory, Outcome.told, hbare]

/-- What is told of the fault that a path has led to. -/
def Verdict.faultNotices (path : String) : Verdict → List Notice
  | unreadable cause => refusalNotices path (.ofFault path cause)
  | _ => []

theorem serve_tells_of_fault (types : site.types = .standard) (h : Denotes t site target.path v)
    (hstray : ∀ place, ¬Strays t site target.path place) (hwritten : ¬Unwritten t site target) :
    (serve t site target isHead).2 = v.faultNotices target.path := by
  have hmoved : v = .moved → target.Redirectable := by
    rintro rfl
    exact Classical.byContradiction fun hvalue => hwritten ⟨h, hvalue⟩
  have hnone : (load t site target isHead).notices = [] := load_tells_nothing types h hstray hmoved
  simp only [serve, load_result isHead h, hnone]
  cases v <;> simp only [Verdict.result, Verdict.faultNotices, refusalNotices,
    Response.error_tells_nothing, List.append_nil, List.nil_append]

/-- What is told of a target that is answered with this status: a place outside the root, a
fault, a redirect that cannot be written, or nothing. -/
structure Tells (t : FileTree) (site : Site) (target : Target) (status : Nat)
    (notices : List Notice) : Prop where
  outside : ∀ place, Strays t site target.path place →
    status = 404 ∧ notices = [.outside target.path place]
  fault : status = 500 → ∃ cause, notices = [.unreadable target.path cause]
  unwritten : Unwritten t site target → status = 200 ∧ notices = [.unbuilt 301]
  nothing : status ≠ 500 → (∀ place, ¬Strays t site target.path place) →
    ¬Unwritten t site target → notices = []

theorem status_eq_500_iff (types : site.types = .standard) (h : Denotes t site target.path v) :
    (serve t site target isHead).1.status = 500 ↔
      ∃ cause, v = .unreadable cause ∧ Refusal.ofFault target.path cause = .fault cause := by
  rw [serve_response h]
  cases v with
  | malformed =>
    have hr : Verdict.malformed.result t site target isHead = .error (.badPath target.path) := rfl
    simp [response_status hr, Refusal.status]
  | missing => simp [status_of_missing]
  | unreadable cause =>
    have hr : (Verdict.unreadable cause).result t site target isHead =
        .error (.ofFault target.path cause) := rfl
    rcases Refusal.ofFault_cases target.path cause with hf | hf
    · simp [response_status hr, hf, Refusal.status]
    · simp [response_status hr, hf, Refusal.status]
  | moved =>
    rcases redirect_cases (RequestPath.directoryForm target.path target.query) with hs | hb
    · simp [Verdict.response, Verdict.result, hs]
    · simp [Verdict.response, Verdict.result, hb]
  | file => simp [response_file types, Response.carrying]
  | listing => simp [response_listing, Response.carrying]

theorem tells_of_strays (h : Strays t site target.path place) :
    Tells t site target (serve t site target isHead).1.status
      (serve t site target isHead).2 where
  outside := fun _ hl => ⟨hl.serve_status, hl.serve_tells⟩
  fault := by
    intro h500
    rw [h.serve_status] at h500
    cases h500
  unwritten := by
    intro hbare
    have hnotices : (serve t site target isHead).2 = _ := h.serve_tells
    rw [hbare.serve_eq] at hnotices
    simp at hnotices
  nothing := fun _ hnone => absurd h (hnone place)

theorem tells_of_unwritten (h : Unwritten t site target) :
    Tells t site target (serve t site target isHead).1.status
      (serve t site target isHead).2 where
  outside := by
    intro place hplace
    exact ⟨hplace.serve_status, hplace.serve_tells⟩
  fault := by
    intro h500
    rw [h.serve_eq] at h500
    cases h500
  unwritten := by
    intro _
    rw [h.serve_eq]
    exact ⟨rfl, rfl⟩
  nothing := fun _ _ hnot => absurd h hnot

theorem tells_serve (types : site.types = .standard) (t : FileTree) (target : Target)
    (isHead : Bool) :
    Tells t site target (serve t site target isHead).1.status
      (serve t site target isHead).2 := by
  by_cases hstray : ∃ place, Strays t site target.path place
  · obtain ⟨place, hplace⟩ := hstray
    exact tells_of_strays hplace
  by_cases hbare : Unwritten t site target
  · exact tells_of_unwritten hbare
  obtain ⟨v, h⟩ := exists_denotes t site target.path
  have hnone := not_exists.mp hstray
  have htold : (serve t site target isHead).2 = _ := serve_tells_of_fault types h hnone hbare
  refine ⟨fun place hplace => absurd hplace (hnone place), ?_, fun hb => absurd hb hbare, ?_⟩
  · intro h500
    obtain ⟨cause, rfl, hf⟩ := (status_eq_500_iff types h).mp h500
    refine ⟨cause, ?_⟩
    rw [htold, Verdict.faultNotices, hf]
    rfl
  · intro h500 _ _
    rw [htold]
    cases v with
    | unreadable cause =>
      rcases Refusal.ofFault_cases target.path cause with hf | hf
      · simp only [Verdict.faultNotices, hf, refusalNotices]
      · exact absurd ((status_eq_500_iff types h).mpr ⟨cause, rfl, hf⟩) h500
    | _ => rfl

theorem Tells.cases {status : Nat} {notices : List Notice}
    (h : Tells t site target status notices) :
    notices = [] ∨ (∃ place, notices = [.outside target.path place]) ∨
      (∃ cause, notices = [.unreadable target.path cause]) ∨
      Unwritten t site target ∧ notices = [.unbuilt 301] := by
  by_cases h500 : status = 500
  · exact .inr (.inr (.inl (h.fault h500)))
  by_cases hbare : Unwritten t site target
  · exact .inr (.inr (.inr ⟨hbare, (h.unwritten hbare).2⟩))
  by_cases hstray : ∃ place, Strays t site target.path place
  · obtain ⟨place, hplace⟩ := hstray
    exact .inr (.inl ⟨place, (h.outside place hplace).2⟩)
  · exact .inl (h.nothing h500 (not_exists.mp hstray) hbare)

/-- A failure to build a response is told of a redirect that no header can hold, and of
nothing else. -/
theorem Tells.unbuilt_iff {status : Nat} {notices : List Notice}
    (h : Tells t site target status notices) :
    (∃ built, .unbuilt built ∈ notices) ↔ Unwritten t site target := by
  constructor
  · rintro ⟨built, hmem⟩
    rcases h.cases with hnone | ⟨place, hout⟩ | ⟨cause, hfault⟩ | ⟨hbare, _⟩
    · simp [hnone] at hmem
    · simp [hout] at hmem
    · simp [hfault] at hmem
    · exact hbare
  · intro hbare
    exact ⟨301, by simp [(h.unwritten hbare).2]⟩

theorem refused_method_tells_nothing (token : String) (target : Target) :
    (answer t site (.other token) target).2 = [] :=
  Response.error_tells_nothing ..

theorem answer_tells (types : site.types = .standard) (hwritten : ¬Unwritten t site target)
    (method : Method) :
    (answer t site method target).2 = [] ∨
      (∃ place, (answer t site method target).2 = [.outside target.path place]) ∨
      ∃ cause, (answer t site method target).2 = [.unreadable target.path cause] := by
  have told : ∀ isHead, _ := fun isHead => (tells_serve types t target isHead).cases
  cases method with
  | get => simpa only [answer, hwritten, false_and, or_false] using told false
  | head => simpa only [answer, hwritten, false_and, or_false] using told true
  | other token => exact .inl (refused_method_tells_nothing token target)

theorem not_unwritten_of_clear (h : target.Clear) : ¬Unwritten t site target :=
  fun hbare => hbare.2 h.redirectable

end Serving

/-- The beginning of the line that tells of a response that could not be built. -/
def Notice.buildFailure : String := "[ERROR] Failed to build"

theorem Notice.not_buildFailure_of_append {front rest : String}
    (long : buildFailure.toList.length ≤ front.toList.length)
    (h : ¬buildFailure.toList <+: front.toList) :
    ¬buildFailure.toList <+: (front ++ rest).toList := by
  intro hp
  rw [String.toList_append] at hp
  exact h (List.prefix_of_prefix_length_le hp (List.prefix_append _ _) long)

theorem Notice.outside_not_buildFailure (path : String) (place : Location) :
    ¬buildFailure.toList <+: (outside path place).line.toList := by
  unfold line
  simp only [String.append_assoc]
  exact not_buildFailure_of_append (by decide) (by decide)

theorem Notice.unreadable_not_buildFailure (path : String) (cause : Fault) :
    ¬buildFailure.toList <+: (unreadable path cause).line.toList := by
  unfold line
  simp only [String.append_assoc]
  exact not_buildFailure_of_append (by decide) (by decide)

/-- Whatever is asked for, the response is built as it was meant: no failure to build one is
told, none is bare, and a directory asked for without a slash at its end is redirected. Of any
target at all, the illegal ones included, such a failure is told exactly if the way to redirect
it to holds a byte that no header does. -/
theorem responses_are_built {t₀ t : FileTree} {settings : Settings} {steps : List Name}
    {site : Site} (made : Site.make t₀ settings steps = .ok site) {method target : Bytes}
    {version : Version} {headers : List (Bytes × Bytes)} {r : Request}
    (read : Request.make method target version headers = .ok r) (peer : SocketAddr)
    (timing : Timing) :
    (∀ n ∈ (Exchange.handle t site r peer timing).notices,
      (∀ status, n ≠ .unbuilt status) ∧ ¬Notice.buildFailure.toList <+: n.line.toList) ∧
    (Exchange.handle t site r peer timing).response.headers ≠ [] ∧
    (∀ (dir : List Name) (place : Location), r.method = .get ∨ r.method = .head →
      Asks t site r.target.path dir place .directory →
      RequestPath.endsInSlash r.target.path = false →
      (Exchange.handle t site r peer timing).response =
        ⟨301, [Response.text "location"
            (RequestPath.directoryForm r.target.path r.target.query),
          Response.count "content-length" 0], []⟩) ∧
    ∀ (uri : Target) (isHead : Bool),
      (∃ status, .unbuilt status ∈ (serve t site uri isHead).2) ↔
        Denotes t site uri.path .moved ∧
          isFieldValue (utf8 (RequestPath.directoryForm uri.path uri.query)) = false := by
  have types := Site.types_of_make made
  have legal := Request.legal_of_make read
  refine ⟨?_, (built_answer types legal r.method).headers_ne_nil, ?_, ?_⟩
  · intro n hn
    have htold := answer_tells (t := t) types (not_unwritten_of_clear legal.clear) r.method
    simp only [Exchange.handle] at hn
    rcases htold with hnone | ⟨place, hout⟩ | ⟨cause, hfault⟩
    · rw [hnone] at hn
      cases hn
    · rw [hout] at hn
      obtain rfl := List.mem_singleton.mp hn
      exact ⟨by simp, Notice.outside_not_buildFailure _ _⟩
    · rw [hfault] at hn
      obtain rfl := List.mem_singleton.mp hn
      exact ⟨by simp, Notice.unreadable_not_buildFailure _ _⟩
  · intro dir place hm ha hs
    have moved : ∀ isHead, (serve t site r.target isHead).1 = _ :=
      fun _ => serve_of_moved (.moved ha hs) legal.clear.noControl_directoryForm
    rcases hm with hm | hm
    · simpa only [Exchange.handle, answer, hm] using moved false
    · simpa only [Exchange.handle, answer, hm] using moved true
  · intro uri isHead
    rw [(tells_serve types t uri isHead).unbuilt_iff, Unwritten, Target.Redirectable,
      Bool.not_eq_true]

theorem responses_are_built_docs :
    Site.make docsTree .defaults [utf8 "www"] = .ok .www ∧
      Request.make (utf8 "HEAD") (utf8 "//x/%2e%2E/docs/.?#f") .http11 [] = .ok docsRequest ∧
      (Exchange.handle docsTree .www docsRequest .neighbour ⟨⟨0, 0, 0⟩, 0⟩).response =
        ⟨301, [Response.text "location" "/x/%2e%2E/docs/./?",
          Response.count "content-length" 0], []⟩ := by
  have made : Site.make docsTree .defaults [utf8 "www"] = .ok .www := rfl
  have read : Request.make (utf8 "HEAD") (utf8 "//x/%2e%2E/docs/.?#f") .http11 [] =
      .ok docsRequest := rfl
  obtain ⟨_, _, moved, _⟩ :=
    responses_are_built (t := docsTree) made read .neighbour ⟨⟨0, 0, 0⟩, 0⟩
  have spelled : RequestPath.directoryForm docsRequest.target.path docsRequest.target.query =
      "/x/%2e%2E/docs/./?" := by decide
  cases denotes_docs with
  | moved ha hs => exact ⟨made, read, spelled ▸ moved _ _ (.inr rfl) ha hs⟩

end DocRoot
