import DocRoot.Proofs.Deadline
import DocRoot.Proofs.Http.Client
import DocRoot.Proofs.Http.Head
import DocRoot.Proofs.Serving.Concealment

/-!
# Requests one after the other

A connection takes its bytes one at a time, so where they were cut does not count, and each
request is answered when its last byte comes in. The next request is read only if the answer
leaves the connection open.
-/

set_option autoImplicit false

namespace DocRoot

open Http Serving

namespace Http.Response

/-- A client can tell where the response ends and whether it is the last one. -/
structure Framed (r : Response) (method : Method) : Prop where
  length : ∃ n, r.header? "content-length" = some (utf8 (toString n)) ∧
    r.body.length = if method = .head then 0 else n
  status : r.status = 200 ∨ r.status = 301 ∨ 400 ≤ r.status
  ending : r.header? "connection" = if 400 ≤ r.status then some (utf8 "close") else none

section Framed
variable {r : Response} {method : Method}

theorem Framed.closes_eq (h : r.Framed method) : Session.closes r = decide (400 ≤ r.status) := by
  have hoption : Framing.hasOption (utf8 "close") "close" = true := by decide
  unfold Session.closes
  rw [h.ending]
  by_cases hs : 400 ≤ r.status <;> simp [hs, hoption]

/-- Where a response tells its length, nothing is added to it but what becomes of the
connection. -/
theorem Framed.fields_eq (h : r.Framed method) (stays : Bool) :
    Reply.fields .http11 r stays =
      if stays then r.headers
      else r.headers.filter (·.name ≠ "connection") ++ [text "connection" "close"] := by
  obtain ⟨n, hlength, _⟩ := h.length
  cases stays with
  | true => simp [Reply.fields, Reply.connectionField, hlength]
  | false => simp [Reply.fields, Reply.connectionField, hlength]

theorem refusal_status (refusal : Refusal) : 400 ≤ refusal.status := by
  cases refusal <;> simp [Refusal.status]

theorem framed_of_built (h : Built (decide (method = .head)) r) : r.Framed method := by
  cases h with
  | @content type data =>
    refine ⟨⟨data.length, carrying_length type data _, ?_⟩, .inl rfl, ?_⟩
    · by_cases hm : method = .head <;> simp [carrying, hm]
    · simp [carrying, header?, text, count]
  | moved hlocation =>
    refine ⟨⟨0, ?_, ?_⟩, .inr (.inl rfl), ?_⟩
    · simp [header?, text, count]
    · simp
    · simp [header?, text, count]
  | refused refusal =>
    rw [error_eq]
    generalize utf8 (errorPage refusal.status refusal.message) = page
    refine ⟨⟨page.length, ?_, ?_⟩, .inr (.inr (refusal_status refusal)), ?_⟩
    · simp [header?, text, count]
    · by_cases hm : method = .head <;> simp [hm]
    · simp [header?, text, refusal_status refusal]

theorem sent_count (name : String) (named : Client.Named ⟨name, []⟩) (hne : name ≠ "date")
    (n : Nat) : Client.Sent (count name n) :=
  ⟨⟨named.lower, named.no_colon, named.no_return⟩, wholeValue_toString n, hne⟩

theorem sent_text (name : String) (named : Client.Named ⟨name, []⟩) (hne : name ≠ "date")
    {value : String} (whole : WholeValue (utf8 value)) : Client.Sent (text name value) :=
  ⟨⟨named.lower, named.no_colon, named.no_return⟩, whole, hne⟩

theorem sent_of_built {isHead : Bool} (h : Built isHead r) :
    ∀ x ∈ r.headers, Client.Sent x := by
  have hlength : ∀ n, Client.Sent (count "content-length" n) :=
    sent_count "content-length" (by decide) (by decide)
  cases h with
  | content data htype =>
    have hcontent := sent_text "content-type" (by decide) (by decide) htype
    exact List.forall_mem_cons.mpr ⟨hcontent, List.forall_mem_singleton.mpr (hlength _)⟩
  | moved hlocation =>
    have hmoved := sent_text "location" (by decide) (by decide) hlocation
    exact List.forall_mem_cons.mpr ⟨hmoved, List.forall_mem_singleton.mpr (hlength _)⟩
  | refused refusal =>
    have hcontent : Client.Sent (text "content-type" "text/html;charset=utf-8") :=
      sent_text "content-type" (by decide) (by decide) (by decide)
    have hclose : Client.Sent (text "connection" "close") :=
      sent_text "connection" (by decide) (by decide) (by decide)
    rw [error_eq]
    exact List.forall_mem_cons.mpr ⟨hcontent, List.forall_mem_cons.mpr
      ⟨hclose, List.forall_mem_singleton.mpr (hlength _)⟩⟩

theorem Framed.find?_fields (h : r.Framed method) (stays : Bool) {name : String}
    (hname : name ≠ "connection") :
    (Reply.fields .http11 r stays).find? (·.name == name) =
      r.headers.find? (·.name == name) := by
  rw [h.fields_eq]
  cases stays with
  | true => rfl
  | false =>
    have hkept : ∀ x : Header, decide (decide (x.name ≠ "connection") = true ∧
        (x.name == name) = true) = (x.name == name) := by
      intro x
      by_cases hx : x.name = name
      · simp [hx, hname]
      · simp [hx]
    have hlast : ([text "connection" "close"].find? (·.name == name)) = none := by
      simp [text, Ne.symm hname]
    simp only [Bool.false_eq_true, if_false, List.find?_append, List.find?_filter, hkept, hlast,
      Option.or_none]

theorem Framed.filter_fields_ne (h : r.Framed method) (stays : Bool) :
    (Reply.fields .http11 r stays).filter (·.name ≠ "connection") =
      r.headers.filter (·.name ≠ "connection") := by
  rw [h.fields_eq]
  cases stays with
  | true => rfl
  | false => simp [List.filter_append, text]

theorem Framed.values_connection (h : r.Framed method) (stays : Bool)
    (hopen : stays = true → ¬400 ≤ r.status) :
    ((Reply.fields .http11 r stays).filter (·.name = "connection")).map (·.value) =
      if !stays then [utf8 "close"] else [] := by
  rw [h.fields_eq]
  cases stays with
  | true =>
    have hnone := h.ending
    rw [if_neg (hopen rfl), header?, Option.map_eq_none_iff, List.find?_eq_none] at hnone
    have hno : r.headers.filter (·.name = "connection") = [] :=
      List.filter_eq_nil_iff.mpr (by simpa using hnone)
    simp [hno]
  | false =>
    simp [List.filter_append, List.filter_filter, text]

/-- A client takes as many bytes for the body as there are. -/
theorem Framed.size?_eq (h : r.Framed method) (stays : Bool) (seconds : Int) :
    Client.size? method r.status
      ((Reply.fields .http11 r stays ++ [text "date" (Reply.dateText seconds)]).map
        Client.readHeader) = some r.body.length := by
  obtain ⟨n, hlength, hbody⟩ := h.length
  by_cases hm : method = .head
  · simp [Client.size?, hm, hbody]
  have hstatus : ¬(method = .head ∨ r.status < 200 ∨ r.status = 204 ∨ r.status = 304) := by
    have hnormal := h.status
    simp only [hm, false_or]
    omega
  obtain ⟨x, hx, hvalue⟩ := Option.map_eq_some_iff.mp hlength
  have whole : WholeValue x.value := hvalue ▸ wholeValue_toString n
  have hfind : (Reply.fields .http11 r stays ++ [text "date" (Reply.dateText seconds)]).find?
      (·.name == "content-length") = some x := by
    rw [List.find?_append, h.find?_fields stays (by decide), hx]
    rfl
  rw [Client.size?, if_neg hstatus, Client.lookup_map_readHeader, hfind, Option.map_some,
    Client.trim_eq x.value whole.front whole.back, hvalue, Option.bind_some,
    Client.number?_toString, hbody, if_neg hm]

/-- What is sent for a response is read back as that response, whatever comes behind it. -/
theorem Framed.exists_read? (h : r.Framed method) (sent : ∀ x ∈ r.headers, Client.Sent x)
    (stays : Bool) (hopen : stays = true → ¬400 ≤ r.status) (seconds : Int) (rest : Bytes) :
    ∃ x, Client.read? method ((Reply.response .http11 r stays).bytes seconds ++ rest) =
        some (x, rest) ∧ x.Conveys r (!stays) := by
  have hclose : Client.Sent (text "connection" "close") :=
    sent_text "connection" (by decide) (by decide) (by decide)
  have hfields : ∀ x ∈ Reply.fields .http11 r stays, Client.Sent x := by
    rw [h.fields_eq]
    cases stays with
    | true => exact sent
    | false =>
      intro x hx
      rcases List.mem_append.mp hx with hx | hx
      · exact sent x (List.mem_filter.mp hx).1
      · obtain rfl := List.mem_singleton.mp hx
        exact hclose
  have hread := Client.read?_message
    (fun x hx => ⟨(hfields x hx).toNamed, (hfields x hx).whole.legal⟩) seconds
    (h.size?_eq stays seconds) rest
  refine ⟨_, hread, rfl, ?_, ?_, rfl⟩
  · rw [Client.filter_others hfields, h.filter_fields_ne]
  · rw [Client.values_eq hfields seconds (by decide), h.values_connection stays hopen]

end Framed

end Http.Response

namespace Connection

/-- Takes bytes that come in one by one, each at its own time, while the files stay the same. -/
def takeStamped (t : FileTree) (site : Site) :
    Connection → List (Timing × UInt8) → Connection × Bytes × List LogLine
  | c, [] => (c, [], [])
  | c, (timing, b) :: rest =>
    let (c, now, told) := c.takeByte t site timing b
    let (c, later, tail) := c.takeStamped t site rest
    (c, now ++ later, told ++ tail)

section Stamped
variable {t : FileTree} {site : Site} {c : Connection} {s : Session}
  {stamped : List (Timing × UInt8)} {bs : Bytes} {peer : SocketAddr}

theorem takeStamped_append (xs ys : List (Timing × UInt8)) :
    c.takeStamped t site (xs ++ ys) =
      let (mid, now, told) := c.takeStamped t site xs
      let (last, later, tail) := mid.takeStamped t site ys
      (last, now ++ later, told ++ tail) := by
  induction xs generalizing c with
  | nil => simp [takeStamped]
  | cons x xs ih => simp [takeStamped, ih, List.append_assoc]

theorem take_eq_takeStamped (timing : Timing) :
    c.take t site timing bs = c.takeStamped t site (bs.map (timing, ·)) := by
  induction bs generalizing c with
  | nil => rfl
  | cons b bs ih => simp only [take, List.map_cons, takeStamped, ih]

end Stamped

end Connection

/-- The bytes that come in, each with its time. -/
def Arrival.stamped (x : Arrival) : List (Timing × UInt8) := x.bytes.map (x.timing, ·)

namespace Connection

section Stamped
variable {t : FileTree} {site : Site} {c : Connection} {s s' : Session}
  {stamped : List (Timing × UInt8)} {bs : Bytes} {peer : SocketAddr} {arrivals : List Arrival}

/-- It does not count how the bytes were cut. -/
theorem run_eq_takeStamped (fixed : ∀ x ∈ arrivals, x.files = t) :
    c.run site arrivals = c.takeStamped t site (arrivals.flatMap Arrival.stamped) := by
  induction arrivals generalizing c with
  | nil => rfl
  | cons x arrivals ih =>
    obtain ⟨hx, harrivals⟩ := List.forall_mem_cons.mp fixed
    rw [List.flatMap_cons, takeStamped_append]
    simp only [run, hx, take_eq_takeStamped, ih harrivals]
    rfl

theorem takeStamped_of_quiet
    (h : Session.Quiet site.settings.performance.keepAlive s (stamped.map (·.2)) s') :
    (Connection.mk peer s).takeStamped t site stamped = (⟨peer, s'⟩, [], []) := by
  generalize hbs : stamped.map (·.2) = bs at h
  induction h generalizing stamped with
  | done s =>
    obtain rfl := List.map_eq_nil_iff.mp hbs
    rfl
  | next hb _ ih =>
    obtain ⟨⟨timing, b⟩, rest, rfl, rfl, hrest⟩ := List.map_eq_cons_iff.mp hbs
    simp only [takeStamped, takeByte, hb, ih hrest, List.append_nil]

theorem takeStamped_closed :
    (Connection.mk peer .closed).takeStamped t site stamped = (⟨peer, .closed⟩, [], []) := by
  induction stamped with
  | nil => rfl
  | cons x rest ih => simp only [takeStamped, takeByte, Session.feed, ih, List.append_nil]

/-- A request is answered when its last byte comes in. -/
theorem takeStamped_written (t : FileTree) (site : Site) (peer : SocketAddr) (w : Written)
    (h : stamped.map (·.2) = w.bytes) :
    ∃ timing, (Connection.start peer).takeStamped t site stamped =
      (Connection.start peer).answer t site timing
        ⟨w.request, .bytes 0, w.stays && site.settings.performance.keepAlive⟩ := by
  obtain ⟨front, last, rfl, hfront, hlast⟩ := List.map_eq_append_iff.mp h
  obtain ⟨⟨timing, b⟩, rfl, rfl⟩ := List.map_eq_singleton_iff.mp hlast
  obtain ⟨s, hquiet, hfeed⟩ := w.read site.settings.performance.keepAlive
  rw [← hfront] at hquiet
  refine ⟨timing, ?_⟩
  simp only [takeStamped_append, start, takeStamped_of_quiet hquiet, takeStamped, takeByte, hfeed,
    answer, List.nil_append, List.append_nil]

end Stamped

end Connection

/-- The connection ends with the response to this request. -/
def Http.Written.Ends (w : Written) (site : Site) (r : Response) : Prop :=
  w.AsksToClose ∨ 400 ≤ r.status ∨ site.settings.performance.keepAlive = false

/-- The requests are answered in turn, up to the first with whose response the connection ends.
A client that knows what it asked for reads these responses off the bytes sent, and nothing is
left of them. The last argument is what becomes of the session. -/
inductive Replied (t : FileTree) (site : Site) (peer : SocketAddr) :
    List Written → Bytes → Session → Prop
  | all : Replied t site peer [] [] .start
  | last {w : Written} {rest : List Written} {r : Response} {out : Bytes} {x : Client.Received}
      (timing : Timing) :
      r = (Exchange.handle t site w.request peer timing).response → w.Ends site r →
      Client.read? w.method out = some (x, []) → x.Conveys r true →
      Replied t site peer (w :: rest) out .closed
  | next {w : Written} {rest : List Written} {r : Response} {out later : Bytes} {s : Session}
      {x : Client.Received} (timing : Timing) :
      r = (Exchange.handle t site w.request peer timing).response → ¬w.Ends site r →
      Client.read? w.method out = some (x, later) → x.Conveys r false →
      Replied t site peer rest later s →
      Replied t site peer (w :: rest) out s

section Replies
variable {t : FileTree} {site : Site} {peer : SocketAddr} {w : Written}

theorem built_handle (types : site.types = .standard) (w : Written) (peer : SocketAddr)
    (timing : Timing) :
    Built (decide (w.method = .head)) (Exchange.handle t site w.request peer timing).response :=
  built_answer types (Target.legal_of_parse w.parsed) w.method

theorem framed_handle (types : site.types = .standard) (w : Written) (peer : SocketAddr)
    (timing : Timing) :
    (Exchange.handle t site w.request peer timing).response.Framed w.method :=
  Response.framed_of_built (built_handle types w peer timing)

theorem answer_written (types : site.types = .standard)
    (heeded : w.AsksToClose → w.stays = false) (timing : Timing) {r : Response}
    (hr : r = (Exchange.handle t site w.request peer timing).response) (stays : Bool)
    (hstays : stays = true ↔ ¬w.Ends site r) :
    ∃ lines, (Connection.start peer).answer t site timing
        ⟨w.request, .bytes 0, w.stays && site.settings.performance.keepAlive⟩ =
      (⟨peer, if stays then .start else .closed⟩,
        (Reply.response .http11 r stays).bytes timing.moment.seconds, lines) := by
  have hframed := framed_handle types w peer timing (t := t)
  rw [← hr] at hframed
  have hopen : w.stays = true ↔ ¬w.AsksToClose := by
    constructor
    · intro hw hasks
      rw [heeded hasks] at hw
      cases hw
    · intro hasks
      rw [← Bool.not_eq_false]
      exact fun hw => hasks (Framing.exists_close_of_heed hw)
  have hpersistent :
      (w.stays && site.settings.performance.keepAlive && !Session.closes r) = stays := by
    rw [Bool.eq_iff_iff, hstays, hframed.closes_eq]
    simp only [Written.Ends, not_or, Bool.and_eq_true, hopen, Bool.not_eq_true',
      decide_eq_false_iff_not, Bool.not_eq_false]
    exact ⟨fun ⟨⟨ha, hk⟩, hs⟩ => ⟨ha, hs, hk⟩, fun ⟨ha, hs, hk⟩ => ⟨⟨ha, hk⟩, hs⟩⟩
  have hversion : w.request.version = .http11 := rfl
  simp only [Connection.answer, Connection.start, Session.answer, ← hr, hpersistent, hversion]
  exact ⟨_, rfl⟩

theorem exists_read?_written (types : site.types = .standard) (timing : Timing) {r : Response}
    (hr : r = (Exchange.handle t site w.request peer timing).response) (stays : Bool)
    (hstays : stays = true ↔ ¬w.Ends site r) (rest : Bytes) :
    ∃ x, Client.read? w.method
        ((Reply.response .http11 r stays).bytes timing.moment.seconds ++ rest) = some (x, rest) ∧
      x.Conveys r (!stays) := by
  have hbuilt := built_handle (t := t) types w peer timing
  rw [← hr] at hbuilt
  refine (Response.framed_of_built hbuilt).exists_read? (Response.sent_of_built hbuilt) stays ?_
    timing.moment.seconds rest
  intro hopen hstatus
  exact hstays.mp hopen (.inr (.inl hstatus))

/-- The bytes of some requests, cut anywhere, are answered request by request. -/
theorem replied_takeStamped (t : FileTree) (peer : SocketAddr) (types : site.types = .standard)
    {requests : List Written}
    (heeded : ∀ w ∈ requests, w.AsksToClose → w.stays = false)
    {stamped : List (Timing × UInt8)}
    (sent : stamped.map (·.2) = requests.flatMap Written.bytes) :
    ∃ out s lines, (Connection.start peer).takeStamped t site stamped = (⟨peer, s⟩, out, lines) ∧
      Replied t site peer requests out s := by
  induction requests generalizing stamped with
  | nil =>
    obtain rfl := List.map_eq_nil_iff.mp sent
    exact ⟨[], .start, [], rfl, .all⟩
  | cons w rest ih =>
    obtain ⟨hw, hrest⟩ := List.forall_mem_cons.mp heeded
    rw [List.flatMap_cons] at sent
    obtain ⟨first, later, rfl, hfirst, hlater⟩ := List.map_eq_append_iff.mp sent
    obtain ⟨timing, htake⟩ := Connection.takeStamped_written t site peer w hfirst
    generalize hr : (Exchange.handle t site w.request peer timing).response = r
    by_cases hends : w.Ends site r
    · have hlast : false = true ↔ ¬w.Ends site r := by simp [hends]
      obtain ⟨lines, hanswer⟩ := answer_written types hw timing hr.symm false hlast
      obtain ⟨x, hread, hconveys⟩ := exists_read?_written types timing hr.symm false hlast []
      rw [List.append_nil] at hread
      refine ⟨_, _, lines, ?_, .last timing hr.symm hends hread hconveys⟩
      rw [Connection.takeStamped_append, htake, hanswer]
      simp only [Bool.false_eq_true, if_false, Connection.takeStamped_closed, List.append_nil]
    · have hopen : true = true ↔ ¬w.Ends site r := by simp [hends]
      obtain ⟨lines, hanswer⟩ := answer_written types hw timing hr.symm true hopen
      obtain ⟨out, s, tail, hout, hreplied⟩ := ih hrest hlater
      obtain ⟨x, hread, hconveys⟩ := exists_read?_written types timing hr.symm true hopen out
      refine ⟨_, _, lines ++ tail, ?_, .next timing hr.symm hends hread hconveys hreplied⟩
      rw [Connection.start] at hout
      rw [Connection.takeStamped_append, htake, hanswer]
      simp only [if_true, hout]

theorem replied_run (types : site.types = .standard) {requests : List Written}
    (heeded : ∀ w ∈ requests, w.AsksToClose → w.stays = false) {arrivals : List Arrival}
    (fixed : ∀ x ∈ arrivals, x.files = t)
    (sent : arrivals.flatMap Arrival.bytes = requests.flatMap Written.bytes) :
    Replied t site peer requests ((Connection.start peer).run site arrivals).2.1
      ((Connection.start peer).run site arrivals).1.session := by
  have hstamped :
      (arrivals.flatMap Arrival.stamped).map (·.2) = requests.flatMap Written.bytes := by
    rw [← sent, List.map_flatMap]
    simp [Arrival.stamped, Function.comp_def]
  obtain ⟨out, s, lines, hout, hreplied⟩ := replied_takeStamped t peer types heeded hstamped
  rw [Connection.run_eq_takeStamped fixed, hout]
  exact hreplied

end Replies

/-- Requests without a body that come in on one connection, cut anywhere, are answered as they
are one by one, up to the first that asks for the end, or that is refused, or at all if
connections are not kept. A client reads the answers off the bytes, one behind the other, by
their own lengths, and deadlines that the clock can tell change nothing of this while they are
met. A field that asks for the end is taken to be heeded, since a later one of the same request
could take it back. -/
theorem requests_are_answered_in_turn {t₀ t : FileTree} {settings : Settings} {steps : List Name}
    {site : Site} (made : Site.make t₀ settings steps = .ok site) (peer : SocketAddr)
    (requests : List Written) (heeded : ∀ w ∈ requests, w.AsksToClose → w.stays = false)
    (arrivals : List Arrival) (fixed : ∀ x ∈ arrivals, x.files = t)
    (sent : arrivals.flatMap Arrival.bytes = requests.flatMap Written.bytes) :
    Replied t site peer requests ((Connection.start peer).run site arrivals).2.1
        ((Connection.start peer).run site arrivals).1.session ∧
      (∀ w ∈ requests, ∀ timing,
        (Exchange.handle t site w.request peer timing).response.Framed w.method) ∧
      ∀ now, site.Tells now → (∀ x ∈ arrivals, site.Tells x.now) →
        ∃ w, Watched.start? site now peer = some w ∧
          Watched.Follows (w.run site arrivals) ((Connection.start peer).run site arrivals) := by
  have types := Site.types_of_make made
  refine ⟨replied_run types heeded fixed sent, ?_, ?_⟩
  · exact fun w _ timing => framed_handle types w peer timing
  · exact fun now hnow harrivals => Watched.exists_follows hnow harrivals peer

section Instance

def Http.hostField : FieldLine where
  name := utf8 "Host"
  before := [HeadReader.space]
  value := utf8 "localhost"
  after := []
  token := rfl
  blankBefore := List.forall_mem_singleton.mpr rfl
  legal := rfl
  blankAfter := List.forall_mem_nil _
  front := by rintro _ ⟨⟩; rfl
  back := by rintro _ ⟨⟩; rfl

def Http.closeField : FieldLine where
  name := utf8 "Connection"
  before := [HeadReader.space]
  value := utf8 "close"
  after := []
  token := rfl
  blankBefore := List.forall_mem_singleton.mpr rfl
  legal := rfl
  blankAfter := List.forall_mem_nil _
  front := by rintro _ ⟨⟩; rfl
  back := by rintro _ ⟨⟩; rfl

/-- A request for the page. -/
def Http.Written.page : Written where
  method := .get
  target := utf8 "/page"
  uri := ⟨"/page", none⟩
  fields := [hostField]
  served := .inl rfl
  parsed := rfl
  visible := List.all_eq_true.mp rfl
  text := rfl
  bodyless := by decide
  few := by decide
  small := by decide

/-- A request for the page that asks for the connection to be closed. -/
def Http.Written.lastPage : Written where
  method := .get
  target := utf8 "/page"
  uri := ⟨"/page", none⟩
  fields := [hostField, closeField]
  served := .inl rfl
  parsed := rfl
  visible := List.all_eq_true.mp rfl
  text := rfl
  bodyless := by decide
  few := by decide
  small := by decide

/-- Three requests for the page, cut in the middle of the second. The third comes too late. -/
def threeRequests : List Arrival :=
  [⟨besideKey (.file (utf8 "shown")), ⟨7, 0⟩, ⟨⟨0, 0, 0⟩, 0⟩,
      Written.page.bytes ++ Written.lastPage.bytes.take 20⟩,
    ⟨besideKey (.file (utf8 "shown")), ⟨8, 0⟩, ⟨⟨1, 0, 0⟩, 0⟩,
      Written.lastPage.bytes.drop 20 ++ Written.page.bytes⟩]

theorem bytes_threeRequests :
    threeRequests.flatMap Arrival.bytes =
      [Written.page, .lastPage, .page].flatMap Written.bytes := by
  have hcut := List.take_append_drop 20 Written.lastPage.bytes
  simp only [threeRequests, List.flatMap_cons, List.flatMap_nil, List.append_nil, List.append_assoc]
  rw [← List.append_assoc (List.take 20 _), hcut]

theorem handle_page {r : Request} (hget : r.method = .get) (hpath : r.target.path = "/page")
    (peer : SocketAddr) (timing : Timing) :
    (Exchange.handle (besideKey (.file (utf8 "shown"))) .www r peer timing).response =
      Response.carrying "application/octet-stream" (utf8 "shown") false := by
  have hfile : Site.www.Admits (besideKey (.file (utf8 "shown")))
      (Site.www.root ++ RequestPath.steps ["page"]) [utf8 "www", utf8 "page"] :=
    Site.admits_iff.mpr ⟨rfl, rfl, List.prefix_append _ _, List.not_mem_nil⟩
  have names : RequestPath.translate? "/page" = some ["page"] := rfl
  have denotes : Denotes (besideKey (.file (utf8 "shown"))) Site.www r.target.path
      (.file [utf8 "www", utf8 "page"] [utf8 "www", utf8 "page"] (utf8 "shown")) := by
    rw [hpath]
    exact .file (.of_names names hfile rfl) rfl
  have hresponse :
      (Exchange.handle (besideKey (.file (utf8 "shown"))) .www r peer timing).response = _ :=
    handle_response hget denotes
  rw [hresponse, response_file rfl]
  rfl

/-- Of the three requests the first two are answered. -/
theorem requests_are_answered_in_turn_threeRequests :
    Site.make (besideKey (.file (utf8 "shown"))) .defaults [utf8 "www"] = .ok .www ∧
      threeRequests.flatMap Arrival.bytes =
        [Written.page, .lastPage, .page].flatMap Written.bytes ∧
      ((Connection.start .neighbour).run .www threeRequests).1.session = .closed ∧
      ∃ x y later,
        Client.read? .get ((Connection.start .neighbour).run .www threeRequests).2.1 =
          some (x, later) ∧
        x.Conveys (Response.carrying "application/octet-stream" (utf8 "shown") false) false ∧
        Client.read? .get later = some (y, []) ∧
        y.Conveys (Response.carrying "application/octet-stream" (utf8 "shown") false) true := by
  have made : Site.make (besideKey (.file (utf8 "shown"))) .defaults [utf8 "www"] = .ok .www := rfl
  have heeded : ∀ w ∈ [Written.page, .lastPage, .page], w.AsksToClose → w.stays = false := by decide
  have fixed : ∀ x ∈ threeRequests, x.files = besideKey (.file (utf8 "shown")) := by
    simp [threeRequests]
  obtain ⟨hreplied, _⟩ := requests_are_answered_in_turn made .neighbour
    [.page, .lastPage, .page] heeded threeRequests fixed bytes_threeRequests
  refine ⟨made, bytes_threeRequests, ?_⟩
  have hfirst : ¬Written.page.Ends .www
      (Response.carrying "application/octet-stream" (utf8 "shown") false) := by
    rintro (hasks | hstatus | hkept)
    · exact absurd hasks (by decide)
    · exact absurd hstatus (by decide)
    · cases hkept
  have hsecond : ∀ r, Written.lastPage.Ends .www r := fun r => .inl (by decide)
  generalize ((Connection.start .neighbour).run .www threeRequests).2.1 = out at hreplied ⊢
  generalize ((Connection.start .neighbour).run .www threeRequests).1.session = s at hreplied ⊢
  cases hreplied with
  | last timing hr hends =>
    rw [handle_page rfl rfl] at hr
    exact absurd (hr ▸ hends) hfirst
  | next timing hr _ hread hconveys hrest =>
    rw [handle_page rfl rfl] at hr
    cases hrest with
    | last timing' hr' _ hread' hconveys' =>
      rw [handle_page rfl rfl] at hr'
      exact ⟨rfl, _, _, _, hread, hr ▸ hconveys, hread', hr' ▸ hconveys'⟩
    | next _ _ hends => exact absurd (hsecond _) hends

end Instance

end DocRoot
