import DocRoot.Http.Reply
import DocRoot.Proofs.Http.Response

/-!
# What a client reads

A client cuts the head of a response into lines, reads the status off the first and a field off
each other one, and takes as many bytes for the body as the fields tell. So it knows where the
next response begins. What is sent for a response is read back as that response.
-/

set_option autoImplicit false

namespace DocRoot.Http.Client

structure Received where
  status : Nat
  fields : List (Bytes × Bytes)
  body : Bytes
  deriving DecidableEq, Repr

/-- What is in front of the first `mark`, and what is behind it. -/
def cut? (mark : UInt8) : Bytes → Option (Bytes × Bytes)
  | [] => none
  | b :: rest =>
    if b = mark then some ([], rest) else (cut? mark rest).map fun x => (b :: x.1, x.2)

/-- The lines of a head as far as the empty one, and what is behind it. Of the line at hand the
bytes in `front` have been read, the last of them first. -/
def lines? (front : Bytes) : Bytes → Option (List Bytes × Bytes)
  | [] => none
  | 0x0D :: 0x0A :: rest =>
    if front = [] then some ([], rest)
    else (lines? [] rest).map fun x => (front.reverse :: x.1, x.2)
  | b :: rest => lines? (b :: front) rest

def number? (bs : Bytes) : Option Nat :=
  match Utf8.text? bs with
  | none => none
  | some s =>
    if s.toList ≠ [] ∧ s.toList.all Char.isDigit then some (Nat.ofDigitChars 10 s.toList 0)
    else none

def status? (line : Bytes) : Option Nat :=
  match cut? 0x20 line with
  | none => none
  | some (version, rest) =>
    if version = utf8 "HTTP/1.1" then (cut? 0x20 rest).bind fun x => number? x.1 else none

/-- A name in lower case and a value without the blanks around it. -/
def field? (line : Bytes) : Option (Bytes × Bytes) :=
  (cut? 0x3A line).map fun x => (Framing.lower x.1, Framing.trim x.2)

/-- How many bytes the body has. Some responses have none whatever their fields tell. -/
def size? (method : Method) (status : Nat) (fields : List (Bytes × Bytes)) : Option Nat :=
  if method = .head ∨ status < 200 ∨ status = 204 ∨ status = 304 then some 0
  else (fields.lookup (utf8 "content-length")).bind number?

/-- The response to a request with this method that comes first, and what is behind it. -/
def read? (method : Method) (bs : Bytes) : Option (Received × Bytes) :=
  match lines? [] bs with
  | none => none
  | some ([], _) => none
  | some (first :: others, rest) => do
    let status ← status? first
    let fields ← others.mapM field?
    let size ← size? method status fields
    if size ≤ rest.length then some (⟨status, fields, rest.take size⟩, rest.drop size) else none

namespace Received

/-- The values of the fields with this name. -/
def values (x : Received) (name : String) : List Bytes :=
  (x.fields.filter (·.1 = utf8 name)).map (·.2)

/-- Nothing of the response is lost on the way. The connection adds the date, and it says for
itself whether this response is the last. -/
structure Conveys (x : Received) (r : Response) (ends : Bool) : Prop where
  status : x.status = r.status
  fields : (x.fields.filter fun f => f.1 ≠ utf8 "date" ∧ f.1 ≠ utf8 "connection") =
    (r.headers.filter (·.name ≠ "connection")).map fun h => (utf8 h.name, h.value)
  ending : x.values "connection" = if ends then [utf8 "close"] else []
  body : x.body = r.body

end Received

section Reading
variable {mark : UInt8} {front line rest : Bytes} {lines : List Bytes}

theorem cut?_append (h : mark ∉ front) (rest : Bytes) :
    cut? mark (front ++ mark :: rest) = some (front, rest) := by
  induction front with
  | nil => simp [cut?]
  | cons b front ih =>
    rw [List.mem_cons, not_or] at h
    simp [cut?, Ne.symm h.1, ih h.2]

theorem lines?_line (h : (0x0D : UInt8) ∉ line) (rest : Bytes) :
    lines? front (line ++ 0x0D :: 0x0A :: rest) =
      if front = [] ∧ line = [] then some ([], rest)
      else (lines? [] rest).map fun x => ((front.reverse ++ line) :: x.1, x.2) := by
  induction line generalizing front with
  | nil => simp [lines?]
  | cons b line ih =>
    rw [List.mem_cons, not_or] at h
    have hstep : lines? front (b :: (line ++ 0x0D :: 0x0A :: rest)) =
        lines? (b :: front) (line ++ 0x0D :: 0x0A :: rest) := by
      rw [lines?]
      rintro _ rfl
      exact absurd rfl h.1
    rw [List.cons_append, hstep, ih h.2]
    simp

theorem lines?_flatMap (h : ∀ line ∈ lines, (0x0D : UInt8) ∉ line ∧ line ≠ []) (rest : Bytes) :
    lines? [] (lines.flatMap (· ++ Reply.crlf) ++ (Reply.crlf ++ rest)) = some (lines, rest) := by
  have hcrlf : Reply.crlf = [0x0D, 0x0A] := rfl
  induction lines with
  | nil => simp [hcrlf, lines?]
  | cons line lines ih =>
    obtain ⟨⟨hreturn, hne⟩, hlines⟩ := List.forall_mem_cons.mp h
    have hstep : lines? [] (line ++ 0x0D :: 0x0A ::
        (lines.flatMap (· ++ Reply.crlf) ++ (Reply.crlf ++ rest))) = _ := lines?_line hreturn _
    rw [ih hlines] at hstep
    simpa [hne, hcrlf] using hstep

theorem number?_toString (n : Nat) : number? (utf8 (toString n)) = some n := by
  have hall : (Nat.toDigits 10 n).all Char.isDigit = true :=
    List.all_eq_true.mpr fun c hc => Nat.isDigit_of_mem_toDigits (by decide) (by decide) hc
  rw [number?, text?_utf8]
  simp [hall, Nat.toDigits_ne_nil]

end Reading

/-- A header as the server sends one: the name in lower case, with no mark that ends it. -/
structure Named (h : Header) : Prop where
  lower : Framing.lower (utf8 h.name) = utf8 h.name
  no_colon : (0x3A : UInt8) ∉ utf8 h.name
  no_return : (0x0D : UInt8) ∉ utf8 h.name

instance (h : Header) : Decidable (Named h) :=
  decidable_of_iff (Framing.lower (utf8 h.name) = utf8 h.name ∧ (0x3A : UInt8) ∉ utf8 h.name ∧
      (0x0D : UInt8) ∉ utf8 h.name)
    ⟨fun ⟨h, hc, hr⟩ => ⟨h, hc, hr⟩, fun ⟨h, hc, hr⟩ => ⟨h, hc, hr⟩⟩

def headerText (h : Header) : Bytes := utf8 (h.name ++ ": ") ++ h.value

section Lines
variable {h : Header}

theorem trim_eq (v : Bytes) (front : ∀ b ∈ v.head?, HeadReader.isBlank b = false)
    (back : ∀ b ∈ v.getLast?, HeadReader.isBlank b = false) : Framing.trim (0x20 :: v) = v := by
  have hdrop : ∀ u : Bytes, (∀ b ∈ u.head?, HeadReader.isBlank b = false) →
      u.dropWhile HeadReader.isBlank = u := by
    intro u hu
    cases u with
    | nil => rfl
    | cons b u => simp [hu b rfl]
  have hblank : HeadReader.isBlank 0x20 = true := rfl
  rw [Framing.trim, List.dropWhile_cons_of_pos hblank, hdrop v front, hdrop, List.reverse_reverse]
  rwa [List.head?_reverse]

theorem field?_headerText (named : Named h) :
    field? (headerText h) = some (utf8 h.name, Framing.trim (0x20 :: h.value)) := by
  have hmark : utf8 ": " = [0x3A, 0x20] := by decide
  have htext : headerText h = utf8 h.name ++ 0x3A :: (0x20 :: h.value) := by
    simp [headerText, hmark]
  rw [htext, field?, cut?_append named.no_colon, Option.map_some, named.lower]

theorem return_not_mem_headerText (named : Named h) (legal : isFieldValue h.value = true) :
    (0x0D : UInt8) ∉ headerText h ∧ headerText h ≠ [] := by
  have hmark : utf8 ": " = [0x3A, 0x20] := by decide
  have hvalue : (0x0D : UInt8) ∉ h.value := by
    intro hm
    cases List.all_eq_true.mp legal _ hm
  simp only [headerText, utf8_append, hmark, List.mem_append, not_or]
  exact ⟨⟨⟨named.no_return, by decide⟩, hvalue⟩, by simp⟩

theorem status?_statusLine (status : Nat) :
    status? (utf8 (Reply.statusLine .http11 status)) = some status := by
  have hline : utf8 (Reply.statusLine .http11 status) =
      utf8 "HTTP/1.1" ++ 0x20 :: (utf8 (toString status) ++ 0x20 ::
        utf8 ((Status.reason? status).getD "<none>")) := by
    have hversion : utf8 ("HTTP/" ++ Version.http11.label ++ " ") = utf8 "HTTP/1.1" ++ [0x20] := by
      decide
    have hblank : utf8 " " = [0x20] := by decide
    rw [Reply.statusLine, utf8_append, utf8_append, utf8_append, hversion, hblank]
    simp
  have hfirst : (0x20 : UInt8) ∉ utf8 "HTTP/1.1" := by decide
  have hsecond : (0x20 : UInt8) ∉ utf8 (toString status) := by
    intro hm
    have hvisible := all_isTargetByte_utf8 (s := toString status) (Text.Over.number (by decide) _)
    cases List.all_eq_true.mp hvisible _ hm
  rw [hline, status?, cut?_append hfirst]
  simp only [if_true, cut?_append hsecond, Option.bind_some, number?_toString]

theorem noControl_statusLine (status : Nat) : NoControl (Reply.statusLine .http11 status) := by
  have hreasons : ∀ e ∈ Status.reasons, NoControl e.2 := by decide
  have hreason : NoControl ((Status.reason? status).getD "<none>") := by
    cases hr : Status.reason? status with
    | none => decide
    | some reason =>
      obtain ⟨e, he, rfl⟩ := Option.map_eq_some_iff.mp hr
      exact hreasons e (List.mem_of_find?_eq_some he)
  have hversion : NoControl ("HTTP/" ++ Version.http11.label ++ " ") := by decide
  have hblank : NoControl " " := by decide
  exact ((hversion.append (noControl_toString status)).append hblank).append hreason

theorem noControl_dateText (seconds : Int) : NoControl (Reply.dateText seconds) := by
  have hd : Text.OnDigits fun c => 0x20 ≤ c.toNat ∧ c.toNat ≠ 0x7F := by decide
  have hnames : ∀ name ∈ Reply.weekdayNames, NoControl name := by decide
  have hweekday : ∀ n : Nat, NoControl ((Reply.weekdayNames[n]?).getD "") := by
    intro n
    cases hn : Reply.weekdayNames[n]? with
    | none => decide
    | some name => exact hnames name (List.mem_of_getElem? hn)
  let t : Moment := ⟨seconds, 0, 0⟩
  have hday : NoControl (Moment.padded 2 t.date.day) := Moment.over_padded hd 2 _
  have hmonth : NoControl (Moment.monthName t.date.month) := Moment.over_monthName (by decide) _
  have hyear : NoControl (Moment.yearText t.date.year) :=
    Moment.over_yearText hd (by decide) (by decide) _
  have hclock : NoControl t.clock := Moment.over_clock hd (by decide) t
  have hcomma : NoControl ", " := by decide
  have hblank : NoControl " " := by decide
  have hzone : NoControl " GMT" := by decide
  exact (((((((((hweekday _).append hcomma).append hday).append hblank).append hmonth).append
    hblank).append hyear).append hblank).append hclock).append hzone

end Lines

section Message
variable {method : Method} {status : Nat} {headers : List Header} {body : Bytes}

def readHeader (h : Header) : Bytes × Bytes := (utf8 h.name, Framing.trim (0x20 :: h.value))

theorem mapM_field? (named : ∀ h ∈ headers, Named h) :
    (headers.map headerText).mapM field? = some (headers.map readHeader) := by
  induction headers with
  | nil => rfl
  | cons h headers ih =>
    obtain ⟨hh, hheaders⟩ := List.forall_mem_cons.mp named
    simp [field?_headerText hh, ih hheaders, readHeader]

/-- What is sent with these headers is read back with them and the date, and with nothing of
what follows. -/
theorem read?_message (sent : ∀ h ∈ headers, Named h ∧ isFieldValue h.value = true)
    (seconds : Int)
    (size : size? method status
      ((headers ++ [Response.text "date" (Reply.dateText seconds)]).map readHeader) =
        some body.length) (rest : Bytes) :
    read? method (Reply.message (Reply.statusLine .http11 status) headers seconds body ++ rest) =
      some (⟨status, (headers ++ [Response.text "date" (Reply.dateText seconds)]).map readHeader,
        body⟩, rest) := by
  generalize hall : headers ++ [Response.text "date" (Reply.dateText seconds)] = all at size ⊢
  have hsent : ∀ h ∈ all, Named h ∧ isFieldValue h.value = true := by
    intro h hh
    rw [← hall] at hh
    rcases List.mem_append.mp hh with hh | hh
    · exact sent h hh
    · obtain rfl := List.mem_singleton.mp hh
      have hname : Named (Response.text "date" "") := by decide
      exact ⟨⟨hname.lower, hname.no_colon, hname.no_return⟩,
        Response.isFieldValue_text "date" (noControl_dateText seconds)⟩
  have hline : (0x0D : UInt8) ∉ utf8 (Reply.statusLine .http11 status) := by
    intro hm
    cases List.all_eq_true.mp (isFieldValue_utf8 (noControl_statusLine status)) _ hm
  have hne : utf8 (Reply.statusLine .http11 status) ≠ [] := by
    intro he
    have hread := status?_statusLine status
    rw [he] at hread
    cases hread
  have hlines : ∀ line ∈ utf8 (Reply.statusLine .http11 status) :: all.map headerText,
      (0x0D : UInt8) ∉ line ∧ line ≠ [] := by
    refine List.forall_mem_cons.mpr ⟨⟨hline, hne⟩, ?_⟩
    intro line hm
    obtain ⟨h, hh, rfl⟩ := List.mem_map.mp hm
    exact return_not_mem_headerText (hsent h hh).1 (hsent h hh).2
  have hbytes : Reply.message (Reply.statusLine .http11 status) headers seconds body ++ rest =
      (utf8 (Reply.statusLine .http11 status) :: all.map headerText).flatMap (· ++ Reply.crlf) ++
        (Reply.crlf ++ (body ++ rest)) := by
    have hfield : Reply.fieldLine = fun h => headerText h ++ Reply.crlf := rfl
    simp [Reply.message, hall, hfield, List.flatMap_map]
  rw [hbytes, read?, lines?_flatMap hlines]
  simp [status?_statusLine, mapM_field? fun h hh => (hsent h hh).1, size]

/-- A header that a client reads as it was sent. The date is not among them. -/
structure Sent (h : Header) : Prop extends Named h where
  whole : WholeValue h.value
  ne_date : h.name ≠ "date"

theorem Sent.readHeader_eq {h : Header} (sent : Sent h) :
    readHeader h = (utf8 h.name, h.value) := by
  rw [readHeader, trim_eq h.value sent.whole.front sent.whole.back]

/-- Of headers that are sent the client reads those with certain names as they are. -/
theorem filter_map_readHeader (sent : ∀ h ∈ headers, Sent h) (ok : Bytes → Bool) :
    (headers.map readHeader).filter (fun f => ok f.1) =
      (headers.filter fun h => ok (utf8 h.name)).map fun h => (utf8 h.name, h.value) := by
  rw [List.filter_map]
  apply List.map_congr_left
  intro h hh
  exact (sent h (List.mem_filter.mp hh).1).readHeader_eq

/-- Apart from the date and from what becomes of the connection, the fields are the headers. -/
theorem filter_others (sent : ∀ h ∈ headers, Sent h) (seconds : Int) :
    (((headers ++ [Response.text "date" (Reply.dateText seconds)]).map readHeader).filter
        fun f => f.1 ≠ utf8 "date" ∧ f.1 ≠ utf8 "connection") =
      (headers.filter (·.name ≠ "connection")).map fun h => (utf8 h.name, h.value) := by
  have hnames : ∀ h ∈ headers, decide (utf8 h.name ≠ utf8 "date" ∧
      utf8 h.name ≠ utf8 "connection") = decide (h.name ≠ "connection") := by
    intro h hh
    have hdate : utf8 h.name ≠ utf8 "date" := fun he => (sent h hh).ne_date (utf8_injective he)
    have hclose : utf8 h.name ≠ utf8 "connection" ↔ h.name ≠ "connection" :=
      ⟨fun hne he => hne (congrArg utf8 he), fun hne he => hne (utf8_injective he)⟩
    simp only [hdate, hclose, ne_eq, not_false_eq_true, true_and]
  rw [List.map_append, List.filter_append,
    filter_map_readHeader sent fun n => n ≠ utf8 "date" ∧ n ≠ utf8 "connection",
    List.filter_congr hnames]
  simp [readHeader, Response.text]

theorem values_eq (sent : ∀ h ∈ headers, Sent h) (seconds : Int) {name : String}
    (hdate : name ≠ "date") :
    Received.values ⟨status,
        (headers ++ [Response.text "date" (Reply.dateText seconds)]).map readHeader, body⟩ name =
      (headers.filter (·.name = name)).map (·.value) := by
  have hnames : ∀ h ∈ headers, decide (utf8 h.name = utf8 name) = decide (h.name = name) := by
    intro h _
    have hname : utf8 h.name = utf8 name ↔ h.name = name :=
      ⟨fun he => utf8_injective he, fun he => congrArg utf8 he⟩
    simp only [hname]
  have hlast : utf8 "date" ≠ utf8 name := fun he => hdate (utf8_injective he).symm
  rw [Received.values, List.map_append, List.filter_append,
    filter_map_readHeader sent fun n => n = utf8 name, List.filter_congr hnames]
  simp [readHeader, Response.text, hlast, Function.comp_def]

theorem lookup_map_readHeader (name : String) (headers : List Header) :
    (headers.map readHeader).lookup (utf8 name) =
      (headers.find? (·.name == name)).map fun h => Framing.trim (0x20 :: h.value) := by
  induction headers with
  | nil => rfl
  | cons h headers ih =>
    by_cases hn : h.name = name
    · subst hn
      simp [readHeader]
    · have hne : utf8 name ≠ utf8 h.name := fun he => hn (utf8_injective he).symm
      simp [readHeader, List.lookup_cons, hn, beq_false_of_ne hne, ih]

end Message

end DocRoot.Http.Client
