import DocRoot.Http.Session
import DocRoot.Proofs.Serving.Building

/-!
# Requests as they are written

A request is written as a line with its method and its target, a line for each field, and an
empty line. Read byte by byte, it is quiet until its last byte, and that completes it. Blanks
around the value of a field are not part of it.
-/

set_option autoImplicit false

namespace DocRoot.Http

/-- A field as it is written, with the blanks around its value. -/
structure FieldLine where
  name : Bytes
  before : Bytes
  value : Bytes
  after : Bytes
  token : isToken name = true
  blankBefore : ∀ b ∈ before, HeadReader.isBlank b = true
  legal : isFieldValue value = true
  blankAfter : ∀ b ∈ after, HeadReader.isBlank b = true
  /-- No blank at the front or the end is counted to the value. -/
  front : ∀ b ∈ value.head?, HeadReader.isBlank b = false
  back : ∀ b ∈ value.getLast?, HeadReader.isBlank b = false

namespace FieldLine

def bytes (f : FieldLine) : Bytes :=
  f.name ++ 0x3A :: (f.before ++ (f.value ++ (f.after ++ Reply.crlf)))

def header (f : FieldLine) : Header := ⟨Utf8.lossy (f.name.map Header.lowerByte), f.value⟩

theorem parse (f : FieldLine) : Header.parse f.name f.value = .ok f.header := by
  simp [Header.parse, header, f.token, f.legal]

def isConnection (f : FieldLine) : Prop := Framing.lower f.name = utf8 "connection"

instance (f : FieldLine) : Decidable f.isConnection := inferInstanceAs (Decidable (_ = _))

end FieldLine

/-- The same outcome for a reader that has read so many bytes. -/
def HeadStep.resize (n : Nat) : HeadStep → HeadStep
  | .more r => .more { r with size := n }
  | step => step

namespace HeadReader

/-- The reader takes these bytes and goes on, with no regard to how many they are. -/
inductive Passes : HeadReader → Bytes → HeadReader → Prop
  | done (r : HeadReader) : Passes r [] r
  | next {r mid last : HeadReader} {b : UInt8} {bs : Bytes} :
      r.take b = .more mid → Passes mid bs last → Passes r (b :: bs) last

/-- The reader at the start of a line, once these fields have been read. -/
def atLine (r : HeadReader) (fields : List (Bytes × Bytes)) : HeadReader :=
  { r with part := .field, name := [], value := [], fields }

section Passing
variable {r mid last : HeadReader} {xs ys bs : Bytes} {b : UInt8}

theorem Passes.append (h : Passes r xs mid) (h' : Passes mid ys last) :
    Passes r (xs ++ ys) last := by
  induction h with
  | done => exact h'
  | next hb _ ih => exact .next hb (ih h')

theorem passes_byte (h : r.take b = .more last) : Passes r [b] last := .next h (.done last)

theorem ne_lineEnd_of_isTokenByte (h : isTokenByte b = true) :
    b ≠ carriageReturn ∧ b ≠ lineFeed := by
  constructor <;> (rintro rfl; cases h)

theorem ne_lineEnd_of_isFieldByte (h : isFieldByte b = true) :
    b ≠ carriageReturn ∧ b ≠ lineFeed := by
  constructor <;> (rintro rfl; cases h)

/-- Bytes that are all put in front of the same text. -/
theorem passes_all (reader : Bytes → HeadReader)
    (h : ∀ b ∈ bs, ∀ text, (reader text).take b = .more (reader (b :: text))) (text : Bytes) :
    Passes (reader text) bs (reader (bs.reverse ++ text)) := by
  induction bs generalizing text with
  | nil => exact .done _
  | cons b bs ih =>
    obtain ⟨hb, hbs⟩ := List.forall_mem_cons.mp h
    rw [List.reverse_cons, List.append_assoc]
    exact .next (hb text) (ih hbs (b :: text))

theorem passes_target (h : ∀ b ∈ bs, isTargetByte b = true) :
    Passes { r with part := .target } bs
      { r with part := .target, target := bs.reverse ++ r.target } := by
  refine passes_all (fun text => { r with part := .target, target := text }) ?_ r.target
  intro b hb text
  have hspace : b ≠ space := by
    rintro rfl
    cases h _ hb
  simp [take, hspace, h b hb]

theorem passes_name (h : ∀ b ∈ bs, isTokenByte b = true) :
    Passes { r with part := .name } bs
      { r with part := .name, name := bs.reverse ++ r.name } := by
  refine passes_all (fun text => { r with part := .name, name := text }) ?_ r.name
  intro b hb text
  have hcolon : b ≠ 0x3A := by
    rintro rfl
    cases h _ hb
  simp [take, hcolon, h b hb]

theorem passes_value (h : ∀ b ∈ bs, isFieldByte b = true) :
    Passes { r with part := .value } bs
      { r with part := .value, value := bs.reverse ++ r.value } := by
  refine passes_all (fun text => { r with part := .value, value := text }) ?_ r.value
  intro b hb text
  obtain ⟨hreturn, hfeed⟩ := ne_lineEnd_of_isFieldByte (h b hb)
  simp [take, hreturn, hfeed, h b hb]

theorem passes_blanks (h : ∀ b ∈ bs, isBlank b = true) :
    Passes { r with part := .beforeValue } bs { r with part := .beforeValue } := by
  refine passes_all (fun _ => { r with part := .beforeValue }) ?_ []
  intro b hb text
  simp [take, h b hb]

theorem isFieldByte_of_isBlank (h : isBlank b = true) : isFieldByte b = true := by
  simp only [isBlank, Bool.or_eq_true, beq_iff_eq] at h
  rcases h with rfl | rfl <;> rfl

/-- The end of a line whose field has been read. -/
theorem passes_lineEnd (h : r.part = .beforeValue ∨ r.part = .value) :
    Passes r Reply.crlf r.endField := by
  have hreturn : r.take carriageReturn = .more { r with part := .valueFeed } := by
    rcases h with h | h <;> simp [take, h, isBlank, carriageReturn]
  have hfeed : { r with part := .valueFeed }.take lineFeed = .more r.endField := by
    simp [take, expectFeed, endField]
  exact .next hreturn (passes_byte hfeed)

theorem reverse_dropWhile_blanks {value after : Bytes} (h : ∀ b ∈ after, isBlank b = true)
    (back : ∀ b ∈ value.getLast?, isBlank b = false) :
    (((value ++ after).reverse).dropWhile isBlank).reverse = value := by
  rw [List.reverse_append, List.dropWhile_append_of_pos (by simpa using h)]
  cases hv : value.reverse with
  | nil =>
    rw [List.reverse_eq_nil_iff.mp hv]
    rfl
  | cons b rest =>
    have hlast : value.getLast? = some b := by
      rw [← List.head?_reverse, hv]
      rfl
    rw [List.dropWhile_cons_of_neg (by simp [back b hlast]), ← hv, List.reverse_reverse]

theorem passes_fieldName (hpart : r.part = .field) (h : isToken bs = true) :
    Passes r bs { r with part := .name, name := bs.reverse } := by
  obtain ⟨hne, hall⟩ : bs.isEmpty = false ∧ bs.all isTokenByte = true := by
    simpa [isToken] using h
  cases bs with
  | nil => cases hne
  | cons b bs =>
    obtain ⟨hb, hbs⟩ := List.forall_mem_cons.mp (List.all_eq_true.mp hall)
    obtain ⟨hreturn, hfeed⟩ := ne_lineEnd_of_isTokenByte hb
    have htake : r.take b = .more { r with part := .name, name := [b] } := by
      simp [take, hpart, hreturn, hfeed, hb]
    have hrest := passes_name (r := { r with name := [b] }) hbs
    rw [List.reverse_cons]
    exact .next htake hrest

/-- The value of a field, from the first byte that is no blank to the end of the line. -/
theorem passes_fieldValue {value after : Bytes} (hvalue : r.value = [])
    (legal : isFieldValue value = true) (front : ∀ b ∈ value.head?, isBlank b = false)
    (back : ∀ b ∈ value.getLast?, isBlank b = false) (blank : ∀ b ∈ after, isBlank b = true) :
    Passes { r with part := .beforeValue } (value ++ (after ++ Reply.crlf))
      { r with part := .field, name := [], value := [],
               fields := (r.name.reverse, value) :: r.fields } := by
  cases value with
  | nil =>
    have hend := passes_lineEnd (r := { r with part := .beforeValue }) (Or.inl rfl)
    have hnone : (r.value.dropWhile isBlank).reverse = [] := by rw [hvalue]; rfl
    simp only [endField, hnone] at hend
    exact (passes_blanks blank).append hend
  | cons b value =>
    obtain ⟨hb, hvalues⟩ := List.forall_mem_cons.mp (List.all_eq_true.mp legal)
    have hblank : isBlank b = false := front b rfl
    obtain ⟨hreturn, hfeed⟩ := ne_lineEnd_of_isFieldByte hb
    have htake : { r with part := .beforeValue }.take b =
        .more { r with part := .value, value := [b] } := by
      simp [take, hblank, hreturn, hfeed, hb]
    have hrest : ∀ c ∈ value ++ after, isFieldByte c = true := by
      intro c hc
      rcases List.mem_append.mp hc with hc | hc
      · exact hvalues c hc
      · exact isFieldByte_of_isBlank (blank c hc)
    have hend := passes_lineEnd
      (r := { r with part := .value, value := (value ++ after).reverse ++ [b] }) (Or.inr rfl)
    have htrim := reverse_dropWhile_blanks blank back
    rw [List.cons_append, List.reverse_cons] at htrim
    simp only [endField, htrim] at hend
    have hpass := (passes_value (r := { r with value := [b] }) hrest).append hend
    rw [List.append_assoc] at hpass
    exact .next htake hpass

/-- A field is read with its name and its value. -/
theorem passes_field (f : FieldLine) {fields : List (Bytes × Bytes)}
    (few : fields.length < maxFields) :
    Passes (r.atLine fields) f.bytes (r.atLine ((f.name, f.value) :: fields)) := by
  have hname : Passes (r.atLine fields) f.name
      { r.atLine fields with part := .name, name := f.name.reverse } := passes_fieldName rfl f.token
  have hcolon : { r.atLine fields with part := .name, name := f.name.reverse }.take 0x3A =
      .more { r.atLine fields with part := .beforeValue, name := f.name.reverse } := by
    simp [take, atLine, Nat.not_le.mpr few]
  have hblanks := passes_blanks (r := { r.atLine fields with name := f.name.reverse })
    f.blankBefore
  have hrest := passes_fieldValue (r := { r.atLine fields with name := f.name.reverse }) rfl
    f.legal f.front f.back f.blankAfter
  simp only [List.reverse_reverse] at hrest
  exact hname.append (.next hcolon (hblanks.append hrest))

theorem passes_fields (lines : List FieldLine) {fields : List (Bytes × Bytes)}
    (few : fields.length + lines.length ≤ maxFields) :
    Passes (r.atLine fields) (lines.flatMap FieldLine.bytes)
      (r.atLine ((lines.map fun f => (f.name, f.value)).reverse ++ fields)) := by
  induction lines generalizing fields with
  | nil => exact .done _
  | cons f lines ih =>
    rw [List.length_cons] at few
    have hfield : Passes (r.atLine fields) f.bytes (r.atLine ((f.name, f.value) :: fields)) :=
      passes_field f (by omega)
    have hrest := @ih ((f.name, f.value) :: fields) (by rw [List.length_cons]; omega)
    rw [List.map_cons, List.reverse_cons, List.append_assoc, List.flatMap_cons]
    exact hfield.append hrest

theorem passes_version (hne : bs ≠ []) :
    Passes { r with part := .version bs } bs { r with part := .minorVersion } := by
  induction bs with
  | nil => exact absurd rfl hne
  | cons b bs ih =>
    by_cases hlast : bs = []
    · subst hlast
      exact passes_byte (by simp [take])
    · have htake : { r with part := .version (b :: bs) }.take b =
          .more { r with part := .version bs } := by
        simp [take, hlast]
      exact .next htake (ih hlast)

/-- The reader of a head once its method and its target have been read. -/
def asked (method target : Bytes) : HeadReader :=
  { start with method := method.reverse, target := target.reverse }

theorem passes_method {method : Method} (served : method = .get ∨ method = .head) :
    Passes start (utf8 method.token ++ [space])
      { asked (utf8 method.token) [] with part := .target } := by
  rcases served with rfl | rfl
  · exact .next rfl (.next rfl (.next rfl (passes_byte rfl)))
  · exact .next rfl (.next rfl (.next rfl (.next rfl (passes_byte rfl))))

/-- What follows the target on its line. -/
theorem passes_protocol {method target : Bytes} (hne : target ≠ [])
    (text : (Utf8.text? target).isSome = true) :
    Passes { asked method target with part := .target } (utf8 " HTTP/1.1" ++ Reply.crlf)
      ((asked method target).atLine []) := by
  have hspace : { asked method target with part := .target }.take space =
      .more { asked method target with part := .version versionStart } := by
    simp [take, asked, hne, Option.isNone_eq_false_iff.mpr text]
  have hversion : Passes { asked method target with part := .version versionStart } versionStart
      { asked method target with part := .minorVersion } := passes_version (by decide)
  have hend : Passes { asked method target with part := .minorVersion } (0x31 :: Reply.crlf)
      ((asked method target).atLine []) := .next rfl (.next rfl (passes_byte rfl))
  exact .next hspace (hversion.append hend)

theorem passes_requestLine {method : Method} {target : Bytes}
    (served : method = .get ∨ method = .head)
    (visible : ∀ b ∈ target, isTargetByte b = true) (hne : target ≠ [])
    (text : (Utf8.text? target).isSome = true) :
    Passes start (utf8 method.token ++ [space] ++ target ++ (utf8 " HTTP/1.1" ++ Reply.crlf))
      ((asked (utf8 method.token) target).atLine []) := by
  have htarget : Passes { asked (utf8 method.token) [] with part := .target } target
      { asked (utf8 method.token) target with part := .target } := by
    have hall := passes_target (r := asked (utf8 method.token) []) visible
    simpa [asked] using hall
  exact ((passes_method served).append htarget).append (passes_protocol hne text)

theorem expectFeed_resize (n : Nat) (b : UInt8) (next : HeadStep) :
    (expectFeed b next).resize n = expectFeed b (next.resize n) := by
  unfold expectFeed
  split <;> rfl

/-- What is read does not depend on how much has been read before. -/
theorem take_resize (r : HeadReader) (n : Nat) (b : UInt8) :
    { r with size := n }.take b = (r.take b).resize n := by
  obtain ⟨part, size, method, target, protocol, name, value, fields⟩ := r
  cases part with
  | version rest => cases rest <;> simp only [take, apply_ite (HeadStep.resize n)] <;> rfl
  | preface rest => cases rest <;> simp only [take, apply_ite (HeadStep.resize n)] <;> rfl
  | _ =>
    simp only [take, apply_ite (HeadStep.resize n), expectFeed_resize]
    rfl

theorem feed_of_take {n : Nat} (h : r.take b = .more mid) (small : n + 1 < maxSize) :
    { r with size := n }.feed b = .more { mid with size := n + 1 } := by
  simp [feed, take_resize, h, HeadStep.resize, Nat.not_le.mpr small]

end Passing

end HeadReader

namespace Session

/-- The session takes these bytes and has nothing to answer. -/
inductive Quiet (keepAlive : Bool) : Session → Bytes → Session → Prop
  | done (s : Session) : Quiet keepAlive s [] s
  | next {s mid last : Session} {b : UInt8} {bs : Bytes} :
      s.feed keepAlive b = .quiet mid → Quiet keepAlive mid bs last →
      Quiet keepAlive s (b :: bs) last

theorem quiet_of_passes {keepAlive : Bool} {r last : HeadReader} {bs : Bytes}
    (h : r.Passes bs last) {n : Nat} (small : n + bs.length < HeadReader.maxSize) :
    Quiet keepAlive (.head { r with size := n }) bs
      (.head { last with size := n + bs.length }) := by
  induction h generalizing n with
  | done r => exact .done _
  | @next r mid last b bs hb _ ih =>
    rw [List.length_cons] at small ⊢
    have hfeed : feed keepAlive (.head { r with size := n }) b =
        .quiet (.head { mid with size := n + 1 }) := by
      have hmore := HeadReader.feed_of_take hb (n := n) (by omega)
      simp only [feed, hmore]
    have hrest := ih (n := n + 1) (by omega)
    rw [show n + (bs.length + 1) = n + 1 + bs.length by omega]
    exact .next hfeed hrest

end Session

namespace Framing

/-- Whether the connection is to stay, after one more field. -/
def heed (stays : Bool) (f : FieldLine) : Bool :=
  if f.isConnection then
    if stays then !hasOption f.value "close" else hasOption f.value "keep-alive"
  else stays

/-- The field leaves no room for a body. -/
def Bodyless (f : FieldLine) : Prop :=
  lower f.name ≠ utf8 "transfer-encoding" ∧
    (lower f.name = utf8 "content-length" → number? f.value = some 0)

instance (f : FieldLine) : Decidable (Bodyless f) := inferInstanceAs (Decidable (_ ∧ _))

section Bodyless
variable {f : FieldLine} {length : Option Nat}

theorem see_bodyless (stays : Bool) (h : Bodyless f) (hlength : length.getD 0 = 0) :
    ∃ length', length'.getD 0 = 0 ∧
      see .http11 ⟨length, none, stays⟩ f.name f.value = .ok ⟨length', none, heed stays f⟩ := by
  obtain ⟨hencoding, hzero⟩ := h
  by_cases hname : lower f.name = utf8 "content-length"
  · have hother : ¬f.isConnection := by
      rw [FieldLine.isConnection, hname]
      decide
    have hne : utf8 "content-length" ≠ utf8 "transfer-encoding" := by decide
    have hfits : ¬maxLength < 0 := Nat.not_lt_zero _
    refine ⟨some 0, rfl, ?_⟩
    cases length with
    | none => simp [see, heed, hname, hne, hother, hzero hname, hfits]
    | some m =>
      obtain rfl : m = 0 := hlength
      simp [see, heed, hname, hne, hother, hzero hname]
  · refine ⟨length, hlength, ?_⟩
    by_cases hconnection : lower f.name = utf8 "connection"
    · have hthis : f.isConnection := hconnection
      rw [hconnection] at hencoding hname
      simp [see, heed, hencoding, hname, hconnection, hthis]
    · have hother : ¬f.isConnection := hconnection
      simp [see, heed, hencoding, hname, hconnection, hother]

theorem ofHead_bodyless {method target : Bytes} {lines : List FieldLine}
    (h : ∀ f ∈ lines, Bodyless f) :
    ofHead ⟨method, target, .http11, lines.map fun f => (f.name, f.value)⟩ =
      .ok ⟨.bytes 0, lines.foldl heed true⟩ := by
  have hfold : ∀ (stays : Bool) (length : Option Nat), length.getD 0 = 0 →
      ∃ length', length'.getD 0 = 0 ∧
        (lines.map fun f => (f.name, f.value)).foldlM (fun v e => see .http11 v e.1 e.2)
          (⟨length, none, stays⟩ : View) = .ok ⟨length', none, lines.foldl heed stays⟩ := by
    induction lines with
    | nil => exact fun stays length hlength => ⟨length, hlength, rfl⟩
    | cons f lines ih =>
      intro stays length hlength
      obtain ⟨hf, hlines⟩ := List.forall_mem_cons.mp h
      obtain ⟨length', hlength', hsee⟩ := see_bodyless stays hf hlength
      obtain ⟨last, hlast, hrest⟩ := ih hlines (heed stays f) length' hlength'
      refine ⟨last, hlast, ?_⟩
      rw [List.map_cons, List.foldlM_cons, hsee]
      exact hrest
  obtain ⟨length, hlength, hview⟩ := hfold true none rfl
  have hstart : (Version.http11 == Version.http11) = true := rfl
  simp only [ofHead, hstart, hview, bind, Except.bind, pure, Except.pure, hlength]

/-- Unless a field asks for the connection to be closed, it is to stay. -/
theorem exists_close_of_heed {lines : List FieldLine} (h : lines.foldl heed true = false) :
    ∃ f ∈ lines, f.isConnection ∧ hasOption f.value "close" = true := by
  induction lines with
  | nil => cases h
  | cons f lines ih =>
    by_cases hclose : f.isConnection ∧ hasOption f.value "close" = true
    · exact ⟨f, List.mem_cons_self, hclose⟩
    · have hstays : heed true f = true := by
        unfold heed
        split
        · rename_i hconnection
          simpa using fun hoption => hclose ⟨hconnection, hoption⟩
        · rfl
      rw [List.foldl_cons, hstays] at h
      obtain ⟨g, hg, hasks⟩ := ih h
      exact ⟨g, List.mem_cons_of_mem f hg, hasks⟩

end Bodyless

end Framing

/-- The bytes of a request but the last, the line feed that completes it. -/
def unfinishedText (method : Method) (target : Bytes) (fields : List FieldLine) : Bytes :=
  utf8 method.token ++ [HeadReader.space] ++ target ++ (utf8 " HTTP/1.1" ++ Reply.crlf) ++
    (fields.flatMap FieldLine.bytes ++ [HeadReader.carriageReturn])

/-- A request for a file as a client writes it, without a body and within the limits of the
reader. -/
structure Written where
  method : Method
  target : Bytes
  uri : Target
  fields : List FieldLine
  served : method = .get ∨ method = .head
  parsed : Target.parse target = .ok uri
  visible : ∀ b ∈ target, HeadReader.isTargetByte b = true
  text : (Utf8.text? target).isSome = true
  bodyless : ∀ f ∈ fields, Framing.Bodyless f
  few : fields.length ≤ HeadReader.maxFields
  small : (unfinishedText method target fields).length < HeadReader.maxSize

namespace Written

variable (w : Written)

def bytes : Bytes := unfinishedText w.method w.target w.fields ++ [HeadReader.lineFeed]

def request : Request := ⟨w.method, w.uri, .http11, w.fields.map FieldLine.header⟩

/-- Whether the fields of the request, read in their order, leave the connection open. -/
def stays : Bool := w.fields.foldl Framing.heed true

/-- Some field of the request asks for the connection to be closed. -/
def AsksToClose : Prop :=
  ∃ f ∈ w.fields, f.isConnection ∧ Framing.hasOption f.value "close" = true

instance : Decidable w.AsksToClose := inferInstanceAs (Decidable (∃ f ∈ _, _))

theorem target_ne_nil : w.target ≠ [] := by
  intro h
  have hparsed := w.parsed
  rw [h] at hparsed
  cases hparsed

theorem length_target : w.target.length ≤ Target.maxLength := by
  apply Nat.not_lt.mp
  intro hlong
  have hparsed := w.parsed
  unfold Target.parse at hparsed
  rw [if_pos hlong] at hparsed
  cases hparsed

theorem make_request :
    Request.make (utf8 w.method.token) w.target .http11 (w.fields.map fun f => (f.name, f.value)) =
      .ok w.request := by
  have hmethod : Method.ofBytes? (utf8 w.method.token) = some w.method := by
    rcases w.served with h | h <;> rw [h] <;> rfl
  have hfields : (w.fields.map fun f => (f.name, f.value)).mapM (fun h => Header.parse h.1 h.2) =
      .ok (w.fields.map FieldLine.header) := by
    induction w.fields with
    | nil => rfl
    | cons f fields ih =>
      rw [List.map_cons, List.mapM_cons, f.parse, ih]
      rfl
  exact Request.make_eq_ok_iff.mpr ⟨_, _, _, hmethod, w.parsed, hfields, rfl⟩

theorem head_request :
    Head.request ⟨utf8 w.method.token, w.target, .http11, w.fields.map fun f => (f.name, f.value)⟩ =
      .ok (w.request, ⟨.bytes 0, w.stays⟩) := by
  have hfits : ¬Target.maxLength < w.target.length := Nat.not_lt.mpr w.length_target
  simp only [Head.request, hfits, if_false, w.make_request, Framing.ofHead_bodyless w.bodyless]
  rfl

/-- A request is read without a word until its last byte has come in. -/
theorem read (keepAlive : Bool) :
    ∃ s, Session.Quiet keepAlive .start (unfinishedText w.method w.target w.fields) s ∧
      s.feed keepAlive HeadReader.lineFeed =
        .request ⟨w.request, .bytes 0, w.stays && keepAlive⟩ := by
  have hline := HeadReader.passes_requestLine w.served w.visible w.target_ne_nil w.text
  have hfields : ((HeadReader.asked (utf8 w.method.token) w.target).atLine []).Passes
      (w.fields.flatMap FieldLine.bytes) _ :=
    HeadReader.passes_fields w.fields (by simpa using w.few)
  rw [List.append_nil] at hfields
  generalize hr : (HeadReader.asked (utf8 w.method.token) w.target).atLine
    (w.fields.map fun f => (f.name, f.value)).reverse = r at hfields
  have hpart : r.part = .field := by rw [← hr]; rfl
  have hreturn : r.take HeadReader.carriageReturn = .more { r with part := .lastFeed } := by
    simp [HeadReader.take, hpart]
  have hpass : HeadReader.start.Passes (unfinishedText w.method w.target w.fields)
      { r with part := .lastFeed } :=
    hline.append (hfields.append (HeadReader.passes_byte hreturn))
  have hquiet : Session.Quiet keepAlive .start (unfinishedText w.method w.target w.fields) _ :=
    Session.quiet_of_passes hpass (n := 0) (by simpa using w.small)
  refine ⟨_, hquiet, ?_⟩
  have hhead : r.head = ⟨utf8 w.method.token, w.target, .http11,
      w.fields.map fun f => (f.name, f.value)⟩ := by
    rw [← hr]
    simp [HeadReader.head, HeadReader.atLine, HeadReader.asked, HeadReader.start]
  have hdone : ∀ n, { r with part := .lastFeed, size := n }.feed HeadReader.lineFeed =
      .done r.head := fun _ => rfl
  simp only [Session.feed, hdone, hhead, w.head_request]

end Written

end DocRoot.Http
