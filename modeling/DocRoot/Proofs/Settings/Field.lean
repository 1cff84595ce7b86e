import DocRoot.Settings.File

/-!
# Settings field by field

A field has a place in the values, which is a name below the name of a section, and a kind
of value that it holds. Settings are what their fields hold and no more (`Settings.ext_held`).
As long as every section is a table, each field is read at its own place, and settings are
refused only as one of the fields is.
-/

set_option autoImplicit false

namespace DocRoot.Settings

inductive Group
  | server
  | logging
  | performance
  | serve
  deriving DecidableEq

def Group.name : Group → String
  | server => "server"
  | logging => "logging"
  | performance => "performance"
  | serve => "serve"

inductive Kind
  | text
  | truth
  | texts
  | port
  | count
  deriving DecidableEq

namespace Kind

@[reducible] def Held : Kind → Type
  | text => String
  | truth => Bool
  | texts => List String
  | port => UInt16
  | count => UInt64

/-- How a file says what is held. -/
def write : (k : Kind) → k.Held → Data
  | text, s => .text s
  | truth, b => .bool b
  | texts, l => .array (l.map .text)
  | port, n => .int n.toNat
  | count, n => .int n.toNat

def read : (k : Kind) → String → Value → Except LoadError k.Held
  | text => Value.toText
  | truth => Value.toBool
  | texts => Value.toTexts
  | port => Value.toPort
  | count => Value.toUInt64

/-- Data of the kind. Whole numbers are those of 64 bits with a sign. -/
inductive Takes : Kind → Data → Prop
  | text (s : String) : Takes text (.text s)
  | truth (b : Bool) : Takes truth (.bool b)
  | texts (l : List String) : Takes texts (.array (l.map .text))
  | port {n : Int} (h : Data.isInt n = true) : Takes port (.int n)
  | count {n : Int} (h : Data.isInt n = true) : Takes count (.int n)

/-- A whole number that cannot be held. -/
def Misses (k : Kind) (d : Data) : Prop := ∃ n, d = .int n ∧ (n < 0 ∨ k = port ∧ 65535 < n)

variable {k : Kind} {d : Data}

theorem toTextItems_ofItems (o : Origin) (key : String) (l : List String) :
    ∀ i, Value.toTextItems key i (Value.ofItems o (l.map .text)) = .ok l := by
  induction l with
  | nil => exact fun _ => rfl
  | cons s l ih =>
    intro i
    simp only [List.map_cons, Value.ofItems, Value.ofData, Value.toTextItems, Value.toText, ih]
    rfl

theorem read_write (o : Origin) (key : String) (k : Kind) (x : k.Held) :
    k.read key (.ofData o (k.write x)) = .ok x := by
  cases k with
  | text => rfl
  | truth => rfl
  | texts => exact toTextItems_ofItems o key x 0
  | port =>
    have hnat : ¬ (x.toNat : Int) < 0 := by omega
    have hlt : x.toNat < 65536 := x.toNat_lt
    simp [read, write, Value.ofData, Value.toPort, Value.toWord, hnat, hlt, bind, Except.bind,
      pure, Except.pure]
  | count =>
    have hnat : ¬ (x.toNat : Int) < 0 := by omega
    simp [read, write, Value.ofData, Value.toUInt64, Value.toWord, hnat, Except.map]

/-- Data of a kind is how a value is written, or is a number that cannot be held. -/
theorem Takes.exists_write (h : k.Takes d) (hd : ¬ k.Misses d) : ∃ x, k.write x = d := by
  cases h with
  | text s => exact ⟨s, rfl⟩
  | truth b => exact ⟨b, rfl⟩
  | texts l => exact ⟨l, rfl⟩
  | @port n _ =>
    have hrange : ¬ (n < 0 ∨ 65535 < n) := fun hn => hd ⟨n, rfl, hn.imp_right (⟨rfl, ·⟩)⟩
    have hnat : (n.toNat : Int) = n := by omega
    have hlt : n.toNat < 65536 := by omega
    refine ⟨UInt16.ofNat n.toNat, ?_⟩
    simp only [write, UInt16.toNat_ofNat_of_lt' hlt, hnat]
  | @count n hn =>
    have hrange : ¬ n < 0 := fun hn => hd ⟨n, rfl, .inl hn⟩
    have hnat : (n.toNat : Int) = n := by omega
    have hlt : n.toNat < UInt64.size := by
      have hmost : n ≤ 9223372036854775807 := of_decide_eq_true (Bool.and_eq_true_iff.mp hn).2
      unfold UInt64.size
      omega
    refine ⟨UInt64.ofNat n.toNat, ?_⟩
    simp only [write, UInt64.toNat_ofNat_of_lt' hlt, hnat]

theorem toWord_of_neg {n : Int} (hn : n < 0) (o : Origin) (key : String) :
    Value.toWord key (.int o n) =
      .error (.field (.signed n) "an unsigned 64 bit or less integer" key o) :=
  if_pos hn

/-- The refusal of a number that cannot be held names the key. -/
theorem Takes.read_of_misses (h : k.Takes d) (hd : k.Misses d) (o : Origin) (key : String) :
    ∃ found expected o', k.read key (.ofData o d) = .error (.field found expected key o') := by
  obtain ⟨n, rfl, hn⟩ := hd
  cases h with
  | port _ =>
    by_cases hneg : n < 0
    · exact ⟨_, _, _, by simp only [read, Value.ofData, Value.toPort, toWord_of_neg hneg]; rfl⟩
    · have hlt : ¬ n.toNat < 65536 := by omega
      refine ⟨.unsigned n.toNat, "an unsigned 16 bit integer", none, ?_⟩
      simp [read, Value.ofData, Value.toPort, Value.toWord, hneg, hlt, bind, Except.bind, throw,
        throwThe, MonadExceptOf.throw]
  | count _ =>
    have hneg : n < 0 := hn.resolve_right fun h => Kind.noConfusion h.1
    exact ⟨_, _, _, by simp only [read, Value.ofData, Value.toUInt64, toWord_of_neg hneg]; rfl⟩

end Kind

/-- Room for a value, which may have to be filled or not. -/
inductive Slot
  | required (k : Kind)
  | optional (k : Kind)
  deriving DecidableEq

namespace Slot

@[reducible] def Held : Slot → Type
  | required k => k.Held
  | optional k => Option k.Held

def write : (s : Slot) → s.Held → Data
  | required k, x => k.write x
  | optional _, none => .nil
  | optional k, some x => k.write x

def read : (s : Slot) → String → Value → Except LoadError s.Held
  | required k => k.read
  | optional k => Value.toOption k.read

def kind : Slot → Kind
  | required k => k
  | optional k => k

/-- Data of the kind, or nothing where the slot may stay empty. -/
inductive Takes : Slot → Data → Prop
  | required {k : Kind} {d : Data} (h : k.Takes d) : Takes (required k) d
  | empty (k : Kind) : Takes (optional k) .nil
  | optional {k : Kind} {d : Data} (h : k.Takes d) : Takes (optional k) d

variable {s : Slot} {d : Data}

theorem toOption_of_takes {k : Kind} (h : k.Takes d) (o : Origin) (key : String) :
    Value.toOption k.read key (.ofData o d) = (k.read key (.ofData o d)).map some := by
  cases h <;> rfl

/-- What a slot takes is how a value is written, and it is read as that value, unless it is a
number that cannot be held. -/
theorem Takes.exists_read (h : s.Takes d) (hd : ¬ s.kind.Misses d) :
    ∃ x, s.write x = d ∧ ∀ o key, s.read key (.ofData o d) = .ok x := by
  cases h with
  | @required k _ h =>
    obtain ⟨x, rfl⟩ := h.exists_write hd
    exact ⟨x, rfl, fun o key => k.read_write o key x⟩
  | empty k => exact ⟨none, rfl, fun _ _ => rfl⟩
  | @optional k _ h =>
    obtain ⟨x, rfl⟩ := h.exists_write hd
    exact ⟨some x, rfl, fun o key => by rw [read, toOption_of_takes h, k.read_write]; rfl⟩

theorem Takes.read_of_misses (h : s.Takes d) (hd : s.kind.Misses d) (o : Origin) (key : String) :
    ∃ found expected o', s.read key (.ofData o d) = .error (.field found expected key o') := by
  cases h with
  | required h => exact h.read_of_misses hd o key
  | empty k =>
    obtain ⟨n, hn, _⟩ := hd
    cases hn
  | optional h =>
    obtain ⟨found, expected, o', hread⟩ := h.read_of_misses hd o key
    exact ⟨found, expected, o', by rw [read, toOption_of_takes h, hread]; rfl⟩

end Slot

inductive Field
  | host
  | port
  | workers
  | accessLog
  | accessLogFormat
  | accessLogFile
  | errorLogFile
  | keepAlive
  | headerReadTimeout
  | maxConnections
  | indexFiles
  | directoryListing
  deriving DecidableEq

namespace Field

def group : Field → Group
  | host | port | workers => .server
  | accessLog | accessLogFormat | accessLogFile | errorLogFile => .logging
  | keepAlive | headerReadTimeout | maxConnections => .performance
  | indexFiles | directoryListing => .serve

def name : Field → String
  | host => "host"
  | port => "port"
  | workers => "workers"
  | accessLog => "access_log"
  | accessLogFormat => "access_log_format"
  | accessLogFile => "access_log_file"
  | errorLogFile => "error_log_file"
  | keepAlive => "keep_alive"
  | headerReadTimeout => "header_read_timeout"
  | maxConnections => "max_connections"
  | indexFiles => "index_files"
  | directoryListing => "directory_listing"

/-- What messages call the field. -/
def key (f : Field) : String := f.group.name ++ "." ++ f.name

@[reducible] def slot : Field → Slot
  | host | accessLogFormat => .required .text
  | accessLog | keepAlive | directoryListing => .required .truth
  | indexFiles => .required .texts
  | port => .required .port
  | headerReadTimeout => .required .count
  | accessLogFile | errorLogFile => .optional .text
  | workers | maxConnections => .optional .count

abbrev Held (f : Field) : Type := f.slot.Held

/-- No two fields have the same name. -/
theorem eq_of_name_eq {f g : Field} (h : f.name = g.name) : f = g := by
  cases f <;> cases g <;> first | rfl | exact absurd h (by decide)

end Field

/-- What the settings hold in a field. -/
def held (s : Settings) : (f : Field) → f.Held
  | .host => s.server.host
  | .port => s.server.port
  | .workers => s.server.workers
  | .accessLog => s.logging.accessLog
  | .accessLogFormat => s.logging.accessLogFormat
  | .accessLogFile => s.logging.accessLogFile
  | .errorLogFile => s.logging.errorLogFile
  | .keepAlive => s.performance.keepAlive
  | .headerReadTimeout => s.performance.headerReadTimeout
  | .maxConnections => s.performance.maxConnections
  | .indexFiles => s.serve.indexFiles
  | .directoryListing => s.serve.directoryListing

def ofHeld (x : (f : Field) → f.Held) : Settings where
  server := ⟨x .host, x .port, x .workers⟩
  logging := ⟨x .accessLog, x .accessLogFormat, x .accessLogFile, x .errorLogFile⟩
  performance := ⟨x .keepAlive, x .headerReadTimeout, x .maxConnections⟩
  serve := ⟨x .indexFiles, x .directoryListing⟩

theorem held_ofHeld (x : (f : Field) → f.Held) (f : Field) : (ofHeld x).held f = x f := by
  cases f <;> rfl

theorem ofHeld_held (s : Settings) : ofHeld s.held = s := rfl

theorem ext_held {s s' : Settings} (h : ∀ f, s.held f = s'.held f) : s = s' := by
  rw [← ofHeld_held s, ← ofHeld_held s', funext h]

section Gather
variable {ε α β : Type} {x : Except ε α} {k : α → Except ε β}

theorem bind_eq_ok_iff {b : β} : x >>= k = .ok b ↔ ∃ a, x = .ok a ∧ k a = .ok b := by
  cases x with
  | error e => simp [bind, Except.bind]
  | ok a => simp [bind, Except.bind]

/-- What stops two readings in a row stops one of them. -/
theorem bind_refused {P : ε → Prop} (first : ∀ e, x = .error e → P e)
    (next : ∀ a e, k a = .error e → P e) : ∀ e, x >>= k = .error e → P e := by
  cases x with
  | error e => exact fun e' h => first e' (congrArg _ (Except.error.inj h))
  | ok a => exact next a

variable (read : (f : Field) → Except LoadError f.Held)

/-- Settings of fields that are read one after the other. -/
def gather : Except LoadError Settings := do
  let host ← read .host
  let port ← read .port
  let workers ← read .workers
  let accessLog ← read .accessLog
  let format ← read .accessLogFormat
  let accessFile ← read .accessLogFile
  let errorFile ← read .errorLogFile
  let keepAlive ← read .keepAlive
  let timeout ← read .headerReadTimeout
  let most ← read .maxConnections
  let index ← read .indexFiles
  let listing ← read .directoryListing
  return ⟨⟨host, port, workers⟩, ⟨accessLog, format, accessFile, errorFile⟩,
    ⟨keepAlive, timeout, most⟩, ⟨index, listing⟩⟩

variable {read}

theorem gather_eq_ok {s : Settings} (h : ∀ f, read f = .ok (s.held f)) : gather read = .ok s := by
  simp only [gather, h]
  rfl

theorem read_eq_ok {s : Settings} (h : gather read = .ok s) (f : Field) :
    read f = .ok (s.held f) := by
  simp only [gather, bind_eq_ok_iff] at h
  obtain ⟨_, hhost, _, hport, _, hworkers, _, hlog, _, hformat, _, haccess, _, herror, _, halive,
    _, htimeout, _, hmost, _, hindex, _, hlisting, hs⟩ := h
  cases hs
  cases f <;> assumption

theorem exists_read_eq_error : ∀ e, gather read = .error e → ∃ f, read f = .error e := by
  have hread : ∀ f e, read f = .error e → ∃ f, read f = .error e := fun f _ h => ⟨f, h⟩
  refine bind_refused (hread .host) fun _ => bind_refused (hread .port) fun _ =>
    bind_refused (hread .workers) fun _ => bind_refused (hread .accessLog) fun _ =>
    bind_refused (hread .accessLogFormat) fun _ => bind_refused (hread .accessLogFile) fun _ =>
    bind_refused (hread .errorLogFile) fun _ => bind_refused (hread .keepAlive) fun _ =>
    bind_refused (hread .headerReadTimeout) fun _ => bind_refused (hread .maxConnections) fun _ =>
    bind_refused (hread .indexFiles) fun _ => bind_refused (hread .directoryListing) fun _ => ?_
  intro e h
  cases h

variable (read) in
/-- One field that is refused is enough, and then the settings are refused as one is. -/
theorem gather_refused {f : Field} {e : LoadError} (h : read f = .error e) :
    ∃ f e, read f = .error e ∧ gather read = .error e := by
  cases hg : gather read with
  | ok s =>
    rw [read_eq_ok hg] at h
    cases h
  | error e =>
    obtain ⟨g, hg'⟩ := exists_read_eq_error e hg
    exact ⟨g, e, hg', rfl⟩

end Gather

/-! ## Fields of a value -/

namespace Value

def IsTable : Value → Prop
  | table _ _ => True
  | _ => False

/-- What stands in the place of a field. -/
def at? (root : Value) (f : Field) : Option Value :=
  (field? root.fields f.group.name).bind fun v => field? v.fields f.name

/-- No section is anything but a table. -/
def Sectioned (root : Value) : Prop :=
  ∀ (g : Group) (v : Value), field? root.fields g.name = some v → v.IsTable

/-- A section that gives its fields by name. -/
def sectionAt (root : Value) (g : Group) : Section :=
  ⟨fun n _ =>
    ((field? root.fields g.name).bind fun v => field? v.fields n).map (g.name ++ "." ++ n, ·)⟩

theorem sectionOf_eq_ok {root : Value} (h : root.Sectioned) (g : Group) (label : String) :
    sectionOf g.name label (field? root.fields g.name) = .ok (root.sectionAt g) := by
  unfold sectionAt
  cases hv : field? root.fields g.name with
  | none => rfl
  | some v =>
    have htable := h g v hv
    cases v with
    | table o fs => rfl
    | _ => exact htable.elim

end Value

/-- The reading of a field from what stands in its place. -/
def Field.read (f : Field) : Option Value → Except LoadError f.Held
  | some v => f.slot.read f.key v
  | none => .ok (defaults.held f)

theorem Field.read_at? (root : Value) (f : Field) (place : Nat) :
    f.read (root.at? f) =
      (root.sectionAt f.group).get f.name place (defaults.held f) f.slot.read := by
  simp only [Value.Section.get, Value.sectionAt, Value.at?]
  cases (Value.field? root.fields f.group.name).bind fun v => Value.field? v.fields f.name <;> rfl

theorem ofValue_eq_gather {root : Value} (h : root.Sectioned) :
    ofValue root = gather fun f => f.read (root.at? f) := by
  have hserver : Value.sectionOf "server" "ServerConfig" (Value.field? root.fields "server") = _ :=
    Value.sectionOf_eq_ok h .server "ServerConfig"
  have hlogging : Value.sectionOf "logging" "LoggingConfig"
      (Value.field? root.fields "logging") = _ :=
    Value.sectionOf_eq_ok h .logging "LoggingConfig"
  have hperformance : Value.sectionOf "performance" "PerformanceConfig"
      (Value.field? root.fields "performance") = _ :=
    Value.sectionOf_eq_ok h .performance "PerformanceConfig"
  have hserve : Value.sectionOf "serve" "ServeConfig" (Value.field? root.fields "serve") = _ :=
    Value.sectionOf_eq_ok h .serve "ServeConfig"
  simp only [ofValue, hserver, hlogging, hperformance, hserve, gather]
  rw [Field.read_at? root .host 0, Field.read_at? root .port 1, Field.read_at? root .workers 2,
    Field.read_at? root .accessLog 0, Field.read_at? root .accessLogFormat 1,
    Field.read_at? root .accessLogFile 2, Field.read_at? root .errorLogFile 3,
    Field.read_at? root .keepAlive 0, Field.read_at? root .headerReadTimeout 1,
    Field.read_at? root .maxConnections 2, Field.read_at? root .indexFiles 0,
    Field.read_at? root .directoryListing 1]
  rfl

end DocRoot.Settings
