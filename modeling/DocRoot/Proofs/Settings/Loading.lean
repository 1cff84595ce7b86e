import DocRoot.Proofs.Json.RoundTrip
import DocRoot.Proofs.Settings.Overlay
import DocRoot.Proofs.Utf8
import Mathlib.Data.List.Nodup

/-!
# What is loaded from a table

Settings are the defaults with the fields replaced that the table of a file assigns, each by what
is assigned to it. When one of the numbers cannot be held there are no settings at all, and the
refusal names a field that was assigned such a number (`load_of_assigns`).
-/

set_option autoImplicit false

namespace DocRoot.Settings

open Value Assignment

/-- The defaults with the assigned fields replaced by what is assigned to them. -/
structure OverlaidBy (as : List Assignment) (s : Settings) : Prop where
  assigned : ∀ a ∈ as, a.field.slot.write (s.held a.field) = a.data
  others : ∀ f, (∀ a ∈ as, a.field ≠ f) → s.held f = defaults.held f

theorem OverlaidBy.eq_defaults {s : Settings} (h : OverlaidBy [] s) : s = defaults :=
  ext_held fun f => h.others f fun _ ha => nomatch ha

theorem sectioned_defaultValues : defaultValues.Sectioned := by
  intro g v hv
  cases g with
  | server =>
    obtain rfl := Option.some.inj hv
    trivial
  | _ => cases hv

theorem read_defaultValues (f : Field) :
    f.read (defaultValues.at? f) = .ok (defaults.held f) := by
  cases f <;> rfl

section Reading
variable {fields : List (String × Data)} {as : List Assignment}

/-- Settings of a table are gathered from its assignments and the default values. -/
theorem Assigns.ofValue_overlay (h : Assigns fields as) (o : Origin) :
    ofValue (overlay defaultValues o fields) =
      gather fun f => f.read (layAll o as f (defaultValues.at? f)) := by
  have hlays := h.lays_overlay (o := o) defaultValues sectioned_defaultValues
  rw [ofValue_eq_gather hlays.sectioned]
  exact congrArg gather (funext fun f => congrArg f.read (hlays.at?_eq f))

theorem Assigns.takes (h : Assigns fields as) : ∀ a ∈ as, a.field.slot.Takes a.data := by
  induction h with
  | nil => exact fun _ ha => nomatch ha
  | dotted f _ htakes _ ih => exact List.forall_mem_cons.mpr ⟨htakes, ih⟩
  | group g _ hfields _ ih =>
    exact fun a ha => (List.mem_append.mp ha).elim (fun ha => (hfields.takes a ha).2) (ih a)
  | unknown _ _ ih => exact ih

/-- What is read in the place of each field, when every number can be held. -/
theorem Assigns.exists_read (h : Assigns fields as) (hdistinct : (as.map (·.field)).Nodup)
    (hholds : ∀ a ∈ as, ¬ a.Misses) (o : Origin) (f : Field) :
    ∃ x : f.Held, f.read (layAll o as f (defaultValues.at? f)) = .ok x ∧
      (∀ a ∈ as, a.field = f → f.slot.write x = a.data) ∧
      ((∀ a ∈ as, a.field ≠ f) → x = defaults.held f) := by
  rcases layAll_cases hdistinct o f (defaultValues.at? f) with ⟨a, ha, rfl, hlaid⟩ | ⟨hnot, hlaid⟩
  · obtain ⟨x, hwrite, hread⟩ :=
      (h.takes a ha).exists_read fun hmiss => hholds a ha (a.misses_iff.mpr hmiss)
    refine ⟨x, ?_, ?_, fun hnot => absurd rfl (hnot a ha)⟩
    · rw [hlaid]
      exact hread o a.field.key
    · intro b hb hfield
      rw [hwrite, List.inj_on_of_nodup_map hdistinct hb ha hfield]
  · refine ⟨defaults.held f, ?_, fun a ha haf => absurd haf (hnot a ha), fun _ => rfl⟩
    rw [hlaid]
    exact read_defaultValues f

/-- A field that is refused has been assigned a number that it cannot hold, and is named. -/
theorem Assigns.exists_of_read_eq_error (h : Assigns fields as)
    (hdistinct : (as.map (·.field)).Nodup) {o : Origin} {f : Field} {e : LoadError}
    (he : f.read (layAll o as f (defaultValues.at? f)) = .error e) :
    ∃ a ∈ as, a.Misses ∧ ∃ found expected o', e = .field found expected a.field.key o' := by
  rcases layAll_cases hdistinct o f (defaultValues.at? f) with ⟨a, ha, rfl, hlaid⟩ | ⟨_, hlaid⟩
  · rw [hlaid] at he
    have hmiss : a.Misses := by
      by_contra hholds
      obtain ⟨x, _, hread⟩ :=
        (h.takes a ha).exists_read fun hmiss => hholds (a.misses_iff.mpr hmiss)
      exact nomatch (hread o a.field.key).symm.trans he
    obtain ⟨found, expected, o', hread⟩ :=
      (h.takes a ha).read_of_misses (a.misses_iff.mp hmiss) o a.field.key
    exact ⟨a, ha, hmiss, found, expected, o', Except.error.inj (he.symm.trans hread)⟩
  · rw [hlaid, read_defaultValues] at he
    cases he

theorem Assigns.ofValue_eq_ok (h : Assigns fields as) (hdistinct : (as.map (·.field)).Nodup)
    (hholds : ∀ a ∈ as, ¬ a.Misses) (o : Origin) :
    ∃ s, ofValue (overlay defaultValues o fields) = .ok s ∧ OverlaidBy as s := by
  choose x hread hassigned hothers using h.exists_read hdistinct hholds o
  refine ⟨ofHeld x, ?_, ?_, ?_⟩
  · rw [h.ofValue_overlay]
    exact gather_eq_ok fun f => (hread f).trans (congrArg _ (held_ofHeld x f).symm)
  · intro a ha
    rw [held_ofHeld]
    exact hassigned a.field a ha rfl
  · intro f hnot
    rw [held_ofHeld]
    exact hothers f hnot

theorem Assigns.ofValue_refused (h : Assigns fields as) (hdistinct : (as.map (·.field)).Nodup)
    {a : Assignment} (ha : a ∈ as) (hmiss : a.Misses) (o : Origin) :
    ∃ b ∈ as, b.Misses ∧ ∃ found expected o',
      ofValue (overlay defaultValues o fields) = .error (.field found expected b.field.key o') := by
  obtain ⟨found, expected, o', hread⟩ :=
    (h.takes a ha).read_of_misses (a.misses_iff.mp hmiss) o a.field.key
  have hfield : a.field.read (layAll o as a.field (defaultValues.at? a.field)) =
      .error (.field found expected a.field.key o') := by
    rw [layAll_of_mem ha hdistinct]
    exact hread
  obtain ⟨f, e, hf, hgather⟩ :=
    gather_refused (fun f => f.read (layAll o as f (defaultValues.at? f))) hfield
  obtain ⟨b, hb, hmiss, found, expected, o', rfl⟩ := h.exists_of_read_eq_error hdistinct hf
  exact ⟨b, hb, hmiss, found, expected, o', by rw [h.ofValue_overlay, hgather]⟩

end Reading

theorem load_eq_ofValue {t : FileTree} {dir : List Name} {name : Bytes} {source : Source}
    {text : String} {fields : List (String × Data)} (hfile : Source.find? t dir name = some source)
    (htext : source.text? t dir = some text)
    (hread : source.format.read text = .ok (.table fields)) :
    load t dir name = ofValue (overlay defaultValues source.origin fields) := by
  simp only [load, hfile, htext, ofText, hread]
  rfl

/-- Settings of a file whose table assigns each field once at most, to data of the field's own
kind: they are the defaults with just these fields replaced, unless a number cannot be held by its
field. Then nothing is loaded, and such a field is named. -/
theorem load_of_assigns {t : FileTree} {dir : List Name} {name : Bytes} {source : Source}
    {text : String} {fields : List (String × Data)} {as : List Assignment}
    (hfile : Source.find? t dir name = some source) (htext : source.text? t dir = some text)
    (hread : source.format.read text = .ok (.table fields)) (hassigns : Assigns fields as)
    (hdistinct : (as.map (·.field)).Nodup) :
    ((∀ a ∈ as, ¬ a.Misses) → ∃ s, load t dir name = .ok s ∧ OverlaidBy as s) ∧
      ((∃ a ∈ as, a.Misses) →
        ∃ a ∈ as, a.Misses ∧ ∃ found expected o,
          load t dir name = .error (.field found expected a.field.key o)) ∧
      (as = [] → load t dir name = .ok defaults) := by
  rw [load_eq_ofValue hfile htext hread]
  refine ⟨fun hholds => hassigns.ofValue_eq_ok hdistinct hholds source.origin,
    fun ⟨a, ha, hmiss⟩ => hassigns.ofValue_refused hdistinct ha hmiss source.origin, ?_⟩
  rintro rfl
  obtain ⟨s, hs, hoverlaid⟩ :=
    hassigns.ofValue_eq_ok hdistinct (fun _ ha => nomatch ha) source.origin
  rw [hs, hoverlaid.eq_defaults]

/-! A file with paths and sections, in letters of both cases, and with keys that assign
nothing. -/

section Mixed

def mixedJson (port : Nat) : Json :=
  .object
    [("Server.PORT", .number port),
      ("LOGGING", .object [("Access_Log", .bool false), ("colour", .number 1)]),
      ("serve.index_files", .array [.text "a.html"]),
      ("performance", .object [("max_connections", .null)]),
      ("other[2].key", .bool true),
      ("server.hosts.first", .text "::"),
      ("server", .object [("HOST", .text "::1")])]

def mixedFields (port : Nat) : List (String × Data) :=
  [("Server.PORT", .int port),
    ("LOGGING", .table [("Access_Log", .bool false), ("colour", .int 1)]),
    ("serve.index_files", .array [.text "a.html"]),
    ("performance", .table [("max_connections", .nil)]),
    ("other[2].key", .bool true),
    ("server.hosts.first", .text "::"),
    ("server", .table [("HOST", .text "::1")])]

def mixedAssignments (port : Nat) : List Assignment :=
  [⟨.port, .int port⟩, ⟨.accessLog, .bool false⟩, ⟨.indexFiles, .array [.text "a.html"]⟩,
    ⟨.maxConnections, .nil⟩, ⟨.host, .text "::1"⟩]

def mixedTree (port : Nat) : FileTree :=
  ⟨[([utf8 "www"], .directory),
    ([utf8 "www", utf8 "fileserver.json"], .file (utf8 (mixedJson port).print))]⟩

section Port
variable {port : Nat} (hport : port < 9223372036854775808)
include hport

theorem isInt_port : Data.isInt port = true := by
  have hmost : (port : Int) ≤ Data.mostInt := by
    unfold Data.mostInt
    omega
  have hleast : Data.leastInt ≤ port := by
    unfold Data.leastInt
    omega
  simp only [Data.isInt, hmost, hleast, decide_true, Bool.and_self]

theorem ofJson_mixedJson : Data.ofJson (mixedJson port) = .table (mixedFields port) := by
  have hone : Data.isInt 1 = true := by decide
  simp [mixedJson, mixedFields, Data.ofJson, Data.ofJsonFields, Data.ofJsonItems, Data.keepLast,
    isInt_port hport, hone]

theorem readable_mixedJson : Json.Read.Readable Json.Read.deepest (mixedJson port) := by
  have hport' : (port : Int) ≤ Json.Read.mostUnsigned := by
    unfold Json.Read.mostUnsigned
    omega
  refine .object (by decide) ?_
  simp only [List.forall_mem_cons, List.not_mem_nil, false_imp_iff, implies_true, and_true]
  refine ⟨.number _ _ (by omega) hport', .object (by decide) ?_, .array (by decide) ?_,
    .object (by decide) ?_, .bool _ _, .text _ _, .object (by decide) ?_⟩
  · simp only [List.forall_mem_cons, List.not_mem_nil, false_imp_iff, implies_true, and_true]
    exact ⟨.bool _ _, .number _ _ (by decide) (by decide)⟩
  · exact List.forall_mem_singleton.mpr (.text _ _)
  · exact List.forall_mem_singleton.mpr (.null _)
  · exact List.forall_mem_singleton.mpr (.text _ _)

theorem read_mixedJson :
    Format.json.read (mixedJson port).print = .ok (.table (mixedFields port)) := by
  simp only [Format.read, Json.parse?_print (readable_mixedJson hport), Option.map_some,
    ofJson_mixedJson hport]

theorem assigns_mixedFields : Assigns (mixedFields port) (mixedAssignments port) := by
  have hport' : Kind.port.Takes (.int port) := .port (isInt_port hport)
  have hlogging : Listed .logging [("Access_Log", .bool false), ("colour", .int 1)]
      [⟨.accessLog, .bool false⟩] :=
    .known .accessLog rfl (by decide) (.required (.truth false))
      (.unknown (fun f _ => by cases f <;> decide) .nil)
  have hperformance : Listed .performance [("max_connections", .nil)] [⟨.maxConnections, .nil⟩] :=
    .known .maxConnections rfl (by decide) (.empty .count) .nil
  have hserver : Listed .server [("HOST", .text "::1")] [⟨.host, .text "::1"⟩] :=
    .known .host rfl (by decide) (.required (.text "::1")) .nil
  have hother : (KeyPath.ofKey "other[2].key").lower.Unknown := .inl fun g => by cases g <;> decide
  have hhosts : (KeyPath.ofKey "server.hosts.first").lower.Unknown :=
    .inr ⟨"hosts", [.field "first"], by decide, fun f _ => by cases f <;> decide⟩
  have hindex : Kind.texts.Takes (.array [.text "a.html"]) := .texts ["a.html"]
  exact .dotted .port (by decide) (.required hport')
    (.group .logging (by decide) hlogging
      (.dotted .indexFiles (by decide) (.required hindex)
        (.group .performance (by decide) hperformance
          (.unknown hother (.unknown hhosts (.group .server (by decide) hserver .nil))))))

end Port

theorem find?_mixedTree (port : Nat) :
    Source.find? (mixedTree port) [utf8 "www"] (utf8 fileStem) =
      some ⟨.json, [utf8 "fileserver.json"]⟩ :=
  rfl

theorem text?_mixedTree (port : Nat) :
    Source.text? (mixedTree port) [utf8 "www"] ⟨.json, [utf8 "fileserver.json"]⟩ =
      some (mixedJson port).print :=
  text?_utf8 _

end Mixed

/-- The least port that is too large is refused, and a smaller one is not. -/
theorem load_of_assigns_mixedTree :
    (∃ s, load (mixedTree 65535) [utf8 "www"] (utf8 fileStem) = .ok s ∧
        OverlaidBy (mixedAssignments 65535) s) ∧
      ∃ a ∈ mixedAssignments 65536, a.Misses ∧ ∃ found expected o,
        load (mixedTree 65536) [utf8 "www"] (utf8 fileStem) =
          .error (.field found expected a.field.key o) := by
  have hholds : ∀ a ∈ mixedAssignments 65535, ¬ a.Misses := by
    rintro a ha ⟨n, hn, hmiss⟩
    simp only [mixedAssignments, List.mem_cons, List.not_mem_nil, or_false] at ha
    rcases ha with rfl | rfl | rfl | rfl | rfl
    · obtain rfl := Data.int.inj hn
      omega
    all_goals cases hn
  have hmiss : (⟨.port, .int 65536⟩ : Assignment).Misses :=
    ⟨65536, rfl, .inr ⟨rfl, by decide⟩⟩
  exact ⟨(load_of_assigns (find?_mixedTree 65535) (text?_mixedTree 65535)
      (read_mixedJson (by decide)) (assigns_mixedFields (by decide)) (by decide)).1 hholds,
    (load_of_assigns (find?_mixedTree 65536) (text?_mixedTree 65536)
      (read_mixedJson (by decide)) (assigns_mixedFields (by decide)) (by decide)).2.1
      ⟨_, List.mem_cons_self, hmiss⟩⟩

end DocRoot.Settings
