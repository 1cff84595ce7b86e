import DocRoot.Proofs.Settings.Field
import Mathlib.Data.List.Induction

/-!
# Laying a table over the defaults

A table assigns fields, by a section with the field's name below it or by a path of both, in
letters of either case. Laying it over values puts each assigned value in its field's place and
leaves every other place as it was, whatever else the table holds (`Assigns.lays_overlay`).
-/

set_option autoImplicit false

namespace DocRoot.Settings

/-! ## Tables with one field altered -/

namespace Value

theorem field?_append_singleton (fs : List (String × Value)) (e : String × Value) (k : String) :
    field? (fs ++ [e]) k = if e.1 = k then some e.2 else field? fs k := by
  unfold field?
  rw [List.reverse_append, List.reverse_singleton, List.singleton_append, List.find?_cons]
  by_cases h : e.1 = k
  · simp [h]
  · simp [h, beq_eq_false_iff_ne.mpr h]

theorem any_eq_isSome_field? (fs : List (String × Value)) (k : String) :
    (fs.any fun e => e.1 == k) = (field? fs k).isSome := by
  unfold field?
  rw [Option.isSome_map, List.isSome_find?, List.any_reverse]

theorem field?_map (fs : List (String × Value)) (key k : String) (f : Option Value → Value) :
    field? (fs.map fun e => if e.1 = key then (e.1, f (some e.2)) else e) k =
      if k = key then (field? fs k).map fun v => f (some v) else field? fs k := by
  induction fs using List.reverseRecOn with
  | nil => simp [field?]
  | append_singleton fs e ih =>
    have hkeeps : (if e.1 = key then (e.1, f (some e.2)) else e).1 = e.1 := by split <;> rfl
    rw [List.map_append, List.map_singleton, field?_append_singleton, field?_append_singleton, ih,
      hkeeps]
    by_cases he : e.1 = k
    · subst he
      by_cases hk : e.1 = key <;> simp [hk]
    · rw [if_neg he, if_neg he]

theorem field?_alter (fs : List (String × Value)) (key k : String) (f : Option Value → Value) :
    field? (alter fs key f) k = if k = key then some (f (field? fs k)) else field? fs k := by
  unfold alter
  rw [any_eq_isSome_field?]
  cases hkey : field? fs key with
  | none =>
    rw [Option.isSome_none, if_neg Bool.false_ne_true, field?_append_singleton]
    by_cases hk : k = key
    · rw [if_pos hk.symm, if_pos hk, hk, hkey]
    · rw [if_neg (Ne.symm hk), if_neg hk]
  | some v =>
    rw [Option.isSome_some, if_pos rfl, field?_map]
    by_cases hk : k = key
    · rw [if_pos hk, if_pos hk, hk, hkey, Option.map_some]
    · rw [if_neg hk, if_neg hk]

theorem fields_asTable (v : Value) : v.asTable.fields = v.fields := by
  cases v <;> rfl

section AlterField
variable (parent : Value) (key : String) (f : Option Value → Value)

theorem alterField_eq :
    ∃ o, alterField parent key f = .table o (alter parent.fields (Text.lowercase key) f) := by
  cases parent <;> exact ⟨_, rfl⟩

theorem isTable_alterField : (alterField parent key f).IsTable := by
  obtain ⟨o, h⟩ := alterField_eq parent key f
  rw [h]
  trivial

theorem field?_alterField (k : String) :
    field? (alterField parent key f).fields k =
      if k = Text.lowercase key then some (f (field? parent.fields k))
      else field? parent.fields k := by
  obtain ⟨o, h⟩ := alterField_eq parent key f
  rw [h]
  exact field?_alter parent.fields (Text.lowercase key) k f

end AlterField

/-- What is laid over a key changes nothing but the field of that key. -/
theorem assign_eq_alterField (key : String) (v : Value) :
    ∃ f, ∀ parent, assign key v parent = alterField parent key f := by
  cases v with
  | table o incoming => exact ⟨_, fun _ => by rw [assign]⟩
  | _ => exact ⟨_, fun _ => by rw [assign]; simp⟩

theorem assignAt_eq_alterField (v : Value) (head : String) (steps : List KeyStep) :
    ∃ f, ∀ parent, assignAt v head steps parent = alterField parent head f := by
  match steps with
  | [] =>
    obtain ⟨f, hf⟩ := assign_eq_alterField head v
    exact ⟨f, fun parent => by rw [assignAt, hf]⟩
  | .field name :: r => exact ⟨_, fun _ => by rw [assignAt]⟩
  | .index n :: r => exact ⟨_, fun _ => by rw [assignAt]⟩

end Value

/-! ## What a table assigns -/

structure Assignment where
  field : Field
  data : Data

namespace Assignment

/-- A whole number that the field cannot hold. -/
def Misses (a : Assignment) : Prop :=
  ∃ n, a.data = .int n ∧ (n < 0 ∨ a.field = .port ∧ 65535 < n)

theorem misses_iff (a : Assignment) : a.Misses ↔ a.field.slot.kind.Misses a.data := by
  have hport : a.field.slot.kind = .port ↔ a.field = .port := by
    cases a.field <;> decide
  simp only [Misses, Kind.Misses, hport]

/-- What stands in the place of a field after one assignment more. -/
def lay (o : Origin) (f : Field) (old : Option Value) (a : Assignment) : Option Value :=
  if a.field = f then some (.ofData o a.data) else old

def layAll (o : Origin) (as : List Assignment) (f : Field) (old : Option Value) : Option Value :=
  as.foldl (lay o f) old

variable {o : Origin} {as bs : List Assignment} {f : Field} {old : Option Value}

theorem layAll_append : layAll o (as ++ bs) f old = layAll o bs f (layAll o as f old) :=
  List.foldl_append

theorem layAll_of_not_mem (h : ∀ a ∈ as, a.field ≠ f) : layAll o as f old = old := by
  induction as with
  | nil => rfl
  | cons a as ih =>
    have hlay : lay o f old a = old := if_neg (h a List.mem_cons_self)
    rw [layAll, List.foldl_cons, hlay]
    exact ih fun b hb => h b (List.mem_cons_of_mem a hb)

theorem layAll_of_mem {a : Assignment} (ha : a ∈ as) (h : (as.map (·.field)).Nodup) :
    layAll o as a.field old = some (.ofData o a.data) := by
  obtain ⟨before, after, rfl⟩ := List.append_of_mem ha
  -- what stands before the assignment is replaced by it, and nothing after it is of its field
  have hlast : ∀ b ∈ after, b.field ≠ a.field := by
    intro b hb hfield
    rw [List.map_append, List.map_cons] at h
    have hnot := (List.nodup_cons.mp (List.nodup_append.mp h).2.1).1
    exact hnot (hfield ▸ List.mem_map_of_mem hb)
  rw [layAll_append, layAll, List.foldl_cons, lay, if_pos rfl]
  exact layAll_of_not_mem hlast

theorem layAll_cases (h : (as.map (·.field)).Nodup) (o : Origin) (f : Field) (old : Option Value) :
    (∃ a ∈ as, a.field = f ∧ layAll o as f old = some (.ofData o a.data)) ∨
      (∀ a ∈ as, a.field ≠ f) ∧ layAll o as f old = old := by
  by_cases hf : ∃ a ∈ as, a.field = f
  · obtain ⟨a, ha, rfl⟩ := hf
    exact .inl ⟨a, ha, rfl, layAll_of_mem ha h⟩
  · have hnot : ∀ a ∈ as, a.field ≠ f := fun a ha haf => hf ⟨a, ha, haf⟩
    exact .inr ⟨hnot, layAll_of_not_mem hnot⟩

end Assignment

/-- The fields of a section's table and what they assign. -/
inductive Listed (g : Group) : List (String × Data) → List Assignment → Prop
  | nil : Listed g [] []
  | known {key : String} {d : Data} {r : List (String × Data)} {as : List Assignment} (f : Field)
      (hgroup : f.group = g) (hname : Text.lowercase key = f.name) (htakes : f.slot.Takes d)
      (rest : Listed g r as) : Listed g ((key, d) :: r) (⟨f, d⟩ :: as)
  | unknown {key : String} {d : Data} {r : List (String × Data)} {as : List Assignment}
      (hname : ∀ f : Field, f.group = g → Text.lowercase key ≠ f.name)
      (rest : Listed g r as) : Listed g ((key, d) :: r) as

/-- Keys are compared in lowercase. -/
def KeyStep.lower : KeyStep → KeyStep
  | .field name => .field (Text.lowercase name)
  | .index n => .index n

def KeyPath.lower (p : KeyPath) : KeyPath := ⟨Text.lowercase p.head, p.steps.map KeyStep.lower⟩

/-- A path that leads to no section, and to no field of one or below it. -/
def KeyPath.Unknown (p : KeyPath) : Prop :=
  (∀ g : Group, p.head ≠ g.name) ∨
    ∃ name r, p.steps = .field name :: r ∧ ∀ f : Field, p.head = f.group.name → name ≠ f.name

/-- The fields of a settings file and what they assign. -/
inductive Assigns : List (String × Data) → List Assignment → Prop
  | nil : Assigns [] []
  | dotted {key : String} {d : Data} {r : List (String × Data)} {as : List Assignment} (f : Field)
      (hpath : (KeyPath.ofKey key).lower = ⟨f.group.name, [.field f.name]⟩)
      (htakes : f.slot.Takes d) (rest : Assigns r as) : Assigns ((key, d) :: r) (⟨f, d⟩ :: as)
  | group {key : String} {fields r : List (String × Data)} {as bs : List Assignment} (g : Group)
      (hpath : (KeyPath.ofKey key).lower = ⟨g.name, []⟩) (hfields : Listed g fields as)
      (rest : Assigns r bs) : Assigns ((key, .table fields) :: r) (as ++ bs)
  | unknown {key : String} {d : Data} {r : List (String × Data)} {as : List Assignment}
      (hpath : (KeyPath.ofKey key).lower.Unknown) (rest : Assigns r as) :
      Assigns ((key, d) :: r) as

/-! ## What laying a table over values does -/

namespace Value

variable {o : Origin} {as bs : List Assignment} {root root' root'' : Value}

/-- The second values are the first with the assignments laid over them. -/
structure Lays (o : Origin) (as : List Assignment) (root root' : Value) : Prop where
  sectioned : root'.Sectioned
  at?_eq : ∀ f, root'.at? f = Assignment.layAll o as f (root.at? f)

theorem Lays.refl (h : root.Sectioned) : Lays o [] root root := ⟨h, fun _ => rfl⟩

theorem Lays.trans (h : Lays o as root root') (h' : Lays o bs root' root'') :
    Lays o (as ++ bs) root root'' :=
  ⟨h'.sectioned, fun f => by rw [h'.at?_eq, h.at?_eq, Assignment.layAll_append]⟩

/-- To lay assignments over values it is enough to lay them over one section, if all their fields
are in that one. -/
theorem lays_alterField {head : String} {change : Option Value → Value} (hroot : root.Sectioned)
    (htable : ∀ (g : Group) (old : Option Value), Text.lowercase head = g.name →
      (∀ v, old = some v → v.IsTable) → (change old).IsTable)
    (hfield : ∀ (f : Field) (old : Option Value), Text.lowercase head = f.group.name →
      field? (change old).fields f.name =
        Assignment.layAll o as f (old.bind fun v => field? v.fields f.name))
    (hgroup : ∀ a ∈ as, Text.lowercase head = a.field.group.name) :
    Lays o as root (alterField root head change) where
  sectioned := by
    intro g v hv
    rw [field?_alterField] at hv
    split at hv
    · rename_i hhead
      obtain rfl := Option.some.inj hv
      exact htable g _ hhead.symm fun w hw => hroot g w hw
    · exact hroot g v hv
  at?_eq := by
    intro f
    unfold at?
    rw [field?_alterField]
    split
    · rename_i hhead
      exact hfield f _ hhead.symm
    · rename_i hhead
      have hothers : ∀ a ∈ as, a.field ≠ f := fun a ha hf => hhead (hf ▸ (hgroup a ha).symm)
      rw [Assignment.layAll_of_not_mem hothers]

/-- What a slot takes is no table, so that it takes the place of what was there. -/
theorem assign_of_takes {s : Slot} {d : Data} (h : s.Takes d) (key : String) (parent : Value) :
    assign key (.ofData o d) parent = alterField parent key fun _ => .ofData o d := by
  cases h with
  | empty k => rw [ofData, assign]; simp
  | required h | optional h => cases h <;> rw [ofData, assign] <;> simp

theorem field?_alterField_of_takes {f : Field} {d : Data} {key : String}
    (hname : Text.lowercase key = f.name) (parent : Value) (f' : Field) :
    field? (alterField parent key fun _ => .ofData o d).fields f'.name =
      Assignment.lay o f' (field? parent.fields f'.name) ⟨f, d⟩ := by
  rw [field?_alterField, hname]
  by_cases hf : f = f'
  · rw [if_pos (congrArg Field.name hf.symm), Assignment.lay, if_pos hf]
  · have hne : f'.name ≠ f.name := fun h => hf (Field.eq_of_name_eq h.symm)
    rw [if_neg hne, Assignment.lay, if_neg hf]

theorem isTable_assignAll (incoming : List (String × Value)) {target : Value}
    (h : target.IsTable) : (assignAll incoming target).IsTable := by
  induction incoming generalizing target with
  | nil => exact h
  | cons e r ih =>
    obtain ⟨f, hf⟩ := assign_eq_alterField e.1 e.2
    rw [assignAll]
    exact ih (hf target ▸ isTable_alterField target e.1 f)

end Value

open Value Assignment

variable {o : Origin} {root : Value}

/-- By induction on the fields of the section: an unknown one changes a name that no field
has. -/
theorem Listed.field?_assignAll {g : Group} {entries : List (String × Data)}
    {as : List Assignment} (h : Listed g entries as) {f : Field} (hf : f.group = g) :
    ∀ target : Value, field? (assignAll (ofFields o entries) target).fields f.name =
      layAll o as f (field? target.fields f.name) := by
  induction h with
  | nil => exact fun _ => rfl
  | known f' _ hname htakes _ ih =>
    intro target
    rw [ofFields, assignAll, ih, assign_of_takes htakes, field?_alterField_of_takes hname]
    rfl
  | @unknown key d _ _ hname _ ih =>
    intro target
    obtain ⟨change, hchange⟩ := assign_eq_alterField key (.ofData o d)
    rw [ofFields, assignAll, ih, hchange, field?_alterField, if_neg (hname f hf).symm]

theorem Listed.takes {g : Group} {entries : List (String × Data)} {as : List Assignment}
    (h : Listed g entries as) : ∀ a ∈ as, a.field.group = g ∧ a.field.slot.Takes a.data := by
  induction h with
  | nil => exact fun _ ha => nomatch ha
  | known f hgroup _ htakes _ ih => exact List.forall_mem_cons.mpr ⟨⟨hgroup, htakes⟩, ih⟩
  | unknown _ _ ih => exact ih

theorem Group.eq_of_name_eq {g g' : Group} (h : g.name = g'.name) : g = g' := by
  cases g <;> cases g' <;> first | rfl | exact absurd h (by decide)

section Key
variable {key : String}

theorem KeyStep.lower_eq_field {step : KeyStep} {name : String} (h : step.lower = .field name) :
    ∃ name', step = .field name' ∧ Text.lowercase name' = name := by
  cases step with
  | field name' => exact ⟨name', rfl, KeyStep.field.inj h⟩
  | index n => cases h

theorem lays_dotted {d : Data} (f : Field)
    (hpath : (KeyPath.ofKey key).lower = ⟨f.group.name, [.field f.name]⟩)
    (htakes : f.slot.Takes d) (hroot : root.Sectioned) :
    Lays o [⟨f, d⟩] root (assignKey key (.ofData o d) root) := by
  unfold assignKey
  generalize KeyPath.ofKey key = path at hpath ⊢
  obtain ⟨head, steps⟩ := path
  obtain ⟨hgroup, hsteps⟩ := KeyPath.mk.inj hpath
  obtain ⟨step, rfl, hstep⟩ := List.map_eq_singleton_iff.mp hsteps
  obtain ⟨name, rfl, hname⟩ := KeyStep.lower_eq_field hstep
  simp only [assignAt]
  refine lays_alterField hroot ?_ ?_ (List.forall_mem_singleton.mpr hgroup)
  · intro g old _ _
    rw [assign_of_takes htakes]
    exact isTable_alterField _ _ _
  · intro f' old _
    rw [assign_of_takes htakes, field?_alterField_of_takes hname, fields_asTable]
    cases old <;> rfl

theorem lays_group {fields : List (String × Data)} {as : List Assignment} (g : Group)
    (hpath : (KeyPath.ofKey key).lower = ⟨g.name, []⟩) (hfields : Listed g fields as)
    (hroot : root.Sectioned) :
    Lays o as root (assignKey key (.ofData o (.table fields)) root) := by
  unfold assignKey
  generalize KeyPath.ofKey key = path at hpath ⊢
  obtain ⟨head, steps⟩ := path
  obtain ⟨hgroup, hsteps⟩ := KeyPath.mk.inj hpath
  obtain rfl := List.map_eq_nil_iff.mp hsteps
  simp only [assignAt, ofData, assign]
  refine lays_alterField hroot ?_ ?_ fun a ha => by rw [hgroup, (hfields.takes a ha).1]
  · intro _ old _ hold
    -- an empty table leaves the section as it was, which then has to be a table already
    apply isTable_assignAll
    cases old with
    | none => trivial
    | some v => exact hold v rfl
  · intro f old hgroup'
    have hsame : f.group = g := Group.eq_of_name_eq (hgroup'.symm.trans hgroup)
    rw [hfields.field?_assignAll hsame]
    cases old <;> rfl

theorem lays_unknown (hpath : (KeyPath.ofKey key).lower.Unknown) (v : Value)
    (hroot : root.Sectioned) : Lays o [] root (assignKey key v root) := by
  unfold assignKey
  generalize KeyPath.ofKey key = path at hpath ⊢
  obtain ⟨head, steps⟩ := path
  rcases hpath with hhead | ⟨name, r, hsteps, hname⟩
  · obtain ⟨change, hchange⟩ := assignAt_eq_alterField v head steps
    rw [hchange]
    exact lays_alterField hroot (fun g _ hg => absurd hg (hhead g))
      (fun f _ hf => absurd hf (hhead f.group)) fun _ ha => nomatch ha
  · obtain ⟨step, r, rfl, hstep, _⟩ := List.map_eq_cons_iff.mp hsteps
    obtain ⟨name, rfl, rfl⟩ := KeyStep.lower_eq_field hstep
    obtain ⟨change, hchange⟩ := assignAt_eq_alterField v name r
    simp only [assignAt, hchange]
    refine lays_alterField hroot (fun _ _ _ _ => isTable_alterField _ _ _) ?_ fun _ ha => nomatch ha
    intro f old hf
    rw [field?_alterField, if_neg (hname f hf).symm, fields_asTable]
    cases old <;> rfl

end Key

/-- By induction on the table: each of its fields lays its own assignments over what the ones
before it left. -/
theorem Assigns.lays_overlay {fields : List (String × Data)} {as : List Assignment}
    (h : Assigns fields as) :
    ∀ root : Value, root.Sectioned → Lays o as root (overlay root o fields) := by
  induction h with
  | nil => exact fun _ => Lays.refl
  | dotted f hpath htakes _ ih =>
    intro root hroot
    have hkey := lays_dotted (o := o) f hpath htakes hroot
    exact hkey.trans (ih _ hkey.sectioned)
  | group g hpath hfields _ ih =>
    intro root hroot
    have hkey := lays_group (o := o) g hpath hfields hroot
    exact hkey.trans (ih _ hkey.sectioned)
  | @unknown key d _ _ hpath _ ih =>
    intro root hroot
    have hkey := lays_unknown (o := o) hpath (.ofData o d) hroot
    exact hkey.trans (ih _ hkey.sectioned)

end DocRoot.Settings
