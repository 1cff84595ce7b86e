import DocRoot.FileTree.Change
import DocRoot.Proofs.FileTree.Place

/-!
# Trees that grow

What is written at the end of a file, and what is made where there was nothing, takes nothing
away: every path leads where it led. Directories and empty files are all that is made when a
file is opened for writing at its end.
-/

set_option autoImplicit false

namespace DocRoot

/-- The node with these bytes at the end of its content, if it has one. -/
def Node.appended : Node → Bytes → Node
  | .file content, data => .file (content ++ data)
  | n, _ => n

@[simp] theorem Node.appended_nil (n : Node) : n.appended [] = n := by
  cases n <;> simp [Node.appended]

@[simp] theorem Node.appended_appended (n : Node) (data more : Bytes) :
    (n.appended data).appended more = n.appended (data ++ more) := by
  cases n <;> simp [Node.appended]

namespace FileTree

/-- The bytes of the file at this place, none if there is no file. -/
def contentAt (t : FileTree) (l : Location) : Bytes :=
  match t.at? l with
  | some (.file content) => content
  | _ => []

/-- What stands in the first tree stands in the second, where files may hold more. -/
def Grows (t u : FileTree) : Prop :=
  ∀ l n, t.at? l = some n → ∃ data, u.at? l = some (n.appended data)

/-- The second tree has in addition some directories and some empty files. -/
structure Makes (t u : FileTree) : Prop where
  keeps : ∀ l n, t.at? l = some n → u.at? l = some n
  made : ∀ l n, t.at? l = none → u.at? l = some n → n = .directory ∨ n = .file []

variable {t u v : FileTree} {links : Nat} {here l : Location} {steps : List Name}
  {seen : List Location} {n : Node}

theorem Grows.leads (h : t.Grows u) (hl : t.Leads links here steps seen l) :
    u.Leads links here steps seen l := by
  induction hl with
  | arrived => exact .arrived _ _
  | stay hstays _ ih => exact .stay hstays ih
  | dotdot _ ih => exact .dotdot ih
  | directory hs hn _ ih => exact .directory hs (h _ _ hn).choose_spec ih
  | link hs hn _ ih => exact .link hs (h _ _ hn).choose_spec ih
  | @leaf _ _ _ n hs hn hd hlink =>
    obtain ⟨data, hu⟩ := h _ _ hn
    exact .leaf hs hu (by cases n <;> simp_all [Node.appended, Node.isDirectory])
      (by cases n <;> simp_all [Node.appended, Node.isLink])

theorem Grows.resolve (h : t.Grows u) (hr : t.resolve steps = .ok l) :
    u.resolve steps = .ok l := by
  obtain ⟨ha, seen, hl⟩ := resolve_eq_ok_iff.mp hr
  exact resolve_eq_ok_iff.mpr ⟨ha, seen, h.leads hl⟩

namespace Makes

theorem refl (t : FileTree) : t.Makes t where
  keeps := fun _ _ h => h
  made := by
    intro l n hnone hsome
    rw [hnone] at hsome
    cases hsome

theorem trans (htu : t.Makes u) (huv : u.Makes v) : t.Makes v where
  keeps := fun l n h => huv.keeps l n (htu.keeps l n h)
  made := by
    intro l n hnone hsome
    cases hu : u.at? l with
    | none => exact huv.made l n hu hsome
    | some m =>
      obtain rfl : m = n := Option.some.inj ((huv.keeps l m hu).symm.trans hsome)
      exact htu.made l m hnone hu

theorem grows (h : t.Makes u) : t.Grows u := by
  intro l n hn
  exact ⟨[], by rw [Node.appended_nil, h.keeps l n hn]⟩

theorem contentAt_eq (h : t.Makes u) (l : Location) : u.contentAt l = t.contentAt l := by
  cases ht : t.at? l with
  | some n => rw [contentAt, contentAt, h.keeps l n ht, ht]
  | none =>
    cases hu : u.at? l with
    | none => rw [contentAt, contentAt, ht, hu]
    | some n => rcases h.made l n ht hu with rfl | rfl <;> simp [contentAt, ht, hu]

end Makes

theorem ne_nil_of_at? (h : t.at? l = none) : l ≠ [] := by
  rintro rfl
  cases h

theorem makes_put (h : t.at? l = none) (hn : n = .directory ∨ n = .file []) :
    t.Makes (t.put l n) where
  keeps := by
    intro m old hm
    rw [at?_put t (ne_nil_of_at? h), if_neg, hm]
    rintro rfl
    rw [h] at hm
    cases hm
  made := by
    intro m new hm hnew
    rw [at?_put t (ne_nil_of_at? h)] at hnew
    split at hnew
    · exact Option.some.inj hnew ▸ hn
    · rw [hm] at hnew
      cases hnew

section Directories

theorem makes_of_makeDirectory (h : t.makeDirectory steps = .ok u) : t.Makes u := by
  unfold makeDirectory at h
  cases ha : acceptPath steps with
  | error e => simp [ha, bind, Except.bind] at h
  | ok _ =>
  cases hlast : steps.getLast? with
  | none => simp [ha, hlast, bind, Except.bind] at h
  | some name =>
  cases hdir : t.resolve steps.dropLast with
  | error e => simp [ha, hlast, hdir, bind, Except.bind] at h
  | ok dir =>
    simp only [ha, hlast, hdir, bind, Except.bind] at h
    split at h
    · cases h
    split at h
    · cases h
    split at h
    · cases h
    split at h
    · cases h
    · next hnone =>
      obtain rfl := Except.ok.inj h
      exact makes_put hnone (Or.inl rfl)

/-- Even if not all directories can be made. -/
theorem makes_makeDirectoriesFrom (t : FileTree) (base reversed : List Name) :
    t.Makes (t.makeDirectoriesFrom base reversed).1 := by
  induction reversed with
  | nil => exact .refl t
  | cons name up ih =>
    unfold makeDirectoriesFrom
    dsimp only
    split
    case h_1 u hm => exact makes_of_makeDirectory hm
    case h_2 e hm =>
      split
      case isFalse => split <;> exact .refl t
      case isTrue =>
        -- a directory above is missing: those above are made, then this one is tried again
        split
        case h_1 u e hup =>
          rw [hup] at ih
          exact ih
        case h_2 u hup =>
          rw [hup] at ih
          split
          case h_1 v hv => exact ih.trans (makes_of_makeDirectory hv)
          case h_2 e hv => split <;> exact ih

theorem makes_makeDirectories (t : FileTree) (base names : List Name) :
    t.Makes (t.makeDirectories base names).1 :=
  makes_makeDirectoriesFrom t base _

end Directories

section Opening
variable {base : List Name} {raw data : Bytes}

/-- Where a walk ends that may end at nothing, steps lead once something is there. -/
theorem resolve_of_create (keeps : ∀ m n, t.at? m = some n → u.at? m = some n)
    (fresh : t.at? l = none →
      ∃ n, u.at? l = some n ∧ n.isDirectory = false ∧ n.isLink = false)
    (h : t.locate .create steps = .ok l) : u.resolve steps = .ok l := by
  unfold locate at h
  cases ha : acceptPath steps with
  | error e => simp [ha, bind, Except.bind] at h
  | ok _ =>
    have hwalk : t.walk .create (fun _ => true) maxLinks [] steps = .ok l := by
      simpa [ha, bind, Except.bind] using h
    obtain ⟨seen, hl, _⟩ := leads_of_walk_in (by simp) keeps (fun _ => fresh) hwalk
    exact resolve_eq_ok_iff.mpr ⟨ha, seen, hl⟩

/-- A file that is open is where its path leads. It is a file, or what can be opened like
one. -/
structure Opened (t : FileTree) (steps : List Name) (l : Location) : Prop where
  place : t.resolve steps = .ok l
  node : (∃ content, t.at? l = some (.file content)) ∨
    ∃ s, t.at? l = some (.special s) ∧ s.openFault = none

theorem Opened.of_grows (h : t.Opened steps l) (hg : t.Grows u) : u.Opened steps l where
  place := hg.resolve h.place
  node := by
    rcases h.node with ⟨content, hn⟩ | ⟨s, hn, hopens⟩
    · obtain ⟨data, hu⟩ := hg l _ hn
      exact Or.inl ⟨content ++ data, hu⟩
    · obtain ⟨data, hu⟩ := hg l _ hn
      exact Or.inr ⟨s, hu, hopens⟩

/-- What is opened is there, or it is made empty. -/
theorem openAppend_cases (h : t.openAppend base raw = .ok (l, u)) :
    t.locate .create (Path.join base raw) = .ok l ∧
      (t.at? l = none ∧ u = t.put l (.file []) ∨
        u = t ∧ ∃ n, t.at? l = some n ∧ n.isDirectory = false ∧
          ∀ s, n = .special s → s.openFault = none) := by
  unfold openAppend at h
  simp only [bind, Except.bind, throw, throwThe, MonadExceptOf.throw, pure, Except.pure] at h
  split at h
  case isTrue => cases h
  split at h
  case isTrue => cases h
  split at h
  case h_1 => cases h
  split at h
  case isTrue =>
    split at h
    · cases h
    · split at h <;> cases h
  split at h
  case h_1 => cases h
  next place hplace =>
  cases hn : t.at? place with
  | none =>
    simp only [hn, Except.ok.injEq, Prod.mk.injEq] at h
    obtain ⟨rfl, rfl⟩ := h
    exact ⟨hplace, Or.inl ⟨hn, rfl⟩⟩
  | some n =>
    cases n with
    | directory => simp [hn] at h
    | special s =>
      cases hopens : s.openFault with
      | some cause => simp [hn, hopens] at h
      | none =>
        simp only [hn, hopens, Except.ok.injEq, Prod.mk.injEq] at h
        obtain ⟨rfl, rfl⟩ := h
        refine ⟨hplace, Or.inr ⟨rfl, _, hn, rfl, ?_⟩⟩
        intro s' hs'
        rwa [← Node.special.inj hs']
    | _ =>
      simp only [hn, Except.ok.injEq, Prod.mk.injEq] at h
      obtain ⟨rfl, rfl⟩ := h
      exact ⟨hplace, Or.inr ⟨rfl, _, hn, rfl, by simp⟩⟩

theorem openAppend_spec (h : t.openAppend base raw = .ok (l, u)) :
    t.Makes u ∧ u.Opened (Path.join base raw) l := by
  obtain ⟨hl, ⟨hnone, rfl⟩ | ⟨rfl, n, hn, hd, hs⟩⟩ := openAppend_cases h
  · have hmakes : t.Makes (t.put l (.file [])) := makes_put hnone (Or.inr rfl)
    have hfile : (t.put l (.file [])).at? l = some (.file []) := by
      rw [at?_put t (ne_nil_of_at? hnone), if_pos rfl]
    exact ⟨hmakes, resolve_of_create hmakes.keeps (fun _ => ⟨_, hfile, rfl, rfl⟩) hl,
      Or.inl ⟨[], hfile⟩⟩
  · have hplace : u.resolve (Path.join base raw) = .ok l :=
      resolve_of_create (fun _ _ hm => hm) (fun hnone => by simp [hn] at hnone) hl
    obtain ⟨m, hm, hlink⟩ := holds_of_resolve hplace
    obtain rfl : n = m := Option.some.inj (hn.symm.trans hm.node)
    refine ⟨.refl u, hplace, ?_⟩
    cases n with
    | file content => exact Or.inl ⟨content, hn⟩
    | special s => exact Or.inr ⟨s, hn, hs s rfl⟩
    | directory => cases hd
    | link _ => cases hlink

theorem append_eq_ok_iff :
    t.append l data = .ok u ↔
      (∃ content, t.at? l = some (.file content) ∧ u = t.put l (.file (content ++ data))) ∨
        ∃ s, t.at? l = some (.special s) ∧ s.writeFault = none ∧ u = t := by
  unfold append
  cases t.at? l with
  | none => simp
  | some n =>
    cases n with
    | special s => cases hw : s.writeFault <;> simp [hw, eq_comm]
    | _ => simp [eq_comm]

/-- Appending changes one file at most, by what is appended. -/
theorem at?_append (h : t.append l data = .ok u) {m : Location} (hm : t.at? m = some n) :
    u.at? m = some (n.appended (if m = l then data else [])) := by
  rcases append_eq_ok_iff.mp h with ⟨content, hl, rfl⟩ | ⟨s, hl, _, rfl⟩
  · have hne : l ≠ [] := by
      rintro rfl
      cases hl
    rw [at?_put t hne]
    by_cases he : m = l
    · subst he
      obtain rfl : n = .file content := Option.some.inj (hm.symm.trans hl)
      simp [Node.appended]
    · rw [if_neg he, if_neg he, Node.appended_nil, hm]
  · by_cases he : m = l
    · subst he
      obtain rfl : n = .special s := Option.some.inj (hm.symm.trans hl)
      exact hm
    · rw [if_neg he, Node.appended_nil, hm]

/-- Only to a file something can be appended, so where it fails nothing would have changed. -/
theorem appended_of_append_error {e : Fault} (h : t.append l data = .error e)
    (hn : t.at? l = some n) : n.appended data = n := by
  cases n with
  | file content => simp [append, hn] at h
  | _ => rfl

end Opening

end FileTree

end DocRoot
