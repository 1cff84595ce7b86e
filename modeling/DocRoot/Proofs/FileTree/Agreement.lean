import DocRoot.FileTree.Change
import DocRoot.Proofs.FileTree.Place
import Mathlib.Data.List.Forall2

/-!
# Trees that agree but for some contents

Two trees may have the same names, kinds and link targets and differ in what some files
hold. Every path leads to the same place in both, so all operations agree until one of
these files is read.
-/

set_option autoImplicit false

namespace DocRoot

/-- The same node, or two files whose contents may differ. -/
inductive Node.Alike (free : Prop) : Node → Node → Prop
  | same (n : Node) : Alike free n n
  | file (a b : Bytes) : free → Alike free (.file a) (.file b)

namespace Node.Alike

variable {free : Prop} {n m : Node}

theorem isDirectory_eq (h : n.Alike free m) : n.isDirectory = m.isDirectory := by
  cases h <;> rfl

theorem isFile_eq (h : n.Alike free m) : n.isFile = m.isFile := by
  cases h <;> rfl

theorem isLink_eq (h : n.Alike free m) : n.isLink = m.isLink := by
  cases h <;> rfl

theorem eq_of_not (h : n.Alike free m) (hf : ¬free) : n = m := by
  cases h with
  | same => rfl
  | file _ _ hfree => exact absurd hfree hf

theorem mono {free' : Prop} (h : n.Alike free m) (hf : free → free') : n.Alike free' m := by
  cases h with
  | same n => exact .same n
  | file a b hfree => exact .file a b (hf hfree)

end Node.Alike

namespace FileTree

/-- The same nodes at the same places, apart from the contents of files at some places. -/
def AlikeBut (secret : Location → Prop) (t u : FileTree) : Prop :=
  List.Forall₂ (fun d e => d.1 = e.1 ∧ Node.Alike (secret d.1) d.2 e.2) t.nodes u.nodes

variable {secret : Location → Prop} {t u : FileTree}

namespace AlikeBut

theorem mono {secret' : Location → Prop} (h : t.AlikeBut secret u)
    (hs : ∀ l, secret l → secret' l) : t.AlikeBut secret' u :=
  List.Forall₂.imp (fun d _ hd => ⟨hd.1, hd.2.mono (hs d.1)⟩) h

theorem lookup_cases {ds es : List (Location × Node)} (l : Location)
    (h : List.Forall₂ (fun d e => d.1 = e.1 ∧ Node.Alike (secret d.1) d.2 e.2) ds es) :
    (ds.lookup l = none ∧ es.lookup l = none) ∨
      ∃ n m, ds.lookup l = some n ∧ es.lookup l = some m ∧ Node.Alike (secret l) n m := by
  induction h with
  | nil => exact Or.inl ⟨rfl, rfl⟩
  | @cons d e ds es hd _ ih =>
    obtain ⟨k, n⟩ := d
    obtain ⟨k', m⟩ := e
    obtain ⟨hk, hn⟩ := hd
    simp only at hk hn
    subst hk
    by_cases hl : l = k
    · subst hl
      exact Or.inr ⟨n, m, by simp, by simp, hn⟩
    · rw [lookup_cons_of_ne hl, lookup_cons_of_ne hl]
      exact ih

/-- At each place there is nothing in both trees or a node of the same kind. -/
theorem at?_cases (h : t.AlikeBut secret u) (l : Location) :
    (t.at? l = none ∧ u.at? l = none) ∨
      ∃ n m, t.at? l = some n ∧ u.at? l = some m ∧ Node.Alike (secret l) n m := by
  cases l with
  | nil => exact Or.inr ⟨.directory, .directory, rfl, rfl, .same _⟩
  | cons s l => exact lookup_cases (s :: l) h

theorem at?_eq (h : t.AlikeBut secret u) {l : Location} (hl : ¬secret l) : t.at? l = u.at? l := by
  rcases h.at?_cases l with ⟨ht, hu⟩ | ⟨n, m, ht, hu, hn⟩
  · rw [ht, hu]
  · rw [ht, hu, hn.eq_of_not hl]

section Walking
variable {ending : Ending} {visits : Location → Bool} {steps : List Name} {l : Location}

/-- Links stand at the same places, and whether there is one is all that matters. -/
theorem lookups_eq (h : t.AlikeBut secret u) (place : Location) (rest : List Name) :
    t.lookups place rest = u.lookups place rest := by
  rcases h.at?_cases place with ⟨ht, hu⟩ | ⟨n, m, ht, hu, hn⟩
  · rw [lookups, lookups, ht, hu]
  · rw [lookups, lookups, ht, hu, Option.any_some, Option.any_some, hn.isLink_eq]

theorem walk_eq (h : t.AlikeBut secret u) (links : Nat) (here : Location) (steps : List Name) :
    t.walk ending visits links here steps = u.walk ending visits links here steps := by
  induction links, here, steps using walk_induction with
  | nil links here => simp
  | cons links here s rest ihRest ihLink =>
    cases hmoves : Path.stays s with
    | true =>
      rw [walk_stay hmoves, walk_stay hmoves]
      exact ihRest here
    | false =>
    by_cases hdd : s = Path.dotdot
    · subst hdd
      simpa using ihRest here.dropLast
    by_cases hlong : maxNameLength < s.length
    · rw [walk_long hmoves hdd hlong, walk_long hmoves hdd hlong]
    have hs : Plain s := ⟨hmoves, hdd, Nat.not_lt.mp hlong⟩
    have hfollow : ∀ place steps, t.followLink ending visits place steps links =
        u.followLink ending visits place steps links := by
      intro place steps
      cases links with
      | zero => rfl
      | succ fewer => exact ihLink fewer place steps rfl
    rw [walk_plain hs, walk_plain hs, h.lookups_eq]
    rcases h.at?_cases (here ++ [s]) with ⟨ht, hu⟩ | ⟨n, m, ht, hu, hn⟩
    · simp only [ht, hu]
    · rw [ht, hu]
      cases hn with
      | same n => cases n <;> simp only [ihRest, hfollow]
      | file a b _ => rfl

theorem resolve_eq (h : t.AlikeBut secret u) (steps : List Name) :
    t.resolve steps = u.resolve steps := by
  simp only [resolve, locate, h.walk_eq]

theorem canonicalize_eq (h : t.AlikeBut secret u) (steps : List Name) :
    t.canonicalize steps = u.canonicalize steps := by
  simp only [canonicalize, h.walk_eq]

/-- Where steps lead to a node in one tree, they do in the other. -/
theorem node_cases (h : t.AlikeBut secret u) (steps : List Name) :
    (∃ e, t.node steps = .error e ∧ u.node steps = .error e) ∨
      ∃ l n m, t.resolve steps = .ok l ∧ t.node steps = .ok n ∧ u.node steps = .ok m ∧
        Node.Alike (secret l) n m := by
  simp only [node, ← h.resolve_eq]
  cases t.resolve steps with
  | error e => exact Or.inl ⟨e, rfl, rfl⟩
  | ok l =>
    rcases h.at?_cases l with ⟨ht, hu⟩ | ⟨n, m, ht, hu, hn⟩
    · exact Or.inl ⟨.noEntry, by simp [bind, Except.bind, ht], by simp [bind, Except.bind, hu]⟩
    · exact Or.inr ⟨l, n, m, rfl, by simp [bind, Except.bind, ht], by simp [bind, Except.bind, hu],
        hn⟩

theorem isDirectory_eq (h : t.AlikeBut secret u) (steps : List Name) :
    t.isDirectory steps = u.isDirectory steps := by
  rcases h.node_cases steps with ⟨e, ht, hu⟩ | ⟨_, n, m, _, ht, hu, hn⟩
  · simp only [isDirectory, ht, hu]
  · simp only [isDirectory, ht, hu, hn.isDirectory_eq]

theorem isFile_eq (h : t.AlikeBut secret u) (steps : List Name) :
    t.isFile steps = u.isFile steps := by
  rcases h.node_cases steps with ⟨e, ht, hu⟩ | ⟨_, n, m, _, ht, hu, hn⟩
  · simp only [isFile, ht, hu]
  · simp only [isFile, ht, hu, hn.isFile_eq]

theorem node_eq (h : t.AlikeBut secret u) (hl : t.resolve steps = .ok l) (hs : ¬secret l) :
    t.node steps = u.node steps := by
  simp only [node, ← h.resolve_eq, hl, bind, Except.bind, h.at?_eq hs]

/-- Only files whose contents may differ are read differently. -/
theorem read_eq (h : t.AlikeBut secret u) (hl : t.resolve steps = .ok l) (hs : ¬secret l) :
    t.read steps = u.read steps := by
  simp only [read, h.node_eq hl hs]

end Walking

theorem entries_eq (h : t.AlikeBut secret u) (dir : Location) :
    (t.entries dir).map (fun e => (e.1, e.2.isLink)) =
      (u.entries dir).map (fun e => (e.1, e.2.isLink)) := by
  unfold AlikeBut at h
  unfold entries
  generalize t.nodes = ds at h
  generalize u.nodes = es at h
  induction h with
  | nil => rfl
  | @cons d e ds es hd _ ih =>
    obtain ⟨hk, hn⟩ := hd
    rw [List.filterMap_cons, List.filterMap_cons, ← hk]
    cases entryName? dir d.1 with
    | none => exact ih
    | some name =>
      rw [Option.map_some, Option.map_some, List.map_cons, List.map_cons, ih, hn.isLink_eq]

/-- What is listed are the same names, of nodes that are links in both trees or in none. -/
theorem list_cases (h : t.AlikeBut secret u) (steps : List Name) :
    (∃ e, t.list steps = .error e ∧ u.list steps = .error e) ∨
      ∃ l, t.list steps = .ok (t.entries l) ∧ u.list steps = .ok (u.entries l) := by
  simp only [list, ← h.resolve_eq]
  cases t.resolve steps with
  | error e => exact Or.inl ⟨e, rfl, rfl⟩
  | ok l =>
    rcases h.at?_cases l with ⟨ht, hu⟩ | ⟨n, m, ht, hu, hn⟩
    · exact Or.inl ⟨.notADirectory, by simp [bind, Except.bind, ht],
        by simp [bind, Except.bind, hu]⟩
    · simp only [bind, Except.bind, ht, hu]
      cases hn with
      | same n =>
        cases n with
        | directory => exact Or.inr ⟨l, rfl, rfl⟩
        | _ => exact Or.inl ⟨.notADirectory, rfl, rfl⟩
      | file a b _ => exact Or.inl ⟨.notADirectory, rfl, rfl⟩

section Appending
variable {l : Location} {n m : Node} {data data' : Bytes}

theorem assign_alike {ds es : List (Location × Node)} (hn : Node.Alike (secret l) n m)
    (h : List.Forall₂ (fun d e => d.1 = e.1 ∧ Node.Alike (secret d.1) d.2 e.2) ds es) :
    List.Forall₂ (fun d e => d.1 = e.1 ∧ Node.Alike (secret d.1) d.2 e.2) (assign l n ds)
      (assign l m es) := by
  induction h with
  | nil => exact .cons ⟨rfl, hn⟩ .nil
  | @cons d e ds es hd hrest ih =>
    obtain ⟨k, old⟩ := d
    obtain ⟨k', old'⟩ := e
    obtain rfl : k = k' := hd.1
    by_cases hk : k = l
    · rw [assign, assign, if_pos hk, if_pos hk]
      exact .cons ⟨rfl, hn⟩ hrest
    · rw [assign, assign, if_neg hk, if_neg hk]
      exact .cons hd ih

/-- Trees stay alike when something is written at the end of a file, even if it is not the
same in both, where the contents may differ. -/
theorem append_cases (h : t.AlikeBut secret u) (hdata : data = data' ∨ secret l) :
    (∃ e, t.append l data = .error e ∧ u.append l data' = .error e) ∨
      ∃ t' u', t.append l data = .ok t' ∧ u.append l data' = .ok u' ∧ t'.AlikeBut secret u' := by
  unfold append
  rcases h.at?_cases l with ⟨ht, hu⟩ | ⟨n, m, ht, hu, hn⟩
  · rw [ht, hu]
    exact Or.inl ⟨.noEntry, rfl, rfl⟩
  · rw [ht, hu]
    cases hn with
    | same n =>
      cases n with
      | file content =>
        refine Or.inr ⟨_, _, rfl, rfl, assign_alike ?_ h⟩
        rcases hdata with rfl | hs
        · exact .same _
        · exact .file _ _ hs
      | special s =>
        -- nothing is kept of what a device takes
        cases hw : s.writeFault with
        | some cause => exact Or.inl ⟨cause, by simp only [hw], by simp only [hw]⟩
        | none => exact Or.inr ⟨t, u, by simp only [hw], by simp only [hw], h⟩
      | _ => exact Or.inl ⟨.noEntry, rfl, rfl⟩
    | file a b hs => exact Or.inr ⟨_, _, rfl, rfl, assign_alike (.file _ _ hs) h⟩

end Appending

end AlikeBut

end FileTree

end DocRoot
