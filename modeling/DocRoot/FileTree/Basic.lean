import DocRoot.Fault
import DocRoot.Path

/-!
# File trees

A tree is a finite map from locations to nodes. The top is always a directory. A
link holds the text of its target; where it leads is found by walking. A node of any
other kind, a pipe or a device, is what the system makes of reading and writing it.
-/

set_option autoImplicit false

namespace DocRoot

/-- What comes of opening a node and reading it to its end. -/
inductive Reading
  | content (data : Bytes)
  | fault (cause : Fault)
  deriving DecidableEq, Repr

namespace Reading

def result : Reading → Except Fault Bytes
  | content data => .ok data
  | fault cause => .error cause

end Reading

/-- What the system makes of a node that is neither a file nor a directory nor a link. -/
structure Special where
  reading : Reading
  /-- Why it cannot be opened for writing at its end. -/
  openFault : Option Fault
  /-- Why an open one cannot be written to. -/
  writeFault : Option Fault
  deriving DecidableEq, Repr

namespace Special

/-- Nothing can open it. -/
def socket : Special := ⟨.fault .noDevice, some .noDevice, some .noDevice⟩

/-- It is empty and takes every byte. -/
def null : Special := ⟨.content [], none, none⟩

/-- It takes no byte, and has more of them than memory can hold. -/
def full : Special := ⟨.fault .noMemory, none, some .noSpace⟩

end Special

inductive Node
  | file (content : Bytes)
  | directory
  | link (target : Bytes)
  | special (s : Special)
  deriving DecidableEq, Repr

namespace Node

def socket : Node := special .socket
def nullDevice : Node := special .null
def fullDevice : Node := special .full

def isDirectory : Node → Bool
  | directory => true
  | _ => false

def isFile : Node → Bool
  | file _ => true
  | _ => false

def isLink : Node → Bool
  | link _ => true
  | _ => false

/-- What comes of reading the node itself. -/
def reading : Node → Reading
  | file content => .content content
  | directory => .fault .isADirectory
  | link _ => .fault .tooManyLinks
  | special s => s.reading

end Node

structure FileTree where
  nodes : List (Location × Node)
  deriving Repr

namespace FileTree

def empty : FileTree := ⟨[]⟩

def at? (t : FileTree) : Location → Option Node
  | [] => some .directory
  | l => t.nodes.lookup l

@[simp] theorem at?_nil (t : FileTree) : t.at? [] = some .directory := rfl

theorem at?_of_ne_nil (t : FileTree) {m : Location} (h : m ≠ []) : t.at? m = t.nodes.lookup m := by
  cases m with
  | nil => exact absurd rfl h
  | cons a r => rfl

/-- The nodes with this node at this place. -/
def assign (l : Location) (n : Node) : List (Location × Node) → List (Location × Node)
  | [] => [(l, n)]
  | (k, old) :: r => if k = l then (l, n) :: r else (k, old) :: assign l n r

/-- The tree with this node at this place, the other places as they were. -/
def put (t : FileTree) (l : Location) (n : Node) : FileTree := ⟨assign l n t.nodes⟩

/-- The tree without a place and all that is below it. -/
def erase (t : FileTree) (l : Location) : FileTree :=
  ⟨t.nodes.filter fun e => !l.isWithin e.1⟩

theorem lookup_cons_of_ne {m k : Location} (h : m ≠ k) (n : Node) (r : List (Location × Node)) :
    ((k, n) :: r).lookup m = r.lookup m := by
  have hb : (m == k) = false := beq_false_of_ne h
  simp [List.lookup_cons, hb]

theorem lookup_assign (l : Location) (n : Node) (nodes : List (Location × Node)) (m : Location) :
    (assign l n nodes).lookup m = if m = l then some n else nodes.lookup m := by
  induction nodes with
  | nil =>
    by_cases h : m = l
    · subst h
      simp [assign]
    · rw [assign, lookup_cons_of_ne h, if_neg h]
  | cons e r ih =>
    obtain ⟨k, old⟩ := e
    by_cases hk : k = l
    · subst hk
      by_cases hm : m = k
      · subst hm
        simp [assign]
      · rw [assign, if_pos rfl, lookup_cons_of_ne hm, lookup_cons_of_ne hm, if_neg hm]
    · rw [assign, if_neg hk]
      by_cases hm : m = k
      · subst hm
        simp [hk]
      · rw [lookup_cons_of_ne hm, lookup_cons_of_ne hm, ih]

theorem lookup_filter (keep : Location → Bool) (nodes : List (Location × Node)) (m : Location) :
    (nodes.filter fun e => keep e.1).lookup m = if keep m then nodes.lookup m else none := by
  induction nodes with
  | nil => simp
  | cons e r ih =>
    obtain ⟨k, old⟩ := e
    rw [List.filter_cons]
    by_cases hm : m = k
    · subst hm
      by_cases hk : keep m
      · simp [hk]
      · simp [hk, ih]
    · rw [lookup_cons_of_ne hm]
      by_cases hk : keep k
      · rw [if_pos hk, lookup_cons_of_ne hm, ih]
      · rw [if_neg hk, ih]

theorem at?_put (t : FileTree) {l : Location} (hl : l ≠ []) (n : Node) (m : Location) :
    (t.put l n).at? m = if m = l then some n else t.at? m := by
  by_cases hm : m = []
  · subst hm
    simp [Ne.symm hl]
  · rw [at?_of_ne_nil _ hm, at?_of_ne_nil _ hm, put, lookup_assign]

theorem at?_erase (t : FileTree) {l : Location} (hl : l ≠ []) (m : Location) :
    (t.erase l).at? m = if l.isWithin m then none else t.at? m := by
  by_cases hm : m = []
  · subst hm
    cases l with
    | nil => exact absurd rfl hl
    | cons a r => simp [Location.isWithin]
  · rw [at?_of_ne_nil _ hm, at?_of_ne_nil _ hm, erase, lookup_filter fun k => !l.isWithin k]
    cases l.isWithin m <;> simp

/-- The name under which `l` is found in the directory `dir`, if it is an entry of it. -/
def entryName? (dir l : Location) : Option Name :=
  if dir.isPrefixOf l ∧ l.length = dir.length + 1 then l.getLast? else none

/-- The names in a directory and what each is, in the order they were made. -/
def entries (t : FileTree) (dir : Location) : List (Name × Node) :=
  t.nodes.filterMap fun e => (entryName? dir e.1).map (·, e.2)

theorem entryName?_eq_some {dir l : Location} {n : Name} :
    entryName? dir l = some n ↔ l = dir ++ [n] := by
  unfold entryName?
  constructor
  · intro h
    split at h
    · next hp =>
      obtain ⟨s, rfl⟩ := List.isPrefixOf_iff_prefix.1 hp.1
      have hs : s.length = 1 := by simpa using hp.2
      match s, hs with
      | [x], _ => simpa using h
    · cases h
  · rintro rfl
    simp

end FileTree

end DocRoot
