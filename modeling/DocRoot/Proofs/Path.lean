import DocRoot.Path
import Mathlib.Data.List.TakeWhile

/-!
# Paths of one name, and paths written behind one another

A text without a slash is walked as one step from where it is met. A relative path that is
written behind another adds its pieces, and leaves the start as it is.
-/

set_option autoImplicit false

namespace DocRoot.Path

variable {n : Name}

theorem steps_of_not_mem (h : slash ∉ n) (hne : n ≠ []) : steps n = [n] := by
  have hp : pieces n = [n] := by
    simp [pieces, List.splitOn_eq_singleton h, hne]
  have he : endsInSlash n = false := by
    rw [endsInSlash, beq_eq_false_iff_ne]
    exact fun hl => h (List.mem_of_getLast? hl)
  simp [steps, hp, he]

theorem isAbsolute_of_not_mem (h : slash ∉ n) : isAbsolute n = false := by
  rw [isAbsolute, beq_eq_false_iff_ne]
  exact fun hl => h (List.mem_of_head? hl)

theorem join_of_not_mem (h : slash ∉ n) (dir : List Name) : join dir n = dir ++ [n] := by
  rw [join, segments, isAbsolute_of_not_mem h, List.splitOn_eq_singleton h]
  rfl

theorem textLength_replicate (count : Nat) (n : Name) :
    textLength (List.replicate count n) = count * (n.length + 1) := by
  induction count with
  | zero => simp
  | succ count ih => rw [List.replicate_succ, textLength, ih, Nat.succ_mul, Nat.add_comm]

section Asking
variable {p q : List Name}

theorem asksDirectory_of_stays (h : ∀ s ∈ p, stays s = true) (hne : p ≠ []) :
    asksDirectory p = true := by
  simp [asksDirectory, List.dropWhile_eq_nil_iff.mpr h, hne]

theorem asksDirectory_append_of_not_stays (h : ¬∀ s ∈ p, stays s = true) (q : List Name) :
    asksDirectory (p ++ q) = asksDirectory p := by
  have hne : p ≠ [] := by
    rintro rfl
    exact h (by simp)
  have hdrop : p.dropWhile stays ≠ [] := by
    rw [Ne, List.dropWhile_eq_nil_iff]
    exact h
  obtain ⟨s, rest, hrest⟩ := List.exists_cons_of_ne_nil hdrop
  have hempty : p.isEmpty = false := by simpa using hne
  have hempty' : (p ++ q).isEmpty = false := by simp [hne]
  simp [asksDirectory, List.dropWhile_append, hrest, hempty, hempty']

/-- What asks for a directory still does with more steps behind it, unless it all stays. -/
theorem asksDirectory_append (h : asksDirectory p = true) (q : List Name) :
    asksDirectory (p ++ q) = true ∨ (∀ s ∈ p, stays s = true) ∧ asksDirectory q = false := by
  by_cases hstays : ∀ s ∈ p, stays s = true
  · by_cases hq : q = []
    · exact .inl (by rw [hq, List.append_nil, h])
    · have hempty : (p ++ q).isEmpty = q.isEmpty := by
        rw [List.isEmpty_eq_false_iff.mpr hq, List.isEmpty_eq_false_iff]
        exact List.append_ne_nil_of_right_ne_nil p hq
      have hasks : asksDirectory (p ++ q) = asksDirectory q := by
        rw [asksDirectory, asksDirectory, List.dropWhile_append_of_pos hstays, hempty]
      cases hb : asksDirectory q with
      | true => exact .inl (hasks.trans hb)
      | false => exact .inr ⟨hstays, rfl⟩
  · exact .inl (by rw [asksDirectory_append_of_not_stays hstays, h])

theorem asksDirectory_of_append (h : asksDirectory (p ++ q) = true) :
    asksDirectory p = true ∨ p = [] ∧ asksDirectory q = true := by
  by_cases hstays : ∀ s ∈ p, stays s = true
  · by_cases hp : p = []
    · subst hp
      exact .inr ⟨rfl, h⟩
    · exact .inl (asksDirectory_of_stays hstays hp)
  · exact .inl (by rwa [asksDirectory_append_of_not_stays hstays] at h)

end Asking

section Push
variable {path more : Bytes}

/-- A path with one more written behind it. One that is absolute takes its place. -/
def push (path more : Bytes) : Bytes :=
  if isAbsolute more then more
  else if path = [] ∨ endsInSlash path then path ++ more
  else path ++ slash :: more

theorem pieces_append_slash (a b : Bytes) : pieces (a ++ slash :: b) = pieces a ++ pieces b := by
  simp only [pieces, List.splitOn_append_cons_self, List.filter_append]

theorem pieces_push (h : isAbsolute more = false) :
    pieces (push path more) = pieces path ++ pieces more := by
  unfold push
  rw [if_neg (by simp [h])]
  split
  · rename_i hend
    rcases hend with rfl | hslash
    · rfl
    · obtain ⟨before, rfl⟩ := List.getLast?_eq_some_iff.mp (beq_iff_eq.mp hslash)
      have hempty : pieces [] = [] := rfl
      rw [List.append_assoc, List.singleton_append, pieces_append_slash, pieces_append_slash,
        hempty, List.append_nil]
  · exact pieces_append_slash path more

theorem isAbsolute_push (h : isAbsolute more = false) :
    isAbsolute (push path more) = isAbsolute path := by
  unfold push
  rw [if_neg (by simp [h])]
  cases path with
  | nil => simpa [isAbsolute] using h
  | cons b rest =>
    split
    · rfl
    · rfl

end Push

end DocRoot.Path
