import DocRoot.LogBook
import DocRoot.Proofs.FileTree.Agreement

/-!
# Log books on trees that agree

The lines of a log may be written to a file of the tree. Books on trees that agree stay
so when the same line is written to both, and also when the lines differ, if the log is
kept in a file whose content may differ.
-/

set_option autoImplicit false

namespace DocRoot.LogBook

/-- Books with the same targets, on trees that agree but for some contents. -/
structure AlikeBut (secret : Location → Prop) (b c : LogBook) : Prop where
  targets : b.targets = c.targets
  files : b.files.AlikeBut secret c.files

/-- The lines of this log go to no file whose content is the same in both trees. -/
def KeepsSecret (secret : Location → Prop) (targets : Option LogTargets) (kind : LogKind) :
    Prop :=
  ∀ ts place, targets = some ts → ts.of kind = .file place → secret place

variable {secret : Location → Prop} {b c : LogBook} {kind : LogKind} {line line' : String}

theorem AlikeBut.target_eq (h : b.AlikeBut secret c) (kind : LogKind) :
    b.target kind = c.target kind := by
  simp only [target, h.targets]

theorem secret_of_target {place : Location} (hk : KeepsSecret secret b.targets kind)
    (ht : b.target kind = .file place) : secret place := by
  unfold target at ht
  cases hts : b.targets with
  | none => simp [hts] at ht
  | some ts => exact hk ts place hts (by simpa [hts] using ht)

/-- One line each, the same or one that may differ. -/
theorem AlikeBut.write (h : b.AlikeBut secret c)
    (hl : line = line' ∨ KeepsSecret secret b.targets kind) :
    (b.write kind line).AlikeBut secret (c.write kind line') := by
  refine ⟨by rw [write_targets, write_targets, h.targets], ?_⟩
  unfold LogBook.write
  rw [← h.target_eq]
  cases ht : b.target kind with
  | stream => exact h.files
  | file place =>
    have hdata : utf8 (line ++ "\n") = utf8 (line' ++ "\n") ∨ secret place := by
      rcases hl with rfl | hk
      · exact Or.inl rfl
      · exact Or.inr (secret_of_target hk ht)
    rcases h.files.append_cases hdata with ⟨e, hb, hc⟩ | ⟨t, u, hb, hc, htu⟩
    · simpa only [hb, hc] using h.files
    · simpa only [hb, hc] using htu

theorem AlikeBut.write_stream (h : b.AlikeBut secret c) (hs : b.stream = c.stream)
    (kind : LogKind) (line : String) :
    (b.write kind line).stream = (c.write kind line).stream := by
  unfold LogBook.write
  rw [← h.target_eq]
  cases b.target kind with
  | stream => simp only [hs]
  | file place =>
    have hdata : utf8 (line ++ "\n") = utf8 (line ++ "\n") ∨ secret place := Or.inl rfl
    rcases h.files.append_cases hdata with ⟨e, hb, hc⟩ | ⟨t, u, hb, hc, _⟩
    · simp only [hb, hc, hs]
    · simp only [hb, hc, hs]

end DocRoot.LogBook
