import DocRoot.Http.Target
import DocRoot.Path
import DocRoot.Proofs.Utf8
import Mathlib.Data.List.TakeWhile

/-!
# Targets and their texts

A target that begins with a slash is its path, as far as a query or a fragment, byte for
byte. What is read of any target is legal, and a legal target whose path begins with a slash
is read back from its text.
-/

set_option autoImplicit false

namespace DocRoot.Http.Target

variable {raw : Bytes} {target : Target}

theorem utf8_of_part {ok : UInt8 → Bool} {bs : Bytes} {s : String} (h : part ok bs = .ok s) :
    utf8 s = bs := by
  unfold part at h
  split at h
  · split at h
    · rename_i text ht
      obtain rfl : text = s := Except.ok.inj h
      exact Utf8.utf8_of_text? ht
    · cases h
  · cases h

theorem path_of_ofPath (h : ofPath raw = .ok target) :
    utf8 target.path = raw.takeWhile (!endsPath ·) := by
  unfold ofPath at h
  cases hp : part isPathByte (raw.takeWhile (!endsPath ·)) with
  | error e => simp [hp, bind, Except.bind] at h
  | ok path =>
    simp only [hp, bind, Except.bind] at h
    split at h
    · split at h
      · cases h
      · obtain rfl := Except.ok.inj h
        exact utf8_of_part hp
    · obtain rfl := Except.ok.inj h
      exact utf8_of_part hp

theorem parse_of_slash {r : Bytes} (h : parse (Path.slash :: r) = .ok target) :
    ofPath (Path.slash :: r) = .ok target := by
  unfold parse at h
  split at h
  · cases h
  · exact h

theorem path_of_origin_form (origin : raw.head? = some Path.slash)
    (parsed : parse raw = .ok target) : utf8 target.path = raw.takeWhile (!endsPath ·) := by
  obtain ⟨r, rfl⟩ := List.head?_eq_some_iff.mp origin
  exact path_of_ofPath (parse_of_slash parsed)

theorem path_ne_empty_of_slash {r : Bytes} (h : ofPath (Path.slash :: r) = .ok target) :
    target.path ≠ "" := by
  intro he
  have hpath := path_of_ofPath h
  rw [he, utf8_empty] at hpath
  cases hpath

/-- An authority that stands alone, with no path and no scheme. The asterisk is none. -/
structure IsAuthorityForm (raw : Bytes) : Prop where
  no_slash : raw.head? ≠ some Path.slash
  no_asterisk : raw ≠ [0x2A]
  no_scheme : scheme? raw = none

/-- Only an authority that stands alone has an empty path. -/
theorem path_eq_empty_iff (parsed : parse raw = .ok target) :
    target.path = "" ↔ IsAuthorityForm raw := by
  unfold parse at parsed
  split at parsed
  · cases parsed
  split at parsed
  · cases parsed
  · cases parsed
    exact iff_of_false (by simp) fun h => h.no_asterisk rfl
  · exact iff_of_false (path_ne_empty_of_slash parsed) fun h => h.no_slash rfl
  · rename_i hstar hslash
    simp only [bind, Except.bind, pure, Except.pure, throw, throwThe, MonadExceptOf.throw]
      at parsed
    cases hscheme : scheme? raw with
    | some split =>
      refine iff_of_false ?_ fun h => Option.some_ne_none split (hscheme.symm.trans h.no_scheme)
      simp only [hscheme] at parsed
      repeat' split at parsed
      · cases parsed
      · cases parsed
      · cases parsed
      · cases parsed
      · cases parsed
      · cases parsed
        simp
      · rename_i hne
        cases parsed
        exact hne
    | none =>
      refine iff_of_true ?_ ⟨?_, hstar, hscheme⟩
      · simp only [hscheme] at parsed
        repeat' split at parsed
        · cases parsed
        · cases parsed
          rfl
        · cases parsed
        · cases parsed
      · intro hh
        obtain ⟨r, rfl⟩ := List.head?_eq_some_iff.mp hh
        exact hslash r rfl

/-- Of a text that is made of bytes a part may hold, the part is that text. -/
theorem part_eq_ok_iff {ok : UInt8 → Bool} {bs : Bytes} {s : String} :
    part ok bs = .ok s ↔ utf8 s = bs ∧ (utf8 s).all ok = true := by
  constructor
  · intro h
    have hbs := utf8_of_part h
    refine ⟨hbs, ?_⟩
    unfold part at h
    split at h
    · rename_i hall
      rwa [hbs]
    · cases h
  · rintro ⟨rfl, hall⟩
    simp [part, hall]

/-- Every byte of the path and of the query is one that may stand there. -/
structure Legal (target : Target) : Prop where
  path : (utf8 target.path).all isPathByte = true
  query : ∀ q, target.query = some q → (utf8 q).all isQueryByte = true

theorem legal_of_ofPath (h : ofPath raw = .ok target) : target.Legal := by
  unfold ofPath at h
  cases hp : part isPathByte (raw.takeWhile (!endsPath ·)) with
  | error e => simp [hp, bind, Except.bind] at h
  | ok path =>
    have hpath := (part_eq_ok_iff.mp hp).2
    simp only [hp, bind, Except.bind] at h
    split at h
    · rename_i r _
      cases hq : part isQueryByte (r.takeWhile (· != 0x23)) with
      | error e =>
        rw [hq] at h
        cases h
      | ok query =>
        rw [hq] at h
        cases h
        refine ⟨hpath, ?_⟩
        rintro q ⟨⟩
        exact (part_eq_ok_iff.mp hq).2
    · cases h
      exact ⟨hpath, by simp⟩

theorem all_slash : (utf8 "/").all isPathByte = true := by decide

theorem legal_of_parse (parsed : parse raw = .ok target) : target.Legal := by
  unfold parse at parsed
  split at parsed
  · cases parsed
  split at parsed
  · cases parsed
  · cases parsed
    exact ⟨by decide, by simp⟩
  · exact legal_of_ofPath parsed
  · simp only [bind, Except.bind, pure, Except.pure, throw, throwThe, MonadExceptOf.throw]
      at parsed
    cases hscheme : scheme? raw with
    | some split =>
      simp only [hscheme] at parsed
      repeat' split at parsed
      · cases parsed
      · cases parsed
      · cases parsed
      · cases parsed
      · cases parsed
      · rename_i hpath hempty
        cases parsed
        exact ⟨all_slash, (legal_of_ofPath hpath).query⟩
      · rename_i hpath hne
        cases parsed
        exact legal_of_ofPath hpath
    | none =>
      simp only [hscheme] at parsed
      repeat' split at parsed
      · cases parsed
      · cases parsed
        exact ⟨by decide, by simp⟩
      · cases parsed
      · cases parsed

theorem not_endsPath_of_isPathByte {b : UInt8} (h : isPathByte b = true) : endsPath b = false := by
  cases he : endsPath b with
  | false => rfl
  | true =>
    simp only [endsPath, Bool.or_eq_true, beq_iff_eq] at he
    rcases he with rfl | rfl
    · exact absurd h (by decide)
    · exact absurd h (by decide)

theorem ne_hash_of_isQueryByte {b : UInt8} (h : isQueryByte b = true) : (b != 0x23) = true := by
  rw [bne_iff_ne]
  rintro rfl
  exact absurd h (by decide)

/-- A path is cut off at the first byte that ends paths, and so it is whole. -/
theorem cut_path {bs : Bytes} (h : bs.all isPathByte = true) (rest : Bytes)
    (hrest : ∀ b, rest.head? = some b → endsPath b = true) :
    (bs ++ rest).takeWhile (!endsPath ·) = bs ∧ (bs ++ rest).dropWhile (!endsPath ·) = rest := by
  have hbs : ∀ b ∈ bs, (!endsPath b) = true := by
    intro b hb
    simp [not_endsPath_of_isPathByte (List.all_eq_true.mp h b hb)]
  rw [List.takeWhile_append_of_pos hbs, List.dropWhile_append_of_pos hbs]
  cases rest with
  | nil => simp
  | cons b rest => simp [hrest b rfl]

theorem utf8_text_of_query {path q : String} :
    utf8 (text ⟨path, some q⟩) = utf8 path ++ 0x3F :: utf8 q := by
  have hmark : utf8 "?" = [0x3F] := by decide
  simp only [text, utf8_append, hmark, List.append_assoc, List.singleton_append]

theorem ofPath_text (h : target.Legal) : ofPath (utf8 target.text) = .ok target := by
  obtain ⟨path, query⟩ := target
  have hpath : part isPathByte (utf8 path) = .ok path := part_eq_ok_iff.mpr ⟨rfl, h.path⟩
  cases query with
  | none =>
    obtain ⟨htake, hdrop⟩ := cut_path h.path [] (by simp)
    rw [List.append_nil] at htake hdrop
    simp [text, ofPath, htake, hdrop, hpath, bind, Except.bind, pure, Except.pure]
  | some q =>
    obtain ⟨htake, hdrop⟩ := cut_path h.path (0x3F :: utf8 q) (by simp [endsPath])
    have hq := h.query q rfl
    have hwhole : (utf8 q).takeWhile (· != 0x23) = utf8 q := by
      apply List.takeWhile_eq_self_iff.mpr
      intro b hb
      exact ne_hash_of_isQueryByte (List.all_eq_true.mp hq b hb)
    have hquery : part isQueryByte (utf8 q) = .ok q := part_eq_ok_iff.mpr ⟨rfl, hq⟩
    rw [utf8_text_of_query]
    simp [ofPath, htake, hdrop, hpath, hwhole, hquery, bind, Except.bind, pure, Except.pure]

theorem utf8_head? {s : String} (h : s.toList.head? = some '/') :
    ∃ r, utf8 s = Path.slash :: r := by
  obtain ⟨cs, hcs⟩ := List.head?_eq_some_iff.mp h
  exact ⟨Utf8.encode cs, by rw [utf8, hcs]; rfl⟩

/-- A target whose path begins with a slash is read back from its text. -/
theorem parse_text (h : target.Legal) (slash : target.path.toList.head? = some '/')
    (fits : (utf8 target.text).length ≤ maxLength) : parse (utf8 target.text) = .ok target := by
  have hfirst : target.text.toList.head? = some '/' := by
    obtain ⟨cs, hcs⟩ := List.head?_eq_some_iff.mp slash
    unfold text
    split <;> simp [hcs]
  obtain ⟨r, hr⟩ := utf8_head? hfirst
  have hof := ofPath_text h
  unfold parse
  rw [if_neg (Nat.not_lt.mpr fits), hr]
  rw [hr] at hof
  exact hof

end DocRoot.Http.Target
