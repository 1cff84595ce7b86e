/-!
# UTF-8 over byte lists

`encode` writes characters, `scan` reads bytes. `scan` gives one item for every
character and `none` for every maximal part that belongs to no character, so a
strict reader and a lossy reader are both views of it.
-/

set_option autoImplicit false

namespace DocRoot

abbrev Bytes := List UInt8

namespace Utf8

def encodeChar (c : Char) : Bytes :=
  let v := c.toNat
  if v < 0x80 then [UInt8.ofNat v]
  else if v < 0x800 then [UInt8.ofNat (0xC0 + v / 64), UInt8.ofNat (0x80 + v % 64)]
  else if v < 0x10000 then
    [UInt8.ofNat (0xE0 + v / 4096), UInt8.ofNat (0x80 + v / 64 % 64), UInt8.ofNat (0x80 + v % 64)]
  else
    [UInt8.ofNat (0xF0 + v / 262144), UInt8.ofNat (0x80 + v / 4096 % 64),
      UInt8.ofNat (0x80 + v / 64 % 64), UInt8.ofNat (0x80 + v % 64)]

def encode (cs : List Char) : Bytes := cs.flatMap encodeChar

@[simp] theorem encode_nil : encode [] = [] := rfl

@[simp] theorem encode_cons (c : Char) (cs : List Char) :
    encode (c :: cs) = encodeChar c ++ encode cs := rfl

@[simp] theorem encode_append (cs ds : List Char) :
    encode (cs ++ ds) = encode cs ++ encode ds := by
  simp [encode]

theorem encodeChar_ne_nil (c : Char) : encodeChar c ≠ [] := by
  simp only [encodeChar]
  repeat' split
  all_goals simp

def isTail (b : UInt8) : Bool := 0x80 ≤ b && b ≤ 0xBF

/-- The range of the second byte. It shuts out overlong forms, surrogates and
values past the last character. -/
def inSecond (lead b : UInt8) : Bool :=
  if lead = 0xE0 then 0xA0 ≤ b && b ≤ 0xBF
  else if lead = 0xED then 0x80 ≤ b && b ≤ 0x9F
  else if lead = 0xF0 then 0x90 ≤ b && b ≤ 0xBF
  else if lead = 0xF4 then 0x80 ≤ b && b ≤ 0x8F
  else isTail b

theorem isTail_of_inSecond {lead b : UInt8} (h : inSecond lead b = true) : isTail b = true := by
  unfold inSecond at h
  unfold isTail at *
  simp only [Bool.and_eq_true, decide_eq_true_eq, UInt8.le_iff_toNat_le] at *
  split at h
  · simp_all; omega
  · split at h
    · simp_all; omega
    · split at h
      · simp_all; omega
      · split at h
        · simp_all; omega
        · simpa using h

/-- The number of bytes that follow a lead byte, none for a byte that leads nothing. -/
def tailCount (b : UInt8) : Option Nat :=
  if b < 0x80 then some 0
  else if b < 0xC2 then none
  else if b < 0xE0 then some 1
  else if b < 0xF0 then some 2
  else if b < 0xF5 then some 3
  else none

def join2 (a b : UInt8) : Char := Char.ofNat ((a.toNat - 0xC0) * 64 + (b.toNat - 0x80))

def join3 (a b c : UInt8) : Char :=
  Char.ofNat ((a.toNat - 0xE0) * 4096 + (b.toNat - 0x80) * 64 + (c.toNat - 0x80))

def join4 (a b c d : UInt8) : Char :=
  Char.ofNat ((a.toNat - 0xF0) * 262144 + (b.toNat - 0x80) * 4096 + (c.toNat - 0x80) * 64
    + (d.toNat - 0x80))

/-- The characters of a byte string, with `none` for each maximal ill-formed part. -/
def scan : Bytes → List (Option Char)
  | [] => []
  | a :: r =>
    match tailCount a with
    | none => none :: scan r
    | some 0 => some (Char.ofNat a.toNat) :: scan r
    | some 1 =>
      match r with
      | [] => [none]
      | b :: r => if isTail b then some (join2 a b) :: scan r else none :: scan (b :: r)
    | some 2 =>
      match r with
      | [] => [none]
      | b :: r =>
        if inSecond a b then
          match r with
          | [] => [none]
          | c :: r => if isTail c then some (join3 a b c) :: scan r else none :: scan (c :: r)
        else none :: scan (b :: r)
    | some _ =>
      match r with
      | [] => [none]
      | b :: r =>
        if inSecond a b then
          match r with
          | [] => [none]
          | c :: r =>
            if isTail c then
              match r with
              | [] => [none]
              | d :: r => if isTail d then some (join4 a b c d) :: scan r else none :: scan (d :: r)
            else none :: scan (c :: r)
        else none :: scan (b :: r)

@[simp] theorem scan_nil : scan [] = [] := rfl

theorem tailCount_ofNat (n : Nat) (h : n < 256) :
    tailCount (UInt8.ofNat n) =
      if n < 0x80 then some 0
      else if n < 0xC2 then none
      else if n < 0xE0 then some 1
      else if n < 0xF0 then some 2
      else if n < 0xF5 then some 3
      else none := by
  simp [tailCount, UInt8.lt_iff_toNat_lt, UInt8.toNat_ofNat', Nat.mod_eq_of_lt h]

theorem isTail_ofNat {n : Nat} (h : n < 64) : isTail (UInt8.ofNat (0x80 + n)) = true := by
  simp [isTail, UInt8.le_iff_toNat_le]; omega

theorem scan_encodeChar_append (c : Char) (r : Bytes) :
    scan (encodeChar c ++ r) = some c :: scan r := by
  have hv : c.toNat < 0xD800 ∨ (0xDFFF < c.toNat ∧ c.toNat < 0x110000) := c.valid
  have hc : Char.ofNat c.toNat = c := by simp
  simp only [encodeChar]
  split
  · next h =>
    rw [List.cons_append, List.nil_append, scan.eq_def]
    simp only [tailCount_ofNat _ (show c.toNat < 256 by omega), if_pos h]
    simp [Nat.mod_eq_of_lt (show c.toNat < 256 by omega)]
  split
  · next h1 h2 =>
    simp only [List.cons_append, List.nil_append]
    rw [scan.eq_def]
    simp only [tailCount_ofNat _ (show 0xC0 + c.toNat / 64 < 256 by omega),
      if_neg (show ¬ 0xC0 + c.toNat / 64 < 0x80 by omega),
      if_neg (show ¬ 0xC0 + c.toNat / 64 < 0xC2 by omega),
      if_pos (show 0xC0 + c.toNat / 64 < 0xE0 by omega)]
    simp only [isTail_ofNat (show c.toNat % 64 < 64 by omega), if_true]
    have j : ∀ k, k = c.toNat → Char.ofNat k = c := fun k hk => hk ▸ hc
    rw [join2, j]
    simp
    omega
  split
  · next h1 h2 h3 =>
    simp only [List.cons_append, List.nil_append]
    rw [scan.eq_def]
    have e : tailCount (UInt8.ofNat (0xE0 + c.toNat / 4096)) = some 2 := by
      rw [tailCount_ofNat _ (by omega)]
      simp only [show ¬ 0xE0 + c.toNat / 4096 < 0x80 by omega,
        show ¬ 0xE0 + c.toNat / 4096 < 0xC2 by omega, show ¬ 0xE0 + c.toNat / 4096 < 0xE0 by omega,
        show 0xE0 + c.toNat / 4096 < 0xF0 by omega, if_false, if_true]
    have s : inSecond (UInt8.ofNat (0xE0 + c.toNat / 4096))
        (UInt8.ofNat (0x80 + c.toNat / 64 % 64)) = true := by
      simp only [inSecond, isTail, UInt8.le_iff_toNat_le, ← UInt8.toNat_inj, UInt8.toNat_ofNat']
      simp
      repeat' split
      all_goals omega
    simp only [e, s, isTail_ofNat (show c.toNat % 64 < 64 by omega), if_true]
    have j : ∀ k, k = c.toNat → Char.ofNat k = c := fun k hk => hk ▸ hc
    rw [join3, j]
    simp
    omega
  · next h1 h2 h3 =>
    simp only [List.cons_append, List.nil_append]
    rw [scan.eq_def]
    have e : tailCount (UInt8.ofNat (0xF0 + c.toNat / 262144)) = some 3 := by
      rw [tailCount_ofNat _ (by omega)]
      simp only [show ¬ 0xF0 + c.toNat / 262144 < 0x80 by omega,
        show ¬ 0xF0 + c.toNat / 262144 < 0xC2 by omega,
        show ¬ 0xF0 + c.toNat / 262144 < 0xE0 by omega,
        show ¬ 0xF0 + c.toNat / 262144 < 0xF0 by omega,
        show 0xF0 + c.toNat / 262144 < 0xF5 by omega,
        if_false, if_true]
    have s : inSecond (UInt8.ofNat (0xF0 + c.toNat / 262144))
        (UInt8.ofNat (0x80 + c.toNat / 4096 % 64)) = true := by
      simp only [inSecond, isTail, UInt8.le_iff_toNat_le, ← UInt8.toNat_inj, UInt8.toNat_ofNat']
      simp
      repeat' split
      all_goals omega
    simp only [e, s, isTail_ofNat (show c.toNat % 64 < 64 by omega),
      isTail_ofNat (show c.toNat / 64 % 64 < 64 by omega), if_true]
    have j : ∀ k, k = c.toNat → Char.ofNat k = c := fun k hk => hk ▸ hc
    rw [join4, j]
    simp
    omega
theorem scan_encode_append (cs : List Char) (r : Bytes) :
    scan (encode cs ++ r) = cs.map some ++ scan r := by
  induction cs with
  | nil => rfl
  | cons c cs ih => simp [List.append_assoc, scan_encodeChar_append, ih]

@[simp] theorem scan_encode (cs : List Char) : scan (encode cs) = cs.map some := by
  simpa using scan_encode_append cs []

/-- All items, if every one is there. -/
def allSome : List (Option Char) → Option (List Char)
  | [] => some []
  | none :: _ => none
  | some c :: r => (allSome r).map (c :: ·)

@[simp] theorem allSome_map_some (cs : List Char) : allSome (cs.map some) = some cs := by
  induction cs with
  | nil => rfl
  | cons c cs ih => simp [allSome, ih]

theorem eq_map_some_of_allSome {l : List (Option Char)} {cs : List Char}
    (h : allSome l = some cs) : l = cs.map some := by
  induction l generalizing cs with
  | nil => simp [allSome] at h; subst h; rfl
  | cons x l ih =>
    cases x with
    | none => simp [allSome] at h
    | some c =>
      obtain ⟨ds, hd, rfl⟩ := Option.map_eq_some_iff.1 h
      simp [ih hd]

/-- The characters of well-formed text. -/
def decode? (bs : Bytes) : Option (List Char) := allSome (scan bs)

@[simp] theorem decode?_encode (cs : List Char) : decode? (encode cs) = some cs := by
  simp [decode?]

/-- The characters, with U+FFFD for each maximal ill-formed part. -/
def decodeLossy (bs : Bytes) : List Char := (scan bs).map (·.getD '\uFFFD')

def text? (bs : Bytes) : Option String := (decode? bs).map String.ofList

@[simp] theorem decodeLossy_encode (cs : List Char) : decodeLossy (encode cs) = cs := by
  simp [decodeLossy, Function.comp_def]

def lossy (bs : Bytes) : String := String.ofList (decodeLossy bs)

end Utf8

/-- The bytes of a text. -/
def utf8 (s : String) : Bytes := Utf8.encode s.toList

@[simp] theorem utf8_empty : utf8 "" = [] := by simp [utf8]

@[simp] theorem text?_utf8 (s : String) : Utf8.text? (utf8 s) = some s := by
  simp [Utf8.text?, utf8]

@[simp] theorem lossy_utf8 (s : String) : Utf8.lossy (utf8 s) = s := by
  simp [Utf8.lossy, utf8]

theorem utf8_injective {s t : String} (h : utf8 s = utf8 t) : s = t := by
  have := congrArg Utf8.text? h
  simpa using this

@[simp] theorem utf8_append (s t : String) : utf8 (s ++ t) = utf8 s ++ utf8 t := by
  simp [utf8]

end DocRoot
