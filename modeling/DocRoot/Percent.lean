import DocRoot.Utf8

/-!
# Percent escapes

An escape is `%` and two hexadecimal digits. Decoding is one pass: what it writes
is not read again, and a `%` that starts no escape stands for itself.
-/

set_option autoImplicit false

namespace DocRoot

def hexDigit? (b : UInt8) : Option UInt8 :=
  if 0x30 ≤ b ∧ b ≤ 0x39 then some (b - 0x30)
  else if 0x41 ≤ b ∧ b ≤ 0x46 then some (b - 0x37)
  else if 0x61 ≤ b ∧ b ≤ 0x66 then some (b - 0x57)
  else none

def upperHexDigit (n : UInt8) : UInt8 := if n < 10 then 0x30 + n else 0x37 + n

theorem hexDigit?_upperHexDigit {n : UInt8} (h : n < 16) :
    hexDigit? (upperHexDigit n) = some n := by
  have all : ∀ k : Fin 16, hexDigit? (upperHexDigit (.ofNat k)) = some (.ofNat k) := by decide
  simpa using all ⟨n.toNat, by simpa [UInt8.lt_iff_toNat_lt] using h⟩

namespace Percent

def decode : Bytes → Bytes
  | [] => []
  | [a] => [a]
  | [a, b] => [a, b]
  | a :: b :: c :: r =>
    if a = 0x25 then
      match hexDigit? b, hexDigit? c with
      | some h, some l => (16 * h + l) :: decode r
      | _, _ => a :: decode (b :: c :: r)
    else a :: decode (b :: c :: r)

@[simp] theorem decode_nil : decode [] = [] := rfl

theorem decode_cons_of_ne {a : UInt8} (h : a ≠ 0x25) (r : Bytes) :
    decode (a :: r) = a :: decode r := by
  match r with
  | [] => rfl
  | [_] => rfl
  | b :: c :: r => rw [decode, if_neg h]

theorem decode_escape {b c h l : UInt8} (hb : hexDigit? b = some h) (hc : hexDigit? c = some l)
    (r : Bytes) : decode (0x25 :: b :: c :: r) = (16 * h + l) :: decode r := by
  simp [decode, hb, hc]

/-- The bytes a link may hold as they are. -/
def isLinkSafe (b : UInt8) : Bool :=
  (0x30 ≤ b && b ≤ 0x39) || (0x41 ≤ b && b ≤ 0x5A) || (0x61 ≤ b && b ≤ 0x7A)
    || b == 0x5F || b == 0x2E || b == 0x2D || b == 0x7E || b == 0x2F

def encodeByte (b : UInt8) : Bytes :=
  if isLinkSafe b then [b] else [0x25, upperHexDigit (b / 16), upperHexDigit (b % 16)]

def encode (bs : Bytes) : Bytes := bs.flatMap encodeByte

@[simp] theorem encode_nil : encode [] = [] := rfl

@[simp] theorem encode_cons (b : UInt8) (bs : Bytes) :
    encode (b :: bs) = encodeByte b ++ encode bs := rfl

theorem decode_encodeByte_append (b : UInt8) (r : Bytes) :
    decode (encodeByte b ++ r) = b :: decode r := by
  unfold encodeByte
  split
  · next h =>
    refine decode_cons_of_ne ?_ r
    rintro rfl
    simp [isLinkSafe] at h
  · have h₁ : b / 16 < 16 := by
      rw [UInt8.lt_iff_toNat_lt, UInt8.toNat_div]
      have := b.toNat_lt
      simp
      omega
    have h₂ : b % 16 < 16 := by
      rw [UInt8.lt_iff_toNat_lt, UInt8.toNat_mod]
      exact Nat.mod_lt _ (by decide)
    have h₃ : 16 * (b / 16) + b % 16 = b := by
      apply UInt8.toNat_inj.1
      have := b.toNat_lt
      simp [UInt8.toNat_add, UInt8.toNat_mul]
      omega
    simp [decode_escape (hexDigit?_upperHexDigit h₁) (hexDigit?_upperHexDigit h₂), h₃]

@[simp] theorem decode_encode (bs : Bytes) : decode (encode bs) = bs := by
  induction bs with
  | nil => rfl
  | cons b bs ih => simp [decode_encodeByte_append, ih]

end Percent

end DocRoot
