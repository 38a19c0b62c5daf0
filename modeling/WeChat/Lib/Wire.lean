/-
# Sixteen-bit and thirty-two-bit fields

Byte strings and the integer fields carried in them: the narrowing conversions to a
signed 16-bit and a signed 32-bit integer, and the big-endian encoding of a 16-bit field.
A machine integer is an `ℤ` together with an explicit narrowing where the code narrows.
-/
import Mathlib.Data.Int.Basic
import Mathlib.Data.List.Basic
import Mathlib.Tactic.NormNum

namespace Wire

/-- A byte string. -/
abbrev Bytes : Type := List UInt8

/-- The bytes of a text. -/
def utf8 (s : String) : Bytes := s.toUTF8.data.toList

/-! ## Narrowing conversions -/

/-- The conversion of an integer to a signed 16-bit integer. -/
def toShort (n : ℤ) : ℤ :=
  if n % 65536 < 32768 then n % 65536 else n % 65536 - 65536

/-- The conversion of an integer to a signed 32-bit integer. -/
def toInt32 (n : ℤ) : ℤ :=
  if n % 4294967296 < 2147483648 then n % 4294967296 else n % 4294967296 - 4294967296

lemma toShort_eq_self {n : ℤ} (h₁ : -32768 ≤ n) (h₂ : n < 32768) : toShort n = n := by
  unfold toShort
  split <;> omega

lemma toShort_lt (n : ℤ) : toShort n < 32768 := by
  unfold toShort
  split <;> omega

/-- A natural number is unchanged by the narrowing exactly when it is below `2 ^ 15`. -/
lemma toShort_natCast_eq_iff {n : ℕ} : toShort n = n ↔ n < 32768 := by
  unfold toShort
  split <;> omega

lemma toInt32_eq_self {n : ℤ} (h₁ : -2147483648 ≤ n) (h₂ : n < 2147483648) : toInt32 n = n := by
  unfold toInt32
  split <;> omega

lemma toInt32_lt (n : ℤ) : toInt32 n < 2147483648 := by
  unfold toInt32
  split <;> omega

lemma le_toInt32 (n : ℤ) : -2147483648 ≤ toInt32 n := by
  unfold toInt32
  split <;> omega

/-! ## Big-endian fields -/

/-- The high byte of the 16-bit field that holds `n`. -/
def beHi (n : ℤ) : UInt8 := UInt8.ofNat (n % 65536 / 256).toNat

/-- The low byte of the 16-bit field that holds `n`. -/
def beLo (n : ℤ) : UInt8 := UInt8.ofNat (n % 256).toNat

/-- The big-endian 16-bit field that holds `n`. -/
def be16 (n : ℤ) : Bytes := [beHi n, beLo n]

/-- The unsigned value of a big-endian 16-bit field. -/
def u16 (hi lo : UInt8) : ℕ := 256 * hi.toNat + lo.toNat

lemma u16_lt (hi lo : UInt8) : u16 hi lo < 65536 := by
  have h₁ := hi.toNat_lt
  have h₂ := lo.toNat_lt
  unfold u16
  omega

/-- Reading a field back yields the sixteen low bits of the number written. -/
lemma u16_be (n : ℤ) : (u16 (beHi n) (beLo n) : ℤ) = n % 65536 := by
  have h₁ : (n % 65536 / 256).toNat < 256 := by omega
  have h₂ : (n % 256).toNat < 256 := by omega
  simp only [u16, beHi, beLo, UInt8.toNat_ofNat', Nat.reducePow, Nat.mod_eq_of_lt h₁,
    Nat.mod_eq_of_lt h₂]
  omega

/-- A field that holds a short reads back, as a short, to the same number. -/
lemma toShort_u16_be (n : ℤ) : toShort (u16 (beHi n) (beLo n)) = toShort n := by
  rw [u16_be]
  unfold toShort
  simp

/-- Writing the value of a field yields the field. -/
lemma be16_u16 (hi lo : UInt8) : be16 (u16 hi lo) = [hi, lo] := by
  have h₁ := hi.toNat_lt
  have h₂ := lo.toNat_lt
  have hhi : ((u16 hi lo : ℤ) % 65536 / 256).toNat = hi.toNat := by
    unfold u16
    omega
  have hlo : ((u16 hi lo : ℤ) % 256).toNat = lo.toNat := by
    unfold u16
    omega
  rw [be16, beHi, beLo, hhi, hlo, UInt8.ofNat_toNat, UInt8.ofNat_toNat]

/-- A field holds the sixteen low bits of a number, and the short has the same ones. -/
lemma be16_toShort (n : ℤ) : be16 (toShort n) = be16 n := by
  have h : toShort n % 65536 = n % 65536 := by
    unfold toShort
    split <;> omega
  have h' : toShort n % 256 = n % 256 := by omega
  rw [be16, be16, beHi, beHi, beLo, beLo, h, h']

end Wire
