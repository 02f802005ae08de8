import Mathlib.Algebra.Group.Nat.Defs
import Mathlib.Data.Nat.Basic
import Mathlib.Data.List.Basic
/-!
# Big-endian bytes

A number in a fixed number of bytes, most significant first.
-/

namespace BigEndian

def bytes : Nat → Nat → List UInt8
  | 0, _ => []
  | width + 1, n => UInt8.ofNat (n / 256 ^ width % 256) :: bytes width n

@[simp] theorem length_bytes (width n : Nat) : (bytes width n).length = width := by
  induction width with
  | zero => rfl
  | succ _ ih => simp [bytes, ih]

theorem toNat_byte (n : Nat) : (UInt8.ofNat (n % 256)).toNat = n % 256 := by
  exact Nat.mod_mod_of_dvd n (Nat.dvd_refl 256)

theorem mod_eq_of_bytes_eq {width n m : Nat} (h : bytes width n = bytes width m) :
    n % 256 ^ width = m % 256 ^ width := by
  induction width with
  | zero => simp [Nat.mod_one]
  | succ width ih =>
    obtain ⟨hhead, htail⟩ := List.cons.inj h
    have hbyte : n / 256 ^ width % 256 = m / 256 ^ width % 256 := by
      rw [← toNat_byte (n / 256 ^ width), hhead, toNat_byte]
    rw [Nat.pow_succ, Nat.mod_mul, Nat.mod_mul, ih htail, hbyte]

theorem eq_of_bytes_eq {width n m : Nat} (hn : n < 256 ^ width) (hm : m < 256 ^ width)
    (h : bytes width n = bytes width m) : n = m := by
  have hmod := mod_eq_of_bytes_eq h
  rwa [Nat.mod_eq_of_lt hn, Nat.mod_eq_of_lt hm] at hmod

end BigEndian
