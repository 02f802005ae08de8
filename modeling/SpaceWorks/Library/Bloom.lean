import Mathlib.Algebra.Group.Nat.Defs
import Mathlib.Data.List.Infix
/-!
# Bloom filters over the windows of a text

Bit `p` is bit `p % 8` of byte `p / 8`, and elements put their positions in.  A filter contains
those of smaller sets, and a text's windows are those of its infixes and more.
-/

namespace Bloom

open List

universe u

/-- An array of `n` zero bytes. -/
def zeros (n : Nat) : List UInt8 := List.replicate n 0

/-- `bytes[p // 8] |= 1 << (p % 8)`. -/
def setBit (bytes : List UInt8) (p : Nat) : List UInt8 :=
  bytes.modify (p / 8) fun byte => byte ||| UInt8.ofNat (1 <<< (p % 8))

def setBits (bytes : List UInt8) (positions : List Nat) : List UInt8 :=
  positions.foldl setBit bytes

def hasBit (bytes : List UInt8) (p : Nat) : Bool :=
  (bytes.getD (p / 8) 0).toNat.testBit (p % 8)

@[simp] theorem length_zeros (n : Nat) : (zeros n).length = n := by
  simp [zeros]

@[simp] theorem length_setBit (bytes : List UInt8) (p : Nat) :
    (setBit bytes p).length = bytes.length := by
  simp [setBit]

theorem toNat_mask (p : Nat) : (UInt8.ofNat (1 <<< (p % 8))).toNat = 2 ^ (p % 8) := by
  have hlt : 2 ^ (p % 8) < 2 ^ 8 := Nat.pow_lt_pow_right (by decide) (Nat.mod_lt p (by decide))
  rw [UInt8.toNat_ofNat', Nat.one_shiftLeft, Nat.mod_eq_of_lt hlt]

theorem hasBit_setBit {bytes : List UInt8} {p : Nat} (hp : p / 8 < bytes.length) (q : Nat) :
    hasBit (setBit bytes p) q = true ↔ q = p ∨ hasBit bytes q = true := by
  have hpq : q = p ↔ p / 8 = q / 8 ∧ p % 8 = q % 8 := by omega
  by_cases hword : p / 8 = q / 8
  · have hq : q / 8 < bytes.length := hword ▸ hp
    simp only [hasBit, setBit, List.getD_eq_getElem?_getD, List.getElem?_modify, hword, if_true,
      getElem?_eq_getElem hq, Option.map_eq_map, Option.map_some, Option.getD_some,
      UInt8.toNat_or, Nat.testBit_or, toNat_mask, Nat.testBit_two_pow, Bool.or_eq_true,
      decide_eq_true_eq, hpq, true_and]
    exact or_comm
  · simp [hasBit, setBit, hword, hpq]

theorem hasBit_setBits {positions : List Nat} {bytes : List UInt8}
    (hp : ∀ p ∈ positions, p / 8 < bytes.length) (q : Nat) :
    hasBit (setBits bytes positions) q = true ↔ q ∈ positions ∨ hasBit bytes q = true := by
  induction positions generalizing bytes with
  | nil => simp [setBits]
  | cons p positions ih =>
    have hrest : ∀ x ∈ positions, x / 8 < (setBit bytes p).length := fun x hx => by
      rw [length_setBit]
      exact hp x (mem_cons_of_mem _ hx)
    have hfirst := hasBit_setBit (hp p mem_cons_self) q
    change hasBit (setBits (setBit bytes p) positions) q = true ↔ _
    rw [ih hrest, hfirst, mem_cons]
    tauto

/-- Every byte of the candidate has the bits of that byte of the query. -/
def contains (n : Nat) (candidate query : List UInt8) : Bool :=
  (List.range n).all fun i => candidate.getD i 0 &&& query.getD i 0 == query.getD i 0

theorem contains_of_bits {n : Nat} {candidate query : List UInt8}
    (h : ∀ p, hasBit query p = true → hasBit candidate p = true) :
    contains n candidate query = true := by
  simp only [contains, all_eq_true, mem_range, beq_iff_eq]
  intro i _
  apply UInt8.toNat_inj.mp
  apply Nat.eq_of_testBit_eq
  intro k
  rw [UInt8.toNat_and, Nat.testBit_and]
  by_cases hk : k < 8
  · have hword : (8 * i + k) / 8 = i := by omega
    have hbit : (8 * i + k) % 8 = k := by omega
    have hp := h (8 * i + k)
    simp only [hasBit, hword, hbit] at hp
    cases hquery : (query.getD i 0).toNat.testBit k with
    | false => simp
    | true => rw [hp hquery, Bool.and_self]
  · have hlt : (query.getD i 0).toNat < 2 ^ k :=
      Nat.lt_of_lt_of_le (UInt8.toNat_lt _) (Nat.pow_le_pow_right (by decide) (by omega))
    rw [Nat.testBit_lt_two_pow hlt, Bool.and_false]

theorem contains_setBits {n : Nat} {positions sub : List Nat} (hp : ∀ p ∈ positions, p / 8 < n)
    (hsub : sub ⊆ positions) :
    contains n (setBits (zeros n) positions) (setBits (zeros n) sub) = true := by
  apply contains_of_bits
  intro p hbit
  rw [hasBit_setBits (fun q hq => by simpa using hp q (hsub hq))] at hbit
  rw [hasBit_setBits (fun q hq => by simpa using hp q hq)]
  exact hbit.imp_left fun hq => hsub hq

section Windows

variable {α : Type u}

/-- The parts of `k` elements, left to right. -/
def windows (k : Nat) (l : List α) : List (List α) :=
  (List.range (l.length + 1 - k)).map fun offset => (l.drop offset).take k

theorem mem_windows {k : Nat} {l w : List α} :
    w ∈ windows k l ↔ w <:+: l ∧ w.length = k := by
  simp only [windows, mem_map, mem_range]
  constructor
  · rintro ⟨offset, _, rfl⟩
    have hlength : k ≤ (l.drop offset).length := by
      rw [length_drop]
      omega
    exact ⟨(List.take_prefix _ _).isInfix.trans (drop_suffix _ _).isInfix,
      length_take_of_le hlength⟩
  · rintro ⟨⟨before, _, rfl⟩, rfl⟩
    refine ⟨before.length, ?_, ?_⟩
    · simp only [length_append]
      omega
    · rw [append_assoc, drop_left, take_left]

theorem windows_subset {k : Nat} {l l' : List α} (h : l <:+: l') :
    windows k l ⊆ windows k l' := by
  intro w hw
  obtain ⟨hwithin, hlength⟩ := mem_windows.mp hw
  exact mem_windows.mpr ⟨hwithin.trans h, hlength⟩

end Windows

end Bloom
