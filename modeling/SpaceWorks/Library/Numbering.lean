import Mathlib.Data.List.Nodup
import Mathlib.Data.List.Perm.Subperm
/-!
# The first unused index of a numbering

The search for an unused name walks up from an index; for an injective numbering it ends after at
most one turn more than there are names in use.
-/

namespace Numbering

open List

universe u

variable {α : Type u} [DecidableEq α] {name : Nat → α} {used : List α}

/-- The first of some indices from `n` on whose name is not in use. -/
def firstUnused (name : Nat → α) (used : List α) : Nat → Nat → Option Nat
  | 0, _ => none
  | turns + 1, n => if name n ∈ used then firstUnused name used turns (n + 1) else some n

theorem firstUnused_eq_some {turns n m : Nat} (h : firstUnused name used turns n = some m) :
    n ≤ m ∧ name m ∉ used := by
  induction turns generalizing n with
  | zero => cases h
  | succ _ ih =>
    rw [firstUnused] at h
    split at h
    · obtain ⟨_, hunused⟩ := ih h
      exact ⟨by omega, hunused⟩
    · next hunused =>
        obtain rfl : n = m := Option.some.inj h
        exact ⟨Nat.le_refl n, hunused⟩

theorem mem_of_firstUnused_eq_none {turns n : Nat} (h : firstUnused name used turns n = none) :
    ∀ k, k < turns → name (n + k) ∈ used := by
  induction turns generalizing n with
  | zero =>
    intro k hk
    omega
  | succ _ ih =>
    rw [firstUnused] at h
    split at h
    · next hused =>
        intro k hk
        cases k with
        | zero => exact hused
        | succ k =>
          have hmem := ih h k (by omega)
          rwa [show n + (k + 1) = n + 1 + k by omega]
    · cases h

theorem firstUnused_succeeds (hname : Function.Injective name)
    {turns : Nat} (hturns : used.length < turns) (n : Nat) :
    ∃ m, firstUnused name used turns n = some m := by
  cases h : firstUnused name used turns n with
  | some m => exact ⟨m, rfl⟩
  | none =>
    have hnodup : ((List.range turns).map fun k => name (n + k)).Nodup :=
      nodup_range.map fun a b hab => by
        have hsum := hname hab
        omega
    have hsubset : ((List.range turns).map fun k => name (n + k)) ⊆ used := by
      intro x hx
      obtain ⟨k, hk, rfl⟩ := mem_map.mp hx
      exact mem_of_firstUnused_eq_none h k (mem_range.mp hk)
    have hlength := (subperm_of_subset hnodup hsubset).length_le
    rw [length_map, length_range] at hlength
    omega

end Numbering
