import Mathlib.Algebra.Ring.Nat
import Mathlib.Data.List.Induction
/-!
# Groups of bits

A list of groups of `width` bits is the number they spell, and of one length determined by it.
-/

namespace BitGroups

open List

def number (width : Nat) (groups : List Nat) : Nat :=
  groups.foldl (fun n group => n * 2 ^ width + group) 0

/-- Groups that fit into `width` bits. -/
def Fits (width : Nat) (groups : List Nat) : Prop :=
  ∀ group ∈ groups, group < 2 ^ width

instance (width : Nat) (groups : List Nat) : Decidable (Fits width groups) :=
  inferInstanceAs (Decidable (∀ group ∈ groups, group < 2 ^ width))

variable {width : Nat} {groups others : List Nat}

@[simp] theorem number_nil : number width [] = 0 := rfl

@[simp] theorem number_snoc (group : Nat) :
    number width (groups ++ [group]) = number width groups * 2 ^ width + group := by
  simp [number]

theorem Fits.snoc {group : Nat} (h : Fits width groups) (hgroup : group < 2 ^ width) :
    Fits width (groups ++ [group]) := by
  intro x hx
  rcases mem_append.mp hx with hx | hx
  · exact h x hx
  · exact mem_singleton.mp hx ▸ hgroup

theorem number_lt (h : Fits width groups) : number width groups < 2 ^ (width * groups.length) := by
  induction groups using List.reverseRecOn with
  | nil => simp
  | append_singleton groups group ih =>
    have hgroup : group < 2 ^ width := h group (by simp)
    have hgroups : number width groups + 1 ≤ 2 ^ (width * groups.length) :=
      ih fun x hx => h x (by simp [hx])
    rw [number_snoc, length_append, length_singleton, Nat.mul_add, Nat.mul_one, Nat.pow_add]
    calc number width groups * 2 ^ width + group
        < (number width groups + 1) * 2 ^ width := by rw [Nat.add_mul, Nat.one_mul]; omega
      _ ≤ 2 ^ (width * groups.length) * 2 ^ width := Nat.mul_le_mul_right _ hgroups

theorem eq_of_number_eq (hlength : groups.length = others.length) (hgroups : Fits width groups)
    (hothers : Fits width others) (h : number width groups = number width others) :
    groups = others := by
  induction groups using List.reverseRecOn generalizing others with
  | nil => exact (length_eq_zero_iff.mp hlength.symm).symm
  | append_singleton groups group ih =>
    rcases eq_nil_or_concat others with rfl | ⟨others, other, rfl⟩
    · simp at hlength
    · have hgroup : group < 2 ^ width := hgroups group (by simp)
      have hother : other < 2 ^ width := hothers other (by simp)
      rw [concat_eq_append, number_snoc, number_snoc] at h
      have hlow : group = other := by
        have hmod := congrArg (· % 2 ^ width) h
        simpa [Nat.mod_eq_of_lt hgroup, Nat.mod_eq_of_lt hother]
          using hmod
      subst hlow
      have hhigh : number width groups = number width others :=
        Nat.eq_of_mul_eq_mul_right (Nat.two_pow_pos width) (Nat.add_right_cancel h)
      rw [concat_eq_append, ih (by simpa using hlength) (fun x hx => hgroups x (by simp [hx]))
        (fun x hx => hothers x (by simp [hx])) hhigh]

end BitGroups
