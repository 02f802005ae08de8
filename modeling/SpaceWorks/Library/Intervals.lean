import Mathlib.Data.List.Basic

/-!
# Consecutive intervals

Items, newest first, whose closed intervals partition the numbers below a bound.
-/

namespace Consecutive

universe u

variable {α : Type u} (lo : α → Nat) (hi : α → Option Nat)

/-- Closed intervals, newest first, partition the numbers below. -/
def Below : List α → Nat → Prop
  | [], bound => bound = 0
  | x :: xs, bound =>
    ∃ last, hi x = some last ∧ lo x ≤ last ∧ bound = last + 1 ∧ Below xs (lo x)

def Holds (x : α) (n : Nat) : Prop :=
  lo x ≤ n ∧ ∀ last ∈ hi x, n ≤ last

variable {lo hi}

theorem closed {xs : List α} {bound : Nat} (h : Below lo hi xs bound) {x : α} (hx : x ∈ xs) :
    ∃ last, hi x = some last ∧ last < bound := by
  induction xs generalizing bound with
  | nil => cases hx
  | cons _ _ ih =>
    obtain ⟨last, hlast, _, rfl, hrest⟩ := h
    rcases List.mem_cons.mp hx with rfl | hlater
    · exact ⟨last, hlast, by omega⟩
    · obtain ⟨last', hlast', _⟩ := ih hrest hlater
      exact ⟨last', hlast', by omega⟩

theorem covers {xs : List α} {bound : Nat} (h : Below lo hi xs bound) {n : Nat} (hn : n < bound) :
    ∃ x ∈ xs, Holds lo hi x n := by
  induction xs generalizing bound with
  | nil =>
    have hzero : bound = 0 := h
    omega
  | cons y _ ih =>
    obtain ⟨_, hlast, _, rfl, hrest⟩ := h
    by_cases hlow : lo y ≤ n
    · refine ⟨y, by simp, hlow, ?_⟩
      rw [hlast]
      rintro _ ⟨⟩
      omega
    · obtain ⟨x, hx, hholds⟩ := ih hrest (by omega)
      exact ⟨x, by simp [hx], hholds⟩

theorem below {xs : List α} {bound : Nat} (h : Below lo hi xs bound)
    {x : α} (hx : x ∈ xs) {n : Nat} (hholds : Holds lo hi x n) :
    n < bound := by
  obtain ⟨last, hlast, _⟩ := closed h hx
  have hle := hholds.2 last hlast
  omega

theorem unique {xs : List α} {bound : Nat} (h : Below lo hi xs bound)
    {x y : α} (hx : x ∈ xs) (hy : y ∈ xs)
    {n : Nat} (hxn : Holds lo hi x n) (hyn : Holds lo hi y n) :
    x = y := by
  induction xs generalizing bound with
  | nil => cases hx
  | cons _ _ ih =>
    obtain ⟨_, _, _, rfl, hrest⟩ := h
    rcases List.mem_cons.mp hx with rfl | hxlater
    · rcases List.mem_cons.mp hy with rfl | hylater
      · rfl
      · exact absurd (below hrest hylater hyn) (Nat.not_lt.mpr hxn.1)
    · rcases List.mem_cons.mp hy with rfl | hylater
      · exact absurd (below hrest hxlater hxn) (Nat.not_lt.mpr hyn.1)
      · exact ih hrest hxlater hylater

end Consecutive
