import Mathlib.Data.List.Perm.Subperm

/-!
# Forests given by parents

A forest is a partial parent function without cycles; a node may be hung under another that is not
inside it.
-/

namespace Forest

universe u

open Relation

section Relations

variable {κ : Type u} (parent : κ → Option κ)

def Under (x y : κ) : Prop :=
  parent x = some y

/-- `x` is `y` or one of its descendants. -/
def Inside : κ → κ → Prop :=
  ReflTransGen (Under parent)

def Acyclic : Prop :=
  ∀ x, ¬ TransGen (Under parent) x x

variable {parent} {parent' : κ → Option κ}

theorem Acyclic.mono (h : Acyclic parent) (hsub : ∀ x y, parent' x = some y → parent x = some y) :
    Acyclic parent' :=
  fun x hcycle => h x (TransGen.mono hsub x x hcycle)

theorem inside_of_changed {b : κ} (hother : ∀ x, x ≠ b → parent' x = parent x) {x y : κ}
    (h : Inside parent' x y) :
    Inside parent x y ∨ Inside parent x b := by
  induction h using ReflTransGen.head_induction_on with
  | refl => exact .inl .refl
  | @head x z hxz _ ih =>
    by_cases hx : x = b
    · subst hx
      exact .inr .refl
    · have hlink : Under parent x z := (hother x hx).symm.trans hxz
      exact ih.imp (ReflTransGen.head hlink) (ReflTransGen.head hlink)

theorem Acyclic.rehang (h : Acyclic parent) {b p : κ} (hother : ∀ x, x ≠ b → parent' x = parent x)
    (hb : parent' b = some p) (houtside : ¬ Inside parent p b) :
    Acyclic parent' := by
  -- a cycle through the new link climbs from `p` back to `b`
  have hfree : ¬ Inside parent' p b := by
    intro hinside
    exact houtside ((inside_of_changed hother hinside).elim id id)
  intro x hcycle
  have hsplit : ∀ {x y : κ}, TransGen (Under parent') x y →
      TransGen (Under parent) x y ∨ (Inside parent' x b ∧ Inside parent' p y) := by
    intro x y hpath
    induction hpath with
    | @single y hxy =>
      by_cases hx : x = b
      · subst hx
        have hy : p = y := Option.some.inj (hb.symm.trans hxy)
        exact .inr ⟨.refl, hy ▸ .refl⟩
      · exact .inl (.single ((hother x hx).symm.trans hxy))
    | @tail y z hxy hyz ih =>
      by_cases hy : y = b
      · subst hy
        have hz : p = z := Option.some.inj (hb.symm.trans hyz)
        exact .inr ⟨hxy.to_reflTransGen, hz ▸ .refl⟩
      · rcases ih with hold | ⟨hup, hdown⟩
        · exact .inl (hold.tail ((hother y hy).symm.trans hyz))
        · exact .inr ⟨hup, hdown.tail hyz⟩
  rcases hsplit hcycle with hold | ⟨hup, hdown⟩
  · exact h x hold
  · exact hfree (hdown.trans hup)

end Relations

section Climbing

variable {κ : Type u} [DecidableEq κ] (parent : κ → Option κ)

def climb (b : κ) : Nat → κ → List κ → Bool
  | 0, _, _ => false
  | turns + 1, node, seen =>
    if node = b ∨ node ∈ seen then false
    else match parent node with
      | none => true
      | some up => climb b turns up (node :: seen)

variable {parent} {b : κ}

/-- A walk that reaches the root has not started inside `b`. -/
theorem climb_sound {turns : Nat} {node : κ} {seen : List κ}
    (h : climb parent b turns node seen = true) :
    ¬ Inside parent node b := by
  induction turns generalizing node seen with
  | zero => cases h
  | succ _ ih =>
    simp only [climb] at h
    split at h
    · cases h
    · next hfresh =>
        intro hinside
        rcases ReflTransGen.cases_head hinside with heq | ⟨up, hup, hrest⟩
        · exact hfresh (.inl heq)
        · rw [show parent node = some up from hup] at h
          exact ih h hrest

theorem climb_mono {turns more : Nat} {node : κ} {seen : List κ}
    (hle : turns ≤ more) (h : climb parent b turns node seen = true) :
    climb parent b more node seen = true := by
  induction turns generalizing more node seen with
  | zero => cases h
  | succ _ ih =>
    obtain ⟨more, rfl⟩ : ∃ n, more = n + 1 := ⟨more - 1, by omega⟩
    simp only [climb] at h ⊢
    split
    · next hmet => simp [hmet] at h
    · next hfresh =>
        rw [if_neg hfresh] at h
        cases hup : parent node with
        | none => rfl
        | some =>
          rw [hup] at h
          exact ih (by omega) h

theorem climb_congr {parent' : κ → Option κ} {P : κ → Prop}
    (hsame : ∀ x, P x → parent' x = parent x) (hup : ∀ x y, P x → parent x = some y → P y)
    {turns : Nat} {node : κ} {seen : List κ} (hnode : P node) :
    climb parent' b turns node seen = climb parent b turns node seen := by
  induction turns generalizing node seen with
  | zero => rfl
  | succ _ ih =>
    simp only [climb, hsame node hnode]
    cases hparent : parent node with
    | none => rfl
    | some up => simp [ih (hup node up hnode hparent)]

end Climbing

end Forest
