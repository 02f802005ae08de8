import Mathlib.Data.Fintype.Card

/-!
# Closures by a worklist

What a finite step relation reaches from a list, by a stack of pending elements.
-/

namespace Closure

open List

universe u

variable {α : Type u} [DecidableEq α] {next : α → List α}

/-- The worklist: take a pending element, add its unseen successors. -/
def visit (next : α → List α) : Nat → List α → List α → List α
  | 0, _, seen => seen
  | _ + 1, [], seen => seen
  | turns + 1, x :: pending, seen =>
    let new := ((next x).filter (· ∉ seen)).dedup
    visit next turns (new ++ pending) (new ++ seen)

variable [Fintype α]

/-- The closure of a list; no element is pending twice. -/
def closure (next : α → List α) (start : List α) : List α :=
  visit next (start.length + Fintype.card α) start start

def unseen (seen : List α) : Finset α :=
  Finset.univ.filter (· ∉ seen)

theorem card_unseen_append {new seen : List α} (hnew : new.Nodup) (hfresh : ∀ x ∈ new, x ∉ seen) :
    (unseen (new ++ seen)).card + new.length = (unseen seen).card := by
  have hsplit : unseen seen = unseen (new ++ seen) ∪ new.toFinset := by
    ext x
    simp only [unseen, Finset.mem_filter, Finset.mem_univ, true_and, Finset.mem_union,
      mem_append, List.mem_toFinset, not_or]
    constructor
    · intro hx
      by_cases hmem : x ∈ new
      · exact .inr hmem
      · exact .inl ⟨hmem, hx⟩
    · rintro (⟨-, hx⟩ | hx)
      · exact hx
      · exact hfresh x hx
  have hdisjoint : Disjoint (unseen (new ++ seen)) new.toFinset := by
    rw [Finset.disjoint_left]
    intro x hx hmem
    simp only [unseen, Finset.mem_filter, mem_append, not_or] at hx
    exact hx.2.1 (List.mem_toFinset.mp hmem)
  rw [hsplit, Finset.card_union_of_disjoint hdisjoint, toFinset_card_of_nodup hnew]

omit [DecidableEq α] [Fintype α] in
theorem mem_of_reached {seen : List α} (hdone : ∀ x ∈ seen, ∀ y ∈ next x, y ∈ seen) (y : α) :
    y ∈ seen ↔ ∃ x ∈ seen, Relation.ReflTransGen (fun a b => b ∈ next a) x y := by
  constructor
  · intro hy
    exact ⟨y, hy, .refl⟩
  · rintro ⟨_, hx, hreach⟩
    induction hreach with
    | refl => exact hx
    | tail _ hstep ih => exact hdone _ ih _ hstep

/-- What the loop reaches, when what it left has seen successors. -/
theorem mem_visit {turns : Nat} {pending seen : List α}
    (hturns : pending.length + (unseen seen).card ≤ turns) (hpending : ∀ x ∈ pending, x ∈ seen)
    (hdone : ∀ x ∈ seen, x ∉ pending → ∀ y ∈ next x, y ∈ seen) (y : α) :
    y ∈ visit next turns pending seen ↔
      ∃ x ∈ seen, Relation.ReflTransGen (fun a b => b ∈ next a) x y := by
  induction turns generalizing pending seen with
  | zero =>
    have hempty : pending = [] := length_eq_zero_iff.mp (by omega)
    exact mem_of_reached (fun x hx => hdone x hx (by simp [hempty])) y
  | succ turns ih =>
    cases pending with
    | nil => exact mem_of_reached (fun x hx => hdone x hx not_mem_nil) y
    | cons x pending =>
      have hnodup : ((next x).filter (· ∉ seen)).dedup.Nodup := nodup_dedup _
      have hmem : ∀ z, z ∈ ((next x).filter (· ∉ seen)).dedup ↔ z ∈ next x ∧ z ∉ seen := by
        simp
      rw [visit]
      generalize ((next x).filter (· ∉ seen)).dedup = new at hnodup hmem
      have hcard := card_unseen_append hnodup fun z hz => ((hmem z).mp hz).2
      have hdone' : ∀ a ∈ new ++ seen, a ∉ new ++ pending →
          ∀ b ∈ next a, b ∈ new ++ seen := by
        intro a ha hleft b hb
        rw [mem_append, not_or] at hleft
        have hseen : a ∈ seen := (mem_append.mp ha).resolve_left hleft.1
        by_cases hax : a = x
        · subst hax
          by_cases hbseen : b ∈ seen
          · exact mem_append_right _ hbseen
          · exact mem_append_left _ ((hmem b).mpr ⟨hb, hbseen⟩)
        · exact mem_append_right _ (hdone a hseen (by simp [hax, hleft.2]) b hb)
      have hpending' : ∀ a ∈ new ++ pending, a ∈ new ++ seen := by
        intro a ha
        rcases mem_append.mp ha with hnew | hold
        · exact mem_append_left _ hnew
        · exact mem_append_right _ (hpending a (mem_cons_of_mem x hold))
      have hturns' : (new ++ pending).length + (unseen (new ++ seen)).card ≤ turns := by
        simp only [length_append, length_cons] at hturns ⊢
        omega
      rw [ih hturns' hpending' hdone']
      constructor
      · rintro ⟨a, ha, hreach⟩
        rcases mem_append.mp ha with hnew | hold
        · exact ⟨x, hpending x mem_cons_self, .head ((hmem a).mp hnew).1 hreach⟩
        · exact ⟨a, hold, hreach⟩
      · rintro ⟨a, ha, hreach⟩
        exact ⟨a, mem_append_right _ ha, hreach⟩

theorem mem_closure {start : List α} (y : α) :
    y ∈ closure next start ↔
      ∃ x ∈ start, Relation.ReflTransGen (fun a b => b ∈ next a) x y := by
  refine mem_visit ?_ (fun x hx => hx) (fun x hx hleft => absurd hx hleft) y
  exact Nat.add_le_add_left (Finset.card_le_univ _) _

theorem subset_closure {start : List α} {x : α} (hx : x ∈ start) : x ∈ closure next start :=
  (mem_closure x).mpr ⟨x, hx, .refl⟩

theorem closure_closed {start : List α} {x y : α} (hx : x ∈ closure next start) (hy : y ∈ next x) :
    y ∈ closure next start := by
  obtain ⟨a, ha, hreach⟩ := (mem_closure x).mp hx
  exact (mem_closure y).mpr ⟨a, ha, hreach.tail hy⟩

theorem closure_induction {start : List α} {P : α → Prop}
    (hstart : ∀ x ∈ start, P x) (hstep : ∀ x y, P x → y ∈ next x → P y)
    {y : α} (hy : y ∈ closure next start) : P y := by
  obtain ⟨x, hx, hreach⟩ := (mem_closure y).mp hy
  induction hreach with
  | refl => exact hstart x hx
  | tail _ hnext ih => exact hstep _ _ (ih ((mem_closure _).mpr ⟨x, hx, by assumption⟩)) hnext

/-- An element is reached exactly when its converse closure meets the list. -/
theorem mem_closure_iff_converse {prev : α → List α} (hconverse : ∀ x y, y ∈ next x ↔ x ∈ prev y)
    {start : List α} {y : α} :
    y ∈ closure next start ↔ ∃ x ∈ start, x ∈ closure prev [y] := by
  have hreach : ∀ x, Relation.ReflTransGen (fun a b => b ∈ next a) x y ↔
      x ∈ closure prev [y] := by
    intro x
    rw [mem_closure, ← Relation.reflTransGen_swap]
    simp [hconverse]
  simp [mem_closure, ← hreach]

end Closure
