import Mathlib.Data.List.Basic

/-!
# Rounds until nothing changes

A loop over a list of items, until no item changes the state in a whole round.
-/

namespace Rounds

open List

universe u v

variable {σ : Type u} {α : Type v} (change : σ → α → Option σ)

/-- One item; `none` leaves the state as it is. -/
def turn (state : σ × Bool) (item : α) : σ × Bool :=
  match change state.1 item with
  | some s => (s, true)
  | none => state

def round (items : List α) (s : σ) : σ × Bool :=
  items.foldl (turn change) (s, false)

/-- The loop, for at most so many rounds. -/
def loop (items : List α) : Nat → σ → Option σ
  | 0, _ => none
  | rounds + 1, s =>
    if (round change items s).2 then loop items rounds (round change items s).1
    else some (round change items s).1

variable {change} {items : List α}

theorem foldl_turn_preserves {I : σ → Prop}
    (hchange : ∀ s, I s → ∀ item ∈ items, ∀ s', change s item = some s' → I s')
    {state : σ × Bool} (h : I state.1) :
    I (items.foldl (turn change) state).1 := by
  induction items generalizing state with
  | nil => exact h
  | cons item _ ih =>
    refine ih (fun s hs other hother => hchange s hs other (mem_cons_of_mem _ hother)) ?_
    unfold turn
    cases hitem : change state.1 item with
    | none => exact h
    | some s => exact hchange _ h item mem_cons_self s hitem

theorem loop_preserves {I : σ → Prop}
    (hchange : ∀ s, I s → ∀ item ∈ items, ∀ s', change s item = some s' → I s')
    {rounds : Nat} {s t : σ} (h : I s) (hloop : loop change items rounds s = some t) :
    I t := by
  induction rounds generalizing s with
  | zero => cases hloop
  | succ _ ih =>
    have hround : I (round change items s).1 := foldl_turn_preserves hchange h
    simp only [loop] at hloop
    split at hloop
    · exact ih hround hloop
    · cases hloop
      exact hround

theorem foldl_turn_changed {state : σ × Bool} (h : state.2 = true) :
    (items.foldl (turn change) state).2 = true := by
  induction items generalizing state with
  | nil => exact h
  | cons item _ ih =>
    refine ih ?_
    unfold turn
    cases change state.1 item with
    | none => exact h
    | some => rfl

theorem foldl_turn_unchanged {state : σ × Bool} (h : (items.foldl (turn change) state).2 = false) :
    items.foldl (turn change) state = state ∧ ∀ item ∈ items, change state.1 item = none := by
  induction items generalizing state with
  | nil => exact ⟨rfl, fun _ hitem => by cases hitem⟩
  | cons item items ih =>
    simp only [foldl_cons] at h ⊢
    cases hitem : change state.1 item with
    | none =>
      have hsame : turn change state item = state := by simp [turn, hitem]
      rw [hsame] at h ⊢
      obtain ⟨hstate, hrest⟩ := ih h
      refine ⟨hstate, fun other hother => ?_⟩
      rcases mem_cons.mp hother with rfl | hmem
      · exact hitem
      · exact hrest other hmem
    | some s =>
      have hturn : turn change state item = (s, true) := by simp [turn, hitem]
      have hchanged : (items.foldl (turn change) (s, true)).2 = true := foldl_turn_changed rfl
      rw [hturn, hchanged] at h
      cases h

theorem loop_stable {rounds : Nat} {s t : σ} (hloop : loop change items rounds s = some t) :
    ∀ item ∈ items, change t item = none := by
  induction rounds generalizing s with
  | zero => cases hloop
  | succ _ ih =>
    simp only [loop] at hloop
    split at hloop
    · exact ih hloop
    · rename_i hflag
      obtain ⟨hsame, hnone⟩ := foldl_turn_unchanged (Bool.eq_false_iff.mpr hflag)
      cases hloop
      unfold round
      rw [hsame]
      exact hnone

theorem loop_unique {rounds rounds' : Nat} {s t t' : σ}
    (h : loop change items rounds s = some t) (h' : loop change items rounds' s = some t') :
    t = t' := by
  induction rounds generalizing s rounds' with
  | zero => cases h
  | succ _ ih =>
    cases rounds' with
    | zero => cases h'
    | succ =>
      simp only [loop] at h h'
      split at h
      · rename_i hflag
        rw [if_pos hflag] at h'
        exact ih h h'
      · rename_i hflag
        rw [if_neg hflag] at h'
        cases h
        cases h'
        rfl

theorem foldl_turn_measure {I : σ → Prop} {m : σ → Nat}
    (hchange : ∀ s, I s → ∀ item ∈ items, ∀ s', change s item = some s' →
      I s' ∧ m s' < m s) {state : σ × Bool} (h : I state.1) :
    m (items.foldl (turn change) state).1 ≤ m state.1 ∧
      (state.2 = false → (items.foldl (turn change) state).2 = true →
        m (items.foldl (turn change) state).1 < m state.1) := by
  induction items generalizing state with
  | nil => exact ⟨Nat.le_refl _, fun hunchanged hchanged => by simp [hunchanged] at hchanged⟩
  | cons item _ ih =>
    have hrest := fun s hs other hother => hchange s hs other (mem_cons_of_mem _ hother)
    simp only [foldl_cons]
    cases hitem : change state.1 item with
    | none =>
      have hsame : turn change state item = state := by simp [turn, hitem]
      rw [hsame]
      exact ih hrest h
    | some s =>
      have hturn : turn change state item = (s, true) := by simp [turn, hitem]
      obtain ⟨hs, hless⟩ := hchange _ h item mem_cons_self s hitem
      rw [hturn]
      have hle := (ih hrest (show I (s, true).1 from hs)).1
      have hlt := Nat.lt_of_le_of_lt hle hless
      exact ⟨Nat.le_of_lt hlt, fun _ _ => hlt⟩

/-- The termination rule: a decreasing measure bounds the rounds. -/
theorem loop_total {I : σ → Prop} {m : σ → Nat}
    (hchange : ∀ s, I s → ∀ item ∈ items, ∀ s', change s item = some s' →
      I s' ∧ m s' < m s) {rounds : Nat} {s : σ} (h : I s) (hrounds : m s < rounds) :
    ∃ t, loop change items rounds s = some t := by
  induction rounds generalizing s with
  | zero => exact absurd hrounds (Nat.not_lt_zero _)
  | succ _ ih =>
    simp only [loop]
    split
    · rename_i hflag
      refine ih (foldl_turn_preserves (fun s hs item hitem s' hs' =>
        (hchange s hs item hitem s' hs').1) h) ?_
      have hless := (foldl_turn_measure hchange (show I (s, false).1 from h)).2 rfl hflag
      exact Nat.lt_of_lt_of_le hless (Nat.le_of_lt_succ hrounds)
    · exact ⟨_, rfl⟩

end Rounds
