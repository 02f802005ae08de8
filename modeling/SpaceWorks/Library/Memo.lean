import Mathlib.Data.List.Basic

/-!
# Remembered calls

A `Memo f` remembers values of `f`, as a field says, so a call through it is a call of `f`.
-/

universe u v

namespace List

variable {κ : Type u} {ν : Type v} [DecidableEq κ]

theorem lookup_eq_some_of_forall {entries : List (κ × ν)} {k : κ} {v : ν}
    (hmem : k ∈ entries.map Prod.fst) (hall : ∀ entry ∈ entries, entry.1 = k → entry.2 = v) :
    entries.lookup k = some v := by
  induction entries with
  | nil => cases hmem
  | cons entry _ ih =>
    rw [lookup_cons]
    cases hk : k == entry.1 with
    | true => exact congrArg some (hall entry (.head _) (eq_of_beq hk).symm)
    | false =>
      refine ih ?_ fun other hother => hall other (.tail _ hother)
      exact (mem_cons.mp hmem).resolve_left (ne_of_beq_false hk)

theorem mem_of_lookup_eq_some
    {entries : List (κ × ν)} {k : κ} {v : ν} (h : entries.lookup k = some v) :
    (k, v) ∈ entries := by
  induction entries with
  | nil => cases h
  | cons entry _ ih =>
    rw [lookup_cons] at h
    cases hk : k == entry.1 with
    | true =>
      rw [hk] at h
      rw [eq_of_beq hk, ← Option.some.inj h]
      exact .head _
    | false =>
      rw [hk] at h
      exact .tail _ (ih h)

end List

variable {κ : Type u} {ν : Type v}

structure Memo (f : κ → ν) where
  entries : List (κ × ν) := []
  /-- Each remembered value is the value of the function. -/
  sound : ∀ entry ∈ entries, entry.2 = f entry.1 := by simp

namespace Memo

variable {f : κ → ν} [DecidableEq κ]

def remember (memo : Memo f) (k : κ) : Memo f where
  entries := (k, f k) :: memo.entries
  sound := by
    intro entry hentry
    cases List.mem_cons.mp hentry with
    | inl h => rw [h]
    | inr h => exact memo.sound entry h

/-- A call: a remembered value, or a new one that is then remembered. -/
def call (memo : Memo f) (k : κ) : ν × Memo f :=
  match memo.entries.lookup k with
  | some v => (v, memo)
  | none => (f k, memo.remember k)

@[simp] theorem call_fst (memo : Memo f) (k : κ) : (memo.call k).1 = f k := by
  unfold call
  split
  · next v hlookup => exact memo.sound (k, v) (List.mem_of_lookup_eq_some hlookup)
  · rfl

end Memo
