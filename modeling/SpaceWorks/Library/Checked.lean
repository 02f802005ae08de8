import Mathlib.Data.List.Forall2

/-!
# Computations that may refuse

A checked computation is an `Except`.  It refuses by a failed requirement, a missing value or a
refused part; each has an inversion lemma, and loops have an invariant rule.
-/

namespace Checked

open List

universe u v w

variable {ε γ : Type u} {α : Type v} {β : Type v}

/-- Refuse with `e` unless the condition holds. -/
def require (c : Prop) [Decidable c] (e : ε) : Except ε PUnit :=
  if c then .ok ⟨⟩ else .error e

def orRefuse (o : Option α) (e : ε) : Except ε α :=
  match o with
  | some a => .ok a
  | none => .error e

@[simp] theorem require_ok {c : Prop} [Decidable c] {e : ε} {u : PUnit} :
    require c e = .ok u ↔ c := by
  unfold require
  split <;> simp_all

@[simp] theorem require_eq_error {c : Prop} [Decidable c] {e e' : ε} :
    require c e = .error e' ↔ ¬ c ∧ e = e' := by
  unfold require
  split <;> simp_all

@[simp] theorem orRefuse_ok {o : Option α} {e : ε} {a : α} :
    orRefuse o e = .ok a ↔ o = some a := by
  cases o <;> simp [orRefuse]

@[simp] theorem orRefuse_some (e : ε) (a : α) :
    orRefuse (some a) e = .ok a := rfl

@[simp] theorem orRefuse_none (e : ε) :
    orRefuse (none : Option α) e = .error e := rfl

@[simp] theorem bind_ok {x : Except ε α} {f : α → Except ε β} {b : β} :
    (x >>= f) = .ok b ↔ ∃ a, x = .ok a ∧ f a = .ok b := by
  cases x with
  | error | ok => simp [bind, Except.bind]

theorem bind_eq_error {x : Except ε α} {f : α → Except ε β} {e : ε} :
    (x >>= f) = .error e ↔ x = .error e ∨ ∃ a, x = .ok a ∧ f a = .error e := by
  cases x with
  | error | ok => simp [bind, Except.bind]

theorem refused_later {x : Except ε α} {f : α → Except ε β} {e : ε}
    (h : (x >>= f) = .error e) (hx : x ≠ .error e) :
    ∃ a, x = .ok a ∧ f a = .error e :=
  (bind_eq_error.mp h).resolve_left hx

@[simp] theorem orRefuse_eq_error {o : Option α} {e e' : ε} :
    orRefuse o e = .error e' ↔ o = none ∧ e = e' := by
  cases o <;> simp [orRefuse]

@[simp] theorem pure_eq_error {a : α} {e : ε} :
    (pure a : Except ε α) = .error e ↔ False := by
  simp [pure, Except.pure]

@[simp] theorem mapError_eq_error {x : Except γ α} {f : γ → ε} {e : ε} :
    x.mapError f = .error e ↔ ∃ e', x = .error e' ∧ f e' = e := by
  cases x <;> simp [Except.mapError]

@[simp] theorem mapError_eq_ok {x : Except γ α} {f : γ → ε} {a : α} :
    x.mapError f = .ok a ↔ x = .ok a := by
  cases x <;> simp [Except.mapError]

@[simp] theorem pure_ok {a b : α} :
    (pure a : Except ε α) = .ok b ↔ a = b := by
  simp [pure, Except.pure]

@[simp] theorem throw_eq_ok {e : ε} {b : α} :
    (throw e : Except ε α) = .ok b ↔ False := by
  simp [throw, throwThe, MonadExceptOf.throw]

@[simp] theorem map_eq_ok {x : Except ε α} {f : α → β} {b : β} :
    (f <$> x) = .ok b ↔ ∃ a, x = .ok a ∧ f a = b := by
  cases x with
  | error | ok => simp [Functor.map, Except.map]

@[simp] theorem map_eq_error {x : Except ε α} {f : α → β} {e : ε} :
    (f <$> x) = .error e ↔ x = .error e := by
  cases x with
  | error | ok => simp [Functor.map, Except.map]

section Loops

variable {σ : Type v} {γ : Type w}

@[simp] theorem forM_eq_ok {f : γ → Except ε PUnit} {xs : List γ} {u : PUnit} :
    forM xs f = .ok u ↔ ∀ x ∈ xs, f x = .ok ⟨⟩ := by
  induction xs with
  | nil => simp
  | cons _ _ ih =>
    rw [forM_cons, bind_ok, forall_mem_cons, ← ih]
    exact ⟨fun ⟨_, hx, hrest⟩ => ⟨hx, hrest⟩, fun ⟨hx, hrest⟩ => ⟨⟨⟩, hx, hrest⟩⟩

theorem mapM_eq_ok {f : γ → Except ε β} {xs : List γ} {ys : List β} :
    xs.mapM f = .ok ys ↔ List.Forall₂ (fun x y => f x = .ok y) xs ys := by
  induction xs generalizing ys with
  | nil =>
    rw [mapM_nil, pure_ok, forall₂_nil_left_iff, eq_comm]
  | cons _ _ ih =>
    simp only [mapM_cons, bind_ok, pure_ok, forall₂_cons_left_iff]
    constructor
    · rintro ⟨y, hy, zs, hzs, rfl⟩
      exact ⟨y, zs, hy, ih.mp hzs, rfl⟩
    · rintro ⟨y, zs, hy, hzs, rfl⟩
      exact ⟨y, hy, zs, ih.mpr hzs, rfl⟩

theorem foldlM_preserves {f : σ → γ → Except ε σ} {I : σ → Prop} {xs : List γ} {s t : σ}
    (hstep : ∀ s x s', x ∈ xs → I s → f s x = .ok s' → I s') (hs : I s)
    (h : xs.foldlM f s = .ok t) :
    I t := by
  induction xs generalizing s with
  | nil =>
    have hst : s = t := by simpa using h
    exact hst ▸ hs
  | cons x _ ih =>
    simp at h
    obtain ⟨m, hm, hrest⟩ := h
    have hI : I m := hstep s x m (by simp) hs hm
    exact ih (fun s y s' hy => hstep s y s' (by simp [hy])) hI hrest

end Loops

end Checked
