import Mathlib.Data.List.Induction

/-!
# Runs of transactional systems

A transactional system answers a request with a new committed state or with an error, which rolls it
back.  `Reach` is reachability from initial states.
-/

namespace TransactionalSystem

universe u v w

section Runs

variable {σ : Type u} {α : Type v} {ε : Type w}
variable (step : σ → α → Except ε σ)

/-- The committed state, or the old one. -/
def settle (s : σ) (a : α) : σ :=
  match step s a with
  | .ok s' => s'
  | .error _ => s

/-- A finite sequence of requests, each committing whole or refused. -/
def run (s : σ) : List α → σ
  | [] => s
  | a :: as => run (settle step s a) as

variable {step}

theorem settle_ok {s s' : σ} {a : α} (h : step s a = .ok s') :
    settle step s a = s' := by
  simp [settle, h]

theorem settle_error {s : σ} {a : α} {e : ε} (h : step s a = .error e) :
    settle step s a = s := by
  simp [settle, h]

@[simp] theorem run_nil (s : σ) : run step s [] = s := rfl

@[simp] theorem run_cons (s : σ) (a : α) (as : List α) :
    run step s (a :: as) = run step (settle step s a) as := rfl

theorem run_append (s : σ) (as bs : List α) :
    run step s (as ++ bs) = run step (run step s as) bs := by
  induction as generalizing s with
  | nil => rfl
  | cons _ _ ih => simp [ih]

/-- Committed requests keep `I`. -/
def Preserves (step : σ → α → Except ε σ) (I : σ → Prop) : Prop :=
  ∀ ⦃s : σ⦄ ⦃a : α⦄ ⦃s' : σ⦄, I s → step s a = .ok s' → I s'

theorem Preserves.settle {I : σ → Prop} (hstep : Preserves step I) {s : σ} (hs : I s) (a : α) :
    I (settle step s a) := by
  cases h : step s a with
  | ok =>
    rw [settle_ok h]
    exact hstep hs h
  | error =>
    rw [settle_error h]
    exact hs

/-- The run rule: what every committed request preserves, every run does. -/
theorem run_preserves {I : σ → Prop} (hstep : Preserves step I) {s : σ} (hs : I s) (as : List α) :
    I (run step s as) := by
  induction as generalizing s with
  | nil => exact hs
  | cons a _ ih => exact ih (hstep.settle hs a)

/-- A transitive relation that committed requests respect holds across runs. -/
theorem run_relates {R : σ → σ → Prop} (hrefl : ∀ s, R s s)
    (htrans : ∀ {s t u}, R s t → R t u → R s u) (hstep : ∀ {s a s'}, step s a = .ok s' → R s s')
    (s : σ) (as : List α) :
    R s (run step s as) := by
  induction as generalizing s with
  | nil => exact hrefl s
  | cons a _ ih =>
    have hfirst : R s (settle step s a) := by
      cases h : step s a with
      | ok => exact settle_ok h ▸ hstep h
      | error => exact (settle_error h).symm ▸ hrefl s
    exact htrans hfirst (ih _)

/-- The simulation rule: when every committed request is a run of the abstract system, so is every
run. -/
theorem run_simulates {τ β ε' : Type*} {step' : τ → β → Except ε' τ} (view : σ → τ)
    (Allows : α → β → Prop) (hstep : ∀ {s a s'}, step s a = .ok s' →
      ∃ bs, view s' = run step' (view s) bs ∧ ∀ b ∈ bs, Allows a b) (s : σ) (as : List α) :
    ∃ bs, view (run step s as) = run step' (view s) bs ∧ ∀ b ∈ bs, ∃ a ∈ as, Allows a b := by
  induction as generalizing s with
  | nil => exact ⟨[], rfl, nofun⟩
  | cons a as ih =>
    obtain ⟨later, hlater, hall⟩ := ih (settle step s a)
    have hrest : ∀ b ∈ later, ∃ a' ∈ a :: as, Allows a' b := fun b hb =>
      (hall b hb).imp fun _ h => ⟨.tail _ h.1, h.2⟩
    cases h : step s a with
    | error => exact ⟨later, by rw [run_cons, hlater, settle_error h], hrest⟩
    | ok =>
      obtain ⟨first, hfirst, hallows⟩ := hstep h
      refine ⟨first ++ later, ?_, fun b hb => ?_⟩
      · rw [run_cons, hlater, settle_ok h, run_append, ← hfirst]
      · rcases List.mem_append.mp hb with hb | hb
        · exact ⟨a, .head _, hallows b hb⟩
        · exact hrest b hb

theorem run_history {s₀ : σ} {I : List α → σ → Prop} (hinit : I [] s₀)
    (hcommit : ∀ {as s a s'}, I as s → run step s₀ as = s → step s a = .ok s' →
      I (as ++ [a]) s') (hrefuse : ∀ {as s a e}, I as s → run step s₀ as = s → step s a = .error e →
      I (as ++ [a]) s) (as : List α) :
    I as (run step s₀ as) := by
  induction as using List.reverseRecOn with
  | nil => exact hinit
  | append_singleton as a ih =>
    rw [run_append, run_cons, run_nil]
    cases h : step (run step s₀ as) a with
    | ok => exact settle_ok h ▸ hcommit ih rfl h
    | error => exact (settle_error h).symm ▸ hrefuse ih rfl h

/-- Every request meets the condition where it is made. -/
def Throughout (step : σ → α → Except ε σ) (P : σ → α → Prop) : σ → List α → Prop
  | _, [] => True
  | s, a :: as => P s a ∧ Throughout step P (settle step s a) as

instance Throughout.decidable
    (step : σ → α → Except ε σ) (P : σ → α → Prop) [∀ s a, Decidable (P s a)] :
    (s : σ) → (as : List α) → Decidable (Throughout step P s as)
  | _, [] => inferInstanceAs (Decidable True)
  | s, a :: as =>
    letI := Throughout.decidable step P (settle step s a) as
    inferInstanceAs (Decidable (P s a ∧ Throughout step P (settle step s a) as))

theorem throughout_of_forall {P : α → Prop} (s : σ) {as : List α} (h : ∀ a ∈ as, P a) :
    Throughout step (fun _ a => P a) s as := by
  induction as generalizing s with
  | nil => trivial
  | cons a _ ih =>
    exact ⟨h a List.mem_cons_self, ih _ fun b hb => h b (List.mem_cons_of_mem a hb)⟩

theorem throughout_append {P : σ → α → Prop} {s : σ} {as bs : List α} :
    Throughout step P s (as ++ bs) ↔
      Throughout step P s as ∧ Throughout step P (run step s as) bs := by
  induction as generalizing s with
  | nil => simp [Throughout]
  | cons _ _ ih => simp [Throughout, ih, and_assoc]

theorem run_preserves_throughout {I : σ → Prop} {P : σ → α → Prop}
    (hstep : ∀ {s a s'}, I s → P s a → step s a = .ok s' → I s')
    {s : σ} {as : List α} (hs : I s) (h : Throughout step P s as) :
    I (run step s as) := by
  induction as generalizing s with
  | nil => exact hs
  | cons a _ ih =>
    obtain ⟨hfirst, hrest⟩ := h
    refine ih ?_ hrest
    cases hsettle : step s a with
    | ok => exact settle_ok hsettle ▸ hstep hs hfirst hsettle
    | error => exact (settle_error hsettle).symm ▸ hs

theorem throughout_congr {I : σ → Prop} {P Q : σ → α → Prop} (hiff : ∀ {s a}, I s → (P s a ↔ Q s a))
    (hkeep : ∀ {s a s'}, I s → Q s a → step s a = .ok s' → I s') {s : σ} (hs : I s) (as : List α) :
    Throughout step P s as ↔ Throughout step Q s as := by
  induction as generalizing s with
  | nil => exact Iff.rfl
  | cons a _ ih =>
    have hnext : Q s a → I (settle step s a) := by
      intro hq
      cases hsettle : step s a with
      | ok => exact settle_ok hsettle ▸ hkeep hs hq hsettle
      | error => exact (settle_error hsettle).symm ▸ hs
    rw [Throughout, Throughout, hiff hs]
    exact and_congr_right fun hq => ih (hnext hq)

end Runs

section

variable {σ : Type u} {τ : Type u} {α : Type v} {ε : Type w}
variable {step : σ → α → Except ε σ} {step' : τ → α → Except ε τ}

inductive Commits (step : σ → α → Except ε σ) : σ → List α → σ → Prop
  | nil (s : σ) : Commits step s [] s
  | cons {s t u : σ} {a : α} {as : List α}
      (hstep : step s a = .ok t) (hrest : Commits step t as u) :
      Commits step s (a :: as) u

theorem Commits.snoc {s t u : σ} {as : List α} {a : α}
    (h : Commits step s as t) (hstep : step t a = .ok u) :
    Commits step s (as ++ [a]) u := by
  induction h with
  | nil => exact .cons hstep (.nil u)
  | cons hfirst _ ih => exact .cons hfirst (ih hstep)

def Reach (step : σ → α → Except ε σ) (init : σ → Prop) (s : σ) : Prop :=
  ∃ s₀ as, init s₀ ∧ run step s₀ as = s

variable {step : σ → α → Except ε σ} {init : σ → Prop}

theorem Reach.induct {I : σ → Prop} (hinit : ∀ s, init s → I s) (hstep : Preserves step I)
    {s : σ} (h : Reach step init s) :
    I s := by
  obtain ⟨s₀, as, h₀, rfl⟩ := h
  exact run_preserves hstep (hinit s₀ h₀) as

end

end TransactionalSystem
