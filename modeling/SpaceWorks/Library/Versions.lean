import SpaceWorks.Library.Table

/-!
# Versioned rows

A row that is copied elsewhere carries a version number, and the copy is refreshed when it has
grown.  `Announces` relates tables whose rows are all superseded.
-/

namespace Versions

universe u v w

variable {ρ : Type u} {κ : Type v} [Keyed ρ κ] {γ δ : Type w}
variable {fixed : ρ → δ} {content : ρ → γ} {version : ρ → Nat}

/-- A later row that every copy of the earlier one takes over. -/
structure Supersedes (fixed : ρ → δ) (content : ρ → γ) (version : ρ → Nat) (old new : ρ) :
    Prop where
  same : fixed new = fixed old
  newer : version old < version new ∨ (content new = content old ∧ version old = version new)

theorem supersedes_refl (row : ρ) : Supersedes fixed content version row row :=
  ⟨rfl, .inr ⟨rfl, rfl⟩⟩

theorem supersedes_trans {a b c : ρ}
    (hab : Supersedes fixed content version a b) (hbc : Supersedes fixed content version b c) :
    Supersedes fixed content version a c := by
  refine ⟨hbc.same.trans hab.same, ?_⟩
  rcases hab.newer with _ | ⟨hcontent, hversion⟩
  · refine .inl ?_
    rcases hbc.newer with _ | ⟨-, _⟩ <;> omega
  · rcases hbc.newer with _ | ⟨hcontent', hversion'⟩
    · refine .inl ?_
      omega
    · exact .inr ⟨hcontent'.trans hcontent, hversion.trans hversion'⟩

theorem le_of_supersedes {old new : ρ} (h : Supersedes fixed content version old new) :
    version old ≤ version new := by
  rcases h.newer with h | ⟨-, h⟩ <;> omega

theorem lt_of_supersedes {old new : ρ} (h : Supersedes fixed content version old new)
    (hne : content new ≠ content old) :
    version old < version new := by
  rcases h.newer with h | ⟨hsame, -⟩
  · exact h
  · exact absurd hsame hne

variable [DecidableEq κ]

/-- Every row is superseded by the one under its key. -/
def Announces (fixed : ρ → δ) (content : ρ → γ) (version : ρ → Nat) (t t' : Table ρ) : Prop :=
  ∀ k old, t.get? k = some old →
    ∃ new, t'.get? k = some new ∧ Supersedes fixed content version old new

variable {t t' t'' : Table ρ}

theorem announces_refl (t : Table ρ) : Announces fixed content version t t :=
  fun _ old hold => ⟨old, hold, supersedes_refl old⟩

theorem announces_trans
    (h : Announces fixed content version t t') (h' : Announces fixed content version t' t'') :
    Announces fixed content version t t'' := by
  intro k old hold
  obtain ⟨mid, hmid, hfirst⟩ := h k old hold
  obtain ⟨new, hnew, hsecond⟩ := h' k mid hmid
  exact ⟨new, hnew, supersedes_trans hfirst hsecond⟩

/-- One more write, superseding as the first table had it. -/
theorem announces_put (old : ρ) {new : ρ} (h : Announces fixed content version t t')
    (hold : t.get? (key new) = some old) (hnew : Supersedes fixed content version old new) :
    Announces fixed content version t (t'.put new) := by
  intro k row hrow
  obtain ⟨mid, hmid, hsup⟩ := h k row hrow
  by_cases hk : k = key new
  · subst hk
    obtain rfl : row = old := Option.some.inj (hrow.symm.trans hold)
    exact ⟨new, Table.get?_put_self hmid, hnew⟩
  · exact ⟨mid, (Table.get?_put_of_ne t' hk).trans hmid, hsup⟩

theorem announces_insert {row : ρ} (hrow : t.get? (key row) = none) :
    Announces fixed content version t (t.insert row hrow) := by
  intro k old hold
  have hne : k ≠ key row := by
    rintro rfl
    rw [hrow] at hold
    cases hold
  exact ⟨old, by rw [Table.get?_insert, if_neg hne, hold], supersedes_refl old⟩

end Versions
