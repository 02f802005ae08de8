import SpaceWorks.Library.Checked
import SpaceWorks.Library.Table

/-!
# Checked postings to accounts

An account is a row with a balance in an additive group.  A posting adds an entry to the balance of
one account, after a check of the row.
-/

universe u v w x

open Checked List

/-- Rows with a balance that entries can be added to. -/
class Account (ρ : Type u) {κ : outParam (Type v)} [Keyed ρ κ]
    (M : outParam (Type w)) [AddCommGroup M] where
  balance : ρ → M
  /-- Add an entry to the balance. -/
  post : M → ρ → ρ
  key_post : ∀ (m : M) (r : ρ), key (post m r) = key r
  balance_post : ∀ (m : M) (r : ρ), balance (post m r) = balance r + m
  post_zero : ∀ r : ρ, post 0 r = r
  post_post : ∀ (m n : M) (r : ρ), post n (post m r) = post (m + n) r

namespace Account

attribute [simp] key_post balance_post post_zero post_post

end Account

open Account

/-- An entry for an account, with its check. -/
structure Posting (ρ : Type u) (κ : Type v) (M : Type w) (ε : Type x) where
  account : κ
  entry : M
  check : ρ → Except ε PUnit.{u + 1}

section Entries

variable {ρ : Type u} {κ : Type v} {M : Type w} [AddCommGroup M] {ε : Type x}
variable [DecidableEq κ]

def Posting.total (ps : List (Posting ρ κ M ε)) (k : κ) : M :=
  (ps.map fun p => if k = p.account then p.entry else 0).sum

@[simp] theorem Posting.total_nil (k : κ) :
    Posting.total ([] : List (Posting ρ κ M ε)) k = 0 := rfl

@[simp] theorem Posting.total_cons (p : Posting ρ κ M ε) (ps : List (Posting ρ κ M ε)) (k : κ) :
    Posting.total (p :: ps) k = (if k = p.account then p.entry else 0) + Posting.total ps k := by
  simp [Posting.total]

theorem Posting.total_map {β : Type u} (xs : List β) (f : β → Posting ρ κ M ε) (k : κ) :
    Posting.total (xs.map f) k =
      (xs.map fun x => if k = (f x).account then (f x).entry else 0).sum := by
  simp [Posting.total, Function.comp_def]

end Entries

section Credit

variable {ρ : Type u} {κ : Type v} [Keyed ρ κ] {M : Type w} [AddCommGroup M]
variable [Account ρ M]

namespace Table

/-- Add to every account the entry that `d` gives for its key. -/
def credit (t : Table ρ) (d : κ → M) : Table ρ :=
  t.mapRows (fun r => post (d (key r)) r) (by simp)

theorem mem_credit {t : Table ρ} {d : κ → M} {x : ρ} :
    x ∈ t.credit d ↔ ∃ r ∈ t, post (d (key r)) r = x :=
  mem_mapRows

theorem get?_credit [DecidableEq κ] (t : Table ρ) (d : κ → M) (k : κ) :
    (t.credit d).get? k = (t.get? k).map fun r => post (d k) r := by
  rw [credit, get?_mapRows]
  cases hget : t.get? k with
  | none => rfl
  | some => simp [key_of_get? hget]

@[simp] theorem credit_zero (t : Table ρ) : t.credit (fun _ => (0 : M)) = t := by
  apply Table.ext
  simp [credit, mapRows]

@[simp] theorem credit_credit (t : Table ρ) (d e : κ → M) :
    (t.credit d).credit e = t.credit fun k => d k + e k := by
  apply Table.ext
  simp [credit, mapRows]

theorem put_post [DecidableEq κ] {t : Table ρ} {k : κ} {r : ρ} (h : t.get? k = some r) (m : M) :
    t.put (post m r) = t.credit fun k' => if k' = k then m else 0 := by
  obtain ⟨hr, rfl⟩ := get?_eq_some.mp h
  apply Table.ext
  refine map_congr_left fun y hy => ?_
  by_cases hk : key y = key r
  · have hyr : y = r := eq_of_key_eq hy hr hk
    simp [hyr]
  · simp [hk]

end Table

variable {ε : Type x} [DecidableEq κ]

/-- Refused when the account is missing or fails the check. -/
def Posting.book (missing : ε) (t : Table ρ) (p : Posting ρ κ M ε) :
    Except ε (Table ρ) := do
  let row ← orRefuse (t.get? p.account) missing
  p.check row
  return t.put (post p.entry row)

def bookAll (missing : ε) (t : Table ρ) (ps : List (Posting ρ κ M ε)) :
    Except ε (Table ρ) :=
  ps.foldlM (Posting.book missing) t

variable {missing : ε}

theorem Posting.book_ok {t t' : Table ρ} {p : Posting ρ κ M ε} :
    p.book missing t = .ok t' ↔ ∃ r, t.get? p.account = some r ∧ p.check r = .ok ⟨⟩ ∧
        t' = t.put (post p.entry r) := by
  simp only [book, bind_ok, orRefuse_ok, pure_ok]
  constructor
  · rintro ⟨r, hr, _, hcheck, rfl⟩
    exact ⟨r, hr, hcheck, rfl⟩
  · rintro ⟨r, hr, hcheck, rfl⟩
    exact ⟨r, hr, ⟨⟩, hcheck, rfl⟩

/-- Booked postings credit every account with its total. -/
theorem bookAll_eq_credit {t t' : Table ρ} {ps : List (Posting ρ κ M ε)}
    (h : bookAll missing t ps = .ok t') :
    t' = t.credit (Posting.total ps) := by
  induction ps generalizing t with
  | nil =>
    have ht : t = t' := by simpa [bookAll] using h
    rw [← ht]
    exact (Table.credit_zero t).symm
  | cons _ _ ih =>
    simp [bookAll] at h
    obtain ⟨_, hm, hrest⟩ := h
    obtain ⟨_, hr, -, rfl⟩ := Posting.book_ok.mp hm
    rw [ih hrest, Table.put_post hr, Table.credit_credit]
    congr 1

/-- What every checked entry keeps of a row, the list keeps of all. -/
theorem bookAll_rows {I : ρ → Prop} {t t' : Table ρ} {ps : List (Posting ρ κ M ε)}
    (hentry : ∀ p ∈ ps, ∀ r, key r = p.account → I r → p.check r = .ok ⟨⟩ →
      I (post p.entry r)) (h : bookAll missing t ps = .ok t') (hrows : ∀ r ∈ t, I r) :
    ∀ r ∈ t', I r := by
  refine foldlM_preserves (I := fun t : Table ρ => ∀ r ∈ t, I r) ?_ hrows h
  intro m p m' hp hm hbook r hr
  obtain ⟨old, hold, hcheck, rfl⟩ := Posting.book_ok.mp hbook
  rcases Table.mem_of_mem_put hr with rfl | ⟨hr, -⟩
  · exact hentry p hp old (Table.key_of_get? hold) (hm old (Table.mem_of_get? hold)) hcheck
  · exact hm r hr

theorem bookAll_account {t t' : Table ρ} {ps : List (Posting ρ κ M ε)}
    (h : bookAll missing t ps = .ok t') {p : Posting ρ κ M ε} (hp : p ∈ ps) :
    ∃ r, t.get? p.account = some r := by
  induction ps generalizing t with
  | nil => simp at hp
  | cons _ _ ih =>
    simp [bookAll] at h
    obtain ⟨_, hm, hrest⟩ := h
    obtain ⟨r, hr, -, rfl⟩ := Posting.book_ok.mp hm
    rcases mem_cons.mp hp with rfl | hp
    · exact ⟨r, hr⟩
    · obtain ⟨_, hr'⟩ := ih hrest hp
      rw [Table.put_post hr, Table.get?_credit] at hr'
      obtain ⟨x, hx, -⟩ := Option.map_eq_some_iff.mp hr'
      exact ⟨x, hx⟩

end Credit
