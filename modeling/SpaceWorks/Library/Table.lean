import Mathlib.Algebra.Order.BigOperators.Group.List
import Mathlib.Data.List.Nodup
import Mathlib.Tactic.Abel
/-!
# Tables of rows with a primary key

A `Table` is a list of rows in which no primary key occurs twice.  `put` writes over the row with a
key, `insert` adds a row, `mapRows` rewrites all; `sum` totals a quantity.
-/

universe u v w

/-- Rows that carry their own primary key. -/
class Keyed (ρ : Type u) (κ : outParam (Type v)) where
  key : ρ → κ

export Keyed (key)

structure Table (ρ : Type u) {κ : Type v} [Keyed ρ κ] where
  /-- The rows, in the order of their insertion. -/
  rows : List ρ
  /-- No key occurs twice. -/
  nodup : (rows.map key).Nodup

namespace Table

open List Option

variable {ρ : Type u} {κ : Type v} [Keyed ρ κ]

instance : Membership ρ (Table ρ) where
  mem t r := r ∈ t.rows

instance : EmptyCollection (Table ρ) where
  emptyCollection := ⟨[], by simp⟩

theorem mem_def {t : Table ρ} {r : ρ} : r ∈ t ↔ r ∈ t.rows := Iff.rfl

@[simp] theorem notMem_empty (r : ρ) : r ∉ (∅ : Table ρ) :=
  not_mem_nil

@[ext] theorem ext {t t' : Table ρ} (h : t.rows = t'.rows) : t = t' := by
  cases t
  cases t'
  simp_all

theorem eq_of_key_eq {t : Table ρ} {r r' : ρ} (hr : r ∈ t) (hr' : r' ∈ t)
    (hkey : key r = key r') : r = r' :=
  inj_on_of_nodup_map t.nodup hr hr' hkey

section Lookup

variable [DecidableEq κ]

def get? (t : Table ρ) (k : κ) : Option ρ :=
  t.rows.find? fun r => key r = k

theorem get?_eq_some {t : Table ρ} {k : κ} {r : ρ} : t.get? k = some r ↔ r ∈ t ∧ key r = k := by
  constructor
  · intro h
    exact ⟨List.mem_of_find?_eq_some h, by simpa using List.find?_some h⟩
  · rintro ⟨hr, rfl⟩
    cases hfound : t.get? (key r) with
    | none =>
      have hnone := List.find?_eq_none.mp hfound r hr
      simp at hnone
    | some r' =>
      have hmem : r' ∈ t := List.mem_of_find?_eq_some hfound
      have hkey : key r' = key r := by simpa using List.find?_some hfound
      rw [eq_of_key_eq hmem hr hkey]

theorem get?_key {t : Table ρ} {r : ρ} (hr : r ∈ t) : t.get? (key r) = some r :=
  get?_eq_some.mpr ⟨hr, rfl⟩

theorem get?_eq_none {t : Table ρ} {k : κ} : t.get? k = none ↔ ∀ r ∈ t, key r ≠ k := by
  simp [get?, mem_def]

theorem mem_of_get? {t : Table ρ} {k : κ} {r : ρ} (h : t.get? k = some r) : r ∈ t :=
  (get?_eq_some.mp h).1

theorem key_of_get? {t : Table ρ} {k : κ} {r : ρ} (h : t.get? k = some r) : key r = k :=
  (get?_eq_some.mp h).2

@[simp] theorem get?_empty (k : κ) : (∅ : Table ρ).get? k = none := rfl

end Lookup

section Writes

def mapRows (t : Table ρ) (f : ρ → ρ) (hf : ∀ r, key (f r) = key r) : Table ρ where
  rows := t.rows.map f
  nodup := by
    have hkeys : (key ∘ f : ρ → κ) = key := funext hf
    simpa [hkeys] using t.nodup

theorem mem_mapRows {t : Table ρ} {f : ρ → ρ} {hf : ∀ r, key (f r) = key r} {x : ρ} :
    x ∈ t.mapRows f hf ↔ ∃ r ∈ t, f r = x := by
  simp [mem_def, mapRows]

variable [DecidableEq κ]

/-- Write a row over the one with its key, if there is one. -/
def put (t : Table ρ) (r : ρ) : Table ρ :=
  t.mapRows (fun x => if key x = key r then r else x) (by
    intro x
    split <;> simp_all)

def insert (t : Table ρ) (r : ρ) (h : t.get? (key r) = none) : Table ρ where
  rows := t.rows ++ [r]
  nodup := by
    have hfresh := get?_eq_none.mp h
    rw [map_append]
    refine nodup_append.mpr ⟨t.nodup, nodup_singleton _, ?_⟩
    intro a ha b hb
    obtain ⟨x, hx, rfl⟩ := List.mem_map.mp ha
    have hb' : b = key r := by simpa using hb
    exact hb' ▸ hfresh x hx

/-- Add a row, or refuse with `e` when its key is in use. -/
def insertNew {ε : Type w} (t : Table ρ) (r : ρ) (e : ε) : Except ε (Table ρ) :=
  if h : t.get? (key r) = none then .ok (t.insert r h) else .error e

theorem insertNew_ok {ε : Type w} {t t' : Table ρ} {r : ρ} {e : ε} :
    t.insertNew r e = .ok t' ↔ ∃ h, t' = t.insert r h := by
  unfold insertNew
  split
  · next h => simp [h, eq_comm]
  · next h => simp [h]

theorem get?_mapRows (t : Table ρ) (f : ρ → ρ) (hf : ∀ r, key (f r) = key r) (k : κ) :
    (t.mapRows f hf).get? k = (t.get? k).map f := by
  simp [get?, mapRows, List.find?_map, Function.comp_def, hf]

theorem get?_put (t : Table ρ) (r : ρ) (k : κ) :
    (t.put r).get? k =
      if k = key r then (t.get? k).map (fun _ => r) else t.get? k := by
  rw [put, get?_mapRows]
  cases hfound : t.get? k with
  | none => simp
  | some x =>
    have hx : key x = k := key_of_get? hfound
    by_cases hk : k = key r <;> simp [hx, hk]

theorem put_put (t : Table ρ) {r r' : ρ} (h : key r = key r') : (t.put r).put r' = t.put r' := by
  apply Table.ext
  simp only [put, mapRows, List.map_map]
  refine map_congr_left fun x _ => ?_
  by_cases hx : key x = key r' <;> simp [hx, h]

theorem get?_put_self {t : Table ρ} {r old : ρ} (h : t.get? (key r) = some old) :
    (t.put r).get? (key r) = some r := by
  simp [get?_put, h]

theorem get?_put_of_ne (t : Table ρ) {r : ρ} {k : κ} (h : k ≠ key r) :
    (t.put r).get? k = t.get? k := by
  simp [get?_put, h]

theorem get?_insert {t : Table ρ} {r : ρ} (h : t.get? (key r) = none) (k : κ) :
    (t.insert r h).get? k = if k = key r then some r else t.get? k := by
  have hsplit : (t.insert r h).get? k =
      (t.get? k).or (if key r = k then some r else none) := by
    simp only [get?, insert, List.find?_append]
    by_cases hk : key r = k <;> simp [hk]
  by_cases hk : k = key r
  · subst hk
    simp [hsplit, h]
  · simp [hsplit, hk, Ne.symm hk]

theorem mem_put {t : Table ρ} {r x : ρ} :
    x ∈ t.put r ↔ (x ∈ t ∧ key x ≠ key r) ∨ (x = r ∧ ∃ old ∈ t, key old = key r) := by
  rw [put, mem_mapRows]
  constructor
  · rintro ⟨y, hy, rfl⟩
    by_cases hk : key y = key r
    · exact .inr ⟨by simp [hk], y, hy, hk⟩
    · exact .inl (by simpa [hk] using hy)
  · rintro (⟨hx, hk⟩ | ⟨rfl, old, hold, hk⟩)
    · exact ⟨x, hx, by simp [hk]⟩
    · exact ⟨old, hold, by simp [hk]⟩

theorem mem_of_mem_put {t : Table ρ} {r x : ρ} (h : x ∈ t.put r) :
    x = r ∨ (x ∈ t ∧ key x ≠ key r) := by
  rcases mem_put.mp h with hold | ⟨hx, -⟩
  · exact .inr hold
  · exact .inl hx

theorem mem_put_self {t : Table ρ} {r old : ρ} (h : t.get? (key r) = some old) : r ∈ t.put r :=
  mem_of_get? (get?_put_self h)

theorem map_put {γ : Type w} {t : Table ρ} {r : ρ} {g : ρ → γ}
    (h : ∀ old, t.get? (key r) = some old → g r = g old) :
    (t.put r).rows.map g = t.rows.map g := by
  simp only [put, mapRows, List.map_map]
  refine map_congr_left fun x hx => ?_
  by_cases hkey : key x = key r
  · simp [hkey, h x (hkey ▸ get?_key hx)]
  · simp [hkey]

theorem filter_put {t : Table ρ} {r : ρ} {c : ρ → Bool} (hr : c r = false)
    (hold : ∀ x ∈ t, key x = key r → c x = false) :
    (t.put r).rows.filter c = t.rows.filter c := by
  have hrows : ∀ rows : List ρ, (∀ x ∈ rows, key x = key r → c x = false) →
      (rows.map fun x => if key x = key r then r else x).filter c = rows.filter c := by
    intro rows hrows
    induction rows with
    | nil => rfl
    | cons x _ ih =>
      rw [forall_mem_cons] at hrows
      rw [map_cons, filter_cons, filter_cons, ih hrows.2]
      by_cases hx : key x = key r
      · simp [hx, hr, hrows.1 hx]
      · simp [hx]
  exact hrows t.rows hold

def erase (t : Table ρ) (k : κ) : Table ρ where
  rows := t.rows.filter fun r => key r ≠ k
  nodup := t.nodup.sublist (filter_sublist.map key)

theorem get?_erase (t : Table ρ) (k k' : κ) :
    (t.erase k).get? k' = if k' = k then none else t.get? k' := by
  by_cases hk : k' = k
  · subst hk
    rw [if_pos rfl]
    refine get?_eq_none.mpr fun r hr heq => ?_
    exact of_decide_eq_true (mem_filter.mp hr).2 heq
  · rw [if_neg hk]
    cases hget : t.get? k' with
    | none =>
      refine get?_eq_none.mpr fun r hr => ?_
      exact get?_eq_none.mp hget r (mem_filter.mp hr).1
    | some =>
      obtain ⟨hr, rfl⟩ := get?_eq_some.mp hget
      exact get?_eq_some.mpr ⟨mem_filter.mpr ⟨hr, decide_eq_true hk⟩, rfl⟩

def restrict (t : Table ρ) (p : ρ → Bool) : Table ρ where
  rows := t.rows.filter p
  nodup := t.nodup.sublist (filter_sublist.map key)

omit [DecidableEq κ] in
theorem mem_restrict {t : Table ρ} {p : ρ → Bool} {r : ρ} :
    r ∈ t.restrict p ↔ r ∈ t ∧ p r = true := mem_filter

theorem get?_restrict (t : Table ρ) (p : ρ → Bool) (k : κ) :
    (t.restrict p).get? k = (t.get? k).filter p := by
  cases hget : t.get? k with
  | none =>
    refine get?_eq_none.mpr fun r hr => ?_
    exact get?_eq_none.mp hget r (mem_restrict.mp hr).1
  | some r =>
    obtain ⟨hr, rfl⟩ := get?_eq_some.mp hget
    cases hp : p r with
    | true =>
      rw [filter_some_pos hp]
      exact get?_eq_some.mpr ⟨mem_restrict.mpr ⟨hr, hp⟩, rfl⟩
    | false =>
      rw [filter_some_neg (by simp [hp])]
      refine get?_eq_none.mpr fun x hx hkey => ?_
      obtain ⟨hmem, hpx⟩ := mem_restrict.mp hx
      rw [eq_of_key_eq hmem hr hkey, hp] at hpx
      cases hpx

@[simp] theorem mem_insert {t : Table ρ} {r x : ρ} (h : t.get? (key r) = none) :
    x ∈ t.insert r h ↔ x ∈ t ∨ x = r := by
  simp [mem_def, insert]

/-- Write over or add (`update_or_create`). -/
def updateOrCreate (t : Table ρ) (r : ρ) : Table ρ :=
  if h : t.get? (key r) = none then t.insert r h else t.put r

end Writes

section Sums

variable {M : Type w} [AddCommMonoid M]

def sum (t : Table ρ) (f : ρ → M) : M :=
  (t.rows.map f).sum

theorem sum_congr {t : Table ρ} {f g : ρ → M} (h : ∀ r ∈ t, f r = g r) : t.sum f = t.sum g := by
  unfold sum
  rw [map_congr_left h]

theorem sum_mapRows (t : Table ρ) (g : ρ → ρ) (hg : ∀ r, key (g r) = key r) (f : ρ → M) :
    (t.mapRows g hg).sum f = t.sum (fun r => f (g r)) := by
  simp [sum, mapRows, Function.comp_def]

theorem sum_eq_zero {t : Table ρ} {f : ρ → M} (h : ∀ r ∈ t, f r = 0) : t.sum f = 0 := by
  rw [sum_congr h]
  simp [sum]

theorem sum_filter (t : Table ρ) (c : ρ → Bool) (f : ρ → M) :
    ((t.rows.filter c).map f).sum = t.sum fun r => if c r then f r else 0 := by
  unfold sum
  induction t.rows with
  | nil => rfl
  | cons r _ ih => cases hc : c r <;> simp [hc, ih]

variable [DecidableEq κ]

@[simp] theorem sum_insert {t : Table ρ} {r : ρ} (h : t.get? (key r) = none) (f : ρ → M) :
    (t.insert r h).sum f = t.sum f + f r := by
  simp [sum, insert]

private theorem list_sum_put {r old : ρ} (f : ρ → M) :
    ∀ {rows : List ρ}, (rows.map key).Nodup → old ∈ rows → key old = key r →
      (rows.map fun x => f (if key x = key r then r else x)).sum + f old = (rows.map f).sum + f r
  | [], _, hmem, _ => by simp at hmem
  | x :: xs, hnd, hmem, hkey => by
    simp only [map_cons, nodup_cons] at hnd
    by_cases hx : key x = key r
    · have hrest : (xs.map fun y => f (if key y = key r then r else y)) =
          xs.map f := by
        refine map_congr_left fun y hy => ?_
        have hne : key y ≠ key r := by
          intro hy'
          exact hnd.1 (hx ▸ hy' ▸ mem_map_of_mem hy)
        simp [hne]
      have hold : old = x := by
        rcases mem_cons.mp hmem with rfl | hxs
        · rfl
        · have hin : key old ∈ xs.map key := mem_map_of_mem hxs
          rw [hkey, ← hx] at hin
          exact absurd hin hnd.1
      subst hold
      simp only [map_cons, sum_cons, hx, ↓reduceIte, hrest]
      abel
    · have hmem' : old ∈ xs := by
        rcases mem_cons.mp hmem with rfl | hxs
        · exact absurd hkey hx
        · exact hxs
      have ih := list_sum_put f hnd.2 hmem' hkey
      simp only [map_cons, sum_cons, hx, ↓reduceIte]
      rw [add_assoc, ih, add_assoc]

/-- A write changes the total by the difference of shares. -/
theorem sum_put {t : Table ρ} {r old : ρ} (h : t.get? (key r) = some old) (f : ρ → M) :
    (t.put r).sum f + f old = t.sum f + f r := by
  have hput : (t.put r).sum f =
      (t.rows.map fun x => f (if key x = key r then r else x)).sum := by
    rw [put, sum_mapRows]
    rfl
  rw [hput]
  exact list_sum_put f t.nodup (mem_of_get? h) (key_of_get? h)

theorem sum_put_of_eq {t : Table ρ} {r : ρ} {f : ρ → M}
    (h : ∀ old ∈ t, key old = key r → f old = f r) : (t.put r).sum f = t.sum f := by
  rw [put, sum_mapRows]
  refine sum_congr fun x hx => ?_
  by_cases hk : key x = key r
  · simp [hk, h x hx hk]
  · simp [hk]

end Sums

section Bounds

variable {M : Type w} [AddCommMonoid M] [PartialOrder M] [IsOrderedAddMonoid M]

theorem sum_nonneg {t : Table ρ} {f : ρ → M} (h : ∀ r ∈ t, 0 ≤ f r) : 0 ≤ t.sum f := by
  refine List.sum_nonneg ?_
  intro x hx
  obtain ⟨r, hr, rfl⟩ := List.mem_map.mp hx
  exact h r hr

theorem le_sum {t : Table ρ} {f : ρ → M} (h : ∀ r ∈ t, 0 ≤ f r) {r : ρ} (hr : r ∈ t) :
    f r ≤ t.sum f := by
  refine single_le_sum ?_ (f r) (mem_map_of_mem hr)
  intro x hx
  obtain ⟨y, hy, rfl⟩ := List.mem_map.mp hx
  exact h y hy

end Bounds

section PutAll

variable [DecidableEq κ]

def putAll (t : Table ρ) (news : List ρ) : Table ρ :=
  news.foldl put t

@[simp] theorem putAll_nil (t : Table ρ) : t.putAll [] = t := rfl

@[simp] theorem putAll_cons (t : Table ρ) (r : ρ) (rs : List ρ) :
    t.putAll (r :: rs) = (t.put r).putAll rs := rfl

theorem putAll_append (t : Table ρ) (rs rs' : List ρ) :
    t.putAll (rs ++ rs') = (t.putAll rs).putAll rs' :=
  foldl_append

theorem mem_of_mem_putAll {t : Table ρ} {rs : List ρ} {x : ρ} (h : x ∈ t.putAll rs) :
    x ∈ rs ∨ (x ∈ t ∧ key x ∉ rs.map key) := by
  induction rs generalizing t with
  | nil => exact .inr ⟨h, by simp⟩
  | cons r _ ih =>
    rcases ih h with hx | ⟨hx, hne⟩
    · exact .inl (mem_cons_of_mem r hx)
    · rcases mem_of_mem_put hx with rfl | ⟨hx, hkey⟩
      · exact .inl mem_cons_self
      · refine .inr ⟨hx, ?_⟩
        simp only [map_cons, mem_cons, not_or]
        exact ⟨hkey, hne⟩

theorem get?_putAll_of_notMem {t : Table ρ} {rs : List ρ} {k : κ} (h : k ∉ rs.map key) :
    (t.putAll rs).get? k = t.get? k := by
  induction rs generalizing t with
  | nil => rfl
  | cons _ _ ih =>
    simp only [map_cons, mem_cons, not_or] at h
    rw [putAll_cons, ih h.2, get?_put_of_ne t h.1]

theorem get?_putAll_isSome {t : Table ρ} {rs : List ρ} {k : κ} :
    ((t.putAll rs).get? k).isSome = (t.get? k).isSome := by
  induction rs generalizing t with
  | nil => rfl
  | cons _ _ ih =>
    rw [putAll_cons, ih, get?_put]
    split <;> simp

theorem get?_putAll_of_mem {t : Table ρ} {rs : List ρ} {r : ρ} (hnodup : (rs.map key).Nodup)
    (hr : r ∈ rs) (hold : (t.get? (key r)).isSome) : (t.putAll rs).get? (key r) = some r := by
  induction rs generalizing t with
  | nil => simp at hr
  | cons _ _ ih =>
    simp only [map_cons, nodup_cons] at hnodup
    rw [putAll_cons]
    rcases mem_cons.mp hr with rfl | hr
    · rw [get?_putAll_of_notMem hnodup.1]
      obtain ⟨_, hold⟩ := isSome_iff_exists.mp hold
      exact get?_put_self hold
    · refine ih hnodup.2 hr ?_
      rw [get?_put]
      split <;> simpa using hold

theorem map_putAll {γ : Type w} {t : Table ρ} {rs : List ρ} {g : ρ → γ}
    (h : ∀ r ∈ rs, ∀ old, t.get? (key r) = some old → g r = g old) :
    (t.putAll rs).rows.map g = t.rows.map g := by
  induction rs generalizing t with
  | nil => rfl
  | cons r _ ih =>
    have hr : ∀ old, t.get? (key r) = some old → g r = g old := h r mem_cons_self
    rw [putAll_cons, ih, map_put hr]
    intro x hx old hold
    have hx' := h x (mem_cons_of_mem r hx)
    rw [get?_put] at hold
    split at hold
    · next hkey =>
        obtain ⟨older, holder, rfl⟩ := map_eq_some_iff.mp hold
        rw [hx' older holder, hr older (hkey ▸ holder)]
    · exact hx' old hold

theorem rows_putAll_map {t : Table ρ} {rs : List ρ} {f : ρ → ρ} (hf : ∀ r, key (f r) = key r)
    (hmem : ∀ r ∈ rs, r ∈ t) (hnodup : (rs.map key).Nodup) :
    (t.putAll (rs.map f)).rows = t.rows.map fun r => if key r ∈ rs.map key then f r else r := by
  induction rs generalizing t with
  | nil => simp
  | cons r rs ih =>
    rw [map_cons, nodup_cons] at hnodup
    have hr : r ∈ t := hmem r mem_cons_self
    have hrest : ∀ x ∈ rs, x ∈ t.put (f r) := by
      intro x hx
      refine mem_put.mpr (.inl ⟨hmem x (mem_cons_of_mem r hx), ?_⟩)
      intro heq
      exact hnodup.1 ((heq.trans (hf r)) ▸ mem_map_of_mem hx)
    rw [map_cons, putAll_cons, ih hrest hnodup.2, put, mapRows, List.map_map]
    refine map_congr_left fun x hx => ?_
    by_cases hkey : key x = key r
    · obtain rfl : x = r := eq_of_key_eq hx hr hkey
      rw [Function.comp_apply, if_pos (hf x).symm, hf, if_neg hnodup.1, map_cons,
        if_pos mem_cons_self]
    · simp [hf, hkey]

variable {M : Type w} [AddCommGroup M]

theorem sum_putAll {t : Table ρ} {l : List (ρ × ρ)} {g : ρ → M}
    (hkey : ∀ p ∈ l, key p.2 = key p.1) (hnodup : (l.map fun p => key p.1).Nodup)
    (hmem : ∀ p ∈ l, p.1 ∈ t) :
    (t.putAll (l.map Prod.snd)).sum g =
      t.sum g + (l.map fun p => g p.2 - g p.1).sum := by
  induction l generalizing t with
  | nil => simp
  | cons p ps ih =>
    simp only [map_cons, nodup_cons] at hnodup
    have hp : p.1 ∈ t := hmem p (by simp)
    have hget : t.get? (key p.2) = some p.1 := by
      rw [hkey p (by simp)]
      exact get?_key hp
    have hrest : ∀ q ∈ ps, q.1 ∈ t.put p.2 := by
      intro q hq
      have hne : key q.1 ≠ key p.2 := by
        rw [hkey p (by simp)]
        intro heq
        exact hnodup.1 (heq ▸ mem_map_of_mem hq)
      exact mem_put.mpr (.inl ⟨hmem q (by simp [hq]), hne⟩)
    rw [map_cons, putAll_cons, ih (fun q hq => hkey q (by simp [hq])) hnodup.2 hrest,
      eq_sub_of_add_eq (sum_put hget g), map_cons, sum_cons]
    abel

end PutAll

section Enumerate

variable {β : Type w} {σ : Type u} [Keyed σ Nat]

def enumerate (xs : List β) (f : β → Nat → σ) (hf : ∀ x n, key (f x n) = n) : Table σ where
  rows := xs.zipIdx.map fun p => f p.1 p.2
  nodup := by
    have hkeys : (xs.zipIdx.map fun p => f p.1 p.2).map key = List.range' 0 xs.length := by
      rw [List.map_map, ← zipIdx_map_snd 0 xs]
      exact map_congr_left fun p _ => hf p.1 p.2
    rw [hkeys]
    exact nodup_range'

variable {xs : List β} {f : β → Nat → σ} {hf : ∀ x n, key (f x n) = n}

theorem mem_enumerate {r : σ} (h : r ∈ enumerate xs f hf) : ∃ x ∈ xs, ∃ n, f x n = r := by
  obtain ⟨⟨x, n⟩, hp, rfl⟩ := List.mem_map.mp h
  exact ⟨x, (mem_zipIdx' hp).2 ▸ getElem_mem _, n, rfl⟩

theorem map_enumerate {γ : Type v} {g : σ → γ} {g' : β → γ}
    (hg : ∀ x ∈ xs, ∀ n, g (f x n) = g' x) : (enumerate xs f hf).rows.map g = xs.map g' := by
  have hfst : xs.map g' = (xs.zipIdx.map Prod.fst).map g' := by
    rw [zipIdx_map_fst]
  rw [enumerate, hfst, List.map_map, List.map_map]
  refine map_congr_left ?_
  rintro ⟨x, n⟩ hp
  exact hg x ((mem_zipIdx' hp).2 ▸ getElem_mem _) n

end Enumerate

section NextKey

variable {σ : Type u} [Keyed σ Nat]

/-- A key that no row has, as an identity column gives it. -/
def nextKey (t : Table σ) : Nat :=
  (t.rows.map key).foldr max 0 + 1

theorem key_lt_nextKey {t : Table σ} {r : σ} (h : r ∈ t) : (key r : Nat) < t.nextKey := by
  have hbound : ∀ rows : List σ, r ∈ rows → (key r : Nat) ≤ (rows.map key).foldr max 0 := by
    intro rows hr
    induction rows with
    | nil => exact absurd hr not_mem_nil
    | cons _ _ ih =>
      rcases mem_cons.mp hr with rfl | hr
      · exact le_max_left _ _
      · exact (ih hr).trans (le_max_right _ _)
  exact Nat.lt_succ_of_le (hbound t.rows h)

@[simp] theorem get?_nextKey (t : Table σ) : t.get? t.nextKey = none :=
  get?_eq_none.mpr fun _ hr heq => absurd (key_lt_nextKey hr) (by rw [heq]; exact lt_irrefl _)

end NextKey

end Table
