import Mathlib.Data.List.Sort

/-!
# Ranked lists

A list ordered by a relation ranks the keys of its records from 1 on.
-/

namespace Ranking

open List

universe u v

variable {α : Type u} {κ : Type v} [DecidableEq κ] (key : α → κ)

section Places

def ahead (ranked : List α) (k : κ) : List α :=
  ranked.takeWhile fun x => key x ≠ k

def place (ranked : List α) (k : κ) : Nat :=
  (ahead key ranked k).length + 1

/-- The keys of a list with their ranks: `enumerate(ranked, 1)`. -/
def enumerateFrom (start : Nat) : List α → List (κ × Nat)
  | [] => []
  | x :: xs => (key x, start) :: enumerateFrom (start + 1) xs

variable {key}

theorem ahead_cons_self (x : α) (xs : List α) :
    ahead key (x :: xs) (key x) = [] := by
  simp [ahead]

theorem ahead_cons_of_ne {x : α} {k : κ} (h : key x ≠ k) (xs : List α) :
    ahead key (x :: xs) k = x :: ahead key xs k := by
  simp [ahead, h]

theorem place_cons_of_ne {x : α} {k : κ} (h : key x ≠ k) (xs : List α) :
    place key (x :: xs) k = place key xs k + 1 := by
  simp [place, ahead_cons_of_ne h]

theorem enumerateFrom_eq_map (start : Nat) {ranked : List α} (h : (ranked.map key).Nodup) :
    enumerateFrom key (start + 1) ranked =
      ranked.map fun x => (key x, start + place key ranked (key x)) := by
  induction ranked generalizing start with
  | nil => rfl
  | cons x _ ih =>
    rw [map_cons, nodup_cons] at h
    rw [enumerateFrom, ih (start + 1) h.2, map_cons]
    congr 1
    · simp [place, ahead_cons_self]
    · refine map_congr_left fun y hy => ?_
      have hne : key x ≠ key y := fun heq => h.1 (heq ▸ mem_map_of_mem hy)
      rw [place_cons_of_ne hne]
      congr 1
      omega

omit [DecidableEq κ] in
theorem map_snd_enumerateFrom (key : α → κ) (start : Nat) (ranked : List α) :
    (enumerateFrom key start ranked).map Prod.snd = List.range' start ranked.length := by
  induction ranked generalizing start with
  | nil => rfl
  | cons _ _ ih => rw [enumerateFrom, map_cons, ih, length_cons, range'_succ]

theorem map_place {ranked : List α} (h : (ranked.map key).Nodup) :
    ranked.map (fun x => place key ranked (key x)) = List.range' 1 ranked.length := by
  have hsnd := map_snd_enumerateFrom key 1 ranked
  rw [enumerateFrom_eq_map 0 h, map_map] at hsnd
  rw [← hsnd]
  exact map_congr_left fun x _ => (Nat.zero_add _).symm

theorem place_lt_iff {r : α → α → Prop} {ranked : List α} (hsorted : ranked.Pairwise r)
    (hkeys : (ranked.map key).Nodup)
    (hasymm : ∀ x ∈ ranked, ∀ y ∈ ranked, r x y → r y x → key x = key y)
    {x y : α} (hx : x ∈ ranked) (hy : y ∈ ranked) :
    place key ranked (key x) < place key ranked (key y) ↔ r x y ∧ key x ≠ key y := by
  induction ranked with
  | nil => cases hx
  | cons z zs ih =>
    rw [pairwise_cons] at hsorted
    rw [map_cons, nodup_cons] at hkeys
    have hfresh : ∀ w ∈ zs, key z ≠ key w := fun w hw heq =>
      hkeys.1 (heq ▸ mem_map_of_mem hw)
    rcases mem_cons.mp hx with rfl | hx' <;> rcases mem_cons.mp hy with rfl | hy'
    · simp
    · rw [place_cons_of_ne (hfresh y hy')]
      refine iff_of_true ?_ ⟨hsorted.1 y hy', hfresh y hy'⟩
      simp [place, ahead_cons_self]
    · rw [place_cons_of_ne (hfresh x hx')]
      refine iff_of_false ?_ ?_
      · simp [place, ahead_cons_self]
      · rintro ⟨hback, hne⟩
        exact hne (hasymm x hx y hy hback (hsorted.1 x hx'))
    · rw [place_cons_of_ne (hfresh x hx'), place_cons_of_ne (hfresh y hy'),
        Nat.add_lt_add_iff_right]
      exact ih hsorted.2 hkeys.2 (fun a ha b hb => hasymm a (mem_cons_of_mem z ha) b
        (mem_cons_of_mem z hb)) hx' hy'

theorem rel_of_mem_ahead {r : α → α → Prop} {ranked : List α} (hsorted : ranked.Pairwise r)
    {x y : α} (hy : y ∈ ranked) (hx : x ∈ ahead key ranked (key y)) :
    r x y := by
  induction ranked with
  | nil => cases hy
  | cons z zs ih =>
    rw [pairwise_cons] at hsorted
    by_cases hz : key z = key y
    · rw [← hz, ahead_cons_self] at hx
      cases hx
    · have hy' : y ∈ zs := (mem_cons.mp hy).resolve_left fun heq => hz (heq ▸ rfl)
      rw [ahead_cons_of_ne hz] at hx
      rcases mem_cons.mp hx with rfl | hx'
      · exact hsorted.1 y hy'
      · exact ih hsorted.2 hy' hx'

end Places

section

variable {β : Type u}

/-- A lookup in which later entries win. -/
def findLast (entries : List (κ × β)) (k : κ) : Option β :=
  (entries.reverse.find? fun entry => entry.1 = k).map Prod.snd

theorem findLast_eq_some {entries : List (κ × β)} {k : κ} {v : β} (hmem : (k, v) ∈ entries)
    (hunique : ∀ w, (k, w) ∈ entries → w = v) :
    findLast entries k = some v := by
  unfold findLast
  cases hfound : entries.reverse.find? fun entry => entry.1 = k with
  | none =>
    rw [find?_eq_none] at hfound
    simpa using hfound (k, v) (by simpa using hmem)
  | some entry =>
    have hkey : entry.1 = k := by simpa using find?_some hfound
    have hin : entry ∈ entries := by simpa using mem_of_find?_eq_some hfound
    rw [Option.map_some, hunique entry.2 (by rw [← hkey]; exact hin)]

variable {r : α → α → Prop} [DecidableRel r] [IsTrans α r] [Std.Total r]

/-- Selecting from an ordered list orders the selection. -/
theorem insertionSort_filter {rows : List α} (p : α → Bool)
    (hasymm : ∀ x ∈ rows, ∀ y ∈ rows, r x y → r y x → x = y) :
    (rows.insertionSort r).filter p = (rows.filter p).insertionSort r := by
  have hkept := (pairwise_insertionSort r rows).filter p
  refine List.Perm.eq_of_pairwise ?_ hkept (pairwise_insertionSort r _) ?_
  · intro x y hx hy
    rw [mem_filter, mem_insertionSort] at hx
    rw [mem_insertionSort, mem_filter] at hy
    exact hasymm x hx.1 y hy.1
  · exact ((perm_insertionSort r rows).filter p).trans (perm_insertionSort r _).symm

end

end Ranking
