import SpaceWorks.Audit.Canonical
import Mathlib.Data.List.Perm.Basic

/-!
# What the MAC of a row covers

The bytes that were MACed come back from storage and determine every covered column.
-/

namespace SpaceWorks
namespace RowMac

open Checked JsonText List Prod

section

variable {α : Type}

instance keysTotal : Std.Total (fun entry entry' : String × α => entry.1 ≤ entry'.1) :=
  ⟨fun entry entry' => le_total entry.1 entry'.1⟩

instance keysTrans : IsTrans (String × α) (fun entry entry' => entry.1 ≤ entry'.1) :=
  ⟨fun _ _ _ => le_trans⟩

def Ascending (entries : List (String × α)) : Prop :=
  entries.Pairwise fun entry entry' => entry.1 < entry'.1

theorem Ascending.nodup {entries : List (String × α)} (h : Ascending entries) :
    (entries.map Prod.fst).Nodup := by
  rw [List.Nodup, pairwise_map]
  exact List.Pairwise.imp (fun hlt => ne_of_lt hlt) h

theorem perm_sortEntries (entries : List (String × α)) : (sortEntries entries).Perm entries :=
  perm_insertionSort _ entries

theorem ascending_sortEntries {entries : List (String × α)}
    (h : (entries.map Prod.fst).Nodup) : Ascending (sortEntries entries) := by
  have hnodup : ((sortEntries entries).map Prod.fst).Nodup :=
    ((perm_sortEntries entries).map Prod.fst).nodup_iff.mpr h
  rw [List.Nodup, pairwise_map] at hnodup
  have hle := pairwise_insertionSort (fun entry entry' : String × α => entry.1 ≤ entry'.1) entries
  exact (hle.and hnodup).imp fun hboth => lt_of_le_of_ne hboth.1 hboth.2

theorem sortEntries_eq {entries sorted : List (String × α)} (hsorted : Ascending sorted)
    (hperm : entries.Perm sorted) : sortEntries entries = sorted := by
  have hnodup : (entries.map Prod.fst).Nodup := (hperm.map Prod.fst).nodup_iff.mpr hsorted.nodup
  have hascending : (sortEntries entries).Pairwise fun entry entry' => entry.1 < entry'.1 :=
    ascending_sortEntries hnodup
  refine List.Perm.eq_of_pairwise ?_ hascending hsorted ((perm_sortEntries entries).trans hperm)
  intro entry entry' _ _ hlt hlt'
  exact absurd (lt_trans hlt hlt') (lt_irrefl _)

theorem eq_of_perm_of_keys {entries entries' : List (String × α)} (hperm : entries.Perm entries')
    (hkeys : entries.map Prod.fst = entries'.map Prod.fst)
    (hnodup : (entries.map Prod.fst).Nodup) : entries = entries' := by
  induction entries generalizing entries' with
  | nil => exact hperm.nil_eq
  | cons entry _ ih =>
    cases entries' with
    | nil => exact absurd hperm.length_eq (by simp)
    | cons entry' entries' =>
      obtain ⟨_, htail⟩ := cons.inj hkeys
      obtain ⟨hfresh, hrest⟩ := nodup_cons.mp hnodup
      have hmem : entry ∈ entry' :: entries' := hperm.mem_iff.mp (by simp)
      have hsame : entry = entry' := by
        rcases mem_cons.mp hmem with heq | hmem
        · exact heq
        · rw [htail] at hfresh
          exact absurd (mem_map_of_mem hmem) hfresh
      subst hsame
      rw [ih (perm_cons entry |>.mp hperm) htail hrest]

variable {ε α : Type}

theorem settle_eq_ok {results : List (String × Except ε α)} {entries : List (String × α)} :
    settle results = .ok entries ↔
      results = entries.map fun entry => (entry.1, .ok entry.2) := by
  induction results generalizing entries with
  | nil =>
    rw [settle, mapM_nil, pure_ok]
    cases entries <;> simp
  | cons result _ ih =>
    obtain ⟨_, value⟩ := result
    simp only [settle, mapM_cons, bind_ok, map_eq_ok, pure_ok]
    constructor
    · rintro ⟨_, ⟨_, rfl, rfl⟩, _, hrest, rfl⟩
      rw [ih.mp hrest]
      rfl
    · intro h
      cases entries with
      | nil => cases h
      | cons entry entries =>
        obtain ⟨hhead, htail⟩ := cons.inj h
        obtain ⟨rfl, rfl⟩ := mk.inj hhead
        exact ⟨entry, ⟨entry.2, rfl, rfl⟩, entries, ih.mpr htail, rfl⟩

end

theorem canonicalizeEntries_eq (path : String) (entries : List (Key × Value)) :
    canonicalizeEntries path entries = entries.map fun entry =>
      (entry.1.text?.getD "",
        canonicalizeMeta (path ++ "." ++ entry.1.text?.getD "") entry.2) := by
  induction entries with
  | nil => rfl
  | cons _ _ ih =>
    rw [canonicalizeEntries, ih]
    rfl

theorem toEntries_eq (entries : List (String × Json)) :
    toEntries entries = entries.map fun entry => (.str entry.1, toValue entry.2) := by
  induction entries with
  | nil => rfl
  | cons _ _ ih =>
    rw [toEntries, ih]
    rfl

theorem canonicalizeEntries_toEntries (path : String) (entries : List (String × Json)) :
    canonicalizeEntries path (toEntries entries) = entries.map fun entry =>
      (entry.1, canonicalizeMeta (path ++ "." ++ entry.1) (toValue entry.2)) := by
  rw [canonicalizeEntries_eq, toEntries_eq, List.map_map]
  rfl

theorem coerceKeys_ok {path : String} {keys : List Key} {seen : List String} {u : Unit} :
    coerceKeys path keys seen = .ok u ↔ (∀ key ∈ keys, key.text?.isSome = true) ∧
        (keys.map fun key => key.text?.getD "").Nodup ∧
        ∀ key ∈ keys, key.text?.getD "" ∉ seen := by
  induction keys generalizing seen with
  | nil => simp [coerceKeys]
  | cons key _ ih =>
    simp only [coerceKeys, bind_ok, orRefuse_ok, require_ok, exists_const, ih,
      forall_mem_cons, map_cons, nodup_cons, List.mem_map]
    simp only [mem_cons, not_or]
    constructor
    · rintro ⟨_, htext, hfresh, hsome, hnodup, hnew⟩
      rw [htext]
      refine ⟨⟨rfl, hsome⟩, ⟨?_, hnodup⟩, hfresh, fun key hkey => (hnew key hkey).2⟩
      rintro ⟨key, hkey, heq⟩
      exact (hnew key hkey).1 heq
    · rintro ⟨⟨hkey, hsome⟩, ⟨hdistinct, hnodup⟩, hfresh, hnew⟩
      obtain ⟨text, htext⟩ := Option.isSome_iff_exists.mp hkey
      rw [htext] at hdistinct hfresh
      refine ⟨text, htext, hfresh, hsome, hnodup, fun key hkey => ⟨?_, hnew key hkey⟩⟩
      rintro heq
      exact hdistinct ⟨key, hkey, heq⟩

theorem canonicalizeMeta_dict {path : String} {entries : List (Key × Value)} {json : Json} :
    canonicalizeMeta path (.dict entries) = .ok json ↔
      (∃ u, coerceKeys path (entries.map Prod.fst) [] = .ok u) ∧ ∃ settled, json = .dict settled ∧
          sortEntries (canonicalizeEntries path entries) =
            settled.map fun entry => (entry.1, .ok entry.2) := by
  simp only [canonicalizeMeta, bind_ok, pure_ok, settle_eq_ok]
  constructor
  · rintro ⟨u, hkeys, settled, hsettled, rfl⟩
    exact ⟨⟨u, hkeys⟩, settled, rfl, hsettled⟩
  · rintro ⟨⟨u, hkeys⟩, settled, rfl, hsettled⟩
    exact ⟨u, hkeys, settled, hsettled, rfl⟩

theorem keys_canonicalizeEntries (path : String) (entries : List (Key × Value)) :
    (canonicalizeEntries path entries).map Prod.fst =
      (entries.map Prod.fst).map fun key => key.text?.getD "" := by
  rw [canonicalizeEntries_eq, List.map_map, List.map_map]
  rfl

mutual

/-- A value as `canonicalize_meta` returns it. -/
def Canonical : Json → Prop
  | .int value => minInteger ≤ value ∧ value ≤ maxInteger
  | .list items => CanonicalItems items
  | .dict entries => Ascending entries ∧ CanonicalEntries entries
  | _ => True

def CanonicalItems : List Json → Prop
  | [] => True
  | item :: items => Canonical item ∧ CanonicalItems items

def CanonicalEntries : List (String × Json) → Prop
  | [] => True
  | (_, item) :: entries => Canonical item ∧ CanonicalEntries entries

end

theorem canonicalEntries_iff (entries : List (String × Json)) :
    CanonicalEntries entries ↔ ∀ entry ∈ entries, Canonical entry.2 := by
  induction entries with
  | nil => simp [CanonicalEntries]
  | cons _ _ ih =>
    simp [CanonicalEntries, ih]

mutual

theorem canonical_of_canonicalizeMeta :
    ∀ (value : Value) (path : String) (json : Json),
      canonicalizeMeta path value = .ok json → Canonical json
  | .none, path, json, h => by
    simp [canonicalizeMeta] at h
    simp [← h, Canonical]
  | .bool _, path, json, h => by
    simp [canonicalizeMeta] at h
    simp [← h, Canonical]
  | .str _, path, json, h => by
    simp [canonicalizeMeta] at h
    simp [← h, Canonical]
  | .int value, path, json, h => by
    simp [canonicalizeMeta] at h
    obtain ⟨hrange, rfl⟩ := h
    simpa [Canonical] using hrange
  | .number _, path, json, h => by simp [canonicalizeMeta] at h
  | .tuple _, path, json, h => by simp [canonicalizeMeta] at h
  | .other _, path, json, h => by simp [canonicalizeMeta] at h
  | .list items, path, json, h => by
    simp [canonicalizeMeta] at h
    obtain ⟨results, hresults, rfl⟩ := h
    simpa [Canonical] using canonical_of_canonicalizeItems items path 0 results hresults
  | .dict entries, path, json, h => by
    obtain ⟨⟨_, hkeys⟩, settled, rfl, hsettled⟩ := canonicalizeMeta_dict.mp h
    have hnodup : ((canonicalizeEntries path entries).map Prod.fst).Nodup := by
      rw [keys_canonicalizeEntries]
      exact (coerceKeys_ok.mp hkeys).2.1
    have hascending := ascending_sortEntries hnodup
    rw [hsettled, Ascending, pairwise_map] at hascending
    refine ⟨hascending, (canonicalEntries_iff settled).mpr fun entry hentry => ?_⟩
    have hmem : (entry.1, Except.ok entry.2) ∈ canonicalizeEntries path entries := by
      rw [← (perm_sortEntries _).mem_iff, hsettled]
      exact mem_map_of_mem (f := fun entry => (entry.1, Except.ok entry.2)) hentry
    exact canonical_of_canonicalizeEntries entries path _ hmem entry.2 rfl

theorem canonical_of_canonicalizeItems :
    ∀ (items : List Value) (path : String) (index : Nat) (results : List Json),
      canonicalizeItems path index items = .ok results → CanonicalItems results
  | [], path, index, results, h => by
    simp only [canonicalizeItems, pure_ok] at h
    simp [← h, CanonicalItems]
  | item :: items, path, index, results, h => by
    simp [canonicalizeItems] at h
    obtain ⟨result, hresult, rest, hrest, rfl⟩ := h
    exact ⟨canonical_of_canonicalizeMeta item _ result hresult,
      canonical_of_canonicalizeItems items path (index + 1) rest hrest⟩

theorem canonical_of_canonicalizeEntries :
    ∀ (entries : List (Key × Value)) (path : String),
      ∀ result ∈ canonicalizeEntries path entries, ∀ json, result.2 = .ok json → Canonical json
  | [], path, result, hmem, json, h => by
    simp [canonicalizeEntries] at hmem
  | (key, item) :: entries, path, result, hmem, json, h => by
    rw [canonicalizeEntries, mem_cons] at hmem
    rcases hmem with rfl | hmem
    · exact canonical_of_canonicalizeMeta item _ json h
    · exact canonical_of_canonicalizeEntries entries path result hmem json h

end

mutual

/-- One stored value up to the order of the entries of its objects. -/
def Same : Json → Json → Prop
  | .null, w => w = .null
  | .bool value, w => w = .bool value
  | .int value, w => w = .int value
  | .str text, w => w = .str text
  | .list items, w => ∃ items', w = .list items' ∧ SameItems items items'
  | .dict entries, w =>
    ∃ entries' stored, w = .dict stored ∧ stored.Perm entries' ∧ SameEntries entries entries'

def SameItems : List Json → List Json → Prop
  | [], items' => items' = []
  | item :: items, items' =>
    ∃ item' rest, items' = item' :: rest ∧ Same item item' ∧ SameItems items rest

def SameEntries : List (String × Json) → List (String × Json) → Prop
  | [], entries' => entries' = []
  | (name, item) :: entries, entries' =>
    ∃ item' rest, entries' = (name, item') :: rest ∧ Same item item' ∧ SameEntries entries rest

end

mutual

theorem Same.refl : ∀ json : Json, Same json json
  | .null | .bool _ | .int _ | .str _ => by rw [Same]
  | .list items => by
    rw [Same]
    exact ⟨items, rfl, SameItems.refl items⟩
  | .dict entries => by
    rw [Same]
    exact ⟨entries, entries, rfl, .refl _, SameEntries.refl entries⟩

theorem SameItems.refl : ∀ items : List Json, SameItems items items
  | [] => by rw [SameItems]
  | item :: items => by
    rw [SameItems]
    exact ⟨item, items, rfl, Same.refl item, SameItems.refl items⟩

theorem SameEntries.refl : ∀ entries : List (String × Json), SameEntries entries entries
  | [] => by rw [SameEntries]
  | (name, item) :: entries => by
    rw [SameEntries]
    exact ⟨item, entries, rfl, Same.refl item, SameEntries.refl entries⟩

end

theorem canonicalizeMeta_stored {path : String} {entries stored : List (String × Json)}
    {results : List (String × Json)} (hresults : Ascending results) (hperm : stored.Perm entries)
    (hentries : canonicalizeEntries path (toEntries entries) =
      results.map fun entry => (entry.1, .ok entry.2)) :
    canonicalizeMeta path (toValue (.dict stored)) = .ok (.dict results) := by
  have hpermResults : (canonicalizeEntries path (toEntries stored)).Perm
      (results.map fun entry => (entry.1, .ok entry.2)) := by
    rw [← hentries, canonicalizeEntries_toEntries, canonicalizeEntries_toEntries]
    exact hperm.map _
  have hascending : Ascending (results.map fun entry =>
      ((entry.1, .ok entry.2) : String × Except CanonicalizationError Json)) := by
    rw [Ascending, pairwise_map]
    exact hresults
  have hkeys : (stored.map Prod.fst).Nodup := by
    have hnodup := (hpermResults.map Prod.fst).nodup_iff.mpr hascending.nodup
    rwa [canonicalizeEntries_toEntries, List.map_map] at hnodup
  rw [toValue, canonicalizeMeta_dict]
  refine ⟨⟨⟨⟩, coerceKeys_ok.mpr ⟨?_, ?_, by simp⟩⟩, results, rfl,
    sortEntries_eq hascending hpermResults⟩
  · intro key hkey
    rw [toEntries_eq, List.map_map, List.mem_map] at hkey
    obtain ⟨_, -, rfl⟩ := hkey
    rfl
  · rw [toEntries_eq, List.map_map, List.map_map]
    exact hkeys

mutual

theorem canonicalizeMeta_same :
    ∀ (json : Json) (path : String) (w : Json), Canonical json → Same json w →
      canonicalizeMeta path (toValue w) = .ok json
  | .null, path, w, _, h => by
    rw [Same] at h
    rw [h, toValue, canonicalizeMeta]
    rfl
  | .bool value, path, w, _, h => by
    rw [Same] at h
    rw [h, toValue, canonicalizeMeta]
    rfl
  | .str text, path, w, _, h => by
    rw [Same] at h
    rw [h, toValue, canonicalizeMeta]
    rfl
  | .int value, path, w, hcanonical, h => by
    rw [Same] at h
    rw [Canonical] at hcanonical
    rw [h, toValue, canonicalizeMeta]
    simp [hcanonical]
  | .list items, path, w, hcanonical, h => by
    rw [Same] at h
    rw [Canonical] at hcanonical
    obtain ⟨items', rfl, hitems⟩ := h
    rw [toValue, canonicalizeMeta, canonicalizeItems_same items path 0 items' hcanonical hitems]
    rfl
  | .dict entries, path, w, hcanonical, h => by
    rw [Same] at h
    rw [Canonical] at hcanonical
    obtain ⟨entries', _, rfl, hperm, hentries⟩ := h
    exact canonicalizeMeta_stored hcanonical.1 hperm
      (canonicalizeEntries_same entries path entries' hcanonical.2 hentries)

theorem canonicalizeItems_same :
    ∀ (items : List Json) (path : String) (index : Nat) (items' : List Json),
      CanonicalItems items → SameItems items items' →
      canonicalizeItems path index (toValues items') = .ok items
  | [], path, index, items', _, h => by
    rw [SameItems] at h
    rw [h, toValues, canonicalizeItems]
    rfl
  | item :: items, path, index, items', hcanonical, h => by
    rw [SameItems] at h
    rw [CanonicalItems] at hcanonical
    obtain ⟨item', rest, rfl, hitem, hrest⟩ := h
    rw [toValues, canonicalizeItems, canonicalizeMeta_same item _ item' hcanonical.1 hitem,
      canonicalizeItems_same items path (index + 1) rest hcanonical.2 hrest]
    rfl

theorem canonicalizeEntries_same :
    ∀ (entries : List (String × Json)) (path : String) (entries' : List (String × Json)),
      CanonicalEntries entries → SameEntries entries entries' →
      canonicalizeEntries path (toEntries entries') =
        entries.map fun entry => (entry.1, .ok entry.2)
  | [], path, entries', _, h => by
    rw [SameEntries] at h
    rw [h, toEntries, canonicalizeEntries]
    rfl
  | (name, item) :: entries, path, entries', hcanonical, h => by
    rw [SameEntries] at h
    rw [CanonicalEntries] at hcanonical
    obtain ⟨item', rest, rfl, hitem, hrest⟩ := h
    rw [toEntries, canonicalizeEntries, canonicalizeMeta_same item _ item' hcanonical.1 hitem,
      canonicalizeEntries_same entries path rest hcanonical.2 hrest]
    rfl

end

theorem canonicalizeMeta_toValue {json : Json} (h : Canonical json) (path : String) :
    canonicalizeMeta path (toValue json) = .ok json :=
  canonicalizeMeta_same json path json h (Same.refl json)

theorem exists_perm_map {α β : Type} {f : α → β} {xs : List α} {ys : List β}
    (h : ys.Perm (xs.map f)) : ∃ xs', xs.Perm xs' ∧ xs'.map f = ys := by
  have hvalues : List.Forall₂ (fun y x => y = f x) (xs.map f) xs := by
    rw [forall₂_map_left_iff]
    exact forall₂_same.mpr fun _ _ => rfl
  obtain ⟨xs', hxs', hperm⟩ := perm_comp_forall₂ h hvalues
  refine ⟨xs', hperm.symm, ?_⟩
  rw [← forall₂_eq_eq_eq, forall₂_map_left_iff]
  exact hxs'.flip.imp fun _ _ heq => heq.symm

mutual

theorem same_of_canonicalizeMeta :
    ∀ (v w : Json) (path path' : String) (json : Json),
      canonicalizeMeta path (toValue v) = .ok json →
      canonicalizeMeta path' (toValue w) = .ok json → Same v w
  | .null, w, path, path', json, h, h' => by
    simp [toValue, canonicalizeMeta] at h
    subst h
    cases w <;> simp_all [toValue, canonicalizeMeta, Same]
  | .bool value, w, path, path', json, h, h' => by
    simp [toValue, canonicalizeMeta] at h
    subst h
    cases w <;> simp_all [toValue, canonicalizeMeta, Same]
  | .str text, w, path, path', json, h, h' => by
    simp [toValue, canonicalizeMeta] at h
    subst h
    cases w <;> simp_all [toValue, canonicalizeMeta, Same]
  | .int value, w, path, path', json, h, h' => by
    simp [toValue, canonicalizeMeta] at h
    obtain ⟨-, -, rfl⟩ := h
    cases w <;> simp_all [toValue, canonicalizeMeta, Same]
  | .list items, w, path, path', json, h, h' => by
    simp [toValue, canonicalizeMeta] at h
    obtain ⟨_, hresults, rfl⟩ := h
    cases w with
    | list items' =>
      simp only [toValue, canonicalizeMeta, bind_ok, pure_ok, Json.list.injEq] at h'
      obtain ⟨_, hresults', rfl⟩ := h'
      rw [Same]
      exact ⟨items', rfl, sameItems_of_canonicalizeItems items items' path path' 0 0 _
        hresults hresults'⟩
    | _ => simp [toValue, canonicalizeMeta] at h'
  | .dict entries, w, path, path', json, h, h' => by
    rw [toValue] at h
    obtain ⟨-, settled, rfl, hsorted⟩ := canonicalizeMeta_dict.mp h
    cases w with
    | dict stored =>
      rw [toValue] at h'
      obtain ⟨-, settled', heq, hsorted'⟩ := canonicalizeMeta_dict.mp h'
      obtain rfl : settled = settled' := by simpa using heq
      have hperm := (perm_sortEntries (canonicalizeEntries path (toEntries entries))).symm
      have hperm' := (perm_sortEntries (canonicalizeEntries path' (toEntries stored))).symm
      rw [hsorted] at hperm
      rw [hsorted'] at hperm'
      -- the canonical entries in the order of the first object, then the second one in
      -- that order
      obtain ⟨results, hresults, hmap⟩ := exists_perm_map hperm
      have hstored := (hresults.map fun entry : String × Json =>
        ((entry.1, .ok entry.2) : String × Except CanonicalizationError Json)).symm.trans
        hperm'.symm
      rw [canonicalizeEntries_toEntries] at hstored
      obtain ⟨entries', hentries', hmap'⟩ := exists_perm_map hstored
      rw [Same]
      refine ⟨entries', stored, rfl, hentries', ?_⟩
      refine sameEntries_of_canonicalizeEntries entries entries' path path' results hmap.symm ?_
      rw [canonicalizeEntries_toEntries]
      exact hmap'
    | _ => simp [toValue, canonicalizeMeta] at h'

theorem sameItems_of_canonicalizeItems :
    ∀ (items items' : List Json) (path path' : String) (index index' : Nat) (results : List Json),
      canonicalizeItems path index (toValues items) = .ok results →
      canonicalizeItems path' index' (toValues items') = .ok results → SameItems items items'
  | [], items', path, path', index, index', results, h, h' => by
    simp [toValues, canonicalizeItems] at h
    subst h
    cases items' with
    | nil => rw [SameItems]
    | cons => simp [toValues, canonicalizeItems] at h'
  | item :: items, items', path, path', index, index', results, h, h' => by
    simp [toValues, canonicalizeItems] at h
    obtain ⟨_, hresult, _, hrest, rfl⟩ := h
    cases items' with
    | nil => simp [toValues, canonicalizeItems] at h'
    | cons item' items' =>
      simp only [toValues, canonicalizeItems, bind_ok, pure_ok, List.cons.injEq] at h'
      obtain ⟨_, hresult', _, hrest', rfl, rfl⟩ := h'
      rw [SameItems]
      exact ⟨item', items', rfl, same_of_canonicalizeMeta item item' _ _ _ hresult hresult',
        sameItems_of_canonicalizeItems items items' path path' _ _ _ hrest hrest'⟩

theorem sameEntries_of_canonicalizeEntries :
    ∀ (entries entries' : List (String × Json)) (path path' : String)
      (results : List (String × Json)),
      canonicalizeEntries path (toEntries entries) =
          results.map (fun entry => (entry.1, .ok entry.2)) →
      canonicalizeEntries path' (toEntries entries') =
          results.map (fun entry => (entry.1, .ok entry.2)) →
      SameEntries entries entries'
  | [], entries', path, path', results, h, h' => by
    rw [toEntries, canonicalizeEntries] at h
    obtain rfl := map_eq_nil_iff.mp h.symm
    rw [canonicalizeEntries_toEntries, map_nil, map_eq_nil_iff] at h'
    rw [SameEntries]
    exact h'
  | (name, item) :: entries, entries', path, path', results, h, h' => by
    rw [toEntries, canonicalizeEntries] at h
    cases results with
    | nil => cases h
    | cons result results =>
      obtain ⟨hhead, htail⟩ := cons.inj h
      obtain ⟨hname, hitem⟩ := mk.inj hhead
      cases entries' with
      | nil => cases h'
      | cons entry' entries' =>
        obtain ⟨name', item'⟩ := entry'
        rw [toEntries, canonicalizeEntries] at h'
        obtain ⟨hhead', htail'⟩ := cons.inj h'
        obtain ⟨hname', hitem'⟩ := mk.inj hhead'
        have hsame : name' = name := hname'.trans hname.symm
        subst hsame
        rw [SameEntries]
        exact ⟨item', entries', rfl, same_of_canonicalizeMeta item item' _ _ result.2 hitem hitem',
          sameEntries_of_canonicalizeEntries entries entries' path path' results htail htail'⟩

end

theorem length_uuidText (uuid : Uuid) : uuid.text.length = 36 := by
  simp [Uuid.text]

theorem eq_of_dashed_eq {digits digits' : List Char} (hlength : digits.length = 32)
    (hlength' : digits'.length = 32)
    (h : digits.take 8 ++ '-' :: (digits.drop 8).take 4 ++ '-' :: (digits.drop 12).take 4 ++
        '-' :: (digits.drop 16).take 4 ++ '-' :: digits.drop 20 =
      digits'.take 8 ++ '-' :: (digits'.drop 8).take 4 ++ '-' :: (digits'.drop 12).take 4 ++
        '-' :: (digits'.drop 16).take 4 ++ '-' :: digits'.drop 20) :
    digits = digits' := by
  obtain ⟨h, hlast⟩ := append_inj' h (by simp [hlength, hlength'])
  obtain ⟨h, hfourth⟩ := append_inj' h (by simp [hlength, hlength'])
  obtain ⟨h, hthird⟩ := append_inj' h (by simp [hlength, hlength'])
  obtain ⟨hfirst, hsecond⟩ := append_inj' h (by simp [hlength, hlength'])
  have hsplit : ∀ digits : List Char, digits.take 8 ++ ((digits.drop 8).take 4 ++
      ((digits.drop 12).take 4 ++ ((digits.drop 16).take 4 ++ digits.drop 20))) = digits := by
    intro digits
    rw [show digits.drop 20 = (digits.drop 16).drop 4 by rw [drop_drop],
      take_append_drop, show digits.drop 16 = (digits.drop 12).drop 4 by rw [drop_drop],
      take_append_drop, show digits.drop 12 = (digits.drop 8).drop 4 by rw [drop_drop],
      take_append_drop, take_append_drop]
  rw [← hsplit digits, hfirst, (cons.inj hsecond).2, (cons.inj hthird).2,
    (cons.inj hfourth).2, (cons.inj hlast).2, hsplit digits']

theorem uuidText_inj {uuid uuid' : Option Uuid} (h : uuidText uuid = uuidText uuid') :
    uuid = uuid' := by
  have hnone : ∀ uuid : Uuid, String.ofList uuid.text ≠ "None" := by
    intro uuid heq
    have hlength := congrArg (fun text => text.toList.length) heq
    simp only [String.toList_ofList, length_uuidText] at hlength
    exact absurd hlength (by decide)
  cases uuid with
  | none =>
    cases uuid' with
    | none => rfl
    | some uuid' => exact absurd h.symm (hnone uuid')
  | some uuid =>
    cases uuid' with
    | none => exact absurd h (hnone uuid)
    | some uuid' =>
      have hdigits := eq_of_dashed_eq (Python.length_padded 16 32 uuid.value)
        (Python.length_padded 16 32 uuid'.value) (String.ofList_injective h)
      obtain ⟨value, hvalue⟩ := uuid
      obtain ⟨value', hvalue'⟩ := uuid'
      obtain rfl : value = value' :=
        Python.eq_of_padded_eq (by omega) (by omega) hvalue hvalue' hdigits
      rfl

theorem timestamp_inj {time time' : UtcTime} (h : time.text = time'.text) : time = time' := by
  obtain ⟨hyear, h⟩ := append_inj' h (by simp)
  obtain ⟨h, -⟩ := append_inj' h (by simp)
  obtain ⟨h, hmicrosecond⟩ := append_inj' h (by simp)
  obtain ⟨h, hsecond⟩ := append_inj' h (by simp)
  obtain ⟨h, hminute⟩ := append_inj' h (by simp)
  obtain ⟨h, hhour⟩ := append_inj' h (by simp)
  obtain ⟨hmonth, hday⟩ := append_inj' h (by simp)
  have hvalue : ∀ {width n m : Nat} {c : Char}, n < 10 ^ width → m < 10 ^ width →
      c :: Python.padded 10 width n = c :: Python.padded 10 width m → n = m :=
    fun hn hm heq => Python.eq_of_padded_eq (by omega) (by omega) hn hm (cons.inj heq).2
  obtain ⟨_, _, _, _, _, _, _, _, _, _, _, _, _⟩ := time
  obtain ⟨_, _, _, _, _, _, _, _, _, _, _, _, _⟩ := time'
  simp only at hyear hmonth hday hhour hminute hsecond hmicrosecond
  obtain rfl := JsonText.toDigits_inj hyear
  obtain rfl := hvalue (by omega) (by omega) hmonth
  obtain rfl := hvalue (by omega) (by omega) hday
  obtain rfl := hvalue (by omega) (by omega) hhour
  obtain rfl := hvalue (by omega) (by omega) hminute
  obtain rfl := hvalue (by omega) (by omega) hsecond
  obtain rfl := hvalue (by omega) (by omega) hmicrosecond
  rfl

section

variable {path : String} {json : Json} {content content' : Content}

theorem idValue_inj {path' : String} {id id' : Option Int}
    (h : canonicalizeMeta path (idValue id) = .ok json)
    (h' : canonicalizeMeta path' (idValue id') = .ok json) : id = id' := by
  cases id with
  | none =>
    simp [idValue, canonicalizeMeta] at h
    subst h
    cases id' with
    | none => rfl
    | some => simp [idValue, canonicalizeMeta] at h'
  | some =>
    simp [idValue, canonicalizeMeta] at h
    obtain ⟨-, -, rfl⟩ := h
    cases id' with
    | none => simp [idValue, canonicalizeMeta] at h'
    | some =>
      simp only [idValue, canonicalizeMeta, bind_ok, pure_ok, Json.int.injEq] at h'
      obtain ⟨-, -, heq⟩ := h'
      rw [heq]

theorem results_eq {entries entries' : List (Key × Value)}
    (h : canonicalizeMeta path (.dict entries) = .ok json)
    (h' : canonicalizeMeta path (.dict entries') = .ok json)
    (hkeys : entries.map Prod.fst = entries'.map Prod.fst) :
    canonicalizeEntries path entries = canonicalizeEntries path entries' ∧
      ∀ result ∈ canonicalizeEntries path entries, ∃ json, result.2 = .ok json := by
  obtain ⟨⟨_, hcoerced⟩, settled, rfl, hsorted⟩ := canonicalizeMeta_dict.mp h
  obtain ⟨-, settled', heq, hsorted'⟩ := canonicalizeMeta_dict.mp h'
  obtain rfl : settled = settled' := by simpa using heq
  have hperm := perm_sortEntries (canonicalizeEntries path entries)
  have hperm' := perm_sortEntries (canonicalizeEntries path entries')
  rw [hsorted] at hperm
  rw [hsorted'] at hperm'
  refine ⟨eq_of_perm_of_keys (hperm.symm.trans hperm') ?_ ?_, fun result hresult => ?_⟩
  · rw [keys_canonicalizeEntries, keys_canonicalizeEntries, hkeys]
  · rw [keys_canonicalizeEntries]
    exact (coerceKeys_ok.mp hcoerced).2.1
  · obtain ⟨entry, -, rfl⟩ := List.mem_map.mp (hperm.mem_iff.mpr hresult)
    exact ⟨entry.2, rfl⟩

theorem payload_inj {metadata metadata' : Json} {createdAt createdAt' : String}
    (hcanonical : Canonical metadata) (hcanonical' : Canonical metadata')
    (h : canonicalizeMeta "payload" (payload content metadata createdAt) = .ok json)
    (h' : canonicalizeMeta "payload" (payload content' metadata' createdAt') = .ok json) :
    content.makerspaceId = content'.makerspaceId ∧ content.eventUuid = content'.eventUuid ∧
      content.actorId = content'.actorId ∧ content.action = content'.action ∧
      content.targetType = content'.targetType ∧ content.targetId = content'.targetId ∧
      metadata = metadata' ∧ createdAt = createdAt' := by
  obtain ⟨heq, hok⟩ := results_eq h h' rfl
  simp only [canonicalizeEntries, forall_mem_cons, List.cons.injEq, mk.injEq, true_and] at heq hok
  obtain ⟨hmakerspace, huuid, hactor, haction, htype, hid, hmetadata, htime, -⟩ := heq
  obtain ⟨-, -, ⟨_, hokMakerspace⟩, -, ⟨_, hokActor⟩, -⟩ := hok
  simp only [canonicalizeMeta_toValue hcanonical, canonicalizeMeta_toValue hcanonical',
    Except.ok.injEq] at hmetadata
  simp only [canonicalizeMeta, pure, Except.pure, Except.ok.injEq, Json.str.injEq]
    at huuid haction htype hid htime
  exact ⟨idValue_inj hokMakerspace (hmakerspace ▸ hokMakerspace), uuidText_inj huuid,
    idValue_inj hokActor (hactor ▸ hokActor), haction, htype, hid, hmetadata, htime⟩

theorem dumps_inj {json' : Json} (h : dumps json = dumps json') : json = json' := by
  have htext : String.ofList (render json) = String.ofList (render json') :=
    String.toByteArray_inj.mp h
  exact render_injective (String.ofList_injective htext)

theorem canonicalPayloadBytes_inj {bytes : ByteArray}
    (h : canonicalPayloadBytes content = .ok bytes)
    (h' : canonicalPayloadBytes content' = .ok bytes) :
    content' = { content with metadata := content'.metadata } ∧
      Same content.metadata content'.metadata := by
  simp only [canonicalPayloadBytes, bind_ok, pure_ok] at h h'
  obtain ⟨_, hmetadata, _, hcreatedAt, _, hjson, rfl⟩ := h
  obtain ⟨_, hmetadata', _, hcreatedAt', _, hjson', hdumps⟩ := h'
  obtain rfl := dumps_inj hdumps
  obtain ⟨hmakerspace, huuid, hactor, haction, htype, hid, rfl, rfl⟩ := payload_inj
    (canonical_of_canonicalizeMeta _ _ _ hmetadata) (canonical_of_canonicalizeMeta _ _ _ hmetadata')
    hjson hjson'
  have htime : content.createdAt = content'.createdAt := by
    cases htimestamp : content.createdAt with
    | naive => simp [htimestamp, canonicalTimestamp] at hcreatedAt
    | aware time =>
      cases htimestamp' : content'.createdAt with
      | naive => simp [htimestamp', canonicalTimestamp] at hcreatedAt'
      | aware time' =>
        simp only [htimestamp, htimestamp', canonicalTimestamp, pure_ok] at hcreatedAt hcreatedAt'
        have htext : time.text = time'.text := by
          exact String.ofList_injective (hcreatedAt.trans hcreatedAt'.symm)
        rw [timestamp_inj htext]
  refine ⟨?_, same_of_canonicalizeMeta _ _ _ _ _ hmetadata hmetadata'⟩
  obtain ⟨_, _, _, _, _, _, _, _⟩ := content
  obtain ⟨_, _, _, _, _, _, _, _⟩ := content'
  simp only at hmakerspace huuid hactor haction htype hid htime
  subst hmakerspace huuid hactor haction htype hid htime
  rfl

variable {d : Detectors} {hmac : ByteArray → ByteArray → ByteArray}

/-- The row from storage; entries of metadata may be reordered. -/
def AuditRow.stored (row : AuditRow) (metadata : Json) : AuditRow :=
  { row with content := { row.content with metadata := metadata } }

theorem canonicalPayloadBytes_stored {content : Content} {metadata : Json}
    (hcanonical : Canonical content.metadata) (hsame : Same content.metadata metadata) :
    canonicalPayloadBytes { content with metadata := metadata } = canonicalPayloadBytes content := by
  simp only [canonicalPayloadBytes, payload]
  rw [canonicalizeMeta_same _ "meta" metadata hcanonical hsame,
    canonicalizeMeta_toValue hcanonical "meta"]

theorem record_spec {pk : Nat} {key : Option ByteArray} {event : Event} {row : AuditRow}
    (h : record d hmac pk key event = .ok row) :
    Canonical row.content.metadata ∧ row.content.eventUuid = some event.eventUuid ∧
      ∀ secret, key = some secret → ∃ bytes, canonicalPayloadBytes row.content = .ok bytes ∧
        row.rowMac = some (hmac secret bytes) := by
  simp [record] at h
  obtain ⟨_, hstored, h⟩ := h
  have hcanonical := canonical_of_canonicalizeMeta _ _ _ hstored
  cases key with
  | none =>
    simp at h
    subst h
    exact ⟨hcanonical, rfl, by simp⟩
  | some =>
    simp only [calculateRowMac, bind_ok, map_eq_ok, pure_ok] at h
    obtain ⟨_, ⟨bytes, hbytes, rfl⟩, rfl⟩ := h
    refine ⟨hcanonical, rfl, fun secret' hsecret => ⟨bytes, hbytes, ?_⟩⟩
    rw [Option.some.inj hsecret]

/-- A stored row has the bytes that were MACed, and the bytes determine every covered column. -/
theorem rowMac_covers :
    (∀ (d : Detectors) (hmac : ByteArray → ByteArray → ByteArray) (pk : Nat) (key : ByteArray)
        (event : Event) (row : AuditRow) (metadata : Json),
      record d hmac pk (some key) event = .ok row → Same row.content.metadata metadata →
        (∃ bytes, canonicalPayloadBytes row.content = .ok bytes ∧
          canonicalPayloadBytes (row.stored metadata).content = .ok bytes ∧
          row.rowMac = some (hmac key bytes)) ∧
        ∀ scope : Scope, scope.key = some key → scope.batch ≠ some false →
          classifyAuditRow hmac scope (row.stored metadata) = .attested) ∧
      (∀ (value : Value) (path path' : String) (json : Json),
        canonicalizeMeta path value = .ok json → canonicalizeMeta path' (toValue json) = .ok json) ∧
      ∀ (content content' : Content) (bytes : ByteArray),
        canonicalPayloadBytes content = .ok bytes → canonicalPayloadBytes content' = .ok bytes →
          content' = { content with metadata := content'.metadata } ∧
            Same content.metadata content'.metadata := by
  refine ⟨?_, ?_, fun _ _ _ h h' => canonicalPayloadBytes_inj h h'⟩
  · intro d hmac pk key event row metadata h hsame
    obtain ⟨hcanonical, huuid, hmac'⟩ := record_spec h
    obtain ⟨bytes, hbytes, hrowMac⟩ := hmac' key rfl
    have hstored : canonicalPayloadBytes (row.stored metadata).content = .ok bytes := by
      rw [← hbytes]
      exact canonicalPayloadBytes_stored hcanonical hsame
    refine ⟨⟨bytes, hbytes, hstored, hrowMac⟩, fun scope hkey hbatch => ?_⟩
    have huuid' : (row.stored metadata).content.eventUuid = some event.eventUuid := huuid
    have hrowMac' : (row.stored metadata).rowMac = some (hmac key bytes) := hrowMac
    have hexpected : calculateRowMac hmac key (row.stored metadata).content =
        .ok (hmac key bytes) := by
      rw [calculateRowMac, hstored]
      rfl
    simp [classifyAuditRow, hrowMac', huuid', hkey, hexpected, hbatch]
  · intro value path path' json h
    exact canonicalizeMeta_toValue (canonical_of_canonicalizeMeta value path json h) path'

end

end RowMac
end SpaceWorks
