import SpaceWorks.Lending.Upkeep

/-!
# Generating unit assets

What `generate_assets_with_qr` (`services_qr_assets.py`) leaves when it returns.
-/

namespace SpaceWorks
namespace Lending

open Checked Quantities Availability Table List

variable {s t : State}

def Labelled (s : State) (asset : InventoryAsset) : Prop :=
  hasActiveQr s asset.makerspaceId .asset asset.id none

theorem createAssetQr_spec {asset : InventoryAsset} {qr : Nat × String}
    (h : createAssetQr s asset qr = .ok t) :
    t = { s with qrCodes := t.qrCodes } ∧ (∀ code ∈ s.qrCodes.rows, code ∈ t.qrCodes.rows) ∧
      Labelled t asset := by
  unfold createAssetQr at h
  split at h
  · next hlabelled =>
      rw [pure_ok] at h
      subst h
      exact ⟨rfl, fun _ hcode => hcode, hlabelled⟩
  · simp only [bind_ok, require_ok, insertNew_ok, pure_ok, exists_const] at h
    obtain ⟨-, _, ⟨hnew, rfl⟩, rfl⟩ := h
    refine ⟨rfl, fun code hcode => ?_, ?_⟩
    · exact (mem_insert hnew).mpr (.inl hcode)
    · exact ⟨_, (mem_insert hnew).mpr (.inr rfl), by simp, rfl, rfl, rfl, rfl⟩

theorem Labelled.mono
    (hcodes : ∀ code ∈ s.qrCodes.rows, code ∈ t.qrCodes.rows) {asset : InventoryAsset}
    (h : Labelled s asset) : Labelled t asset := by
  obtain ⟨code, hcode, hnames⟩ := h
  exact ⟨code, hcodes code hcode, hnames⟩

theorem relabel_spec {entries : List (InventoryAsset × (Nat × String))}
    (h : entries.foldlM (fun s entry => createAssetQr s entry.1 entry.2) s = .ok t) :
    t = { s with qrCodes := t.qrCodes } ∧ (∀ code ∈ s.qrCodes.rows, code ∈ t.qrCodes.rows) ∧
      ∀ entry ∈ entries, Labelled t entry.1 := by
  induction entries generalizing s with
  | nil =>
    rw [foldlM_nil, pure_ok] at h
    subst h
    exact ⟨rfl, fun _ hcode => hcode, by simp⟩
  | cons _ _ ih =>
    simp at h
    obtain ⟨_, hfirst, hrest⟩ := h
    obtain ⟨hm, hcodes, hlabelled⟩ := createAssetQr_spec hfirst
    obtain ⟨ht, hcodes', hrest⟩ := ih hrest
    refine ⟨?_, fun code hcode => hcodes' code (hcodes code hcode), ?_⟩
    · rw [ht, hm]
    · exact forall_mem_cons.mpr ⟨hlabelled.mono hcodes', hrest⟩

section Creation

variable {m : State} {product : InventoryProduct} {units : List InventoryAsset} {number : Nat}
  {acc : State × Nat}

def SameTag (a b : InventoryAsset) : Prop :=
  a.makerspaceId = b.makerspaceId ∧ a.assetTag = b.assetTag

/-- Units have been added to a product, and nothing else but QR codes. -/
structure Created (s t : State) (product : InventoryProduct) (units : List InventoryAsset) :
    Prop where
  frame : t = { s with assets := t.assets, qrCodes := t.qrCodes }
  rows : t.assets.rows = s.assets.rows ++ units
  codes : ∀ code ∈ s.qrCodes.rows, code ∈ t.qrCodes.rows
  each : ∀ unit ∈ units, unit.productId = product.id ∧
    unit.makerspaceId = product.makerspaceId ∧ unit.status = .available ∧ Labelled t unit
  unused : ∀ unit ∈ units, ∀ asset ∈ s.assets.rows, ¬ SameTag asset unit
  distinct : units.Pairwise fun a b => ¬ SameTag a b

theorem Created.start (s : State) (product : InventoryProduct) : Created s s product [] where
  frame := rfl
  rows := by simp
  codes _ hcode := hcode
  each := by simp
  unused := by simp
  distinct := List.Pairwise.nil

theorem Created.turn {unit : NewUnit} (h : Created s m product units)
    (hturn : createUnit product (m, number) unit = .ok acc) :
    ∃ asset, Created s acc.1 product (units ++ [asset]) := by
  simp only [createUnit, bind_ok, require_ok, insertNew_ok, pure_ok, exists_const] at hturn
  obtain ⟨htag, assets, ⟨hnew, rfl⟩, _, hcode, rfl⟩ := hturn
  obtain ⟨ht, hcodes, hlabelled⟩ := createAssetQr_spec hcode
  let asset : InventoryAsset :=
    { id := unit.assetId
      makerspaceId := product.makerspaceId
      productId := product.id
      boxId := product.boxId
      assetTag := s!"{product.id}-{fourDigits number}" }
  refine ⟨asset, ?_, ?_, fun code hcode => hcodes code (h.codes code hcode), ?_, ?_, ?_⟩
  · generalize m.assets.insert _ hnew = assets at ht
    rw [ht, h.frame]
  · rw [ht]
    change m.assets.rows ++ [_] = _
    rw [h.rows, append_assoc]
  · intro unit hunit
    rcases mem_append.mp hunit with hunit | hunit
    · obtain ⟨hid, hspace, hstatus, hold⟩ := h.each unit hunit
      exact ⟨hid, hspace, hstatus, hold.mono hcodes⟩
    · obtain rfl := mem_singleton.mp hunit
      exact ⟨rfl, rfl, rfl, hlabelled⟩
  · intro unit hunit asset hasset
    rcases mem_append.mp hunit with hunit | hunit
    · exact h.unused unit hunit asset hasset
    · obtain rfl := mem_singleton.mp hunit
      exact htag asset (h.rows ▸ mem_append_left _ hasset)
  · refine pairwise_append.mpr ⟨h.distinct, pairwise_singleton _ _, ?_⟩
    intro asset hasset unit hunit
    obtain rfl := mem_singleton.mp hunit
    exact htag asset (h.rows ▸ mem_append_right _ hasset)

theorem createUnits_spec {newUnits : List NewUnit} (h : Created s m product units)
    (hloop : newUnits.foldlM (createUnit product) (m, number) = .ok acc) :
    ∃ added, added.length = newUnits.length ∧ Created s acc.1 product (units ++ added) := by
  induction newUnits generalizing m number units with
  | nil =>
    rw [foldlM_nil, pure_ok] at hloop
    subst hloop
    exact ⟨[], rfl, by simpa using h⟩
  | cons _ _ ih =>
    simp only [foldlM_cons, bind_ok] at hloop
    obtain ⟨⟨_, _⟩, hturn, hrest⟩ := hloop
    obtain ⟨asset, hasset⟩ := h.turn hturn
    obtain ⟨added, hlength, hadded⟩ := ih hasset hrest
    exact ⟨asset :: added, by simp [hlength], by simpa using hadded⟩

theorem assetCounts_created (h : Created s t product units) :
    assetCounts t product.id = assetCounts s product.id +
      (gain .available units.length + gain .total units.length) := by
  have hunits : ∀ unit ∈ units, unit.share product.id = assetUnit .available := by
    intro unit hunit
    obtain ⟨hid, -, hstatus, -⟩ := h.each unit hunit
    simp [InventoryAsset.share, hid, hstatus]
  have hsum : (units.map (·.share product.id)).sum =
      gain .available units.length + gain .total units.length := by
    rw [map_congr_left hunits]
    clear hunits h
    induction units with
    | nil => simp
    | cons _ _ ih =>
      rw [map_cons, sum_cons, ih, assetUnit_available, length_cons]
      push_cast
      rw [gain_add, gain_add]
      abel
  rw [assetCounts_eq_sum, assetCounts_eq_sum, Table.sum, Table.sum, h.rows, map_append,
    sum_append, hsum]

end Creation

/-- The columns count the assets, some available ones reserved. -/
def CountsUnits (s : State) (product : InventoryProduct) : Prop :=
  product.trackingMode = .individual → ∃ reserved : Int, 0 ≤ reserved ∧
    product.quantities = assetCounts s product.id + move .available .reserved reserved

theorem changeTrackingMode_individual {productId : Nat} {product : InventoryProduct}
    (hproduct : s.products.get? productId = some product) (hcounts : CountsUnits s product)
    (h : changeTrackingMode s productId .individual = .ok t) :
    t = { s with products := t.products } ∧
      t.products.get? productId = some { product with trackingMode := .individual } ∧
      ∃ reserved : Int, 0 ≤ reserved ∧
        product.quantities = assetCounts s product.id + move .available .reserved reserved := by
  simp [changeTrackingMode] at h
  obtain ⟨_, hget, h⟩ := h
  obtain rfl := Option.some.inj (hproduct.symm.trans hget)
  obtain rfl : product.id = productId := key_of_get? hproduct
  split at h
  · next hmode =>
      rw [pure_ok] at h
      subst h
      refine ⟨rfl, ?_, hcounts hmode⟩
      rw [hproduct, ← hmode]
  · simp at h
    obtain ⟨hblocker, rfl⟩ := h
    obtain ⟨hempty, hunused⟩ := unused_of_changeBlocker hblocker
    refine ⟨rfl, ?_, 0, le_refl _, ?_⟩
    · have hput := get?_put_self (r := { product with trackingMode := .individual }) hproduct
      exact hput
    · rw [hempty, hunused.assetCounts]
      simp

/-- Units without an active QR code get one first, new units with unused tags make up the number,
and the product gains them as available. -/
theorem units_generated {s t : State} {productId count : Nat} {relabelled : List (Nat × String)}
    {newUnits : List NewUnit} {product : InventoryProduct}
    (hproduct : s.products.get? productId = some product) (hcounts : CountsUnits s product)
    (hgenerate : generateAssetsWithQr s productId count relabelled newUnits = .ok t) :
    ∃ units : List InventoryAsset,
      units.length + (assetsMissingActiveQr s product count).length = count ∧
      t.assets.rows = s.assets.rows ++ units ∧
      (∀ unit ∈ units, unit.productId = productId ∧ unit.makerspaceId = product.makerspaceId ∧
        unit.status = .available ∧ Labelled t unit) ∧
      units.Pairwise (fun a b => ¬ SameTag a b) ∧
      (∀ unit ∈ units, ∀ asset ∈ s.assets.rows, ¬ SameTag asset unit) ∧
      (∀ asset ∈ assetsMissingActiveQr s product count, Labelled t asset) ∧
      t.products.get? productId = some { product with
        trackingMode := .individual
        quantities := product.quantities +
          (gain .available units.length + gain .total units.length) } := by
  simp only [generateAssetsWithQr, bind_ok, require_ok, orRefuse_ok, pure_ok,
    exists_const] at hgenerate
  obtain ⟨-, m, hmode, _, hswitched, ⟨hrelabelled, hlength⟩, coded, hrelabel, ⟨made, _⟩,
    hloop, ⟨final, reconciled⟩, hreconcile, rfl⟩ := hgenerate
  obtain ⟨hm, hget, reserved, _, hquantities⟩ :=
    changeTrackingMode_individual hproduct hcounts hmode
  obtain rfl := Option.some.inj (hget.symm.trans hswitched)
  have hid : product.id = productId := key_of_get? hproduct
  have hmissing : assetsMissingActiveQr m { product with trackingMode := .individual } count =
      assetsMissingActiveQr s product count := by
    rw [hm]
    rfl
  rw [hmissing] at hrelabelled hlength hrelabel
  obtain ⟨hcoded, _, hlabelled⟩ := relabel_spec hrelabel
  obtain ⟨units, _, hcreated⟩ := createUnits_spec (Created.start coded _) hloop
  change Created coded made _ units at hcreated
  have hassets : coded.assets = s.assets := by rw [hcoded, hm]
  have hproducts : made.products = m.products := by rw [hcreated.frame, hcoded]
  -- The new units are the only change that the reconciliation sees.
  have hreconciled : final = { made with products := made.products.put reconciled } ∧
      reconciled = { product with
        trackingMode := .individual
        quantities := product.quantities +
          (gain .available units.length + gain .total units.length) } := by
    have hbefore : assetCounts coded product.id = assetCounts s product.id := by
      rw [assetCounts_eq_sum, assetCounts_eq_sum, hassets]
    have hafter : assetCounts made product.id = assetCounts s product.id +
        (gain .available units.length + gain .total units.length) := by
      rw [← hbefore]
      simpa using assetCounts_created hcreated
    have hunmarked : max (product.quantities .reserved - assetCounts made product.id .reserved) 0 =
        reserved := by
      rw [hafter, hquantities]
      simp only [Pi.add_apply, gain_apply, move_apply]
      simp
      omega
    simp [reconcileIndividualProductFromAssets, hunmarked] at hreconcile
    obtain ⟨-, rfl, rfl⟩ := hreconcile
    refine ⟨rfl, ?_⟩
    rw [hafter, hquantities]
    congr 1
    abel
  obtain ⟨rfl, rfl⟩ := hreconciled
  refine ⟨units, by omega, by rw [hcreated.rows, hassets], ?_, hcreated.distinct, ?_, ?_, ?_⟩
  · intro unit hunit
    obtain ⟨hunitProduct, hspace, hstatus, hcode⟩ := hcreated.each unit hunit
    exact ⟨hunitProduct.trans hid, hspace, hstatus, hcode⟩
  · intro unit hunit asset hasset
    exact hcreated.unused unit hunit asset (hassets ▸ hasset)
  · intro asset hasset
    have hzip : asset ∈ ((assetsMissingActiveQr s product count).zip relabelled).map Prod.fst := by
      rw [map_fst_zip (by omega)]
      exact hasset
    obtain ⟨entry, hentry, rfl⟩ := mem_map.mp hzip
    exact (hlabelled entry hentry).mono hcreated.codes
  · have hfound : made.products.get? product.id =
        some { product with trackingMode := .individual } := by
      rw [hproducts, hget.symm, hid]
    rw [← hid]
    exact get?_put_self hfound

def oneDrill : InventoryProduct where
  id := 7
  makerspaceId := 1
  name := "drill"
  trackingMode := .individual
  quantities := gain .available 1 + gain .total 1

def uncodedDrill : State where
  products := ⟨[oneDrill], nodup_singleton _⟩
  assets := ⟨[{ id := 3, makerspaceId := 1, productId := 7, assetTag := "7-0001" }],
    nodup_singleton _⟩

def secondDrill : NewUnit where
  assetId := 4
  qrId := 12
  payload := "second"

theorem uncodedDrill_counts : CountsUnits uncodedDrill oneDrill := by
  intro _
  refine ⟨0, le_refl _, ?_⟩
  funext column
  cases column <;> rfl

theorem drill_generated :
    ∃ t, generateAssetsWithQr uncodedDrill 7 2 [(11, "first")] [secondDrill] = .ok t ∧
      ∃ units : List InventoryAsset, units.length + 1 = 2 ∧
        t.assets.rows = uncodedDrill.assets.rows ++ units := by
  have hproduct : uncodedDrill.products.get? 7 = some oneDrill := rfl
  refine ⟨_, rfl, ?_⟩
  obtain ⟨units, hlength, hrows, -⟩ := units_generated hproduct uncodedDrill_counts
    (show generateAssetsWithQr uncodedDrill 7 2 [(11, "first")] [secondDrill] = .ok _ from rfl)
  exact ⟨units, hlength, hrows⟩

theorem drill_relabelled :
    ∃ t, generateAssetsWithQr uncodedDrill 7 1 [(11, "first")] [] = .ok t ∧
      t.assets.rows = uncodedDrill.assets.rows ∧
      (t.products.get? 7).map (·.quantities .total) = some 1 :=
  ⟨_, rfl, rfl, rfl⟩

end Lending
end SpaceWorks
