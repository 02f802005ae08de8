import SpaceWorks.Lending.Balance

/-!
# Stock keeping keeps the tables consistent

Units that are in the building change their bucket, their box or their product row.
-/

namespace SpaceWorks
namespace Lending

open Checked Quantities Availability Table

variable {s t : State}

theorem consistent_put_product (new : InventoryProduct) {old : InventoryProduct} (h : Consistent s)
    (hold : s.products.get? new.id = some old) (hkind : new.kind = old.kind)
    (hmode : old.trackingMode = .quantity) (hsound : new.quantities.Sound)
    (hreserved : new.quantities .reserved = old.quantities .reserved)
    (hissued : new.quantities .issued = old.quantities .issued)
    (hproducts : t.products = s.products.put new) (hrequests : t.requests = s.requests)
    (hassets : t.assets = s.assets) (hloans : t.loans = s.loans)
    (hqrCodes : t.qrCodes = s.qrCodes) :
    Consistent t := by
  have hdemand : ∀ productId, demand t productId = demand s productId := by
    intro productId
    rw [demand_eq_sum, demand_eq_sum, hrequests]
  have houtstanding : ∀ productId, outstanding t productId = outstanding s productId := by
    intro productId
    unfold outstanding
    rw [hrequests]
  refine ⟨recorded_congr h.toRecorded hrequests hassets hloans hqrCodes
    (kindOf_put hold hkind hproducts), ?_⟩
  intro product hproduct
  rw [hproducts] at hproduct
  rcases mem_of_mem_put hproduct with rfl | ⟨hproduct, -⟩
  · have hbalanced := h.balanced old (mem_of_get? hold)
    have hid : product.id = old.id := (key_of_get? hold).symm
    have hmodeNew : product.trackingMode = old.trackingMode := congrArg Prod.snd hkind
    refine ⟨hsound, fun _ => ?_, fun _ => ?_, fun hindividual => ?_⟩
    · rw [hreserved, hdemand, hid]
      exact hbalanced.reserved hmode
    · rw [hissued, houtstanding, hid]
      exact hbalanced.issued hmode
    · rw [hmodeNew, hmode] at hindividual
      cases hindividual
  · exact balanced_frame (h.balanced product hproduct) hrequests hassets

theorem applyDeltas_spec
    {refusal : String} {productId : Nat} {deltaAvailable deltaDamaged deltaLost : Int}
    (h : applyDeltas refusal s productId deltaAvailable deltaDamaged deltaLost = .ok t) :
    ∃ old, s.products.get? productId = some old ∧ 0 ≤ old.quantities .available + deltaAvailable ∧
      0 ≤ old.quantities .damaged + deltaDamaged ∧
      0 ≤ old.quantities .lost + deltaLost ∧
      t = { s with products := s.products.put { old with
        quantities := withTotal (old.quantities + gain .available deltaAvailable
          + gain .damaged deltaDamaged + gain .lost deltaLost) } } := by
  simp [applyDeltas] at h
  obtain ⟨old, hget, ⟨havailable, hdamaged, hlost⟩, rfl⟩ := h
  refine ⟨old, hget, ?_, ?_, ?_, rfl⟩
  · simpa [gain] using havailable
  · simpa [gain] using hdamaged
  · simpa [gain] using hlost

theorem mode_of_ne_individual {mode : TrackingMode} (h : mode ≠ .individual) :
    mode = .quantity := by
  cases mode with
  | quantity => rfl
  | individual => exact absurd rfl h

section Assets

variable {old asset : InventoryAsset} {m : State} {newStatus : AssetStatus}

theorem consistent_rehome_asset (new : InventoryAsset) (h : Consistent s) (hold : old ∈ s.assets)
    (hid : new.id = old.id) (holdStatus : old.status ≠ .issued) (hnewStatus : new.status ≠ .issued)
    (hbound : s.kindOf new.productId = some (new.makerspaceId, .individual))
    (hassets : t.assets = s.assets.put new)
    (hproducts : t.products = s.products.credit fun productId =>
      new.share productId - old.share productId)
    (hsound : ∀ product ∈ t.products, product.quantities.Sound)
    (hrequests : t.requests = s.requests) (hloans : t.loans = s.loans) (hcoded : Coded t) :
    Consistent t := by
  have hdemand : ∀ productId, demand t productId = demand s productId := by
    intro productId
    rw [demand_eq_sum, demand_eq_sum, hrequests]
  have hget : s.assets.get? (key new) = some old := by
    rw [key_asset, hid]
    exact get?_key hold
  have hcounts : ∀ productId, assetCounts t productId - assetCounts s productId =
        new.share productId - old.share productId := by
    intro productId
    have hsum := sum_put hget fun asset => asset.share productId
    rw [assetCounts_eq_sum, assetCounts_eq_sum, hassets, eq_sub_of_add_eq hsum]
    abel
  -- a quantity-tracked product has no assets
  have hshare : ∀ asset : InventoryAsset,
      s.kindOf asset.productId = some (asset.makerspaceId, .individual) →
      ∀ product ∈ s.products, product.trackingMode = .quantity → asset.share product.id = 0 := by
    intro asset hkind product hproduct hmode
    refine if_neg fun heq => ?_
    rw [heq, kindOf_of_mem hproduct] at hkind
    simp [InventoryProduct.kind, hmode] at hkind
  refine ⟨recorded_put_asset h.toRecorded hold hid holdStatus hnewStatus hbound hassets hrequests
    hloans (kindOf_credit hproducts) hcoded, balanced_credit h hproducts hsound ?_ ?_⟩
  · intro product hmem hmode
    have houtstanding : outstanding t product.id = outstanding s product.id := by
      unfold outstanding
      rw [hrequests]
    rw [hshare new hbound product hmem hmode,
      hshare old (assetsBound_iff.mp h.assets old hold) product hmem hmode, hdemand, houtstanding]
    simp
  · intro product _ _
    rw [hcounts, hdemand, sub_self, move_zero, add_zero]

/-- An unissued asset changes, and its product's columns follow. -/
theorem consistent_put_asset (new : InventoryAsset) (h : Consistent s) (hold : old ∈ s.assets)
    (hid : new.id = old.id) (holdStatus : old.status ≠ .issued) (hnewStatus : new.status ≠ .issued)
    (hproduct : new.productId = old.productId) (hmakerspace : new.makerspaceId = old.makerspaceId)
    (hassets : t.assets = s.assets.put new)
    (hproducts : t.products = s.products.credit fun productId =>
      if productId = old.productId then assetUnit new.status - assetUnit old.status else 0)
    (hsound : ∀ product ∈ t.products, product.quantities.Sound)
    (hrequests : t.requests = s.requests) (hloans : t.loans = s.loans)
    (hqrCodes : t.qrCodes = s.qrCodes) :
    Consistent t := by
  have hbound : s.kindOf new.productId = some (new.makerspaceId, .individual) := by
    rw [hproduct, hmakerspace]
    exact assetsBound_iff.mp h.assets old hold
  have hcoded : Coded t := by
    unfold Coded
    rw [hqrCodes]
    exact h.coded
  refine consistent_rehome_asset new h hold hid holdStatus hnewStatus hbound hassets ?_ hsound
    hrequests hloans hcoded
  rw [hproducts]
  congr 1
  funext productId
  by_cases hp : productId = old.productId
  · simp [InventoryAsset.share, hproduct, hp]
  · have hp' : old.productId ≠ productId := fun heq => hp heq.symm
    simp [InventoryAsset.share, hproduct, hp, hp']

theorem reconcile_of_balanced
    (h : Consistent s) {product : InventoryProduct} (hproduct : product ∈ s.products)
    {product' : InventoryProduct}
    (hstep : reconcileIndividualProductFromAssets s product = .ok (m, product')) :
    m = s ∧ product' = product := by
  unfold reconcileIndividualProductFromAssets at hstep
  split at hstep
  · simp at hstep
    exact ⟨hstep.1.symm, hstep.2.symm⟩
  · next hmode =>
      have hmode : product.trackingMode = .individual := by simpa using hmode
      have hmirrored := (h.balanced product hproduct).mirrored hmode
      have hreserved : product.quantities .reserved =
          assetCounts s product.id .reserved + demand s product.id := by
        conv_lhs => rw [hmirrored]
        simp [move_apply]
      have hdemand := demand_nonneg h.toRecorded product.id
      have hunmarked : max (product.quantities .reserved - assetCounts s product.id .reserved) 0
          = demand s product.id := by omega
      simp only [bind_ok, require_ok, pure_ok, hunmarked, ← hmirrored, Prod.mk.injEq] at hstep
      obtain ⟨-, -, rfl, rfl⟩ := hstep
      have hput : s.products.put product = s.products := by
        have hcredit := Table.put_post (get?_key hproduct) (0 : Quantities)
        rw [Account.post_zero] at hcredit
        rw [hcredit]
        simp
      exact ⟨by rw [hput], rfl⟩

theorem moveAssetStatus_spec (h : Consistent s)
    (hstep : moveAssetStatus s asset newStatus = .ok t) :
    (asset.status = newStatus ∧ t = s) ∨
      ∃ product oldBucket newBucket, s.products.get? asset.productId = some product ∧
        assetQuantityBucket asset.status = some oldBucket ∧
        assetQuantityBucket newStatus = some newBucket ∧
        1 ≤ product.quantities oldBucket ∧
        t = { s with
          products := s.products.put
            { product with quantities := product.quantities + move oldBucket newBucket 1 }
          assets := s.assets.put { asset with status := newStatus } } := by
  unfold moveAssetStatus at hstep
  split at hstep
  · next heq =>
      rw [pure_ok] at hstep
      exact .inl ⟨heq, hstep.symm⟩
  · simp only [bind_ok, orRefuse_ok, require_ok, pure_ok] at hstep
    obtain ⟨oldBucket, hold, newBucket, hnew, _, hget, ⟨_, product'⟩, hreconcile, -,
      hheld, rfl⟩ := hstep
    obtain ⟨rfl, rfl⟩ := reconcile_of_balanced h (mem_of_get? hget) hreconcile
    exact .inr ⟨product', oldBucket, newBucket, hget, hold, hnew, hheld, rfl⟩

theorem assetQuantityBucket_ne_total
    {status : AssetStatus} {bucket : Column} (h : assetQuantityBucket status = some bucket) :
    bucket ≠ .total := by
  cases status <;> simp [assetQuantityBucket] at h <;> subst h <;> simp

theorem sound_put (h : ∀ product ∈ s.products, product.quantities.Sound) {new : InventoryProduct}
    (hsound : new.quantities.Sound) :
    ∀ product ∈ s.products.put new, product.quantities.Sound := by
  intro product hproduct
  rcases mem_of_mem_put hproduct with rfl | ⟨hproduct, -⟩
  · exact hsound
  · exact h product hproduct

theorem consistent_moveAsset (boxId : Option Nat) (h : Consistent s) (hasset : asset ∈ s.assets)
    (hold : asset.status ≠ .issued) (hnew : newStatus ≠ .issued)
    (hstep : moveAssetStatus s asset newStatus = .ok m)
    (ht : t = { m with assets := m.assets.put { asset with
      status := newStatus, boxId := boxId } }) :
    Consistent t := by
  rcases moveAssetStatus_spec h hstep with ⟨heq, rfl⟩ | ⟨product, oldBucket, newBucket, hget,
    holdBucket, hnewBucket, hheld, rfl⟩
  · refine consistent_put_asset { asset with status := newStatus, boxId := boxId } h hasset rfl
      hold hnew rfl rfl (by rw [ht]) ?_ (by rw [ht]; exact h.sound) (by rw [ht]) (by rw [ht])
      (by rw [ht])
    rw [ht, heq]
    simp
  · have hsound := h.sound product (mem_of_get? hget)
    refine consistent_put_asset { asset with status := newStatus, boxId := boxId } h hasset rfl
      hold hnew rfl rfl (by rw [ht]; exact put_put _ rfl) ?_ ?_ (by rw [ht]) (by rw [ht])
      (by rw [ht])
    · rw [ht, assetUnit_sub holdBucket hnewBucket]
      exact Table.put_post hget (move oldBucket newBucket 1)
    · rw [ht]
      exact sound_put h.sound (hsound.move (assetQuantityBucket_ne_total holdBucket)
        (assetQuantityBucket_ne_total hnewBucket) (by omega) hheld)

end Assets

end Lending
end SpaceWorks
