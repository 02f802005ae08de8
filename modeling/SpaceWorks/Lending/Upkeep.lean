import SpaceWorks.Lending.Shelf

/-!
# Upkeep keeps the tables consistent

Triage, stocktakes and transfers loop over lines.
-/

namespace SpaceWorks
namespace Lending

open Checked Quantities Availability Table

variable {s t : State}

section Rules

/-- Credits are neither reserved nor issued, and none for individual-tracked products. -/
theorem consistent_credit {d : Nat → Quantities} (h : Consistent s)
    (hproducts : t.products = s.products.credit d)
    (hsound : ∀ product ∈ t.products, product.quantities.Sound)
    (hreserved : ∀ productId, d productId .reserved = 0)
    (hissued : ∀ productId, d productId .issued = 0)
    (hindividual : ∀ product ∈ s.products, product.trackingMode = .individual →
      d product.id = 0) (hassets : t.assets = s.assets) (hrequests : t.requests = s.requests)
    (hloans : t.loans = s.loans) (hqrCodes : t.qrCodes = s.qrCodes) :
    Consistent t := by
  have hdemand : ∀ productId, demand t productId = demand s productId := by
    intro productId
    rw [demand_eq_sum, demand_eq_sum, hrequests]
  refine ⟨recorded_congr h.toRecorded hrequests hassets hloans hqrCodes (kindOf_credit hproducts),
    balanced_credit h hproducts hsound ?_ ?_⟩
  · intro product _ _
    have houtstanding : outstanding t product.id = outstanding s product.id := by
      unfold outstanding
      rw [hrequests]
    rw [hreserved, hissued, hdemand, houtstanding]
    omega
  · intro product hproduct hmode
    rw [hindividual product hproduct hmode, assetCounts_congr hassets, hdemand]
    simp

/-- No open request and no asset names the product. -/
structure Unused (s : State) (productId : Nat) : Prop where
  items : ∀ request ∈ s.requests, request.status = .accepted ∨ request.status.out →
    ∀ item ∈ request.items, productId ≠ item.productId
  assets : ∀ asset ∈ s.assets, asset.productId ≠ productId

theorem unused_of_absent
    (h : Recorded s) {productId : Nat} (hget : s.products.get? productId = none) :
    Unused s productId where
  items := by
    rintro request hrequest - item hitem rfl
    obtain ⟨_, hproduct, -⟩ := h.items request hrequest item hitem
    simp [hget] at hproduct
  assets := by
    rintro asset hasset rfl
    obtain ⟨_, hproduct, -⟩ := h.assets asset hasset
    simp [hget] at hproduct

namespace Unused

variable {productId : Nat}

theorem outstanding_request
    (h : Unused s productId) {request : HardwareRequest} (hrequest : request ∈ s.requests) :
    request.outstanding productId = 0 := by
  unfold HardwareRequest.outstanding
  split
  · next hout =>
      exact sum_eq_zero fun item hitem =>
        if_neg (h.items request hrequest (.inr hout) item hitem)
  · rfl

theorem outstanding (h : Unused s productId) : Lending.outstanding s productId = 0 :=
  sum_eq_zero fun _ hrequest => h.outstanding_request hrequest

theorem demand (h : Unused s productId) : Availability.demand s productId = 0 := by
  rw [demand_eq_sum]
  refine sum_eq_zero fun request hrequest => ?_
  unfold HardwareRequest.demand
  split
  · next hstatus =>
      exact sum_eq_zero fun item hitem =>
        if_neg (h.items request hrequest (.inl hstatus) item hitem)
  · rfl

theorem assetCounts (h : Unused s productId) : Availability.assetCounts s productId = 0 := by
  rw [assetCounts_eq_sum]
  exact sum_eq_zero fun asset hasset => if_neg (h.assets asset hasset)

theorem loanedAssets (h : Unused s productId) (loan : PublicToolLoan) :
    Lending.loanedAssets s loan productId = 0 :=
  sum_eq_zero fun asset hasset => if_neg fun hand => h.assets asset hasset hand.2

theorem balanced
    {product : InventoryProduct} (h : Unused s product.id) (hempty : product.quantities = 0) :
    Balanced s product where
  sound := by
    rw [hempty]
    exact sound_zero
  reserved _ := by
    rw [hempty, h.demand]
    rfl
  issued _ := by
    rw [hempty, h.outstanding]
    rfl
  mirrored _ := by
    rw [hempty, h.demand, h.assetCounts]
    simp

end Unused

theorem consistent_write_product (new : InventoryProduct) (h : Consistent s)
    (hunused : Unused s new.id) (hempty : new.quantities = 0)
    (hproducts : ∀ product ∈ t.products, product = new ∨ product ∈ s.products)
    (hkeeps : ∀ productId product, s.products.get? productId = some product →
      ∃ product', t.products.get? productId = some product' ∧
        product'.makerspaceId = product.makerspaceId ∧
        (productId ≠ new.id → product'.trackingMode = product.trackingMode))
    (hassets : t.assets = s.assets) (hrequests : t.requests = s.requests)
    (hloans : t.loans = s.loans) (hqrCodes : t.qrCodes = s.qrCodes) :
    Consistent t := by
  refine ⟨recorded_assets h.toRecorded hrequests hloans ?_ ?_ ?_ (keepsIssued_refl hassets) ?_ ?_,
    ?_⟩
  · intro request hrequest item hitem
    obtain ⟨_, hget, hmakerspace⟩ := h.items request (hrequests ▸ hrequest) item hitem
    obtain ⟨product', hget', hmakerspace', -⟩ := hkeeps _ _ hget
    exact ⟨product', hget', hmakerspace'.trans hmakerspace⟩
  · intro asset hasset
    have hasset : asset ∈ s.assets := hassets ▸ hasset
    obtain ⟨_, hget, hmakerspace, hmode⟩ := h.assets asset hasset
    obtain ⟨product', hget', hmakerspace', hmode'⟩ := hkeeps _ _ hget
    exact ⟨product', hget', hmakerspace'.trans hmakerspace,
      (hmode' (hunused.assets asset hasset)).trans hmode⟩
  · unfold Coded
    rw [hqrCodes]
    exact h.coded
  · intro asset hasset
    exact .inl (hassets ▸ hasset)
  · intro loan hloan hstatus request hbacks product hproduct hmode
    have hcount : loanedAssets t loan product.id = loanedAssets s loan product.id := by
      unfold loanedAssets
      rw [hassets]
    rw [hcount]
    rcases hproducts product hproduct with rfl | hproduct
    · rw [hunused.loanedAssets, hunused.outstanding_request (mem_of_get? hbacks.found)]
    · exact hbacks.counted product hproduct hmode
  · intro product hproduct
    rcases hproducts product hproduct with rfl | hproduct
    · exact balanced_frame (hunused.balanced hempty) hrequests hassets
    · exact balanced_frame (h.balanced product hproduct) hrequests hassets

theorem consistent_insert_product (new : InventoryProduct) (h : Consistent s)
    (hnew : s.products.get? (key new) = none) (hempty : new.quantities = 0)
    (hproducts : t.products = s.products.insert new hnew) (hassets : t.assets = s.assets)
    (hrequests : t.requests = s.requests) (hloans : t.loans = s.loans)
    (hqrCodes : t.qrCodes = s.qrCodes) :
    Consistent t := by
  refine consistent_write_product new h (unused_of_absent h.toRecorded hnew) hempty ?_ ?_
    hassets hrequests hloans hqrCodes
  · intro product hproduct
    rw [hproducts] at hproduct
    exact ((mem_insert hnew).mp hproduct).symm
  · intro productId product hget
    refine ⟨product, ?_, rfl, fun _ => rfl⟩
    rw [hproducts, get?_insert, if_neg, hget]
    rintro rfl
    rw [hnew] at hget
    cases hget

end Rules

theorem nodup_take_sorted (s : State) (select : InventoryAsset → Bool) (n : Nat) :
    ((((s.assets.rows.filter select).insertionSort fun a b => a.id ≤ b.id).take n).map
      InventoryAsset.id).Nodup := by
  have hfilter : ((s.assets.rows.filter select).map InventoryAsset.id).Nodup :=
    (List.filter_sublist.map InventoryAsset.id).nodup s.assets.nodup
  have hsorted : (((s.assets.rows.filter select).insertionSort
      fun a b => a.id ≤ b.id).map InventoryAsset.id).Nodup :=
    ((List.perm_insertionSort _ _).map InventoryAsset.id).nodup_iff.mpr hfilter
  exact ((List.take_sublist n _).map InventoryAsset.id).nodup hsorted

def Condition.column : Condition → Option Column
  | .available => some .available
  | .damaged => some .damaged
  | .lost => some .lost
  | .unknown => none

theorem assetBucket_column
    {status : AssetStatus} {condition : Condition} (h : assetBucket status = some condition) :
    ∃ column, condition.column = some column ∧ assetQuantityBucket status = some column := by
  cases status <;> simp [assetBucket] at h <;> subst h <;>
    simp [Condition.column, assetQuantityBucket]

theorem applyLedgerEntry_spec
    {productId : Nat} {condition : Condition} {column : Column} {delta : Int}
    (hcolumn : condition.column = some column)
    (h : applyLedgerEntry s productId condition delta = .ok t) :
    ∃ old, s.products.get? productId = some old ∧ 0 ≤ old.quantities column + delta ∧
      t = { s with products := s.products.put ({ old with
        quantities := withTotal (old.quantities + gain column delta) } : InventoryProduct) } := by
  simp only [applyLedgerEntry, mapError_eq_ok] at h
  obtain ⟨old, hget, havailable, hdamaged, hlost, rfl⟩ := applyDeltas_spec h
  refine ⟨old, hget, ?_, ?_⟩
  · cases condition <;> simp [Condition.column] at hcolumn <;> subst hcolumn <;>
      simp at havailable hdamaged hlost <;> omega
  · cases condition <;> simp [Condition.column] at hcolumn <;> subst hcolumn <;> simp

theorem column_ne_total
    {condition : Condition} {column : Column} (h : condition.column = some column) :
    column ≠ .total := by
  cases condition <;> simp [Condition.column] at h <;> subst h <;> simp

section Transfers

variable {quantity : Int} {source : InventoryProduct} {destination : Option Nat}
  {newProductId makerspaceId productId : Nat}

theorem consistent_transferQuantity {sourceId destinationId : Nat} (h : Consistent s)
    (hsource : ∀ product, s.products.get? sourceId = some product →
      product.trackingMode = .quantity)
    (hdestination : ∀ product, s.products.get? destinationId = some product →
      product.trackingMode = .quantity)
    (hstep : transferAvailableQuantity s sourceId destinationId quantity = .ok t) :
    Consistent t := by
  simp [transferAvailableQuantity] at hstep
  obtain ⟨hquantity, hstep⟩ := hstep
  split at hstep
  · rw [pure_ok] at hstep
    exact hstep ▸ h
  · have hposted := post_spec ?_ hstep
    · refine consistent_credit h hposted.products (hposted.sound h.sound) ?_ ?_ ?_
        hposted.assets hposted.requests hposted.loans hposted.qrCodes
      · intro productId
        simp only [Posting.total_cons, Posting.total_nil]
        split <;> split <;> simp [gain]
      · intro productId
        simp only [Posting.total_cons, Posting.total_nil]
        split <;> split <;> simp [gain]
      · intro product hproduct hmode
        have hget : s.products.get? product.id = some product := get?_key hproduct
        have hs : product.id ≠ sourceId := by
          rintro rfl
          simp [hsource product hget] at hmode
        have hd : product.id ≠ destinationId := by
          rintro rfl
          simp [hdestination product hget] at hmode
        simp [hs, hd]
    · intro posting hposting product hsound hcheck
      simp at hposting
      rcases hposting with rfl | rfl
      · rw [require_ok] at hcheck
        have hremoved := hsound.remove (by simp) hcheck.1
        rwa [sub_eq_add_neg, sub_eq_add_neg, add_assoc, ← sub_eq_add_neg] at hremoved
      · rw [← add_assoc]
        exact hsound.add (by simp) (le_of_lt hquantity)

theorem firstProduct_spec {select : InventoryProduct → Bool} {product : InventoryProduct}
    (h : firstProduct s select = some product) :
    product ∈ s.products ∧ select product := by
  have hmem := List.mem_of_head? h
  rw [List.mem_insertionSort, List.mem_filter] at hmem
  exact hmem

theorem consistent_transferToNew {new : InventoryProduct} (h : Consistent s)
    (hsource : s.products.get? source.id = some source) (hmode : source.trackingMode = .quantity)
    (hempty : new.quantities = 0) (hnewMode : new.trackingMode = .quantity)
    (hstep : transferToNew s source new quantity = .ok t) :
    Consistent t := by
  simp only [transferToNew, bind_ok, insertNew_ok] at hstep
  obtain ⟨products, ⟨hnew, rfl⟩, hmove⟩ := hstep
  have hinserted : Consistent { s with products := s.products.insert new hnew } :=
    consistent_insert_product new h hnew hempty rfl rfl rfl rfl rfl
  refine consistent_transferQuantity hinserted (fun product hget => ?_)
    (fun product hget => ?_) hmove
  · have hne : source.id ≠ key new := by
      intro heq
      rw [heq, hnew] at hsource
      cases hsource
    rw [get?_insert, if_neg hne, hsource] at hget
    cases hget
    exact hmode
  · rw [get?_insert, key_product, if_pos rfl] at hget
    cases hget
    exact hnewMode

theorem consistent_splitQuantityStock (h : Consistent s)
    (hsource : s.products.get? source.id = some source) (hmode : source.trackingMode = .quantity)
    (hstep : splitQuantityStock s source destination quantity newProductId = .ok t) :
    Consistent t := by
  have hquantity : ∀ product, s.products.get? source.id = some product →
      product.trackingMode = .quantity := by
    intro product hget
    obtain rfl := Option.some.inj (hsource.symm.trans hget)
    exact hmode
  unfold splitQuantityStock at hstep
  split at hstep
  · next product hfound =>
      obtain ⟨hproduct, hselect⟩ := firstProduct_spec hfound
      simp at hselect
      refine consistent_transferQuantity h hquantity (fun other hget => ?_) hstep
      obtain rfl := Option.some.inj ((get?_key hproduct).symm.trans hget)
      exact hselect.2.2.2.1
  · split at hstep
    · rw [pure_ok] at hstep
      subst hstep
      exact consistent_put_product { source with boxId := destination } h hsource rfl hmode
        (h.sound source (mem_of_get? hsource)) rfl rfl rfl rfl rfl rfl rfl
    · exact consistent_transferToNew h hsource hmode rfl rfl hstep

theorem consistent_transferAsset {assetId : Nat} {source : Option Nat}
    {fromStatus toStatus : Option AssetStatus} (h : Consistent s)
    (hstep : transferAsset s makerspaceId source destination assetId fromStatus toStatus = .ok t) :
    Consistent t := by
  simp only [transferAsset, assertAssetTransferable, bind_ok, orRefuse_ok, require_ok,
    pure_ok] at hstep
  obtain ⟨_, hget, -, -, -, -, -, -, -, ⟨-, hto, -, ⟨hissued, -⟩, -⟩, _, hmove, rfl⟩ := hstep
  refine consistent_moveAsset destination h (mem_of_get? hget) hissued ?_ hmove rfl
  cases toStatus with
  | none => exact hissued
  | some =>
    rintro rfl
    simp at hto

theorem consistent_transferProduct {source : Option Nat} (h : Consistent s)
    (hstep : transferProduct s makerspaceId source destination productId quantity newProductId
      = .ok t) :
    Consistent t := by
  simp only [transferProduct, bind_ok, orRefuse_ok, require_ok] at hstep
  obtain ⟨_, hget, -, -, -, -, -, hmode, -, -, hsplit⟩ := hstep
  exact consistent_splitQuantityStock h (get?_key (mem_of_get? hget))
    (mode_of_ne_individual hmode) hsplit

theorem consistent_transferAcross {destinationMakerspaceId : Nat} (h : Consistent s)
    (hstep : transferAcross s makerspaceId destinationMakerspaceId destination productId quantity
      newProductId = .ok t) :
    Consistent t := by
  simp only [transferAcross, bind_ok, orRefuse_ok, require_ok] at hstep
  obtain ⟨source, hget, -, -, -, hmode, -, -, hstep⟩ := hstep
  have hmode := mode_of_ne_individual hmode
  have hsource : s.products.get? source.id = some source := get?_key (mem_of_get? hget)
  split at hstep
  · next product hfound =>
      simp only [bind_ok, require_ok] at hstep
      obtain ⟨-, hcounterpart, hmove⟩ := hstep
      refine consistent_transferQuantity h (fun other hother => ?_) (fun other hother => ?_) hmove
      · obtain rfl := Option.some.inj (hsource.symm.trans hother)
        exact hmode
      · have hproduct := (firstProduct_spec hfound).1
        obtain rfl := Option.some.inj ((get?_key hproduct).symm.trans hother)
        exact mode_of_ne_individual hcounterpart
  · exact consistent_transferToNew h hsource hmode rfl rfl hstep

end Transfers

theorem unused_of_changeBlocker {product : InventoryProduct} (h : changeBlocker s product = none) :
    product.quantities = 0 ∧ Unused s product.id := by
  unfold changeBlocker at h
  split at h
  · cases h
  next hempty =>
  split at h
  · cases h
  next hassets =>
  split at h
  · cases h
  next hopen =>
  refine ⟨?_, ?_, ?_⟩
  · funext column
    by_contra hne
    exact hempty ⟨column, by cases column <;> simp, hne⟩
  · intro request hrequest hstatus item hitem heq
    exact hopen ⟨request, hrequest, hstatus, item, hitem, heq.symm⟩
  · intro asset hasset heq
    have hmem : asset ∈ s.assetsOf product.id := List.mem_filter.mpr ⟨hasset, by simpa using heq⟩
    exact hassets (List.ne_nil_of_mem hmem)

end Lending
end SpaceWorks
