import SpaceWorks.Lending.Ledger

/-!
# What keeps the records

Requests, links, loans, assets and QR codes agree (`Recorded`), with one rule for each way of
touching them.
-/

namespace SpaceWorks
namespace Lending

open Checked Quantities Availability Table Option

variable {s t : State} {product : InventoryProduct} {asset : InventoryAsset}

/-- The columns of a product that the records depend on. -/
def InventoryProduct.kind (product : InventoryProduct) : Nat × TrackingMode :=
  (product.makerspaceId, product.trackingMode)

def State.kindOf (s : State) (productId : Nat) : Option (Nat × TrackingMode) :=
  (s.products.get? productId).map InventoryProduct.kind

theorem individual_eq (s : State) (productId : Nat) :
    s.individual productId = (s.kindOf productId).any fun kind => kind.2 = .individual := by
  unfold State.individual State.kindOf
  cases s.products.get? productId <;> rfl

theorem individual_congr (h : t.kindOf = s.kindOf) (productId : Nat) :
    t.individual productId = s.individual productId := by
  rw [individual_eq, individual_eq, h]

theorem kindOf_eq_some {productId : Nat} {kind : Nat × TrackingMode} :
    s.kindOf productId = some kind ↔
      ∃ product, s.products.get? productId = some product ∧ product.kind = kind := by
  simp [State.kindOf]

theorem kindOf_of_mem (h : product ∈ s.products) :
    s.kindOf product.id = some product.kind :=
  kindOf_eq_some.mpr ⟨product, get?_key h, rfl⟩

theorem kindOf_credit {d : Nat → Quantities} (h : t.products = s.products.credit d) :
    t.kindOf = s.kindOf := by
  funext productId
  unfold State.kindOf
  rw [h, Table.get?_credit]
  cases s.products.get? productId <;> rfl

theorem kindOf_put {old new : InventoryProduct} (hold : s.products.get? new.id = some old)
    (hkind : new.kind = old.kind) (h : t.products = s.products.put new) :
    t.kindOf = s.kindOf := by
  funext productId
  unfold State.kindOf
  rw [h, get?_put]
  by_cases hid : productId = new.id
  · subst hid
    simp [hold, hkind]
  · simp [hid]

variable {request : HardwareRequest} {loan : PublicToolLoan} {item : RequestItem} {assetId : Nat}

theorem custody_item_nonneg (item : RequestItem) (assetId : Nat) : 0 ≤ item.custody assetId := by
  unfold RequestItem.custody
  omega

theorem custody_request_nonneg (request : HardwareRequest) (assetId : Nat) :
    0 ≤ request.custody assetId := by
  unfold HardwareRequest.custody
  split
  · exact sum_nonneg fun item _ => custody_item_nonneg item assetId
  · exact le_refl 0

theorem custody_loan_nonneg (loan : PublicToolLoan) (assetId : Nat) :
    0 ≤ loan.custody assetId := by
  unfold PublicToolLoan.custody
  split <;> omega

theorem custody_request_le (hrequest : request ∈ s.requests) (assetId : Nat) :
    request.custody assetId ≤ custody s assetId := by
  have hle := le_sum (f := fun r : HardwareRequest => r.custody assetId)
    (fun r _ => custody_request_nonneg r assetId) hrequest
  have hloans := sum_nonneg (t := s.loans) (f := fun l => l.custody assetId)
    (fun l _ => custody_loan_nonneg l assetId)
  unfold custody
  omega

theorem custody_loan_le (hloan : loan ∈ s.loans) (assetId : Nat) :
    loan.custody assetId ≤ custody s assetId := by
  have hle := le_sum (f := fun l : PublicToolLoan => l.custody assetId)
    (fun l _ => custody_loan_nonneg l assetId) hloan
  have hrequests := sum_nonneg (t := s.requests) (f := fun r => r.custody assetId)
    (fun r _ => custody_request_nonneg r assetId)
  unfold custody
  omega

theorem custody_item_pos (h : assetId ∈ issuedAssetIds item) : 1 ≤ item.custody assetId := by
  have hpos : 0 < (issuedAssetIds item).count assetId := List.count_pos_iff.mpr h
  unfold RequestItem.custody
  omega

theorem custody_request_pos (hout : request.status.out) (hitem : item ∈ request.items)
    (hlink : assetId ∈ issuedAssetIds item) :
    1 ≤ request.custody assetId := by
  have hle := le_sum (f := fun i : RequestItem => i.custody assetId)
    (fun i _ => custody_item_nonneg i assetId) hitem
  have hpos := custody_item_pos hlink
  unfold HardwareRequest.custody
  rw [if_pos hout]
  omega

theorem issued_of_custody (h : InCustody s) (hasset : asset ∈ s.assets)
    (hpos : 1 ≤ custody s asset.id) :
    asset.status = .issued := by
  by_contra hstatus
  have heq := h asset hasset
  rw [if_neg hstatus] at heq
  omega

theorem issued_of_link (h : Recorded s) (hrequest : request ∈ s.requests)
    (hout : request.status.out) (hitem : item ∈ request.items)
    (hlink : assetId ∈ issuedAssetIds item) :
    ∃ asset, s.assets.get? assetId = some asset ∧ asset.productId = item.productId ∧
      asset.status = .issued := by
  obtain ⟨asset, hasset, hproduct⟩ := (h.linked request hrequest hout item hitem).assets assetId hlink
  have hpos := custody_request_pos hout hitem hlink
  have hle := custody_request_le hrequest assetId
  have hid : asset.id = assetId := key_of_get? hasset
  refine ⟨asset, hasset, hproduct, issued_of_custody h.custody (mem_of_get? hasset) ?_⟩
  rw [hid]
  omega

theorem issued_of_loan (h : Recorded s) (hloan : loan ∈ s.loans)
    (hstatus : loan.status = .checkedOut) (hmem : assetId ∈ loan.assetIds) :
    ∃ asset, s.assets.get? assetId = some asset ∧ asset.status = .issued := by
  obtain ⟨_, hbacks⟩ := h.lent.backed loan hloan hstatus
  obtain ⟨asset, hasset, -⟩ := hbacks.assets assetId hmem
  have hle := custody_loan_le hloan assetId
  have hid : asset.id = assetId := key_of_get? hasset
  refine ⟨asset, hasset, issued_of_custody h.custody (mem_of_get? hasset) ?_⟩
  rw [hid]
  have hone : loan.custody assetId = 1 := by simp [PublicToolLoan.custody, hstatus, hmem]
  omega

theorem custody_congr
    (hrequests : t.requests = s.requests) (hloans : t.loans = s.loans) (assetId : Nat) :
    custody t assetId = custody s assetId := by
  unfold custody
  rw [hrequests, hloans]

def KeepsIssued (s t : State) : Prop :=
  ∀ assetId asset, s.assets.get? assetId = some asset → asset.status = .issued →
    ∃ new, t.assets.get? assetId = some new ∧ new.productId = asset.productId ∧
      new.makerspaceId = asset.makerspaceId

theorem keepsIssued_refl (h : t.assets = s.assets) : KeepsIssued s t := by
  intro assetId asset hget _
  exact ⟨asset, h ▸ hget, rfl, rfl⟩

/-- A loan stays backed with its request, its assets and their numbers. -/
theorem Backs.frame (h : Backs s loan request)
    (hissued : ∀ assetId ∈ loan.assetIds, ∃ asset, s.assets.get? assetId = some asset ∧
      asset.status = .issued) (hassets : KeepsIssued s t)
    (hrequest : t.requests.get? loan.requestId = some request)
    (hcount : ∀ product ∈ t.products, product.trackingMode = .individual →
      request.outstanding product.id = loanedAssets t loan product.id) :
    Backs t loan request where
  found := hrequest
  makerspace := h.makerspace
  status := h.status
  items := h.items
  assets := by
    intro assetId hmem
    obtain ⟨asset, hget, hmakerspace, hitem⟩ := h.assets assetId hmem
    obtain ⟨asset', hget', hstatus⟩ := hissued assetId hmem
    obtain rfl : asset = asset' := some.inj (hget.symm.trans hget')
    obtain ⟨new, hnew, hproduct, hmakerspace'⟩ := hassets assetId asset hget hstatus
    exact ⟨new, hnew, hmakerspace'.trans hmakerspace, hproduct ▸ hitem⟩
  counted := hcount

theorem mem_of_kindOf
    (hkinds : t.kindOf = s.kindOf) (h : product ∈ t.products) :
    ∃ old ∈ s.products, old.id = product.id ∧ old.makerspaceId = product.makerspaceId ∧
      old.trackingMode = product.trackingMode := by
  have hkind := kindOf_of_mem h
  rw [hkinds] at hkind
  obtain ⟨old, hold, heq⟩ := kindOf_eq_some.mp hkind
  exact ⟨old, mem_of_get? hold, key_of_get? hold, congrArg Prod.fst heq, congrArg Prod.snd heq⟩

theorem itemsBound_of_kinds (h : ItemsBound s) (hkinds : t.kindOf = s.kindOf)
    (hrequests : ∀ request ∈ t.requests, ∃ old ∈ s.requests,
      old.makerspaceId = request.makerspaceId ∧
        ∀ item ∈ request.items, ∃ oldItem ∈ old.items, oldItem.productId = item.productId) :
    ItemsBound t := by
  intro request hrequest item hitem
  obtain ⟨old, hold, hmakerspace, hitems⟩ := hrequests request hrequest
  obtain ⟨oldItem, holdItem, hproduct⟩ := hitems item hitem
  obtain ⟨product, hget, hbound⟩ := h old hold oldItem holdItem
  have hkind := kindOf_of_mem (mem_of_get? hget)
  rw [← hkinds, show product.id = oldItem.productId from key_of_get? hget, hproduct] at hkind
  obtain ⟨new, hnew, heq⟩ := kindOf_eq_some.mp hkind
  exact ⟨new, hnew, (congrArg Prod.fst heq).trans (hbound.trans hmakerspace)⟩

theorem assetsBound_of_kinds (h : AssetsBound s) (hkinds : t.kindOf = s.kindOf)
    (hassets : ∀ asset ∈ t.assets, ∃ old ∈ s.assets,
      old.productId = asset.productId ∧ old.makerspaceId = asset.makerspaceId) :
    AssetsBound t := by
  intro asset hasset
  obtain ⟨old, hold, hproduct, hmakerspace⟩ := hassets asset hasset
  obtain ⟨product, hget, hbound, hmode⟩ := h old hold
  have hkind := kindOf_of_mem (mem_of_get? hget)
  rw [← hkinds, show product.id = old.productId from key_of_get? hget, hproduct] at hkind
  obtain ⟨new, hnew, heq⟩ := kindOf_eq_some.mp hkind
  exact ⟨new, hnew, (congrArg Prod.fst heq).trans (hbound.trans hmakerspace),
    (congrArg Prod.snd heq).trans hmode⟩

theorem assetsBound_iff :
    AssetsBound s ↔
      ∀ asset ∈ s.assets, s.kindOf asset.productId = some (asset.makerspaceId, .individual) := by
  refine forall₂_congr fun asset _ => ?_
  rw [kindOf_eq_some]
  refine exists_congr fun product => and_congr_right fun _ => ?_
  rw [InventoryProduct.kind, Prod.mk.injEq]

theorem counted_of_loanedAssets (h : Backs s loan request) (hkinds : t.kindOf = s.kindOf)
    (hloaned : ∀ productId, loanedAssets t loan productId = loanedAssets s loan productId) :
    ∀ product ∈ t.products, product.trackingMode = .individual →
      request.outstanding product.id = loanedAssets t loan product.id := by
  intro product hproduct hmode
  obtain ⟨old, hold, hid, -, hmode'⟩ := mem_of_kindOf hkinds hproduct
  rw [hloaned, ← hid]
  exact h.counted old hold (hmode'.trans hmode)

/-- Only products change, in neither makerspace nor tracking mode. -/
theorem recorded_congr (h : Recorded s) (hrequests : t.requests = s.requests)
    (hassets : t.assets = s.assets) (hloans : t.loans = s.loans) (hqrCodes : t.qrCodes = s.qrCodes)
    (hkinds : t.kindOf = s.kindOf) :
    Recorded t where
  items := itemsBound_of_kinds h.items hkinds fun request hrequest =>
    ⟨request, hrequests ▸ hrequest, rfl, fun item hitem => ⟨item, hitem, rfl⟩⟩
  assets := assetsBound_of_kinds h.assets hkinds fun asset hasset =>
    ⟨asset, hassets ▸ hasset, rfl, rfl⟩
  filed := hrequests ▸ h.filed
  linked := by
    intro request hrequest hout item hitem
    have hlinked := h.linked request (hrequests ▸ hrequest) hout item hitem
    exact ⟨hlinked.complete, hassets ▸ hlinked.assets⟩
  custody := by
    intro asset hasset
    rw [custody_congr hrequests hloans]
    exact h.custody asset (hassets ▸ hasset)
  lent := by
    refine ⟨?_, ?_, hloans ▸ h.lent.distinct⟩
    · intro loan hloan hstatus
      have hloan : loan ∈ s.loans := hloans ▸ hloan
      obtain ⟨request, hbacks⟩ := h.lent.backed loan hloan hstatus
      refine ⟨request, hbacks.frame (fun _ hmem => issued_of_loan h hloan hstatus hmem)
        (keepsIssued_refl hassets) (hrequests ▸ hbacks.found) ?_⟩
      exact counted_of_loanedAssets hbacks hkinds fun productId => by
        unfold loanedAssets
        rw [hassets]
    · rw [hloans, hrequests]
      exact h.lent.closed
  coded := by
    unfold Coded
    rw [hqrCodes]
    exact h.coded

variable {old new : InventoryAsset}

theorem recorded_assets (h : Recorded s) (hrequests : t.requests = s.requests)
    (hloans : t.loans = s.loans) (hitems : ItemsBound t) (hbound : AssetsBound t) (hcoded : Coded t)
    (hkeep : KeepsIssued s t) (hcustody : ∀ asset ∈ t.assets,
      asset ∈ s.assets ∨ (asset.status ≠ .issued ∧ custody s asset.id = 0))
    (hcounted : ∀ loan ∈ s.loans, loan.status = .checkedOut → ∀ request, Backs s loan request →
      ∀ product ∈ t.products, product.trackingMode = .individual →
        request.outstanding product.id = loanedAssets t loan product.id) :
    Recorded t where
  items := hitems
  assets := hbound
  filed := hrequests ▸ h.filed
  linked := by
    intro request hrequest hout item hitem
    have hrequest : request ∈ s.requests := hrequests ▸ hrequest
    refine ⟨(h.linked request hrequest hout item hitem).complete, fun assetId hlink => ?_⟩
    obtain ⟨asset, hasset, hproduct, hissued⟩ := issued_of_link h hrequest hout hitem hlink
    obtain ⟨new, hnew, hproduct', -⟩ := hkeep assetId asset hasset hissued
    exact ⟨new, hnew, hproduct'.trans hproduct⟩
  custody := by
    intro asset hasset
    rw [custody_congr hrequests hloans]
    rcases hcustody asset hasset with hold | ⟨hstatus, hzero⟩
    · exact h.custody asset hold
    · rw [hzero, if_neg hstatus]
  lent := by
    refine ⟨?_, ?_, hloans ▸ h.lent.distinct⟩
    · intro loan hloan hstatus
      have hloan : loan ∈ s.loans := hloans ▸ hloan
      obtain ⟨request, hbacks⟩ := h.lent.backed loan hloan hstatus
      exact ⟨request, hbacks.frame (fun _ hmem => issued_of_loan h hloan hstatus hmem) hkeep
        (hrequests ▸ hbacks.found) (hcounted loan hloan hstatus request hbacks)⟩
    · rw [hloans, hrequests]
      exact h.lent.closed
  coded := hcoded

theorem notMem_assetIds (h : Recorded s)
    (hloan : loan ∈ s.loans) (hstatus : loan.status = .checkedOut)
    (hasset : asset ∈ s.assets) (hissued : asset.status ≠ .issued) :
    asset.id ∉ loan.assetIds := by
  intro hmem
  obtain ⟨other, hother, hotherStatus⟩ := issued_of_loan h hloan hstatus hmem
  have hget : s.assets.get? asset.id = some asset := get?_key hasset
  obtain rfl : asset = other := some.inj (hget.symm.trans hother)
  exact hissued hotherStatus

theorem keepsIssued_put (hold : old ∈ s.assets) (hid : new.id = old.id)
    (holdStatus : old.status ≠ .issued) (hassets : t.assets = s.assets.put new) :
    KeepsIssued s t := by
  intro assetId asset hget hissued
  have hne : assetId ≠ new.id := by
    rintro rfl
    have hgetOld : s.assets.get? new.id = some old := hid ▸ get?_key hold
    obtain rfl : old = asset := some.inj (hgetOld.symm.trans hget)
    exact holdStatus hissued
  exact ⟨asset, by rw [hassets, get?_put_of_ne _ hne, hget], rfl, rfl⟩

theorem loanedAssets_put (h : Recorded s)
    (hloan : loan ∈ s.loans) (hstatus : loan.status = .checkedOut) (hold : old ∈ s.assets)
    (hid : new.id = old.id) (holdStatus : old.status ≠ .issued)
    (hassets : t.assets = s.assets.put new) (productId : Nat) :
    loanedAssets t loan productId = loanedAssets s loan productId := by
  have hnot := notMem_assetIds h hloan hstatus hold holdStatus
  unfold loanedAssets
  rw [hassets]
  refine sum_put_of_eq fun asset _ hkey => ?_
  have hasset : asset.id = old.id := hkey.trans hid
  simp [hasset, hid, hnot]

theorem recorded_put_asset (h : Recorded s) (hold : old ∈ s.assets) (hid : new.id = old.id)
    (holdStatus : old.status ≠ .issued) (hnewStatus : new.status ≠ .issued)
    (hbound : s.kindOf new.productId = some (new.makerspaceId, .individual))
    (hassets : t.assets = s.assets.put new) (hrequests : t.requests = s.requests)
    (hloans : t.loans = s.loans) (hkinds : t.kindOf = s.kindOf) (hcoded : Coded t) :
    Recorded t := by
  refine recorded_assets h hrequests hloans ?_ ?_ hcoded
    (keepsIssued_put hold hid holdStatus hassets) ?_ ?_
  · exact itemsBound_of_kinds h.items hkinds fun request hrequest =>
      ⟨request, hrequests ▸ hrequest, rfl, fun item hitem => ⟨item, hitem, rfl⟩⟩
  · rw [assetsBound_iff]
    intro asset hasset
    rw [hkinds]
    rw [hassets] at hasset
    rcases mem_of_mem_put hasset with rfl | ⟨hasset, -⟩
    · exact hbound
    · exact assetsBound_iff.mp h.assets asset hasset
  · intro asset hasset
    rw [hassets] at hasset
    rcases mem_of_mem_put hasset with rfl | ⟨hasset, -⟩
    · refine .inr ⟨hnewStatus, ?_⟩
      rw [hid, h.custody old hold, if_neg holdStatus]
    · exact .inl hasset
  · intro loan hloan hstatus request hbacks
    exact counted_of_loanedAssets hbacks hkinds
      (loanedAssets_put h hloan hstatus hold hid holdStatus hassets)

end Lending
end SpaceWorks
