import Mathlib.Data.List.Dedup
import Mathlib.Data.List.Perm.Subperm
import SpaceWorks.Lending.Handouts

/-!
# Public self-checkout and its return

A checkout moves the units and assets of the scanned QR codes from available to issued; a return
moves back what the loan has on record.
-/

namespace SpaceWorks
namespace Lending

open Checked Quantities Availability TransactionalSystem Table List Option

variable {s t u v : State}

section Moves

variable {quantities : List (Nat × Int)} {productId : Nat}

def unitsOf (quantities : List (Nat × Int)) (productId : Nat) : Int :=
  (quantities.map fun entry => if productId = entry.1 then entry.2 else 0).sum

@[simp] theorem unitsOf_nil (productId : Nat) : unitsOf [] productId = 0 := rfl

@[simp] theorem unitsOf_cons (entry : Nat × Int) (quantities : List (Nat × Int)) (productId : Nat) :
    unitsOf (entry :: quantities) productId =
      (if productId = entry.1 then entry.2 else 0) + unitsOf quantities productId := by
  simp [unitsOf]

theorem unitsOf_addCount
    (quantities : List (Nat × Int)) (productId : Nat) (quantity : Int) (other : Nat) :
    unitsOf (addCount quantities productId quantity) other =
      unitsOf quantities other + if other = productId then quantity else 0 := by
  induction quantities with
  | nil => simp [addCount]
  | cons _ _ ih =>
    rw [addCount]
    split
    · next hid =>
        rw [unitsOf_cons, unitsOf_cons]
        split <;> omega
    · rw [unitsOf_cons, unitsOf_cons, ih]
      omega

theorem mem_addCount {quantity : Int} {entry : Nat × Int}
    (h : entry ∈ addCount quantities productId quantity) :
    entry.1 = productId ∨ ∃ old ∈ quantities, old.1 = entry.1 := by
  induction quantities with
  | nil =>
    rw [addCount, mem_singleton] at h
    exact .inl (h ▸ rfl)
  | cons old _ ih =>
    rw [addCount] at h
    split at h
    · next hid =>
        rcases mem_cons.mp h with rfl | hrest
        · exact .inl hid
        · exact .inr ⟨entry, mem_cons_of_mem _ hrest, rfl⟩
    · rcases mem_cons.mp h with rfl | hrest
      · exact .inr ⟨_, mem_cons_self, rfl⟩
      · rcases ih hrest with hid | ⟨old, hold, hid⟩
        · exact .inl hid
        · exact .inr ⟨old, mem_cons_of_mem _ hold, hid⟩

theorem unitsOf_eq_zero (h : ∀ entry ∈ quantities, entry.1 ≠ productId) :
    unitsOf quantities productId = 0 := by
  induction quantities with
  | nil => rfl
  | cons _ _ ih =>
    rw [forall_mem_cons] at h
    rw [unitsOf_cons, if_neg (Ne.symm h.1), ih h.2, add_zero]

def withStatus (assets : Table InventoryAsset) (assetIds : List Nat) (status : AssetStatus) :
    Table InventoryAsset :=
  assets.mapRows
    (fun asset => if asset.id ∈ assetIds then { asset with status := status } else asset)
    (by intro asset; split <;> rfl)

theorem get?_withStatus
    (assets : Table InventoryAsset) (assetIds : List Nat) (status : AssetStatus) (id : Nat) :
    (withStatus assets assetIds status).get? id =
      (assets.get? id).map fun asset =>
        if asset.id ∈ assetIds then { asset with status := status } else asset :=
  get?_mapRows _ _ _ _

@[simp] theorem withStatus_nil (assets : Table InventoryAsset) (status : AssetStatus) :
    withStatus assets [] status = assets := by
  apply Table.ext
  simp [withStatus, Table.mapRows]

theorem withStatus_withStatus
    (assets : Table InventoryAsset) (ids ids' : List Nat) (status : AssetStatus) :
    withStatus (withStatus assets ids status) ids' status =
      withStatus assets (ids ++ ids') status := by
  apply Table.ext
  simp only [withStatus, Table.mapRows, List.map_map]
  refine map_congr_left fun asset _ => ?_
  by_cases h : asset.id ∈ ids <;> by_cases h' : asset.id ∈ ids' <;> simp [h, h']

theorem saveStatuses_eq (assets : List InventoryAsset) (assetIds : List Nat) (status : AssetStatus)
    (hmem : ∀ asset ∈ assets, asset ∈ s.assets) (hnodup : (assets.map InventoryAsset.id).Nodup)
    (hids : ∀ asset ∈ s.assets, asset.id ∈ assetIds ↔ asset.id ∈ assets.map InventoryAsset.id) :
    (s.saveStatuses (assets.map fun asset => (asset, status))).assets =
      withStatus s.assets assetIds status := by
  apply Table.ext
  have hrows : (s.assets.putAll (assets.map fun asset => { asset with status := status })).rows =
      s.assets.rows.map fun asset =>
        if key asset ∈ assets.map key then { asset with status := status } else asset :=
    rows_putAll_map (fun _ => rfl) hmem hnodup
  rw [State.saveStatuses, List.map_map]
  refine hrows.trans (map_congr_left fun asset hasset => ?_)
  have hiff : asset.id ∈ assetIds ↔ key asset ∈ assets.map key := hids asset hasset
  by_cases hid : asset.id ∈ assetIds
  · exact (if_pos (hiff.mp hid)).trans (if_pos hid).symm
  · exact (if_neg fun h => hid (hiff.mpr h)).trans (if_neg hid).symm

def State.bucket (s : State) (productId : Nat) (column : Column) : Int :=
  (s.products.get? productId).elim 0 fun product => product.quantities column

/-- Units and assets move from bucket to bucket, and nothing else. -/
structure Moved (s t : State) (source destination : Column) (old new : AssetStatus)
    (quantities : List (Nat × Int)) (assetIds : List Nat) : Prop where
  products : t.products = s.products.credit fun productId =>
    move source destination (unitsOf quantities productId)
  stocked : ∀ entry ∈ quantities, ∃ product, s.products.get? entry.1 = some product
  assets : t.assets = withStatus s.assets assetIds new
  were : ∀ assetId ∈ assetIds, ∃ asset, s.assets.get? assetId = some asset ∧ asset.status = old

namespace Moved

variable {source destination : Column} {old new : AssetStatus}
variable {quantities : List (Nat × Int)} {assetIds : List Nat}

theorem bucket (h : Moved s t source destination old new quantities assetIds)
    (productId : Nat) (column : Column) :
    t.bucket productId column = s.bucket productId column +
      move source destination (unitsOf quantities productId) column := by
  unfold State.bucket
  rw [h.products, Table.get?_credit]
  cases hget : s.products.get? productId with
  | some => rfl
  | none =>
    have hzero : unitsOf quantities productId = 0 := by
      refine unitsOf_eq_zero fun entry hentry heq => ?_
      obtain ⟨_, hproduct⟩ := h.stocked entry hentry
      rw [heq, hget] at hproduct
      cases hproduct
    simp [hzero]

theorem asset_of_mem (h : Moved s t source destination old new quantities assetIds)
    {assetId : Nat} (hmem : assetId ∈ assetIds) :
    ∃ asset, s.assets.get? assetId = some asset ∧ asset.status = old ∧
      t.assets.get? assetId = some { asset with status := new } := by
  obtain ⟨asset, hget, hstatus⟩ := h.were assetId hmem
  have hid : asset.id = assetId := key_of_get? hget
  refine ⟨asset, hget, hstatus, ?_⟩
  rw [h.assets, get?_withStatus, hget, map_some, if_pos (hid ▸ hmem)]

theorem asset_of_notMem (h : Moved s t source destination old new quantities assetIds)
    {assetId : Nat} (hmem : assetId ∉ assetIds) :
    t.assets.get? assetId = s.assets.get? assetId := by
  rw [h.assets, get?_withStatus]
  cases hget : s.assets.get? assetId with
  | none => rfl
  | some asset =>
    have hid : asset.id = assetId := key_of_get? hget
    rw [map_some, if_neg (hid ▸ hmem)]

end Moved

theorem move_back (source destination : Column) (n : Int) (column : Column) :
    move destination source n column = -move source destination n column := by
  rw [move_apply, move_apply]
  omega

end Moves

/-- What changed from `s` to `t` is changed back from `u` to `v`, exactly when nothing came in
between. -/
structure Restored (s t u v : State) : Prop where
  buckets : ∀ productId column, v.bucket productId column - u.bucket productId column =
    s.bucket productId column - t.bucket productId column
  statuses : ∀ {assetId before after}, s.assets.get? assetId = some before →
    t.assets.get? assetId = some after → after.status ≠ before.status →
    ∃ restored, v.assets.get? assetId = some restored ∧ restored.status = before.status
  undone : u.products = t.products → u.assets = t.assets →
    v.products = s.products ∧ v.assets = s.assets

theorem restored_of_moved
    {source destination : Column} {old new : AssetStatus} {quantities : List (Nat × Int)}
    {assetIds : List Nat} (h : Moved s t source destination old new quantities assetIds)
    (h' : Moved u v destination source new old quantities assetIds) :
    Restored s t u v where
  buckets productId column := by
    have hthere := h.bucket productId column
    have hback := h'.bucket productId column
    rw [move_back] at hback
    omega
  statuses {assetId before after} hbefore hafter hne := by
    by_cases hmem : assetId ∈ assetIds
    · obtain ⟨asset, hget, hold, -⟩ := h.asset_of_mem hmem
      obtain ⟨_, -, -, hback⟩ := h'.asset_of_mem hmem
      obtain rfl : asset = before := some.inj (hget.symm.trans hbefore)
      exact ⟨_, hback, hold.symm⟩
    · have hsame := h.asset_of_notMem hmem
      rw [hbefore, hafter, some.injEq] at hsame
      exact absurd (congrArg InventoryAsset.status hsame) hne
  undone hproducts hassets := by
    constructor
    · rw [h'.products, hproducts, h.products, Table.credit_credit]
      have hzero : ∀ productId, move source destination (unitsOf quantities productId) +
          move destination source (unitsOf quantities productId) = 0 := by
        intro productId
        funext column
        rw [Pi.add_apply, move_back source destination]
        exact add_neg_cancel _
      simp only [hzero, Table.credit_zero]
    · rw [h'.assets, hassets, h.assets]
      apply Table.ext
      simp only [withStatus, Table.mapRows, List.map_map]
      refine (map_congr_left fun asset hasset => ?_).trans (List.map_id _)
      by_cases hmem : asset.id ∈ assetIds
      · obtain ⟨found, hget, hstatus⟩ := h.were asset.id hmem
        obtain rfl : asset = found := some.inj ((get?_key (t := s.assets) hasset).symm.trans hget)
        simp [hmem, ← hstatus]
      · simp [hmem]

section

variable {handout handout' : Handout} {productId : Nat} {quantity : Int}
  {scanned qrs : List QrCode} {qr : QrCode} {ids : CheckoutIds}

/-- The code's target involves the product: itself, its asset, or in its box. -/
def Scans (s : State) (qr : QrCode) (productId : Nat) : Prop :=
  match qr.targetType with
  | .product => productId = qr.targetId
  | .asset => ∃ asset, s.assets.get? qr.targetId = some asset ∧ asset.productId = productId
  | .box => ∃ product ∈ boxProducts s qr.targetId true, product.id = productId

def scannedAssetIds (qrs : List QrCode) : List Nat :=
  (qrs.filter fun qr => qr.targetType = .asset).map QrCode.targetId

/-- What moved since `s` is what was counted, of scanned products. -/
structure Gathered (s : State) (scanned : List QrCode) (handout : Handout) : Prop where
  moved : Moved s handout.state .available .issued .available .issued handout.quantities
    handout.assetIds
  nonneg : ∀ productId, 0 ≤ unitsOf handout.quantities productId
  covers : ∀ productId, 0 < unitsOf handout.quantities productId ↔
    ∃ qr ∈ scanned, Scans s qr productId
  named : handout.assetIds = scannedAssetIds scanned

theorem gathered_start (s : State) : Gathered s [] { state := s } where
  moved :=
    { products := by simp
      stocked := by simp
      assets := by simp
      were := by simp }
  nonneg := by simp
  covers := by simp
  named := rfl

theorem issue_spec (h : handout.issue productId quantity = .ok handout') :
    ∃ product, handout.state.products.get? productId = some product ∧
      handout' = { handout with
        state := { handout.state with
          products := handout.state.products.credit fun other =>
            if other = productId then move .available .issued quantity else 0 }
        quantities := addCount handout.quantities productId quantity } := by
  simp only [Handout.issue, issueProduct, State.post, bind_ok, pure_ok] at h
  obtain ⟨_, ⟨products, hbook, rfl⟩, rfl⟩ := h
  obtain ⟨product, hproduct⟩ := bookAll_account hbook mem_cons_self
  have hcredit : products = handout.state.products.credit fun other =>
      if other = productId then move .available .issued quantity else 0 := by
    rw [bookAll_eq_credit hbook]
    congr 1
    funext other
    rw [Posting.total_cons, Posting.total_nil, add_zero]
    rfl
  exact ⟨product, hproduct, by rw [hcredit]⟩

theorem Moved.add
    {source destination : Column} {old new : AssetStatus} {quantities : List (Nat × Int)}
    {assetIds : List Nat} {productId : Nat} {quantity : Int} {product : InventoryProduct}
    (h : Moved s t source destination old new quantities assetIds)
    (hproduct : t.products.get? productId = some product)
    (hproducts : u.products = t.products.credit fun other =>
      if other = productId then move source destination quantity else 0)
    (hassets : u.assets = t.assets) :
    Moved s u source destination old new (addCount quantities productId quantity) assetIds where
  products := by
    rw [hproducts, h.products, Table.credit_credit]
    congr 1
    funext other
    rw [unitsOf_addCount, move_add]
    split
    · rfl
    · rw [move_zero]
  stocked := by
    intro entry hentry
    rcases mem_addCount hentry with hid | ⟨listed, hlisted, hid⟩
    · rw [h.products, Table.get?_credit] at hproduct
      obtain ⟨before, hbefore, -⟩ := map_eq_some_iff.mp hproduct
      exact ⟨before, hid ▸ hbefore⟩
    · exact hid ▸ h.stocked listed hlisted
  assets := hassets.trans h.assets
  were := h.were

theorem moved_issue
    (h : Moved s handout.state .available .issued .available .issued handout.quantities
      handout.assetIds) (hissue : handout.issue productId quantity = .ok handout') :
    Moved s handout'.state .available .issued .available .issued handout'.quantities
      handout'.assetIds := by
  obtain ⟨_, hproduct, rfl⟩ := issue_spec hissue
  exact h.add hproduct rfl rfl

theorem moved_issueAll {products : List InventoryProduct}
    (h : Moved s handout.state .available .issued .available .issued handout.quantities
      handout.assetIds) (hnodup : (products.map InventoryProduct.id).Nodup)
    (hissue : products.foldlM (fun handout product => handout.issue product.id 1) handout =
      .ok handout') :
    Moved s handout'.state .available .issued .available .issued handout'.quantities
        handout'.assetIds ∧
      handout'.assetIds = handout.assetIds ∧
      ∀ productId, unitsOf handout'.quantities productId = unitsOf handout.quantities productId +
          if productId ∈ products.map InventoryProduct.id then 1 else 0 := by
  induction products generalizing handout with
  | nil =>
    simp at hissue
    subst hissue
    exact ⟨h, rfl, by simp⟩
  | cons product _ ih =>
    rw [map_cons, nodup_cons] at hnodup
    simp at hissue
    obtain ⟨_, hfirst, hrest⟩ := hissue
    obtain ⟨hmoved, hassets, hunits⟩ := ih (moved_issue h hfirst) hnodup.2 hrest
    obtain ⟨_, -, rfl⟩ := issue_spec hfirst
    refine ⟨hmoved, hassets, fun productId => ?_⟩
    rw [hunits, unitsOf_addCount, map_cons]
    by_cases hid : productId = product.id
    · subst hid
      simp [hnodup.1]
    · simp [hid]

theorem mem_boxProducts {boxId : Nat} {requirePublic : Bool} {product : InventoryProduct} :
    product ∈ boxProducts s boxId requirePublic ↔
      product ∈ s.products ∧ product.boxId = some boxId ∧ ¬ product.isArchived ∧
        1 ≤ product.quantities .available ∧
        (requirePublic → product.isPublic ∧ product.publicSelfCheckoutEnabled) := by
  rw [boxProducts, mem_insertionSort, mem_filter, decide_eq_true_iff]
  rfl

theorem nodup_boxProducts (s : State) (boxId : Nat) (requirePublic : Bool) :
    ((boxProducts s boxId requirePublic).map InventoryProduct.id).Nodup := by
  have hperm := perm_insertionSort (fun a b : InventoryProduct => a.id ≤ b.id)
    (s.products.rows.filter fun product =>
      product.boxId = some boxId ∧ ¬ product.isArchived ∧ 1 ≤ product.quantities .available ∧
        (requirePublic → product.isPublic ∧ product.publicSelfCheckoutEnabled))
  refine (hperm.map InventoryProduct.id).nodup_iff.mpr ?_
  exact s.products.nodup.sublist (filter_sublist.map InventoryProduct.id)

theorem boxProducts_gathered (h : Gathered s scanned handout) (boxId productId : Nat) :
    (0 < unitsOf handout.quantities productId ∨
        productId ∈ (boxProducts handout.state boxId true).map InventoryProduct.id) ↔
      (0 < unitsOf handout.quantities productId ∨
        ∃ product ∈ boxProducts s boxId true, product.id = productId) := by
  have hnonneg := h.nonneg productId
  refine or_congr_right' fun hnone => ?_
  have hzero : unitsOf handout.quantities productId = 0 := by omega
  -- nothing has been taken of the product, so its row is the one of the start
  have hget : handout.state.products.get? productId = s.products.get? productId := by
    rw [h.moved.products, Table.get?_credit, hzero, move_zero]
    cases s.products.get? productId with
    | none => rfl
    | some => simp
  rw [List.mem_map]
  constructor
  · rintro ⟨product, hproduct, rfl⟩
    obtain ⟨hmem, hoffer⟩ := mem_boxProducts.mp hproduct
    have hrow := hget.symm.trans (get?_key hmem)
    exact ⟨product, mem_boxProducts.mpr ⟨mem_of_get? hrow, hoffer⟩, rfl⟩
  · rintro ⟨product, hproduct, rfl⟩
    obtain ⟨hmem, hoffer⟩ := mem_boxProducts.mp hproduct
    have hrow := hget.trans (get?_key hmem)
    exact ⟨product, mem_boxProducts.mpr ⟨mem_of_get? hrow, hoffer⟩, rfl⟩

theorem exists_mem_snoc {P : QrCode → Prop} :
    (∃ other ∈ scanned ++ [qr], P other) ↔ (∃ other ∈ scanned, P other) ∨ P qr := by
  simp [or_and_right, exists_or]

theorem scannedAssetIds_snoc (scanned : List QrCode) (qr : QrCode) :
    scannedAssetIds (scanned ++ [qr]) =
      scannedAssetIds scanned ++ if qr.targetType = .asset then [qr.targetId] else [] := by
  unfold scannedAssetIds
  by_cases h : qr.targetType = .asset <;> simp [h]

theorem Gathered.covers_one (h : Gathered s scanned handout)
    (hscans : ∀ other, Scans s qr other ↔ other = productId) (other : Nat) :
    0 < unitsOf (addCount handout.quantities productId 1) other ↔
      ∃ qr' ∈ scanned ++ [qr], Scans s qr' other := by
  have hnonneg := h.nonneg other
  rw [exists_mem_snoc, ← h.covers other, hscans, unitsOf_addCount]
  by_cases hother : other = productId
  · subst hother
    omega
  · simp [hother]

theorem unitsOf_addCount_nonneg
    {quantities : List (Nat × Int)} (h : ∀ other, 0 ≤ unitsOf quantities other)
    (productId other : Nat) : 0 ≤ unitsOf (addCount quantities productId 1) other := by
  have hnonneg := h other
  rw [unitsOf_addCount]
  split <;> omega

theorem gathered_product (h : Gathered s scanned handout) (htype : qr.targetType = .product)
    (hstep : checkoutProduct handout qr true = .ok handout') :
    Gathered s (scanned ++ [qr]) handout' := by
  simp only [checkoutProduct, eligibleProduct, bind_ok, orRefuse_ok, pure_ok] at hstep
  obtain ⟨_, ⟨row, hget, -, -, -, -, rfl⟩, -, -, hissue⟩ := hstep
  have hid : row.id = qr.targetId := key_of_get? hget
  have hmoved := moved_issue h.moved hissue
  obtain ⟨-, -, rfl⟩ := issue_spec hissue
  refine ⟨hmoved, unitsOf_addCount_nonneg h.nonneg row.id, ?_, ?_⟩
  · refine h.covers_one fun other => ?_
    simp only [Scans, htype, hid]
  · rw [scannedAssetIds_snoc, ← h.named]
    simp [htype]

theorem gathered_asset (h : Gathered s scanned handout) (htype : qr.targetType = .asset)
    (hstep : checkoutAsset handout qr true = .ok handout') :
    Gathered s (scanned ++ [qr]) handout' := by
  simp only [checkoutAsset, eligibleAsset, bind_ok, orRefuse_ok, require_ok, pure_ok]
    at hstep
  obtain ⟨asset, ⟨row, hget, -, ⟨-, havailable⟩, -, -, _, -, rfl⟩, issued, hissue, rfl⟩ :=
    hstep
  have hid : row.id = qr.targetId := key_of_get? hget
  -- an available asset has not been issued in this checkout
  have hnew : qr.targetId ∉ handout.assetIds := by
    intro hmem
    obtain ⟨_, -, -, hissued⟩ := h.moved.asset_of_mem hmem
    rw [hget, some.injEq] at hissued
    rw [hissued] at havailable
    cases havailable
  have hstart : s.assets.get? qr.targetId = some row :=
    (h.moved.asset_of_notMem hnew).symm.trans hget
  have hmoved := moved_issue h.moved hissue
  obtain ⟨-, -, rfl⟩ := issue_spec hissue
  refine ⟨⟨hmoved.products, hmoved.stocked, ?_, ?_⟩, unitsOf_addCount_nonneg h.nonneg row.productId,
    ?_, ?_⟩
  · have hsaved := saveStatuses_eq (s := handout.state) [row] [row.id] .issued
      (by simpa using mem_of_get? hget) (nodup_singleton _)
      (by simp)
    rw [← withStatus_withStatus, ← h.moved.assets]
    exact hsaved
  · intro assetId hmem
    rcases mem_append.mp hmem with hmem | hmem
    · exact h.moved.were assetId hmem
    · rw [mem_singleton.mp hmem, hid]
      exact ⟨row, hstart, havailable⟩
  · refine h.covers_one fun other => ?_
    simp [Scans, htype, hstart, eq_comm]
  · rw [scannedAssetIds_snoc, ← h.named]
    simp [htype, hid]

theorem gathered_box (h : Gathered s scanned handout) (htype : qr.targetType = .box)
    (hstep : checkoutBox handout qr true = .ok handout') :
    Gathered s (scanned ++ [qr]) handout' := by
  simp only [checkoutBox, bind_ok, orRefuse_ok, pure_ok] at hstep
  obtain ⟨box, hbox, -, -, -, -, -, -, -, -, -, -, issued, hissue, _, -, rfl⟩ := hstep
  have hid : box.id = qr.targetId := key_of_get? hbox
  obtain ⟨hmoved, hassets, hunits⟩ :=
    moved_issueAll h.moved (nodup_boxProducts handout.state box.id true) hissue
  refine ⟨hmoved, ?_, ?_, ?_⟩
  · intro productId
    have hnonneg := h.nonneg productId
    have hunit := hunits productId
    have hissued : 0 ≤ unitsOf issued.quantities productId := by
      split at hunit <;> omega
    exact hissued
  · intro productId
    have hnonneg := h.nonneg productId
    have hboth := boxProducts_gathered h box.id productId
    have hunit := hunits productId
    rw [exists_mem_snoc, ← h.covers productId]
    simp only [Scans, htype, ← hid]
    rw [← hboth]
    split at hunit
    · next hmem => simp only [hmem, or_true, iff_true]; omega
    · next hmem => simp only [hmem, or_false]; omega
  · rw [scannedAssetIds_snoc, ← h.named]
    simpa [htype] using hassets

theorem gathered_target (h : Gathered s scanned handout)
    (hstep : checkoutTarget true handout qr = .ok handout') :
    Gathered s (scanned ++ [qr]) handout' := by
  simp only [checkoutTarget] at hstep
  split at hstep
  · next htype => exact gathered_product h htype hstep
  · next htype => exact gathered_asset h htype hstep
  · next htype => exact gathered_box h htype hstep

theorem gathered_targets (h : Gathered s scanned handout)
    (hloop : qrs.foldlM (checkoutTarget true) handout = .ok handout') :
    Gathered s (scanned ++ qrs) handout' := by
  induction qrs generalizing scanned handout with
  | nil =>
    simp at hloop
    subst hloop
    simpa using h
  | cons _ _ ih =>
    simp at hloop
    obtain ⟨_, hfirst, hrest⟩ := hloop
    simpa using ih (gathered_target h hfirst) hrest

/-- One or more units of the scanned products alone, and every named asset, on record. -/
structure TakesOut (s t : State) (qrs : List QrCode) (loan : PublicToolLoan)
    (request : HardwareRequest) : Prop where
  lent : t.loans.get? loan.id = some loan
  out : loan.status = .checkedOut
  filed : t.requests.get? loan.requestId = some request
  issued : request.status = .issued
  covers : ∀ productId, 0 < unitsOf request.handed productId ↔ ∃ qr ∈ qrs, Scans s qr productId
  named : loan.assetIds = scannedAssetIds qrs
  moved : Moved s t .available .issued .available .issued request.handed loan.assetIds

theorem issuedRequest_handed
    (id makerspaceId requesterId issuedBy : Nat) (now : Int) (quantities : List (Nat × Int)) :
    (issuedRequest id makerspaceId requesterId issuedBy now quantities).handed = quantities := by
  refine (map_enumerate ?_).trans (List.map_id quantities)
  intro entry _ n
  rfl

theorem recordHandout_spec {source : LoanSource} {conflict : String → Refusal}
    (h : recordHandout handout ids qrs source conflict = .ok t) :
    t.products = handout.state.products ∧ t.assets = handout.state.assets ∧
      ∃ loan request, loan.id = ids.loanId ∧ loan.status = .checkedOut ∧
        loan.assetIds = handout.assetIds ∧ t.loans.get? loan.id = some loan ∧
        t.requests.get? loan.requestId = some request ∧ request.status = .issued ∧
        request.handed = handout.quantities := by
  simp only [recordHandout, createLoan, bind_ok, pure_ok, insertNew_ok] at h
  obtain ⟨_, ⟨hrequest, rfl⟩, -, -, -, -, -, -, _, ⟨hloan, rfl⟩, rfl⟩ := h
  have hlent := (get?_insert hloan _).trans (if_pos rfl)
  have hfiled := (get?_insert hrequest _).trans (if_pos rfl)
  exact ⟨rfl, rfl, _, _, rfl, rfl, rfl, hlent, hfiled, rfl, issuedRequest_handed _ _ _ _ _ _⟩

theorem takesOut_checkout {payloads : List String} (hstep : checkoutTool s ids payloads = .ok t) :
    ∃ qrs loan request, lockedQrsForPayloads s ids.makerspaceId payloads = .ok qrs ∧
      loan.id = ids.loanId ∧ TakesOut s t qrs loan request := by
  simp only [checkoutTool, bind_ok] at hstep
  obtain ⟨-, -, qrs, hqrs, -, -, -, -, -, -, handout, hloop, hrecord⟩ := hstep
  have hgathered : Gathered s qrs handout := gathered_targets (gathered_start s) hloop
  obtain ⟨hproducts, hassets, loan, request, hid, hout, hassetIds, hlent, hfiled, hissued,
    hhanded⟩ := recordHandout_spec hrecord
  refine ⟨qrs, loan, request, hqrs, hid, hlent, hout, hfiled, hissued, ?_, ?_, ?_⟩
  · exact hhanded ▸ hgathered.covers
  · exact hassetIds.trans hgathered.named
  · rw [hhanded, hassetIds]
    exact ⟨hproducts.trans hgathered.moved.products, hgathered.moved.stocked,
      hassets.trans hgathered.moved.assets, hgathered.moved.were⟩

variable {loan : PublicToolLoan} {makerspaceId : Nat} {reportId : Option Nat}

/-- Every unit and asset on record for the loan. -/
structure TakesBack (u v : State) (loan : PublicToolLoan) (request : HardwareRequest) : Prop where
  lent : u.loans.get? loan.id = some loan
  out : loan.status = .checkedOut
  filed : u.requests.get? loan.requestId = some request
  issued : request.status = .issued
  moved : Moved u v .issued .available .issued .available request.handed loan.assetIds
  closed : v.loans.get? loan.id = some { loan with status := .returned }
  others : ∀ loanId, loanId ≠ loan.id → v.loans.get? loanId = u.loans.get? loanId
  settled : ∃ after, v.requests.get? loan.requestId = some after ∧ after.status = .returned

theorem total_returnToAvailable (items : List RequestItem) (productId : Nat) :
    Posting.total (items.map fun item => returnToAvailable item.productId item.issued) productId =
      move .issued .available
        (unitsOf (items.map fun item => (item.productId, item.issued)) productId) := by
  induction items with
  | nil => simp
  | cons item _ ih =>
    rw [map_cons, map_cons, Posting.total_cons, ih, unitsOf_cons, move_add]
    by_cases hid : productId = item.productId
    · simp [returnToAvailable, hid]
    · simp [returnToAvailable, hid]

theorem returnRequestItems_spec {request : HardwareRequest} {p : State × HardwareRequest}
    (hledger : ∀ item ∈ request.items.rows, 0 < item.issued ∧ item.returned = 0)
    (hstep : returnRequestItems u request = .ok p) :
    p.1.products = u.products.credit (fun productId =>
        move .issued .available (unitsOf request.handed productId)) ∧
      (∀ entry ∈ request.handed, ∃ product, u.products.get? entry.1 = some product) ∧
      p.1.assets = u.assets ∧ p.1.loans = u.loans ∧ p.2.id = request.id := by
  simp only [returnRequestItems, State.post, bind_ok, pure_ok] at hstep
  obtain ⟨_, ⟨_, hbook, rfl⟩, rfl⟩ := hstep
  have hall : (request.items.rows.filter fun item => 0 < item.issued - item.returned) =
      request.items.rows := by
    refine filter_eq_self.mpr fun item hitem => ?_
    have hfull := hledger item hitem
    rw [decide_eq_true_iff]
    omega
  have hpostings : (request.items.rows.map fun item =>
      returnToAvailable item.productId (item.issued - item.returned)) =
        request.items.rows.map fun item => returnToAvailable item.productId item.issued := by
    refine map_congr_left fun item hitem => ?_
    rw [(hledger item hitem).2, sub_zero]
  rw [hall, hpostings] at hbook
  refine ⟨?_, ?_, rfl, rfl, rfl⟩
  · refine (bookAll_eq_credit hbook).trans ?_
    congr 1
    funext productId
    exact total_returnToAvailable request.items.rows productId
  · intro entry hentry
    obtain ⟨_, hitem, rfl⟩ := List.mem_map.mp hentry
    exact bookAll_account hbook (mem_map_of_mem hitem)

theorem lockLoanAssetsForReturn_spec {assets : List InventoryAsset}
    (h : lockLoanAssetsForReturn u loan makerspaceId = .ok assets) :
    (∀ asset ∈ assets, asset ∈ u.assets ∧ asset.status = .issued) ∧
      (assets.map InventoryAsset.id).Nodup ∧
      ∀ assetId, assetId ∈ loan.assetIds ↔ assetId ∈ assets.map InventoryAsset.id := by
  simp only [lockLoanAssetsForReturn, bind_ok, require_ok, pure_ok] at h
  obtain ⟨-, ⟨hlength, hissued⟩, rfl⟩ := h
  have hnodup := u.assets.nodup.sublist
    ((filter_sublist (p := fun asset : InventoryAsset =>
      decide (asset.id ∈ loan.assetIds ∧ asset.makerspaceId = makerspaceId))).map key)
  refine ⟨fun asset hasset => ⟨(mem_filter.mp hasset).1, hissued asset hasset⟩, hnodup, ?_⟩
  -- distinct ids among the loan's, and as many of them
  have hsubset : ((u.assets.rows.filter fun asset : InventoryAsset =>
      decide (asset.id ∈ loan.assetIds ∧ asset.makerspaceId = makerspaceId)).map
        InventoryAsset.id) ⊆ loan.assetIds.dedup := by
    intro assetId hmem
    obtain ⟨_, hasset, rfl⟩ := List.mem_map.mp hmem
    have hnamed := (mem_filter.mp hasset).2
    rw [decide_eq_true_iff] at hnamed
    exact mem_dedup.mpr hnamed.1
  have hperm := (subperm_of_subset hnodup hsubset).perm_of_length_le
    (by rw [length_map]; exact hlength.ge)
  intro assetId
  exact mem_dedup.symm.trans hperm.mem_iff.symm

theorem reportProblem_eq (h : reportProblem s loan reportId = .ok t) :
    t = { s with reports := t.reports } := by
  cases reportId with
  | none =>
    simp [reportProblem] at h
    rw [h]
  | some =>
    simp [reportProblem] at h
    obtain ⟨_, -, rfl⟩ := h
    rfl

theorem takesBack_return {requesterId : Nat} {payload : String}
    (hstep : returnTool u makerspaceId requesterId payload reportId = .ok v) :
    ∃ loan request, TakesBack u v loan request := by
  simp only [returnTool, State.lockedRequest, bind_ok, orRefuse_ok] at hstep
  obtain ⟨_, -, loan, hfind, -, -, request, hget, _, hguard, assets, hassets, p, hitems,
    hreport⟩ := hstep
  simp [requirePublicReturnLedger] at hguard
  obtain ⟨-, -, hissued, -, hledger⟩ := hguard
  have hlent : u.loans.get? loan.id = some loan := get?_key (List.mem_of_find?_eq_some hfind)
  have hfound := List.find?_some hfind
  simp at hfound
  obtain ⟨hproducts, hstocked, hsame, hloans, hid⟩ := returnRequestItems_spec
    (fun item hitem => ⟨(hledger item hitem).1, (hledger item hitem).2.2.2.1⟩) hitems
  obtain ⟨hlocked, hnodup, hids⟩ := lockLoanAssetsForReturn_spec hassets
  have hstored := (handsOn_returnRequestItems (stored_of_get? hget) hitems).stored
  have hrequestId : p.2.id = loan.requestId := hid.trans (key_of_get? hget)
  have hstatuses : (p.1.saveStatuses (assets.map fun asset => (asset, .available))).assets =
      withStatus u.assets loan.assetIds .available := by
    rw [← hsame]
    refine saveStatuses_eq assets loan.assetIds .available ?_ hnodup fun asset _ => hids asset.id
    intro asset hasset
    exact hsame ▸ (hlocked asset hasset).1
  rw [reportProblem_eq hreport]
  refine ⟨loan, request, hlent, hfound.2.1, hget, hissued, ⟨hproducts, hstocked, hstatuses, ?_⟩,
    ?_, ?_, ?_⟩
  · intro assetId hmem
    obtain ⟨asset, hasset, rfl⟩ := List.mem_map.mp ((hids assetId).mp hmem)
    exact ⟨asset, get?_key (hlocked asset hasset).1, (hlocked asset hasset).2⟩
  · have hold : p.1.loans.get? (key { loan with status := .returned }) = some loan := by
      rw [hloans]
      exact hlent
    exact get?_put_self hold
  · intro loanId hne
    rw [← hloans]
    exact get?_put_of_ne p.1.loans hne
  · refine ⟨{ p.2 with status := .returned }, ?_, rfl⟩
    rw [← hrequestId]
    have hold : p.1.requests.get? (key { p.2 with status := .returned }) = some p.2 := hstored
    exact get?_put_self hold

end

/-- The loan is checked out before, and returned after. -/
def Closes (u v : State) (loanId : Nat) : Prop :=
  ∃ loan, u.loans.get? loanId = some loan ∧ loan.status = .checkedOut ∧
    v.loans.get? loanId = some { loan with status := .returned }

theorem restored_of_kept
    {qrs : List QrCode} {loan loan' : PublicToolLoan} {request request' : HardwareRequest}
    (htaken : TakesOut s t qrs loan request) (hkept : KeepsHandouts t u)
    (hback : TakesBack u v loan' request') (hid : loan'.id = loan.id) :
    Restored s t u v := by
  obtain ⟨status, hloan⟩ := hkept.loans htaken.lent
  obtain rfl : loan' = { loan with status := status } :=
    some.inj (hback.lent.symm.trans (hid ▸ hloan))
  have hleft : request.status.leftReview := by
    rw [htaken.issued]
    exact ⟨by simp, by simp⟩
  obtain ⟨new, hnew, -, hhanded⟩ := hkept.requests htaken.filed hleft
  obtain rfl : request' = new := some.inj (hback.filed.symm.trans hnew)
  exact restored_of_moved htaken.moved (hhanded ▸ hback.moved)

/-- Checkouts and returns apply whole or not at all, and a return undoes its checkout, whatever came
in between. -/
theorem roundTrip_of_run
    {s t u v : State} {ids : CheckoutIds} {payloads : List String} {ops : List Operation}
    {makerspaceId requesterId : Nat} {payload : String} {reportId : Option Nat}
    (ht : settle step s (.checkoutTool ids payloads) = t) (hu : run step t ops = u)
    (hv : settle step u (.returnTool makerspaceId requesterId payload reportId) = v) :
    ((∃ refusal, step s (.checkoutTool ids payloads) = .error refusal) ∧ t = s ∨
      ∃ qrs loan request, lockedQrsForPayloads s ids.makerspaceId payloads = .ok qrs ∧
        loan.id = ids.loanId ∧ TakesOut s t qrs loan request) ∧
    ((∃ refusal, step u (.returnTool makerspaceId requesterId payload reportId) =
        .error refusal) ∧ v = u ∨
      ∃ loan request, TakesBack u v loan request) ∧
    (step s (.checkoutTool ids payloads) = .ok t → Closes u v ids.loanId →
      Restored s t u v) := by
  have hreturn : (∃ refusal, step u (.returnTool makerspaceId requesterId payload reportId) =
      .error refusal) ∧ v = u ∨ ∃ loan request, TakesBack u v loan request := by
    cases h : step u (.returnTool makerspaceId requesterId payload reportId) with
    | ok =>
      rw [settle_ok h] at hv
      subst hv
      exact .inr (takesBack_return h)
    | error refusal =>
      rw [settle_error h] at hv
      exact .inl ⟨⟨refusal, rfl⟩, hv.symm⟩
  refine ⟨?_, hreturn, ?_⟩
  · cases h : step s (.checkoutTool ids payloads) with
    | ok =>
      rw [settle_ok h] at ht
      subst ht
      exact .inr (takesOut_checkout h)
    | error refusal =>
      rw [settle_error h] at ht
      exact .inl ⟨⟨refusal, rfl⟩, ht.symm⟩
  · rintro hcheckout ⟨_, hopen, hout, hclosed⟩
    obtain ⟨_, _, _, -, hid, htaken⟩ := takesOut_checkout hcheckout
    rcases hreturn with ⟨-, rfl⟩ | ⟨_, _, hback⟩
    · rw [hopen, some.injEq] at hclosed
      rw [hclosed] at hout
      cases hout
    · refine restored_of_kept htaken (hu ▸ keepsHandouts_run t ops) hback ?_
      by_contra hne
      rw [hback.others ids.loanId fun heq => hne (heq.symm.trans hid.symm), hopen,
        some.injEq] at hclosed
      rw [hclosed] at hout
      cases hout

def toolRoom : State where
  boxes := ⟨[{ id := 1, makerspaceId := 1, code := "B1" }], by decide⟩
  products := ⟨[
    { id := 1, makerspaceId := 1, name := "tape", boxId := some 1, publicSelfCheckoutEnabled := true
      quantities := gain .available 3 + gain .total 3 },
    { id := 2, makerspaceId := 1, name := "glue", boxId := some 1, publicSelfCheckoutEnabled := true
      quantities := gain .available 2 + gain .total 2 },
    { id := 3, makerspaceId := 1, name := "drill", trackingMode := .individual
      publicSelfCheckoutEnabled := true
      quantities := gain .available 1 + gain .total 1 }], by decide⟩
  assets := ⟨[{ id := 7, makerspaceId := 1, productId := 3, assetTag := "3-0001"
                publicSelfCheckoutEnabled := true }], by decide⟩
  qrCodes := ⟨[
    { id := 1, makerspaceId := 1, payload := "tape", targetType := .product, targetId := 1 },
    { id := 2, makerspaceId := 1, payload := "box", targetType := .box, targetId := 1 },
    { id := 3, makerspaceId := 1, payload := "drill", targetType := .asset, targetId := 7 }],
    by decide⟩

def toolRoomOut : State :=
  settle step toolRoom (.checkoutTool ⟨1, 1, 1, 9, 9, 0⟩ ["tape", "box", "drill"])

def toolRoomLater : State :=
  run step toolRoomOut [.transfer 1 1 (some 1) none [.product 2 1 4], .adjust 1 5 0 0]

def toolRoomBack : State :=
  settle step toolRoomLater (.returnTool 1 9 "drill" none)

theorem roundTrip_of_toolRoom :
    Restored toolRoom toolRoomOut toolRoomLater toolRoomBack ∧
      toolRoomOut.bucket 1 .available = 1 ∧ toolRoomLater.bucket 1 .available = 6 ∧
      toolRoomBack.bucket 1 .available = 8 := by
  have hcheckout : step toolRoom (.checkoutTool ⟨1, 1, 1, 9, 9, 0⟩ ["tape", "box", "drill"]) =
      .ok toolRoomOut := by rfl
  have hround := roundTrip_of_run (s := toolRoom) (t := toolRoomOut) (u := toolRoomLater)
    (v := toolRoomBack) (settle_ok hcheckout) rfl rfl
  refine ⟨hround.2.2 hcheckout ⟨_, rfl, rfl, rfl⟩, ?_, ?_, ?_⟩
  · rfl
  · rfl
  · rfl

end Lending
end SpaceWorks
