import SpaceWorks.Lending.Upkeep

/-!
# What a stock transfer moves

A transfer applies its lines one after the other (`services_transfers.py`,
`services_transfer_splits.py`).
-/

namespace SpaceWorks
namespace Lending

open Checked Quantities Availability TransactionalSystem Table List

section

variable {s t : State} {quantity : Int} {source destination : Option Nat}
  {newProductId makerspaceId destinationMakerspaceId : Nat}

def transferred (quantity : Int) : Quantities :=
  gain .available quantity + gain .total quantity

/-- Units went from one product row to another, no more. -/
structure Transferred (s t : State) (sourceId destinationId : Nat) (quantity : Int) : Prop where
  positive : 0 < quantity
  distinct : sourceId ≠ destinationId
  rows : ∃ source destination, s.products.get? sourceId = some source ∧
    s.products.get? destinationId = some destination ∧
    quantity ≤ source.quantities .available ∧
    t = { s with
      products := (s.products.put (Account.post (-transferred quantity) source)).put
        (Account.post (transferred quantity) destination) }

def Added (s t : State) (productId : Nat) : Prop :=
  ∃ new : InventoryProduct, new.id = productId ∧ new.quantities = 0 ∧
    ∃ h, t = { s with products := s.products.insert new h }

def Relocated (s t : State) (productId : Nat) (quantity : Int) (destination : Option Nat) : Prop :=
  ∃ source, s.products.get? productId = some source ∧ canMoveSourceRow source quantity ∧
    t = { s with products := s.products.put { source with boxId := destination } }

/-- An asset changed box and maybe status, and is counted so. -/
def Rehoused (s t : State) (assetId : Nat) (toStatus : Option AssetStatus)
    (destination : Option Nat) : Prop :=
  ∃ asset, s.assets.get? assetId = some asset ∧
    ∃ products, t = { s with
        products := products
        assets := s.assets.put
          { asset with status := toStatus.getD asset.status, boxId := destination } } ∧
      ((toStatus.getD asset.status = asset.status ∧ products = s.products) ∨
        ∃ product oldBucket newBucket, s.products.get? asset.productId = some product ∧
          assetQuantityBucket asset.status = some oldBucket ∧
          assetQuantityBucket (toStatus.getD asset.status) = some newBucket ∧
          products = s.products.put (Account.post (move oldBucket newBucket 1) product))

def Moves (destination : Option Nat) (s : State) : TransferLine → State → Prop
  | .asset assetId _ toStatus, t => Rehoused s t assetId toStatus destination
  | .product productId quantity newProductId, t =>
    Relocated s t productId quantity destination ∨
      (∃ destinationId, Transferred s t productId destinationId quantity) ∨
      ∃ added, Added s added newProductId ∧ Transferred added t productId newProductId quantity

/-- What the lines do, one after the other. -/
inductive Chain (destination : Option Nat) : State → List TransferLine → State → Prop
  | nil (s : State) : Chain destination s [] s
  | cons {s m t : State} {line : TransferLine} {lines : List TransferLine} :
      Moves destination s line m → Chain destination m lines t →
        Chain destination s (line :: lines) t

theorem transferred_of_ok {sourceId destinationId : Nat} (hdistinct : sourceId ≠ destinationId)
    (h : transferAvailableQuantity s sourceId destinationId quantity = .ok t) :
    Transferred s t sourceId destinationId quantity := by
  simp only [transferAvailableQuantity, bind_ok, require_ok, exists_const,
    if_neg hdistinct, State.post, bookAll, foldlM_cons, foldlM_nil,
    Posting.book_ok, pure_ok] at h
  obtain ⟨hpositive, _, ⟨_, ⟨source, hsource, hcheck, rfl⟩, _,
    ⟨destination, hdestination, -, rfl⟩, rfl⟩, rfl⟩ := h
  have hid : source.id = sourceId := key_of_get? hsource
  have hkey : destinationId ≠ key (Account.post
      (-gain Column.available quantity - gain .total quantity) source) := by
    rw [Account.key_post, key_product, hid]
    exact Ne.symm hdistinct
  rw [get?_put_of_ne _ hkey] at hdestination
  refine ⟨hpositive, hdistinct, source, destination, hsource, hdestination, hcheck.1, ?_⟩
  have hentry : -gain Column.available quantity - gain .total quantity = -transferred quantity := by
    unfold transferred
    abel
  rw [hentry]
  rfl

theorem transferToNew_moves {source new : InventoryProduct}
    (hsource : s.products.get? source.id = some source) (hempty : new.quantities = 0)
    (h : transferToNew s source new quantity = .ok t) :
    ∃ added, Added s added new.id ∧ Transferred added t source.id new.id quantity := by
  simp only [transferToNew, bind_ok, insertNew_ok] at h
  obtain ⟨_, ⟨hnew, rfl⟩, hmove⟩ := h
  have hdistinct : source.id ≠ new.id := by
    intro heq
    rw [heq] at hsource
    exact absurd hsource (by simp [show s.products.get? new.id = none from hnew])
  exact ⟨_, ⟨new, rfl, hempty, hnew, rfl⟩, transferred_of_ok hdistinct hmove⟩

theorem splitQuantityStock_moves {source : InventoryProduct}
    (hsource : s.products.get? source.id = some source)
    (h : splitQuantityStock s source destination quantity newProductId = .ok t) :
    Moves destination s (.product source.id quantity newProductId) t := by
  unfold splitQuantityStock at h
  split at h
  · next product hfound =>
      have hselect := (firstProduct_spec hfound).2
      simp at hselect
      have hdistinct : source.id ≠ product.id := Ne.symm hselect.2.2.2.2.2.2
      exact .inr (.inl ⟨product.id, transferred_of_ok hdistinct h⟩)
  · split at h
    · next hwhole =>
        rw [pure_ok] at h
        exact .inl ⟨source, hsource, hwhole, h.symm⟩
    · exact .inr (.inr (transferToNew_moves hsource rfl h))

theorem transferAcross_moves {productId : Nat} (hne : destinationMakerspaceId ≠ makerspaceId)
    (h : transferAcross s makerspaceId destinationMakerspaceId destination productId quantity
      newProductId = .ok t) :
    Moves destination s (.product productId quantity newProductId) t := by
  simp [transferAcross] at h
  obtain ⟨source, hget, hspace, -, -, h⟩ := h
  obtain rfl : source.id = productId := key_of_get? hget
  split at h
  · next product hfound =>
      simp at h
      have hselect := (firstProduct_spec hfound).2
      simp at hselect
      have hdistinct : source.id ≠ product.id := by
        intro heq
        have hsame : source = product := eq_of_key_eq (mem_of_get? hget)
          (firstProduct_spec hfound).1 heq
        exact hne (hselect.1.symm.trans (hsame ▸ hspace))
      exact .inr (.inl ⟨product.id, transferred_of_ok hdistinct h.2⟩)
  · exact .inr (.inr (transferToNew_moves hget rfl h))

theorem transferAsset_moves {assetId : Nat} {fromStatus toStatus : Option AssetStatus}
    (hconsistent : Consistent s)
    (h : transferAsset s makerspaceId source destination assetId fromStatus toStatus = .ok t) :
    Rehoused s t assetId toStatus destination := by
  simp only [transferAsset, bind_ok, orRefuse_ok, require_ok, exists_const, pure_ok] at h
  obtain ⟨asset, hget, -, -, -, -, -, m, hmove, rfl⟩ := h
  refine ⟨asset, hget, m.products, ?_⟩
  rcases moveAssetStatus_spec hconsistent hmove with ⟨heq, rfl⟩ | ⟨product, oldBucket, newBucket,
    hproduct, hold, hnew, -, rfl⟩
  · exact ⟨rfl, .inl ⟨heq.symm, rfl⟩⟩
  · refine ⟨?_, .inr ⟨product, oldBucket, newBucket, hproduct, hold, hnew, rfl⟩⟩
    simp [put_put _ (show key { asset with status := toStatus.getD asset.status } = key
      ({ asset with status := toStatus.getD asset.status, boxId := destination } :
        InventoryAsset) from rfl)]

theorem transferLine_moves {line : TransferLine} (hconsistent : Consistent s)
    (h : transferLine makerspaceId destinationMakerspaceId source destination s line = .ok t) :
    Moves destination s line t ∧ Consistent t := by
  unfold transferLine at h
  split at h
  · split at h
    · exact ⟨transferAsset_moves hconsistent h, consistent_transferAsset hconsistent h⟩
    · simp at h
  · split at h
    · refine ⟨?_, consistent_transferProduct hconsistent h⟩
      simp [transferProduct] at h
      obtain ⟨product, hget, -, -, -, -, hsplit⟩ := h
      obtain rfl : product.id = _ := key_of_get? hget
      exact splitQuantityStock_moves hget hsplit
    · next hne => exact ⟨transferAcross_moves hne h, consistent_transferAcross hconsistent h⟩

theorem chain_of_lines {lines : List TransferLine} (hconsistent : Consistent s)
    (h : lines.foldlM (transferLine makerspaceId destinationMakerspaceId source destination) s =
      .ok t) :
    Chain destination s lines t := by
  induction lines generalizing s with
  | nil =>
    rw [foldlM_nil, pure_ok] at h
    exact h ▸ Chain.nil s
  | cons _ _ ih =>
    simp at h
    obtain ⟨_, hline, hrest⟩ := h
    obtain ⟨hmoves, hm⟩ := transferLine_moves hconsistent hline
    exact Chain.cons hmoves (ih hm hrest)

variable {destination : Option Nat} {productId newProductId : Nat} {line : TransferLine}
variable {lines : List TransferLine}

def availableAssets (s : State) : Int :=
  s.assets.sum fun asset => if asset.status = .available then 1 else 0

theorem sum_put_post
    {products : Table InventoryProduct} {product : InventoryProduct} (entry : Quantities)
    (hget : products.get? product.id = some product) (column : Column) :
    (products.put (Account.post entry product)).sum (·.quantities column) =
      products.sum (·.quantities column) + entry column := by
  have hget' : products.get? (key (Account.post entry product)) = some product := by
    rw [Account.key_post]
    exact hget
  have hsum := sum_put hget' (·.quantities column)
  have hquantities : (Account.post entry product).quantities column =
      product.quantities column + entry column := rfl
  simp only [hquantities] at hsum
  omega

theorem sum_transferred {sourceId destinationId : Nat}
    (h : Transferred s t sourceId destinationId quantity) (column : Column) :
    t.products.sum (·.quantities column) = s.products.sum (·.quantities column) := by
  obtain ⟨source, other, hsource, hother, -, rfl⟩ := h.rows
  obtain rfl : source.id = sourceId := key_of_get? hsource
  obtain rfl : other.id = destinationId := key_of_get? hother
  have hother' : (s.products.put (Account.post (-transferred quantity) source)).get? other.id =
      some other := by
    rw [get?_put_of_ne _ (by rw [Account.key_post]; exact Ne.symm h.distinct)]
    exact hother
  rw [sum_put_post _ hother', sum_put_post _ hsource, Pi.neg_apply]
  omega

theorem sum_added (h : Added s t productId) (column : Column) :
    t.products.sum (·.quantities column) = s.products.sum (·.quantities column) := by
  obtain ⟨_, -, hempty, _, rfl⟩ := h
  rw [sum_insert, hempty, Pi.zero_apply, add_zero]

theorem sum_relocated (h : Relocated s t productId quantity destination) (column : Column) :
    t.products.sum (·.quantities column) = s.products.sum (·.quantities column) := by
  obtain ⟨source, hget, -, rfl⟩ := h
  refine sum_put_of_eq fun old hold hkey => ?_
  obtain rfl : source.id = productId := key_of_get? hget
  have hsame : old = source := eq_of_key_eq hold (mem_of_get? hget) hkey
  rw [hsame]

theorem assets_of_product (h : Moves destination s (.product productId quantity newProductId) t) :
    t.assets = s.assets := by
  rcases h with ⟨_, -, -, rfl⟩ | ⟨_, h⟩ | ⟨_, ⟨_, -, -, _, rfl⟩, h⟩
  · rfl
  · obtain ⟨_, _, -, -, -, rfl⟩ := h.rows
    rfl
  · obtain ⟨_, _, -, -, -, rfl⟩ := h.rows
    rfl

theorem sum_of_product
    (h : Moves destination s (.product productId quantity newProductId) t) (column : Column) :
    t.products.sum (·.quantities column) = s.products.sum (·.quantities column) := by
  rcases h with h | ⟨_, h⟩ | ⟨_, hadded, h⟩
  · exact sum_relocated h column
  · exact sum_transferred h column
  · exact (sum_transferred h column).trans (sum_added hadded column)

theorem sum_total_of_moves (h : Moves destination s line t) :
    t.products.sum (·.quantities .total) = s.products.sum (·.quantities .total) := by
  cases line with
  | product => exact sum_of_product h .total
  | asset =>
    obtain ⟨asset, -, _, rfl, ⟨-, rfl⟩ | ⟨product, _, _, hproduct, hold,
      hnew, rfl⟩⟩ := h
    · rfl
    · obtain hid : product.id = asset.productId := key_of_get? hproduct
      rw [sum_put_post _ (hid ▸ hproduct), move_apply,
        if_neg (Ne.symm (assetQuantityBucket_ne_total hnew)),
        if_neg (Ne.symm (assetQuantityBucket_ne_total hold))]
      omega

/-- A line keeps the available units besides available assets. -/
theorem sum_available_of_moves (h : Moves destination s line t) :
    t.products.sum (·.quantities .available) - availableAssets t =
      s.products.sum (·.quantities .available) - availableAssets s := by
  cases line with
  | product =>
    rw [sum_of_product h .available]
    unfold availableAssets
    rw [assets_of_product h]
  | asset assetId _ toStatus =>
    obtain ⟨asset, hasset, _, rfl, hcases⟩ := h
    obtain rfl : asset.id = assetId := key_of_get? hasset
    have hcount := sum_put (r := ({ asset with
        status := toStatus.getD asset.status, boxId := destination } : InventoryAsset))
      hasset (fun other => if other.status = .available then (1 : Int) else 0)
    have hbucket : ∀ status column, assetQuantityBucket status = some column →
        (Column.available = column ↔ status = .available) := by
      intro status column hcolumn
      cases status <;> simp [assetQuantityBucket] at hcolumn <;>
        subst hcolumn <;> simp
    unfold availableAssets
    simp only at hcount ⊢
    rcases hcases with ⟨hsame, rfl⟩ | ⟨product, _, _, hproduct, hold, hnew, rfl⟩
    · simp only [hsame] at hcount ⊢
      omega
    · have hid : product.id = asset.productId := key_of_get? hproduct
      rw [sum_put_post _ (hid ▸ hproduct), move_apply]
      simp only [hbucket _ _ hold, hbucket _ _ hnew]
      omega

theorem sums_of_chain (h : Chain destination s lines t) :
    t.products.sum (·.quantities .total) = s.products.sum (·.quantities .total) ∧
      t.products.sum (·.quantities .available) - availableAssets t =
        s.products.sum (·.quantities .available) - availableAssets s := by
  induction h with
  | nil => exact ⟨rfl, rfl⟩
  | cons hmoves _ ih =>
    exact ⟨ih.1.trans (sum_total_of_moves hmoves), ih.2.trans (sum_available_of_moves hmoves)⟩

theorem assets_of_chain (h : Chain destination s lines t)
    (hproducts : ∀ line ∈ lines, ∃ productId quantity newProductId,
      line = .product productId quantity newProductId) :
    t.assets = s.assets := by
  induction h with
  | nil => rfl
  | cons hmoves _ ih =>
    obtain ⟨_, _, _, rfl⟩ := hproducts _ mem_cons_self
    exact (ih fun line hline => hproducts line (mem_cons_of_mem _ hline)).trans
      (assets_of_product hmoves)

variable {s : State} {source : InventoryProduct}

/-- The units of a kind of product in a container of a makerspace. -/
def stockIn (s : State) (makerspaceId : Nat) (name : String) (categoryId boxId : Option Nat)
    (column : Column) : Int :=
  s.products.sum fun product =>
    if product.makerspaceId = makerspaceId ∧ product.name = name ∧
        product.categoryId = categoryId ∧ product.boxId = boxId then
      product.quantities column
    else 0

theorem quantities_of_canMoveSourceRow (h : canMoveSourceRow source quantity) :
    source.quantities = transferred quantity := by
  obtain ⟨havailable, htotal, hothers⟩ := h
  funext column
  simp only [forall_mem_cons] at hothers
  cases column <;> simp [transferred, gain_apply, hothers, htotal, havailable]

def destinationRow (source : InventoryProduct) (destination : Option Nat) (newProductId : Nat) :
    InventoryProduct where
  id := newProductId
  makerspaceId := source.makerspaceId
  name := source.name
  categoryId := source.categoryId
  boxId := destination
  isPublic := false

theorem transferToNew_ok {new : InventoryProduct}
    (hsource : s.products.get? source.id = some source)
    (hwhole : canMoveSourceRow source quantity) (hpositive : 0 < quantity)
    (hnew : s.products.get? (key new) = none) :
    transferToNew s source new quantity = .ok { s with
      products := ((s.products.insert new hnew).put
        (Account.post (-transferred quantity) source)).put
          (Account.post (transferred quantity) new) } := by
  have hdistinct : source.id ≠ new.id := by
    intro heq
    rw [heq] at hsource
    exact absurd hsource (by simp [show s.products.get? new.id = none from hnew])
  have hentry : -gain Column.available quantity - gain .total quantity = -transferred quantity := by
    unfold transferred
    abel
  have hinserted : (s.products.insert new hnew).get? source.id = some source := by
    rw [get?_insert, if_neg (show ¬ source.id = key new from hdistinct)]
    exact hsource
  have hother : ((s.products.insert new hnew).put
      (Account.post (-transferred quantity) source)).get? new.id = some new := by
    rw [get?_put_of_ne _ (by rw [Account.key_post]; exact Ne.symm hdistinct),
      get?_insert, if_pos (show new.id = key new from rfl)]
  have henough : quantity ≤ source.quantities .available ∧ quantity ≤ source.quantities .total := by
    rw [hwhole.2.1, ← hwhole.1]
    exact ⟨le_refl _, le_refl _⟩
  simp only [transferToNew, Table.insertNew, dif_pos hnew, transferAvailableQuantity, require,
    if_pos hpositive, if_neg hdistinct, State.post, bookAll, foldlM_cons, foldlM_nil,
    Posting.book, hinserted, orRefuse_some, if_pos henough, hentry, bind, Except.bind, pure,
    Except.pure, hother]
  rfl

theorem movedRow_stock {destination : Option Nat} {newProductId : Nat}
    (hsource : s.products.get? source.id = some source)
    (hwhole : canMoveSourceRow source quantity) (hpositive : 0 < quantity)
    (hnew : s.products.get? newProductId = none) :
    ∃ split, transferToNew s source (destinationRow source destination newProductId) quantity =
        .ok split ∧
      ∀ makerspaceId name categoryId boxId column,
        stockIn { s with products := s.products.put { source with boxId := destination } }
            makerspaceId name categoryId boxId column =
          stockIn split makerspaceId name categoryId boxId column := by
  have hfresh : s.products.get? (key (destinationRow source destination newProductId)) = none := hnew
  refine ⟨_, transferToNew_ok hsource hwhole hpositive hfresh, ?_⟩
  intro makerspaceId name categoryId boxId column
  have hquantities := quantities_of_canMoveSourceRow hwhole
  let share : InventoryProduct → Int := fun product =>
    if product.makerspaceId = makerspaceId ∧ product.name = name ∧
        product.categoryId = categoryId ∧ product.boxId = boxId then
      product.quantities column
    else 0
  have hdistinct : source.id ≠ newProductId := by
    intro heq
    rw [heq, hnew] at hsource
    cases hsource
  have hkeys : key source ≠ key (destinationRow source destination newProductId) := hdistinct
  have hinserted : (s.products.insert (destinationRow source destination newProductId) hfresh).get?
      (key (Account.post (-transferred quantity) source)) = some source := by
    rw [Account.key_post, get?_insert, if_neg hkeys]
    exact hsource
  have hother : ((s.products.insert (destinationRow source destination newProductId) hfresh).put
      (Account.post (-transferred quantity) source)).get? (key (Account.post (transferred quantity)
        (destinationRow source destination newProductId))) =
      some (destinationRow source destination newProductId) := by
    rw [Account.key_post, get?_put_of_ne _ (by rw [Account.key_post]; exact Ne.symm hkeys),
      get?_insert, if_pos rfl]
  have hmoved : s.products.get? (key ({ source with boxId := destination } : InventoryProduct)) =
      some source := hsource
  have hwholeSum := sum_put hmoved share
  have hdrawnSum := sum_put hinserted share
  have hfilledSum := sum_put hother share
  rw [sum_insert] at hdrawnSum
  -- The source row is left without units, and the new one starts without them.
  have hdrawn : share (Account.post (-transferred quantity) source) = 0 := by
    have hzero : (Account.post (-transferred quantity) source).quantities = 0 := by
      change source.quantities + -transferred quantity = 0
      rw [hquantities, add_neg_cancel]
    simp [share, hzero]
  have hempty : share (destinationRow source destination newProductId) = 0 := by
    simp [share, destinationRow]
  have hfilled : share (Account.post (transferred quantity)
      (destinationRow source destination newProductId)) =
      share { source with boxId := destination } := by
    have hsame : (Account.post (transferred quantity)
        (destinationRow source destination newProductId)).quantities = source.quantities := by
      change 0 + transferred quantity = source.quantities
      rw [hquantities, zero_add]
    simp only [share, hsame]
    rfl
  change (s.products.put { source with boxId := destination }).sum share =
    (((s.products.insert (destinationRow source destination newProductId) hfresh).put
      (Account.post (-transferred quantity) source)).put (Account.post (transferred quantity)
        (destinationRow source destination newProductId))).sum share
  omega

end

/-- An applied transfer moves units between two rows a line and keeps totals and available units,
but for assets made available or not; whole or split makes no difference to containers. -/
theorem transfer_conserves {s : State} (makerspaceId destinationMakerspaceId : Nat)
    (sourceContainerId destinationContainerId : Option Nat) (lines : List TransferLine)
    (h : Consistent s) :
    (∀ t, applyStockTransfer s makerspaceId destinationMakerspaceId sourceContainerId
          destinationContainerId lines = .ok t →
      (∃ destination, container s destinationContainerId destinationMakerspaceId = .ok destination ∧
        Chain destination s lines t) ∧
      t.products.sum (·.quantities .total) = s.products.sum (·.quantities .total) ∧
      t.products.sum (·.quantities .available) - availableAssets t =
        s.products.sum (·.quantities .available) - availableAssets s ∧
      ((∀ line ∈ lines, ∃ productId quantity newProductId,
          line = .product productId quantity newProductId) →
        t.products.sum (·.quantities .available) = s.products.sum (·.quantities .available))) ∧
    (∀ e, applyStockTransfer s makerspaceId destinationMakerspaceId sourceContainerId
          destinationContainerId lines = .error e →
      settle step s (.transfer makerspaceId destinationMakerspaceId sourceContainerId
        destinationContainerId lines) = s) ∧
    ∀ (u : State) (source : InventoryProduct) (quantity : Int) (destination : Option Nat)
        (newProductId : Nat),
      u.products.get? source.id = some source → canMoveSourceRow source quantity → 0 < quantity →
      u.products.get? newProductId = none →
      ∃ split, transferToNew u source (destinationRow source destination newProductId) quantity =
          .ok split ∧
        ∀ makerspaceId name categoryId boxId column,
          stockIn { u with products := u.products.put { source with boxId := destination } }
              makerspaceId name categoryId boxId column =
            stockIn split makerspaceId name categoryId boxId column := by
  refine ⟨fun t happly => ?_, fun e hrefused => ?_, ?_⟩
  · simp [applyStockTransfer] at happly
    obtain ⟨_, -, destination, hdestination, hloop⟩ := happly
    have hchain := chain_of_lines h hloop
    obtain ⟨htotal, havailable⟩ := sums_of_chain hchain
    refine ⟨⟨destination, hdestination, hchain⟩, htotal, havailable, fun hproducts => ?_⟩
    have hassets := assets_of_chain hchain hproducts
    unfold availableAssets at havailable
    rw [hassets] at havailable
    omega
  · exact settle_error hrefused
  · intro u source quantity destination newProductId hsource hwhole hpositive hnew
    exact movedRow_stock hsource hwhole hpositive hnew

def shelf : State where
  boxes := ⟨[{ id := 4, makerspaceId := 1, code := "S4" }], nodup_singleton _⟩
  products := ⟨[{ id := 7
                  makerspaceId := 1
                  name := "bolt"
                  quantities := gain .available 3 + gain .total 3 }], nodup_singleton _⟩

theorem shelf_consistent : Consistent shelf where
  items _ hrequest := absurd hrequest not_mem_nil
  assets _ hasset := absurd hasset not_mem_nil
  filed _ hrequest := absurd hrequest not_mem_nil
  linked _ hrequest := absurd hrequest not_mem_nil
  custody _ hasset := absurd hasset not_mem_nil
  lent := ⟨fun _ hloan => absurd hloan not_mem_nil,
    fun _ hloan => absurd hloan not_mem_nil, fun _ hloan => absurd hloan not_mem_nil⟩
  coded _ hqr := absurd hqr not_mem_nil
  balanced product hproduct := by
    obtain rfl := mem_singleton.mp hproduct
    refine ⟨⟨fun column => ?_, by decide⟩, fun _ => rfl, fun _ => rfl, fun hmode => by cases hmode⟩
    cases column <;> decide

theorem shelf_transferred :
    (applyStockTransfer shelf 1 1 none (some 4) [.product 7 2 8, .product 7 1 9]).isOk = true ∧
      ∀ t, applyStockTransfer shelf 1 1 none (some 4) [.product 7 2 8, .product 7 1 9] = .ok t →
        t.products.sum (·.quantities .available) = 3 := by
  refine ⟨by decide +kernel, fun t happly => ?_⟩
  obtain ⟨-, -, -, havailable⟩ := (transfer_conserves 1 1 none (some 4)
    [.product 7 2 8, .product 7 1 9] shelf_consistent).1 t happly
  exact havailable (by simp)

/-- A unit that a transfer marks as damaged is available no more. -/
theorem damaged_unit_transferred :
    ∃ s t : State, applyStockTransfer s 1 1 none none [.asset 3 none (some .damaged)] = .ok t ∧
      s.products.sum (·.quantities .available) = 1 ∧
      t.products.sum (·.quantities .available) = 0 :=
  ⟨{ products := ⟨[{ id := 7
                     makerspaceId := 1
                     name := "drill"
                     trackingMode := .individual
                     quantities := gain .available 1 + gain .total 1 }], nodup_singleton _⟩
     assets := ⟨[{ id := 3
                   makerspaceId := 1
                   productId := 7
                   assetTag := "7-0001" }], nodup_singleton _⟩ }, _, rfl, rfl, rfl⟩

end Lending
end SpaceWorks
