import SpaceWorks.Lending.Model

/-!
# Inventory availability

`apps/inventory/availability*.py`: reservations (`availability_requests.py`,
`availability_reservations.py`), moves (`availability_quantities.py`,
`availability_manual_adjustments.py`), individual-tracked products (`availability_assets.py`) and
the tracking mode (`availability_tracking.py`).  A loop that moves units is a list of postings,
ordered by product as in the source.
-/

namespace SpaceWorks
namespace Lending

open Checked Quantities

/-- How a broken unit leaves the reserved bucket at handover. -/
inductive Disposition
  | needsFix
  | remove
  deriving DecidableEq

structure Reject where
  itemId : Nat
  broken : Int
  disposition : Disposition := .needsFix

inductive ReturnOutcome
  | returned
  | damaged
  | missing
  deriving DecidableEq

/-- A resolution of a return, as `build_resolutions` validates it. -/
structure Resolution where
  item : RequestItem
  returned : Int
  damaged : Int
  missing : Int
  assetOutcomes : List (Nat × ReturnOutcome)

def Resolution.quantity (resolution : Resolution) : Int :=
  resolution.returned + resolution.damaged + resolution.missing

namespace Availability

def assertIndividualAssetsAvailable (s : State) (product : InventoryProduct)
    (required : Int) : Except Refusal Unit :=
  if product.trackingMode = .individual ∧ 0 < required then
    let reserved := max (product.quantities .reserved) 0
    let available := s.assetCount product.id .available
    let guidance :=
      if s.assetsOf product.id = [] then
        " No individual units are registered. Verify physical stock, then generate units in QR Tools."
      else
        " Existing units are unavailable or already reserved; check unit statuses and reservations."
    require (required + reserved ≤ available)
      (.insufficientStock
        s!"Insufficient available assets for product {product.id}: {product.name}; requested {required}, already reserved {reserved}, available assets {available}.{guidance}")
  else return ()

/-- One turn of `reserve_for_request`. -/
def reserve (s : State) (productId : Nat) (quantity : Int) : StockPosting where
  account := productId
  entry := move .available .reserved quantity
  check product := do
    assertIndividualAssetsAvailable s product quantity
    require (quantity ≤ product.quantities .available)
      (.insufficientStock
        s!"Insufficient stock for product {product.id}: requested {quantity}, available {product.quantities .available}.")

/-- `required_by_product`: accepted units aggregated over the items. -/
def requiredByProduct (items : List RequestItem) (productId : Nat) : Int :=
  (items.map fun item =>
    if productId = item.productId ∧ 0 < item.accepted then item.accepted else 0).sum

def reserveForRequest (s : State) (request : HardwareRequest) : Except Refusal State :=
  let items := request.items.rows
  let productIds := ((items.filter fun item => 0 < item.accepted).map RequestItem.productId).dedup
  s.post ((productIds.insertionSort (· ≤ ·)).map fun productId =>
    reserve s productId (requiredByProduct items productId))

/-- The accepted units of items for one product. -/
def acceptedFor (items : List RequestItem) (productId : Nat) : Int :=
  (items.map fun item => if productId = item.productId then item.accepted else 0).sum

/-- `demand` of the release, over accepted requests. -/
def demand (s : State) (productId : Nat) : Int :=
  (s.requests.rows.map fun request =>
    if request.status = .accepted then acceptedFor request.items.rows productId else 0).sum

/-- The check that the release makes of one product before any write. -/
def checkRelease (s : State) (request : HardwareRequest) (product : InventoryProduct) :
    Except Refusal Unit := do
  require (product.makerspaceId = request.makerspaceId)
    (.insufficientStock "Product belongs to another makerspace.")
  let demanded := demand s product.id
  let available := s.assetCount product.id .available
  match product.trackingMode with
  | .quantity =>
    require (s.assetsOf product.id = [])
      (.insufficientStock "Quantity-tracked stock has ambiguous asset backing.")
  | .individual =>
    require (demanded ≤ available ∧ product.quantities .available = available - demanded)
      (.insufficientStock "Individual available stock does not match accepted demand.")
  require (product.quantities .reserved = demanded + s.assetCount product.id .reserved ∧
      acceptedFor request.items.rows product.id ≤ demanded)
    (.insufficientStock "Reserved stock does not exactly match attributable demand.")

def release (productId : Nat) (quantity : Int) : StockPosting where
  account := productId
  entry := move .reserved .available quantity
  check _ := return ()

def releaseRequestReservation (s : State) (request : HardwareRequest) : Except Refusal State := do
  require (request.status = .accepted)
    (.insufficientStock "Only accepted request reservations can be released.")
  let items := request.items.rows
  let productIds := ((items.map RequestItem.productId).dedup).insertionSort (· ≤ ·)
  require ((∀ productId ∈ productIds, (s.products.get? productId).isSome) ∧
      ∃ productId ∈ productIds, acceptedFor items productId ≠ 0)
    (.insufficientStock "Accepted reservation has no attributable stock.")
  require (∀ other ∈ s.requests.rows, other.status = .accepted →
      (∃ item ∈ other.items.rows, item.productId ∈ productIds) →
      other.makerspaceId = request.makerspaceId)
    (.insufficientStock "Accepted stock has a foreign makerspace binding.")
  require (∀ asset ∈ s.assets.rows, asset.productId ∈ productIds →
      asset.makerspaceId = request.makerspaceId)
    (.insufficientStock "Asset stock has a foreign makerspace binding.")
  forM productIds fun productId => do
    let product ← orRefuse (s.products.get? productId) (.doesNotExist "InventoryProduct")
    checkRelease s request product
  s.post ((productIds.filter fun productId => acceptedFor items productId ≠ 0).map fun productId =>
    release productId (acceptedFor items productId))

/-- `rejects_by_item.get(item_id, (0, REJECT_NEEDS_FIX))`; the last entry with broken units counts.
-/
def rejectOf (rejects : List Reject) (itemId : Nat) : Int × Disposition :=
  match (rejects.filter fun reject => 0 < reject.broken).reverse.find?
      fun reject => reject.itemId = itemId with
  | some reject => (reject.broken, reject.disposition)
  | none => (0, .needsFix)

/-- What `issue_items` moves for one item. -/
def issueEntry (accepted broken : Int) (disposition : Disposition) : Quantities :=
  match disposition with
  | .needsFix => move .reserved .issued (accepted - broken) + move .reserved .needsFix broken
  | .remove =>
    move .reserved .issued (accepted - broken) - gain .reserved broken - gain .total broken

/-- One turn of `issue_items`. -/
def issue (rejects : List Reject) (item : RequestItem) : StockPosting where
  account := item.productId
  entry := issueEntry item.accepted (rejectOf rejects item.id).1 (rejectOf rejects item.id).2
  check product := do
    let broken := (rejectOf rejects item.id).1
    require (broken ≤ item.accepted)
      (.insufficientStock s!"Cannot reject {broken} as broken: only {item.accepted} accepted.")
    require (item.accepted ≤ product.quantities .reserved)
      (.insufficientStock
        s!"Insufficient reserved stock for product {product.id}: requested {item.accepted}, reserved {product.quantities .reserved}.")

def issueItem (rejects : List Reject) (item : RequestItem) : RequestItem :=
  if 0 < item.accepted then
    let (broken, disposition) := rejectOf rejects item.id
    { item with
      issued := item.accepted - broken
      needsFix := if disposition = .remove then 0 else broken }
  else item

theorem key_issueItem (rejects : List Reject) (item : RequestItem) :
    key (issueItem rejects item) = key item := by
  unfold issueItem
  split <;> rfl

def issueItems (s : State) (request : HardwareRequest) (rejects : List Reject) :
    Except Refusal (State × HardwareRequest) := do
  let items := (request.items.rows.filter fun item => 0 < item.accepted).insertionSort
    fun a b => a.productId ≤ b.productId
  let s ← s.post (items.map (issue rejects))
  let request := { request with
    items := request.items.mapRows (issueItem rejects) (key_issueItem rejects) }
  return (s.saveRequest request, request)

/-- What `return_items` moves for one resolution. -/
def returnEntry (resolution : Resolution) : Quantities :=
  move .issued .available resolution.returned + move .issued .damaged resolution.damaged
    + move .issued .lost resolution.missing

/-- One turn of `return_items`. -/
def resolve (resolution : Resolution) : StockPosting where
  account := resolution.item.productId
  entry := returnEntry resolution
  check product :=
    require (resolution.quantity ≤ product.quantities .issued)
      (.insufficientStock
        s!"Insufficient issued stock for product {product.id}: returning {resolution.quantity}, issued {product.quantities .issued}.")

/-- The item row that `return_items` saves. -/
def resolveItem (resolution : Resolution) : RequestItem :=
  { resolution.item with
    returned := resolution.item.returned + resolution.returned
    damaged := resolution.item.damaged + resolution.damaged
    missing := resolution.item.missing + resolution.missing }

def returnItems (s : State) (request : HardwareRequest) (resolutions : List Resolution) :
    Except Refusal (State × HardwareRequest) := do
  let resolutions := resolutions.filter fun resolution => 0 < resolution.quantity
  let s ← s.post (resolutions.map resolve)
  let request := { request with items := request.items.putAll (resolutions.map resolveItem) }
  return (s.saveRequest request, request)

def issueAvailable (productId : Nat) (quantity : Int) : StockPosting where
  account := productId
  entry := move .available .issued quantity
  check product :=
    require (quantity ≤ product.quantities .available)
      (.insufficientStock
        s!"Insufficient stock for product {product.id}: requested {quantity}, available {product.quantities .available}.")

def returnToAvailable (productId : Nat) (quantity : Int) : StockPosting where
  account := productId
  entry := move .issued .available quantity
  check product :=
    require (quantity ≤ product.quantities .issued)
      (.insufficientStock
        s!"Insufficient issued stock for product {product.id}: returning {quantity}, issued {product.quantities .issued}.")

def withTotal (q : Quantities) : Quantities :=
  fun column => if column = .total then held q else q column

/-- Signed deltas of the buckets, none negative after, and the total anew. -/
def applyDeltas (refusal : String) (s : State) (productId : Nat)
    (deltaAvailable deltaDamaged deltaLost : Int) : Except Refusal State := do
  let locked ← orRefuse (s.products.get? productId) (.doesNotExist "InventoryProduct")
  let adjusted := locked.quantities + gain .available deltaAvailable
    + gain .damaged deltaDamaged + gain .lost deltaLost
  require (0 ≤ adjusted .available ∧ 0 ≤ adjusted .damaged ∧ 0 ≤ adjusted .lost)
    (.insufficientStock refusal)
  return { s with products := s.products.put { locked with quantities := withTotal adjusted } }

def adjustQuantities : State → Nat → Int → Int → Int → Except Refusal State :=
  applyDeltas "Quantity adjustment cannot make a bucket negative."

def adjustManualQuantities (s : State) (productId : Nat)
    (deltaAvailable deltaDamaged deltaLost : Int) : Except Refusal State := do
  let locked ← orRefuse (s.products.get? productId) (.doesNotExist "InventoryProduct")
  require (locked.trackingMode ≠ .individual)
    (.insufficientStock
      "Individual stock is derived from unit assets. Verify physical units and use QR Tools to generate units or update their status; manual quantity adjustments are unavailable.")
  adjustQuantities s productId deltaAvailable deltaDamaged deltaLost

def applyStocktakeDelta : State → Nat → Int → Int → Int → Except Refusal State :=
  applyDeltas "Stocktake adjustment would make inventory negative."

/-- `move_available_to_triage_bucket` with the outcome `needs_fix`. -/
def moveAvailableToFixShelf (s : State) (productId : Nat) (quantity : Int) :
    Except Refusal State := do
  let locked ← orRefuse (s.products.get? productId) (.doesNotExist "InventoryProduct")
  require (quantity ≤ locked.quantities .available)
    (.insufficientStock s!"Cannot move {quantity}: only {locked.quantities .available} available.")
  let moved := locked.quantities + move .available .needsFix quantity
  return { s with products := s.products.put { locked with quantities := withTotal moved } }

def moveAvailableToTriageBucket (s : State) (productId : Nat) (quantity : Int)
    (outcome : ReportOutcome) : Except Refusal State := do
  require (0 < quantity) (.insufficientStock "Triage quantity must be positive.")
  match outcome with
  | .damaged => adjustQuantities s productId (-quantity) quantity 0
  | .missing => adjustQuantities s productId (-quantity) 0 quantity
  | .needsFix => moveAvailableToFixShelf s productId quantity
  | .noIssue => throw (.insufficientStock "Unsupported triage inventory outcome.")

def transferAvailableQuantity (s : State) (sourceId destinationId : Nat) (quantity : Int) :
    Except Refusal State := do
  require (0 < quantity) (.insufficientStock "Transfer quantity must be positive.")
  if sourceId = destinationId then return s
  else s.post [
    { account := sourceId
      entry := -gain .available quantity - gain .total quantity
      check := fun source =>
        require (quantity ≤ source.quantities .available ∧ quantity ≤ source.quantities .total)
          (.insufficientStock
            s!"Insufficient stock for product {source.id}: requested {quantity}, available {source.quantities .available}.") },
    { account := destinationId
      entry := gain .available quantity + gain .total quantity
      check := fun _ => return () }]

def requireQuantityFixAction (product : InventoryProduct) : Except Refusal Unit :=
  require (product.trackingMode ≠ .individual)
    (.insufficientStock
      "Individual stock is derived from unit assets. Open the inventory item's individual units to change their status; quantity-based repair, shelve and scrap actions are unavailable.")

/-- Move units on the to-be-fixed shelf that a column must hold. -/
def fixAction (entry : Int → Quantities) (source : Column) (refusal : Int → Int → String)
    (s : State) (productId : Nat) (quantity : Int) : Except Refusal State :=
  s.post [
    { account := productId
      entry := entry quantity
      check := fun product => do
        requireQuantityFixAction product
        require (0 < quantity ∧ quantity ≤ product.quantities source)
          (.insufficientStock (refusal quantity (product.quantities source))) }]

def repairFromNeedsFix : State → Nat → Int → Except Refusal State :=
  fixAction (move .needsFix .available) .needsFix fun quantity held =>
    s!"Cannot repair {quantity}: only {held} on the shelf."

def moveAvailableToNeedsFix : State → Nat → Int → Except Refusal State :=
  fixAction (move .available .needsFix) .available fun quantity held =>
    s!"Cannot move {quantity}: only {held} available."

def scrapFromNeedsFix : State → Nat → Int → Except Refusal State :=
  fixAction (fun quantity => -gain .needsFix quantity - gain .total quantity) .needsFix
    fun quantity held => s!"Cannot scrap {quantity}: only {held} on the shelf."

/-- `ASSET_QUANTITY_BUCKETS`: a retired asset is in no bucket. -/
def assetQuantityBucket : AssetStatus → Option Column
  | .available => some .available
  | .reserved => some .reserved
  | .issued => some .issued
  | .damaged => some .damaged
  | .lost => some .lost
  | .maintenance => some .needsFix
  | .retired => none

/-- One unit of its bucket and of the total. -/
def assetUnit (status : AssetStatus) : Quantities :=
  match assetQuantityBucket status with
  | some bucket => gain bucket 1 + gain .total 1
  | none => 0

def assetCounts (s : State) (productId : Nat) : Quantities :=
  ((s.assetsOf productId).map fun asset => assetUnit asset.status).sum

def reconcileIndividualProductFromAssets (s : State) (product : InventoryProduct) :
    Except Refusal (State × InventoryProduct) :=
  if product.trackingMode ≠ .individual then return (s, product)
  else do
    let counts := assetCounts s product.id
    let unmarkedReserved := max (product.quantities .reserved - counts .reserved) 0
    require (unmarkedReserved ≤ counts .available)
      (.insufficientStock
        s!"Product {product.id} has {unmarkedReserved} reserved units but only {counts .available} available assets to hold them.")
    let product := { product with
      quantities := counts + move .available .reserved unmarkedReserved }
    return ({ s with products := s.products.put product }, product)

def moveAssetStatus (s : State) (asset : InventoryAsset) (newStatus : AssetStatus) :
    Except Refusal State :=
  if asset.status = newStatus then return s
  else do
    let unbacked := Refusal.insufficientStock
      "Asset status transition is not backed by inventory quantity buckets."
    let oldBucket ← orRefuse (assetQuantityBucket asset.status) unbacked
    let newBucket ← orRefuse (assetQuantityBucket newStatus) unbacked
    let product ← orRefuse (s.products.get? asset.productId) (.doesNotExist "InventoryProduct")
    let (s, product) ← reconcileIndividualProductFromAssets s product
    require (1 ≤ product.quantities oldBucket)
      (.insufficientStock s!"Product {product.id} has no {oldBucket.field} stock to move.")
    let moved := { product with quantities := product.quantities + move oldBucket newBucket 1 }
    return { s with products := s.products.put moved }.saveStatuses [(asset, newStatus)]

def changeBlocker (s : State) (product : InventoryProduct) : Option String :=
  if ∃ column ∈ [Column.available, .reserved, .issued, .damaged, .lost, .needsFix, .total],
      product.quantities column ≠ 0 then
    some "the product still holds stock; bring every quantity to zero first."
  else if s.assetsOf product.id ≠ [] then
    some "the product already has unit assets."
  else if ∃ request ∈ s.requests.rows, (request.status = .accepted ∨ request.status.out) ∧
        ∃ item ∈ request.items.rows, item.productId = product.id then
    some "the product is on an open request or loan."
  else none

def changeTrackingMode (s : State) (productId : Nat) (trackingMode : TrackingMode) :
    Except Refusal State := do
  let locked ← orRefuse (s.products.get? productId) (.doesNotExist "InventoryProduct")
  if locked.trackingMode = trackingMode then return s
  else do
    let blocker := changeBlocker s locked
    let reason := blocker.getD ""
    require (blocker = none) (.trackingModeChangeRefused s!"Cannot change tracking mode: {reason}")
    return { s with products := s.products.put { locked with trackingMode := trackingMode } }

end Availability

end Lending
end SpaceWorks
