import SpaceWorks.Lending.Loans

/-!
# Stock keeping

Unit assets and QR codes (`apps/operations/services_qr_assets.py`, `apps/boxes/rebind.py`,
`apps/boxes/asset_rebind.py`), the fix shelf (`apps/admin_api/views_assets.py`), transfers
(`services_transfers.py`, `services_transfer_splits.py`) and stocktakes
(`services_stocktake_helpers.py`, `services_stocktake_workflow.py`).
-/

namespace SpaceWorks
namespace Lending

open Checked Availability

def hasActiveQr (s : State) (makerspaceId : Nat) (targetType : TargetType) (targetId : Nat)
    (exceptId : Option Nat) : Prop :=
  ∃ qr ∈ s.qrCodes.rows, some qr.id ≠ exceptId ∧ qr.active ∧ qr.makerspaceId = makerspaceId ∧
    qr.targetType = targetType ∧ qr.targetId = targetId

instance (s : State) (makerspaceId : Nat) (targetType : TargetType) (targetId : Nat)
    (exceptId : Option Nat) :
    Decidable (hasActiveQr s makerspaceId targetType targetId exceptId) :=
  inferInstanceAs (Decidable (∃ _ ∈ _, _))

/-- `_create_asset_qr`: the active code, or a new one. -/
def createAssetQr (s : State) (asset : InventoryAsset) (qr : Nat × String) :
    Except Refusal State :=
  if hasActiveQr s asset.makerspaceId .asset asset.id none then return s
  else do
    require (∀ other ∈ s.qrCodes.rows, other.payload ≠ qr.2) (.integrity "qr_code_payload_key")
    let qrCodes ← s.qrCodes.insertNew
      { id := qr.1
        makerspaceId := asset.makerspaceId
        payload := qr.2
        targetType := .asset
        targetId := asset.id }
      (.integrity "qr_code_pkey")
    return { s with qrCodes := qrCodes }

def fourDigits (n : Nat) : String :=
  String.ofList (List.replicate (4 - (toString n).length) '0') ++ toString n

structure NewUnit where
  assetId : Nat
  qrId : Nat
  payload : String

def createUnit (product : InventoryProduct) (acc : State × Nat) (unit : NewUnit) :
    Except Refusal (State × Nat) := do
  let s := acc.1
  let number := fourDigits acc.2
  let asset : InventoryAsset :=
    { id := unit.assetId
      makerspaceId := product.makerspaceId
      productId := product.id
      boxId := product.boxId
      assetTag := s!"{product.id}-{number}" }
  require (∀ other ∈ s.assets.rows,
      ¬ (other.makerspaceId = asset.makerspaceId ∧ other.assetTag = asset.assetTag))
    (.integrity "uniq_asset_tag_per_makerspace")
  let assets ← s.assets.insertNew asset (.integrity "inventory_asset_pkey")
  let s ← createAssetQr { s with assets := assets } asset (unit.qrId, unit.payload)
  return (s, acc.2 + 1)

def assetsMissingActiveQr (s : State) (product : InventoryProduct) (limit : Nat) :
    List InventoryAsset :=
  (((s.assetsOf product.id).filter fun asset =>
      ¬ hasActiveQr s product.makerspaceId .asset asset.id none).insertionSort
    fun a b => a.id ≤ b.id).take limit

/-- `generate_assets_with_qr`; `relabelled` and `units` are the new rows. -/
def generateAssetsWithQr (s : State) (productId count : Nat) (relabelled : List (Nat × String))
    (units : List NewUnit) : Except Refusal State := do
  require (1 ≤ count ∧ count ≤ 200) (.validation "count" "Ensure this value is between 1 and 200.")
  let s ← changeTrackingMode s productId .individual
  let product ← orRefuse (s.products.get? productId) (.doesNotExist "InventoryProduct")
  let existingCount := (s.assetsOf productId).length
  let missing := assetsMissingActiveQr s product count
  require (relabelled.length = missing.length ∧ units.length + missing.length = count)
    (.integrity "identity")
  let s ← (missing.zip relabelled).foldlM (fun s entry => createAssetQr s entry.1 entry.2) s
  let (s, _) ← units.foldlM (createUnit product) (s, existingCount + 1)
  let (s, _) ← reconcileIndividualProductFromAssets s product
  return s

def targetMakerspace (s : State) (targetType : TargetType) (targetId : Nat) : Option Nat :=
  match targetType with
  | .box => (s.boxes.get? targetId).map Box.makerspaceId
  | .product => (s.products.get? targetId).map InventoryProduct.makerspaceId
  | .asset => (s.assets.get? targetId).map InventoryAsset.makerspaceId

def rebindQrTarget (s : State) (qrId : Nat) (targetType : TargetType) (targetId : Nat) :
    Except Refusal State := do
  let qr ← orRefuse (s.qrCodes.get? qrId) (.doesNotExist "QrCode")
  require qr.active (.validation "" "QR code is not active.")
  require (¬ qrHasActiveLoan s qr.makerspaceId qr)
    (.conflict "Cannot rebind a QR with an outstanding loan.")
  let makerspaceId ← orRefuse (targetMakerspace s targetType targetId) (.doesNotExist "target")
  require (makerspaceId ≠ qr.makerspaceId → qr.targetType = .product ∧ targetType = .product)
    (.validation "" "Only products can be rebound across makerspaces.")
  require (¬ hasActiveQr s makerspaceId targetType targetId (some qr.id))
    (.conflict "Target already has an active QR code.")
  return { s with
    qrCodes := s.qrCodes.put
      { qr with makerspaceId := makerspaceId, targetType := targetType, targetId := targetId } }

/-- The actions of `InventoryAssetStatusActionView`. -/
inductive AssetFixAction
  | shelve
  | repair
  deriving DecidableEq

def validateAssetFixAction (s : State) (asset : InventoryAsset) (action : AssetFixAction) :
    Except Refusal Unit := do
  require (s.individual asset.productId)
    (.validation "" "Asset fix actions are only for individual-tracked products.")
  match action with
  | .shelve =>
    require (asset.status = .available ∨ asset.status = .damaged)
      (.validation "" "Only available or damaged assets can be moved to the fix shelf.")
  | .repair =>
    require (asset.status = .maintenance)
      (.validation "" "Only assets on the fix shelf can be moved back to inventory.")

/-- The post of `InventoryAssetStatusActionView`. -/
def assetFixAction (s : State) (assetId : Nat) (action : AssetFixAction) :
    Except Refusal State := do
  let asset ← orRefuse (s.assets.get? assetId) (.doesNotExist "InventoryAsset")
  validateAssetFixAction s asset action
  moveAssetStatus s asset (if action = .shelve then .maintenance else .available)

/-- A line; `newProductId` is for a product it creates. -/
inductive TransferLine
  | asset (assetId : Nat) (fromStatus toStatus : Option AssetStatus)
  | product (productId : Nat) (quantity : Int) (newProductId : Nat)

def container (s : State) (containerId : Option Nat) (makerspaceId : Nat) :
    Except Refusal (Option Nat) :=
  match containerId with
  | none => return none
  | some containerId => do
    let box ← orRefuse (s.boxes.get? containerId) (.doesNotExist "Box")
    require (box.makerspaceId = makerspaceId) (.doesNotExist "Box")
    return some box.id

def assetOnOpenLoan (s : State) (asset : InventoryAsset) : Prop :=
  (∃ loan ∈ s.loans.rows, loan.makerspaceId = asset.makerspaceId ∧
      loan.status = .checkedOut ∧ asset.id ∈ loan.assetIds) ∨
    (∃ request ∈ s.requests.rows, request.status.out ∧
      ∃ item ∈ request.items.rows, asset.id ∈ issuedAssetIds item)

instance (s : State) (asset : InventoryAsset) : Decidable (assetOnOpenLoan s asset) :=
  inferInstanceAs (Decidable (_ ∨ _))

def assertAssetTransferable (s : State) (asset : InventoryAsset)
    (toStatus : Option AssetStatus) : Except Refusal Unit := do
  require (toStatus ∈ [none, some .available, some .maintenance, some .damaged])
    (.validation "to_status"
      "Transfers can only set an asset to available, maintenance or damaged.")
  require (asset.status ≠ .issued ∧ asset.status ≠ .reserved)
    (.validation "asset_id" "An issued or reserved asset cannot be transferred.")
  require (¬ assetOnOpenLoan s asset)
    (.validation "asset_id" "An asset on an open loan cannot be transferred.")

def transferAsset (s : State) (makerspaceId : Nat) (source destination : Option Nat)
    (assetId : Nat) (fromStatus toStatus : Option AssetStatus) : Except Refusal State := do
  let asset ← orRefuse (s.assets.get? assetId) (.doesNotExist "InventoryAsset")
  require (asset.makerspaceId = makerspaceId) (.doesNotExist "InventoryAsset")
  require (source = none ∨ asset.boxId = source)
    (.validation "asset_id" "Asset is not in the source container.")
  require (fromStatus = none ∨ fromStatus = some asset.status)
    (.validation "from_status" "Asset is not currently in this status.")
  assertAssetTransferable s asset toStatus
  let s ← moveAssetStatus s asset (toStatus.getD asset.status)
  let moved := { asset with status := toStatus.getD asset.status, boxId := destination }
  return { s with assets := s.assets.put moved }

def firstProduct (s : State) (select : InventoryProduct → Bool) : Option InventoryProduct :=
  ((s.products.rows.filter select).insertionSort fun a b => a.id ≤ b.id).head?

def destinationProduct (s : State) (source : InventoryProduct) (destination : Option Nat) :
    Option InventoryProduct :=
  firstProduct s fun product =>
    product.makerspaceId = source.makerspaceId ∧ product.boxId = destination ∧
      Python.lower product.name = Python.lower source.name ∧
      product.trackingMode = .quantity ∧ ¬ product.isArchived ∧
      product.categoryId = source.categoryId ∧ product.id ≠ source.id

/-- `_can_move_source_row` without a destination product. -/
def canMoveSourceRow (source : InventoryProduct) (quantity : Int) : Prop :=
  quantity = source.quantities .available ∧
    source.quantities .total = source.quantities .available ∧
    ∀ column ∈ [Column.reserved, .issued, .damaged, .lost, .needsFix], source.quantities column = 0

instance (source : InventoryProduct) (quantity : Int) :
    Decidable (canMoveSourceRow source quantity) :=
  inferInstanceAs (Decidable (_ ∧ _ ∧ _))

/-- Create an empty product and move units to it. -/
def transferToNew (s : State) (source product : InventoryProduct) (quantity : Int) :
    Except Refusal State := do
  let products ← s.products.insertNew product (.integrity "inventory_product_pkey")
  transferAvailableQuantity { s with products := products } source.id product.id quantity

/-- The part of `move_quantity_stock` after its checks. -/
def splitQuantityStock (s : State) (source : InventoryProduct) (destination : Option Nat)
    (quantity : Int) (newProductId : Nat) : Except Refusal State :=
  match destinationProduct s source destination with
  | some product => transferAvailableQuantity s source.id product.id quantity
  | none =>
    if canMoveSourceRow source quantity then
      return { s with products := s.products.put { source with boxId := destination } }
    else
      transferToNew s source
        { id := newProductId
          makerspaceId := source.makerspaceId
          name := source.name
          categoryId := source.categoryId
          boxId := destination
          isPublic := false }
        quantity

/-- A product in `_apply_intra_makerspace_line`. -/
def transferProduct (s : State) (makerspaceId : Nat) (source destination : Option Nat)
    (productId : Nat) (quantity : Int) (newProductId : Nat) : Except Refusal State := do
  let product ← orRefuse (s.products.get? productId) (.doesNotExist "InventoryProduct")
  require (product.makerspaceId = makerspaceId) (.doesNotExist "InventoryProduct")
  require (source = none ∨ product.boxId = source)
    (.validation "product_id" "Product is not in the source container.")
  require (product.trackingMode ≠ .individual)
    (.validation "product_id" "Individual-tracked products must be moved by asset.")
  require (quantity ≤ product.quantities .available)
    (.validation "quantity" "Cannot transfer more than the available stock.")
  splitQuantityStock s product destination quantity newProductId

def counterpartCategory (s : State) (categoryId : Option Nat) (makerspaceId : Nat) : Option Nat := do
  let category ← s.categories.get? (← categoryId)
  let counterpart ← s.categories.rows.find? fun other =>
    other.makerspaceId = makerspaceId ∧ other.slug = category.slug
  return counterpart.id

def transferAcross (s : State) (makerspaceId destinationMakerspaceId : Nat)
    (destination : Option Nat) (productId : Nat) (quantity : Int) (newProductId : Nat) :
    Except Refusal State := do
  let source ← orRefuse (s.products.get? productId) (.doesNotExist "InventoryProduct")
  require (source.makerspaceId = makerspaceId) (.doesNotExist "InventoryProduct")
  require (source.trackingMode ≠ .individual)
    (.validation "product_id" "Individual-tracked products cannot be moved across makerspaces yet.")
  require (quantity ≤ source.quantities .available)
    (.validation "quantity" "Cannot transfer more than the available stock.")
  let categoryId := counterpartCategory s source.categoryId destinationMakerspaceId
  let counterpart := firstProduct s fun product =>
    product.makerspaceId = destinationMakerspaceId ∧
      Python.lower product.name = Python.lower source.name ∧
      product.categoryId = categoryId ∧ product.boxId = destination ∧ ¬ product.isArchived
  match counterpart with
  | some product => do
    require (product.trackingMode ≠ .individual)
      (.validation "product_id"
        "Destination already has an individual-tracked product with this name.")
    transferAvailableQuantity s source.id product.id quantity
  | none =>
    transferToNew s source
      { id := newProductId
        makerspaceId := destinationMakerspaceId
        name := source.name
        categoryId := categoryId
        boxId := destination
        isPublic := false }
      quantity

def transferLine (makerspaceId destinationMakerspaceId : Nat) (source destination : Option Nat)
    (s : State) (line : TransferLine) : Except Refusal State :=
  match line with
  | .asset assetId fromStatus toStatus =>
    if destinationMakerspaceId = makerspaceId then
      transferAsset s makerspaceId source destination assetId fromStatus toStatus
    else
      throw (.validation "asset_id"
        "Individual asset units cannot be moved across makerspaces; transfer quantity stock instead.")
  | .product productId quantity newProductId =>
    if destinationMakerspaceId = makerspaceId then
      transferProduct s makerspaceId source destination productId quantity newProductId
    else
      transferAcross s makerspaceId destinationMakerspaceId destination productId quantity
        newProductId

def applyStockTransfer (s : State) (makerspaceId destinationMakerspaceId : Nat)
    (sourceContainerId destinationContainerId : Option Nat) (lines : List TransferLine) :
    Except Refusal State := do
  let source ← container s sourceContainerId makerspaceId
  let destination ← container s destinationContainerId destinationMakerspaceId
  lines.foldlM (transferLine makerspaceId destinationMakerspaceId source destination) s

/-- `StocktakeLine.Condition`, and the ledger's buckets. -/
inductive Condition
  | available
  | damaged
  | lost
  | unknown
  deriving DecidableEq

structure StocktakeLine where
  productId : Option Nat := none
  assetId : Option Nat := none
  containerId : Option Nat := none
  expected : Int
  counted : Int
  condition : Condition := .available

structure StocktakeSession where
  makerspaceId : Nat
  containerId : Option Nat := none
  lines : List StocktakeLine

def assetBucket : AssetStatus → Option Condition
  | .available => some .available
  | .damaged => some .damaged
  | .lost => some .lost
  | _ => none

def assetNewStatus (line : StocktakeLine) : AssetStatus :=
  if line.counted = 0 then .lost
  else match line.condition with
    | .damaged => .damaged
    | .lost => .lost
    | _ => .available

def productExpected (product : InventoryProduct) : Condition → Int
  | .available => product.quantities .available
  | .damaged => product.quantities .damaged
  | .lost => product.quantities .lost
  | .unknown => 0

def applyLedgerEntry (s : State) (productId : Nat) (bucket : Condition) (delta : Int) :
    Except Refusal State :=
  (applyStocktakeDelta s productId (if bucket = .available then delta else 0)
    (if bucket = .damaged then delta else 0) (if bucket = .lost then delta else 0)).mapError
    fun _ => .validation "" "Stocktake adjustment would make inventory negative."

/-- Both container checks; `boxId` is that of what was counted. -/
def validateContainers (session : StocktakeSession) (line : StocktakeLine) (field : String)
    (boxId : Option Nat) : Except Refusal Unit := do
  require (session.containerId = none ∨ line.containerId = session.containerId)
    (.validation "container_id" "Count line must match the stocktake container.")
  let scope := session.containerId.or line.containerId
  require (scope = none ∨ boxId = scope)
    (.validation field "Counted item is outside the stocktake container.")

def applyAssetLine (session : StocktakeSession) (s : State) (line : StocktakeLine)
    (assetId : Nat) : Except Refusal State := do
  let asset ← orRefuse (s.assets.get? assetId) (.doesNotExist "InventoryAsset")
  require (asset.makerspaceId = session.makerspaceId)
    (.validation "" "Stocktake line asset belongs to another makerspace.")
  require (line.productId = none ∨ line.productId = some asset.productId)
    (.validation "" "Stocktake line asset and product do not match.")
  require (line.counted = 0 ∨ line.counted = 1)
    (.validation "counted_quantity" "Asset stocktake counts must be 0 or 1.")
  let oldBucket ← orRefuse (assetBucket asset.status)
    (.validation "asset_id" "Only available, damaged, or lost assets can be stocktaken.")
  validateContainers session line "asset_id" asset.boxId
  require (line.condition ≠ .unknown)
    (.validation "" "Unknown stocktake condition cannot be applied.")
  require ((if oldBucket = line.condition then 1 else 0) = line.expected)
    (.validation "" "Stocktake line is stale; recount before applying.")
  let newStatus := assetNewStatus line
  let newBucket ← orRefuse (assetBucket newStatus)
    (.validation "" "Stocktake line asset is no longer stocktakeable; recount before applying.")
  let s := s.saveStatuses [(asset, newStatus)]
  if oldBucket = newBucket then return s
  else do
    let s ← applyLedgerEntry s asset.productId oldBucket (-1)
    applyLedgerEntry s asset.productId newBucket 1

def applyProductLine (session : StocktakeSession) (s : State) (line : StocktakeLine)
    (productId : Nat) : Except Refusal State := do
  let product ← orRefuse (s.products.get? productId) (.doesNotExist "InventoryProduct")
  require (product.makerspaceId = session.makerspaceId)
    (.validation "" "Stocktake line product belongs to another makerspace.")
  require (product.trackingMode ≠ .individual)
    (.validation "product_id"
      "Individual-tracked products must be counted by asset unit; scan or select an asset.")
  validateContainers session line "product_id" product.boxId
  require (line.condition ≠ .unknown)
    (.validation "" "Unknown stocktake condition cannot be applied.")
  require (productExpected product line.condition = line.expected)
    (.validation "" "Stocktake line is stale; recount before applying.")
  if line.counted - line.expected = 0 then return s
  else applyLedgerEntry s productId line.condition (line.counted - line.expected)

def applyStocktakeLine (session : StocktakeSession) (s : State) (line : StocktakeLine) :
    Except Refusal State :=
  match line.assetId, line.productId with
  | some assetId, _ => applyAssetLine session s line assetId
  | none, some productId => applyProductLine session s line productId
  | none, none => throw (.doesNotExist "InventoryProduct")

def applyStocktakeAdjustments (s : State) (session : StocktakeSession) : Except Refusal State :=
  session.lines.foldlM (applyStocktakeLine session) s

def guardAssetIsMovable (s : State) (asset : InventoryAsset) (qr : QrCode) :
    Except Refusal Unit := do
  require (asset.status = .available) (.conflict "asset is not available to move")
  require (¬ qrHasActiveLoan s qr.makerspaceId qr)
    (.conflict "Cannot move an asset with an outstanding loan.")
  require (∀ request ∈ s.requests.rows, request.status.out →
      ∀ item ∈ request.items.rows, asset.id ∉ issuedAssetIds item)
    (.conflict "Cannot move an asset linked to an outstanding request.")
  require (∀ loan ∈ s.loans.rows, loan.makerspaceId = qr.makerspaceId →
      loan.status = .checkedOut → asset.id ∉ loan.assetIds)
    (.conflict "Cannot move an asset with an outstanding loan.")

/-- `_resolve_destination_product` by name, or a new one. -/
def resolveByName (s : State) (makerspaceId : Nat) (source : InventoryProduct)
    (newProductId : Nat) : Except Refusal (State × Nat) := do
  let candidates := (s.products.rows.filter fun product =>
      product.makerspaceId = makerspaceId ∧ ¬ product.isArchived ∧
        Python.lower product.name = Python.lower source.name).insertionSort
    fun a b => a.id ≤ b.id
  require (∀ product ∈ candidates, product.trackingMode ≠ .quantity)
    (.conflict "destination has a quantity-tracked product with this name")
  match candidates.find? fun product => product.trackingMode = .individual with
  | some product => return (s, product.id)
  | none => do
    let products ← s.products.insertNew
      { id := newProductId
        makerspaceId := makerspaceId
        name := source.name
        trackingMode := .individual
        isPublic := false }
      (.integrity "inventory_product_pkey")
    return ({ s with products := products }, newProductId)

def resolveDestinationProduct (s : State) (makerspaceId : Nat) (source : InventoryProduct)
    (destinationProductId : Option Nat) (newProductId : Nat) : Except Refusal (State × Nat) :=
  match destinationProductId with
  | some productId => do
    let refusal := Refusal.validation ""
      "destination_product_id must be an unarchived individual product in the destination makerspace."
    let product ← orRefuse (s.products.get? productId) refusal
    require (product.makerspaceId = makerspaceId ∧ product.trackingMode = .individual ∧
        ¬ product.isArchived) refusal
    return (s, product.id)
  | none => resolveByName s makerspaceId source newProductId

def finalTag (asset : InventoryAsset) (newName : String) : String :=
  if Python.strip newName = "" then asset.assetTag else Python.strip newName

def moveAssetAcrossMakerspaces (s : State) (qrId makerspaceId : Nat)
    (destinationProductId : Option Nat) (newName : String) (newProductId : Nat) :
    Except Refusal State := do
  let qr ← orRefuse (s.qrCodes.get? qrId) (.doesNotExist "QrCode")
  require (qr.active ∧ qr.targetType = .asset) (.validation "" "QR code does not target an asset.")
  let asset ← orRefuse (s.assets.get? qr.targetId) (.doesNotExist "InventoryAsset")
  require (asset.makerspaceId = qr.makerspaceId) (.doesNotExist "InventoryAsset")
  require (makerspaceId ≠ qr.makerspaceId)
    (.validation "" "Destination makerspace must be different.")
  guardAssetIsMovable s asset qr
  let source ← orRefuse (s.products.get? asset.productId) (.doesNotExist "InventoryProduct")
  require (source.makerspaceId = qr.makerspaceId)
    (.conflict "Source product ownership changed while waiting.")
  let (s, destinationId) ← resolveDestinationProduct s makerspaceId source destinationProductId
    newProductId
  let moved := { asset with
    makerspaceId := makerspaceId
    productId := destinationId
    boxId := none
    publicSelfCheckoutEnabled := false
    assetTag := finalTag asset newName }
  require (∀ other ∈ s.assets.rows, other.id ≠ asset.id →
      ¬ (other.makerspaceId = makerspaceId ∧ other.assetTag = moved.assetTag))
    (.conflict "An asset with that tag already exists in the destination makerspace.")
  require (¬ hasActiveQr s makerspaceId .asset asset.id (some qr.id))
    (.conflict "Target already has an active QR code.")
  let s := { s with
    assets := s.assets.put moved
    qrCodes := s.qrCodes.put { qr with makerspaceId := makerspaceId } }
  let s ← (adjustQuantities s source.id (-1) 0 0).mapError fun _ =>
    .conflict "Quantity adjustment cannot make a bucket negative."
  (adjustQuantities s destinationId 1 0 0).mapError fun _ =>
    .conflict "Quantity adjustment cannot make a bucket negative."

inductive Operation
  | submit (id makerspaceId requesterId : Nat) (items : List (Nat × Int))
  | accept (requestId : Nat) (accepted : Option (List (Nat × Int)))
  | reject (requestId : Nat) (reason : String)
  | assignBox (requestId : Nat) (boxCode : String)
  | cancel (requestId : Nat) (reason : String)
  | issue (requestId actorId : Nat) (now : Int) (payloads : List String) (rejects : List Reject)
  | returnItems (requestId : Nat) (boxCode : String) (entries : List ResolutionEntry)
  | checkoutTool (ids : CheckoutIds) (payloads : List String)
  | returnTool (makerspaceId requesterId : Nat) (payload : String) (reportId : Option Nat)
  | issueDirectLoan (ids : CheckoutIds) (payloads : List String) (items : List (Nat × Int))
      (containerId : Option Nat)
  | returnDirectLoan (loanId : Nat) (payload : String) (entries : List ResolutionEntry)
  | triage (reportId : Nat) (outcome : ReportOutcome) (entries : List (Nat × Int))
  | adjust (productId : Nat) (deltaAvailable deltaDamaged deltaLost : Int)
  | repairFromNeedsFix (productId : Nat) (quantity : Int)
  | moveToNeedsFix (productId : Nat) (quantity : Int)
  | scrapFromNeedsFix (productId : Nat) (quantity : Int)
  | assetFix (assetId : Nat) (action : AssetFixAction)
  | changeTrackingMode (productId : Nat) (trackingMode : TrackingMode)
  | generateAssets (productId count : Nat) (relabelled : List (Nat × String)) (units : List NewUnit)
  | transfer (makerspaceId destinationMakerspaceId : Nat)
      (sourceContainerId destinationContainerId : Option Nat) (lines : List TransferLine)
  | stocktake (session : StocktakeSession)
  | rebindQr (qrId : Nat) (targetType : TargetType) (targetId : Nat)
  | rebindAsset (qrId makerspaceId : Nat) (destinationProductId : Option Nat) (newName : String)
      (newProductId : Nat)

/-- One operation: every one runs in a transaction under row locks. -/
def step (s : State) : Operation → Except Refusal State
  | .submit id makerspaceId requesterId items =>
    submitRequest s id makerspaceId requesterId items
  | .accept requestId accepted => acceptRequest s requestId accepted
  | .reject requestId reason => rejectRequest s requestId reason
  | .assignBox requestId boxCode => assignBox s requestId boxCode
  | .cancel requestId reason => cancelRequest s requestId reason
  | .issue requestId actorId now payloads rejects =>
    issueRequest s requestId actorId now payloads rejects
  | .returnItems requestId boxCode entries => returnRequest s requestId boxCode entries
  | .checkoutTool ids payloads => checkoutTool s ids payloads
  | .returnTool makerspaceId requesterId payload reportId =>
    returnTool s makerspaceId requesterId payload reportId
  | .issueDirectLoan ids payloads items containerId =>
    issueDirectLoan s ids payloads items containerId
  | .returnDirectLoan loanId payload entries => returnDirectLoan s loanId payload entries
  | .triage reportId outcome entries => triageProblemReport s reportId outcome entries
  | .adjust productId deltaAvailable deltaDamaged deltaLost =>
    adjustManualQuantities s productId deltaAvailable deltaDamaged deltaLost
  | .repairFromNeedsFix productId quantity => repairFromNeedsFix s productId quantity
  | .moveToNeedsFix productId quantity => moveAvailableToNeedsFix s productId quantity
  | .scrapFromNeedsFix productId quantity => scrapFromNeedsFix s productId quantity
  | .assetFix assetId action => assetFixAction s assetId action
  | .changeTrackingMode productId trackingMode => Availability.changeTrackingMode s productId
      trackingMode
  | .generateAssets productId count relabelled units =>
    generateAssetsWithQr s productId count relabelled units
  | .transfer makerspaceId destinationMakerspaceId sourceContainerId destinationContainerId lines =>
    applyStockTransfer s makerspaceId destinationMakerspaceId sourceContainerId
      destinationContainerId lines
  | .stocktake session => applyStocktakeAdjustments s session
  | .rebindQr qrId targetType targetId => rebindQrTarget s qrId targetType targetId
  | .rebindAsset qrId makerspaceId destinationProductId newName newProductId =>
    moveAssetAcrossMakerspaces s qrId makerspaceId destinationProductId newName newProductId

end Lending
end SpaceWorks
