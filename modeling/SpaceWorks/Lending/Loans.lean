import SpaceWorks.Lending.Requests

/-!
# Loans that bypass review

Self-checkout (`self_checkout_workflow.py`, `self_checkout_helpers.py`,
`public_return_validation.py`, `self_checkout_return_guards.py`), direct handouts
(`direct_loan_workflow.py`, `direct_loan_returns.py`) and problem reports
(`problem_report_workflow.py`) of `apps/hardware_requests`, with `apps/boxes/contents.py`.  A loan
and the request that carries its units are created together.
-/

namespace SpaceWorks
namespace Lending

open Checked Availability

/-- The loop of `container_subtree_ids`, bounded by the number of boxes. -/
def subtreeFrom (boxes : List Box) (makerspaceId : Nat) : Nat → List Nat → List Nat → List Nat
  | 0, ids, _ => ids
  | turns + 1, ids, frontier =>
    let childIds := (boxes.filter fun box =>
      box.parentId.any (fun parentId => parentId ∈ frontier) ∧
        box.makerspaceId = makerspaceId ∧ box.id ∉ ids).map Box.id
    if childIds = [] then ids
    else subtreeFrom boxes makerspaceId turns (ids ++ childIds) childIds

def containerSubtreeIds (s : State) (makerspaceId boxId : Nat) : List Nat :=
  subtreeFrom s.boxes.rows makerspaceId s.boxes.rows.length [boxId] [boxId]

def inBoxes (boxIds : List Nat) (boxId : Option Nat) : Bool :=
  boxId.any fun boxId => boxId ∈ boxIds

def holdsAvailableProduct (s : State) (boxIds : List Nat) : Prop :=
  ∃ product ∈ s.products.rows, inBoxes boxIds product.boxId ∧ ¬ product.isArchived ∧
    0 < product.quantities .available

def holdsAvailableAsset (s : State) (boxIds : List Nat) : Prop :=
  ∃ asset ∈ s.assets.rows, inBoxes boxIds asset.boxId ∧ asset.status = .available

instance (s : State) (boxIds : List Nat) : Decidable (holdsAvailableProduct s boxIds) :=
  inferInstanceAs (Decidable (∃ _ ∈ _, _))

instance (s : State) (boxIds : List Nat) : Decidable (holdsAvailableAsset s boxIds) :=
  inferInstanceAs (Decidable (∃ _ ∈ _, _))

def boxRequiresSeparateContents (s : State) (box : Box) : Prop :=
  (∃ asset ∈ s.assets.rows, asset.makerspaceId = box.makerspaceId ∧
      inBoxes (containerSubtreeIds s box.makerspaceId box.id) asset.boxId ∧
      asset.status = .available) ∨
    (∃ product ∈ s.products.rows, product.makerspaceId = box.makerspaceId ∧
      inBoxes (containerSubtreeIds s box.makerspaceId box.id).tail product.boxId ∧
      ¬ product.isArchived ∧ 0 < product.quantities .available)

instance (s : State) (box : Box) : Decidable (boxRequiresSeparateContents s box) :=
  inferInstanceAs (Decidable (_ ∨ _))

def reviewedRequestHoldsBox (s : State) (boxId : Nat) : Prop :=
  requestHoldsBox s boxId none

instance (s : State) (boxId : Nat) : Decidable (reviewedRequestHoldsBox s boxId) :=
  inferInstanceAs (Decidable (requestHoldsBox s boxId none))

def lockedQr (s : State) (makerspaceId : Nat) (payload : String) : Except Refusal QrCode :=
  orRefuse (s.qrCodes.rows.find? fun qr =>
      qr.payload = payload ∧ qr.makerspaceId = makerspaceId ∧ qr.active)
    (.requestValidation "QR code is not active for this makerspace.")

def lockedQrsForPayloads (s : State) (makerspaceId : Nat) (payloads : List String) :
    Except Refusal (List QrCode) :=
  payloads.mapM (lockedQr s makerspaceId)

def rejectOverlappingCheckoutTargets (s : State) (qrs : List QrCode) : Except Refusal Unit :=
  let boxIds := (qrs.filter fun qr => qr.targetType = .box).map QrCode.targetId
  let assetIds := (qrs.filter fun qr => qr.targetType = .asset).map QrCode.targetId
  require (¬ ∃ asset ∈ s.assets.rows, asset.id ∈ assetIds ∧ inBoxes boxIds asset.boxId ∧
      asset.makerspaceId ∈ qrs.map QrCode.makerspaceId)
    (.invalidTransition
      "A scanned tool is inside a scanned box; scan either the box or the tool, not both.")

def qrHasActiveLoan (s : State) (makerspaceId : Nat) (qr : QrCode) : Prop :=
  ∃ loan ∈ s.loans.rows, loan.makerspaceId = makerspaceId ∧ loan.status = .checkedOut ∧
    (loan.qrCodeId = some qr.id ∨ qr.id ∈ loan.qrIds)

instance (s : State) (makerspaceId : Nat) (qr : QrCode) :
    Decidable (qrHasActiveLoan s makerspaceId qr) :=
  inferInstanceAs (Decidable (∃ _ ∈ _, _))

def eligibleProduct (s : State) (productId makerspaceId : Nat) (requirePublic : Bool) :
    Except Refusal InventoryProduct := do
  let refusal := Refusal.requestValidation "Tool is not enabled for public self-checkout."
  let product ← orRefuse (s.products.get? productId) refusal
  require (product.makerspaceId = makerspaceId ∧ ¬ product.isArchived) refusal
  require (requirePublic → product.isPublic ∧ product.publicSelfCheckoutEnabled) refusal
  return product

def eligibleAsset (s : State) (assetId makerspaceId : Nat) (requirePublic : Bool) :
    Except Refusal InventoryAsset := do
  let refusal := Refusal.requestValidation "Asset is not available for public self-checkout."
  let asset ← orRefuse (s.assets.get? assetId) refusal
  require (asset.makerspaceId = makerspaceId ∧ asset.status = .available) refusal
  require (requirePublic → asset.publicSelfCheckoutEnabled)
    (.requestValidation "Asset is not enabled for public self-checkout.")
  let _ ← eligibleProduct s asset.productId makerspaceId requirePublic
  return asset

def issueProduct (s : State) (productId : Nat) (quantity : Int) : Except Refusal State :=
  s.post [{ issueAvailable productId quantity with
    check := fun product =>
      require (quantity ≤ product.quantities .available)
        (.requestValidation "Tool is not currently available.") }]

/-- What a checkout has gathered: stock, units by product, assets, container. -/
structure Handout where
  state : State
  quantities : List (Nat × Int) := []
  assetIds : List Nat := []
  containerId : Option Nat := none

def addCount : List (Nat × Int) → Nat → Int → List (Nat × Int)
  | [], productId, quantity => [(productId, quantity)]
  | (other, count) :: rest, productId, quantity =>
    if other = productId then (other, count + quantity) :: rest
    else (other, count) :: addCount rest productId quantity

/-- Issue units of one product and count them. -/
def Handout.issue (handout : Handout) (productId : Nat) (quantity : Int) :
    Except Refusal Handout := do
  let s ← issueProduct handout.state productId quantity
  return { handout with state := s, quantities := addCount handout.quantities productId quantity }

/-- `_checkout_target` of a product QR code. -/
def checkoutProduct (handout : Handout) (qr : QrCode) (requirePublic : Bool) :
    Except Refusal Handout := do
  let product ← eligibleProduct handout.state qr.targetId qr.makerspaceId requirePublic
  require (product.trackingMode ≠ .individual)
    (.requestValidation "Individual-tracked products require a scanned asset QR.")
  handout.issue product.id 1

/-- `_checkout_target` of an asset QR code. -/
def checkoutAsset (handout : Handout) (qr : QrCode) (requirePublic : Bool) :
    Except Refusal Handout := do
  let asset ← eligibleAsset handout.state qr.targetId qr.makerspaceId requirePublic
  let handout ← handout.issue asset.productId 1
  return { handout with
    state := handout.state.saveStatuses [(asset, .issued)]
    assetIds := handout.assetIds ++ [asset.id] }

def boxProducts (s : State) (boxId : Nat) (requirePublic : Bool) : List InventoryProduct :=
  (s.products.rows.filter fun product =>
      product.boxId = some boxId ∧ ¬ product.isArchived ∧ 1 ≤ product.quantities .available ∧
        (requirePublic → product.isPublic ∧ product.publicSelfCheckoutEnabled)).insertionSort
    fun a b => a.id ≤ b.id

/-- The container after one more target with a container. -/
def mergeContainer (containerId : Option Nat) (boxId : Nat) : Except Refusal (Option Nat) := do
  require (containerId = none ∨ containerId = some boxId)
    (.invalidTransition "Only one handout container can be checked out at a time.")
  return some boxId

def checkoutBox (handout : Handout) (qr : QrCode) (requirePublic : Bool) :
    Except Refusal Handout := do
  let s := handout.state
  let unavailable := Refusal.requestValidation "Box is not available for public self-checkout."
  let box ← orRefuse (s.boxes.get? qr.targetId) unavailable
  require (box.makerspaceId = qr.makerspaceId ∧ box.isActive) unavailable
  require (¬ activePublicContainerLoanExists s box ∧ ¬ reviewedRequestHoldsBox s box.id)
    (.requestValidation "This box is already checked out.")
  require (¬ boxRequiresSeparateContents s box)
    (.requestValidation
      "This box requires separate contents selection. Scan individual units using their own QR codes; for a staff handout, select the container and contents separately.")
  let products := boxProducts s box.id requirePublic
  require (products ≠ []) (.requestValidation "Box has no public self-checkout items.")
  require (∀ product ∈ products, product.trackingMode ≠ .individual)
    (.requestValidation "Individual-tracked products require a scanned asset QR.")
  let handout ← products.foldlM (fun handout product => handout.issue product.id 1) handout
  let containerId ← mergeContainer handout.containerId box.id
  return { handout with containerId := containerId }

def checkoutTarget (requirePublic : Bool) (handout : Handout) (qr : QrCode) :
    Except Refusal Handout :=
  match qr.targetType with
  | .product => checkoutProduct handout qr requirePublic
  | .asset => checkoutAsset handout qr requirePublic
  | .box => checkoutBox handout qr requirePublic

def issuedRequest (id makerspaceId requesterId issuedBy : Nat) (now : Int)
    (quantities : List (Nat × Int)) : HardwareRequest :=
  { id := id
    makerspaceId := makerspaceId
    requesterId := requesterId
    status := .issued
    issuedBy := some issuedBy
    issuedAt := some now
    items := Table.enumerate quantities
      (fun entry n =>
        { id := n
          productId := entry.1
          requested := entry.2
          accepted := entry.2
          issued := entry.2 })
      (fun _ _ => rfl) }

def createLoan (s : State) (loan : PublicToolLoan) (conflict : String → Refusal) :
    Except Refusal State := do
  require (∀ other ∈ s.loans.rows, other.requestId ≠ loan.requestId)
    (conflict "public_tool_loan_request_id_key")
  require (∀ other ∈ s.loans.rows, other.status = .checkedOut → loan.qrCodeId ≠ none →
      other.qrCodeId ≠ loan.qrCodeId)
    (conflict "uniq_active_public_tool_loan_per_qr")
  require (∀ other ∈ s.loans.rows, other.status = .checkedOut → loan.containerId ≠ none →
      other.containerId ≠ loan.containerId)
    (conflict "uniq_active_loan_per_container")
  let loans ← s.loans.insertNew loan (conflict "public_tool_loan_pkey")
  return { s with loans := loans }

structure CheckoutIds where
  requestId : Nat
  loanId : Nat
  makerspaceId : Nat
  requesterId : Nat
  issuedBy : Nat
  now : Int

def recordHandout (handout : Handout) (ids : CheckoutIds) (qrs : List QrCode)
    (source : LoanSource) (conflict : String → Refusal) : Except Refusal State := do
  let request := issuedRequest ids.requestId ids.makerspaceId ids.requesterId ids.issuedBy ids.now
    handout.quantities
  let requests ← handout.state.requests.insertNew request (.integrity "hardware_request_pkey")
  createLoan { handout.state with requests := requests }
    { id := ids.loanId
      makerspaceId := ids.makerspaceId
      requestId := ids.requestId
      requesterId := ids.requesterId
      qrCodeId := qrs.head?.map QrCode.id
      qrIds := qrs.map QrCode.id
      containerId := handout.containerId
      assetIds := handout.assetIds
      source := source }
    conflict

def checkoutTool (s : State) (ids : CheckoutIds) (payloads : List String) :
    Except Refusal State := do
  require (payloads ≠ []) (.requestValidation "Provide payload or qr_payloads.")
  let qrs ← lockedQrsForPayloads s ids.makerspaceId payloads
  require ((qrs.map QrCode.id).Nodup)
    (.invalidTransition "The same QR code was scanned more than once.")
  rejectOverlappingCheckoutTargets s qrs
  require (∀ qr ∈ qrs, ¬ qrHasActiveLoan s ids.makerspaceId qr)
    (.invalidTransition "This QR code is already checked out.")
  let handout ← qrs.foldlM (checkoutTarget true) { state := s }
  recordHandout handout ids qrs .publicSelfCheckout .integrity

def manualProduct (s : State) (makerspaceId productId : Nat) : Except Refusal InventoryProduct := do
  let refusal := Refusal.requestValidation
    "Manual product is not in this makerspace or is archived."
  let product ← orRefuse (s.products.get? productId) refusal
  require (product.makerspaceId = makerspaceId ∧ ¬ product.isArchived) refusal
  require (product.trackingMode ≠ .individual)
    (.requestValidation "Individual-tracked products require scanned asset QR codes for handout.")
  return product

/-- The container steps of `issue_direct_loan`. -/
def directContainer (s : State) (makerspaceId containerId : Nat) : Except Refusal Box := do
  let box ← orRefuse (s.boxes.get? containerId)
    (.requestValidation "Container is not in this makerspace.")
  require (box.makerspaceId = makerspaceId)
    (.requestValidation "Container is not in this makerspace.")
  require (box.isActive) (.requestValidation "Container is not active.")
  require (¬ activePublicContainerLoanExists s box)
    (.invalidTransition "That container is already out on another direct handout.")
  require (¬ reviewedRequestHoldsBox s box.id)
    (.invalidTransition "That container is already out on an issued request.")
  return box

/-- The selected container, empty when it goes out on its own. -/
def selectContainer (s : State) (makerspaceId : Nat) (containerId : Option Nat)
    (alone : Bool) : Except Refusal (Option Nat) :=
  match containerId with
  | none => return none
  | some containerId => do
    let box ← directContainer s makerspaceId containerId
    let subtreeIds := containerSubtreeIds s makerspaceId box.id
    require (alone → ¬ holdsAvailableProduct s subtreeIds ∧ ¬ holdsAvailableAsset s subtreeIds)
      (.requestValidation
        "Container is not empty. Scan each individual unit's own QR and select the container separately, or scan a quantity-only box QR. Empty the container before assigning it on its own.")
    return some box.id

/-- One scanned QR code of a direct handout. -/
def directTarget (makerspaceId : Nat) (containerId : Option Nat) (handout : Handout)
    (qr : QrCode) : Except Refusal Handout := do
  require (qr.targetType = .box → containerId = none ∨ containerId = some qr.targetId)
    (.invalidTransition "Scanned box does not match the selected container.")
  require (¬ qrHasActiveLoan handout.state makerspaceId qr)
    (.invalidTransition "One scanned QR code is already checked out.")
  checkoutTarget false handout qr

def directItem (makerspaceId : Nat) (handout : Handout) (item : Nat × Int) :
    Except Refusal Handout := do
  let product ← manualProduct handout.state makerspaceId item.1
  handout.issue product.id item.2

def issueDirectLoan (s : State) (ids : CheckoutIds) (payloads : List String)
    (items : List (Nat × Int)) (containerId : Option Nat) : Except Refusal State := do
  require (∀ item ∈ items, 1 ≤ item.2)
    (.validation "quantity" "Ensure this value is greater than or equal to 1.")
  require (¬ (containerId = none ∧ payloads = [] ∧ items = []))
    (.requestValidation "Provide qr_payloads, items, or a container.")
  let container ← selectContainer s ids.makerspaceId containerId (payloads = [] ∧ items = [])
  let qrs ← lockedQrsForPayloads s ids.makerspaceId payloads
  require ((qrs.map QrCode.id).Nodup)
    (.invalidTransition "The same QR code was scanned more than once.")
  rejectOverlappingCheckoutTargets s qrs
  let handout ← qrs.foldlM (directTarget ids.makerspaceId container)
    { state := s, containerId := container }
  let handout ← items.foldlM (directItem ids.makerspaceId) handout
  recordHandout handout ids qrs .adminDirect fun _ =>
    .invalidTransition "That container is already out on another direct handout."

def requirePublicReturnLedger (loan : PublicToolLoan) (request : HardwareRequest) :
    Except Refusal Unit :=
  require (request.makerspaceId = loan.makerspaceId ∧ request.requesterId = loan.requesterId ∧
      request.status = .issued ∧ request.items.rows ≠ [] ∧
      ∀ item ∈ request.items.rows, 0 < item.issued ∧ item.requested = item.issued ∧
        item.accepted = item.issued ∧ item.returned = 0 ∧ item.damaged = 0 ∧
        item.missing = 0 ∧ item.needsFix = 0)
    (.returnValidation
      "This loan is no longer recorded as fully checked out; ask staff to reconcile its return history.")

def lockLoanAssetsForReturn (s : State) (loan : PublicToolLoan) (makerspaceId : Nat) :
    Except Refusal (List InventoryAsset) := do
  let assets := s.assets.rows.filter fun asset =>
    asset.id ∈ loan.assetIds ∧ asset.makerspaceId = makerspaceId
  require (assets.length = loan.assetIds.dedup.length ∧ ∀ asset ∈ assets, asset.status = .issued)
    (.returnValidation
      "A unit on this loan is no longer recorded as checked out; ask staff to process this return.")
  return assets

def returnRequestItems (s : State) (request : HardwareRequest) :
    Except Refusal (State × HardwareRequest) := do
  let outstanding := request.items.rows.filter fun item => 0 < item.issued - item.returned
  let s ← s.post (outstanding.map fun item =>
    returnToAvailable item.productId (item.issued - item.returned))
  let request := { request with
    items := request.items.putAll (outstanding.map fun item =>
      { item with returned := item.returned + (item.issued - item.returned) }) }
  return (s.saveRequest request, request)

/-- The filing of a `PublicProblemReport`. -/
def reportProblem (s : State) (loan : PublicToolLoan) (reportId : Option Nat) :
    Except Refusal State :=
  match reportId with
  | none => return s
  | some reportId => do
    let reports ← s.reports.insertNew
      { id := reportId
        makerspaceId := loan.makerspaceId
        loanId := loan.id
        requestId := loan.requestId }
      (.integrity "public_problem_report_pkey")
    return { s with reports := reports }

/-- `return_tool`, with a problem report or none. -/
def returnTool (s : State) (makerspaceId requesterId : Nat) (payload : String)
    (reportId : Option Nat) : Except Refusal State := do
  let qr ← lockedQr s makerspaceId payload
  let loan ← orRefuse (s.loans.rows.find? fun loan =>
      loan.makerspaceId = makerspaceId ∧ loan.status = .checkedOut ∧
        loan.source = .publicSelfCheckout ∧ (loan.qrCodeId = some qr.id ∨ qr.id ∈ loan.qrIds))
    (.invalidTransition "This QR code is not currently checked out.")
  require (loan.requesterId = requesterId)
    (.requesterBlocked "This tool was checked out by a different user.")
  let request ← s.lockedRequest loan.requestId
  requirePublicReturnLedger loan request
  let assets ← lockLoanAssetsForReturn s loan makerspaceId
  let (s, request) ← returnRequestItems s request
  let s := s.saveStatuses (assets.map fun asset => (asset, .available))
  let s := s.saveLoan { loan with status := .returned }
  let s := s.saveRequest { request with status := .returned }
  reportProblem s loan reportId

/-- The QR codes that `_return_scan_qr` expects. -/
def expectedQrIds (s : State) (loan : PublicToolLoan) : List Nat :=
  if loan.qrIds ≠ [] then loan.qrIds
  else match loan.containerId with
    | none => []
    | some containerId =>
      ((s.qrCodes.rows.find? fun qr =>
        qr.makerspaceId = loan.makerspaceId ∧ qr.targetType = .box ∧
          qr.targetId = containerId ∧ qr.active).map QrCode.id).toList

def returnScanQr (s : State) (loan : PublicToolLoan) (payload : String) : Except Refusal Unit :=
  let payload := Python.strip payload
  let expectedIds := expectedQrIds s loan
  if expectedIds ≠ [] then do
    require (payload ≠ "") (.requestValidation "Return QR scan is required.")
    require (∃ qr ∈ s.qrCodes.rows, qr.id ∈ expectedIds ∧
        qr.makerspaceId = loan.makerspaceId ∧ qr.payload = payload)
      (.requestValidation "Scanned QR does not match this direct loan.")
  else if payload = "" then return ()
  else
    require (∃ qr ∈ s.qrCodes.rows, qr.makerspaceId = loan.makerspaceId ∧
        qr.payload = payload ∧ qr.active)
      (.requestValidation "QR code is not active for this makerspace.")

def requireFullResolution (request : HardwareRequest) (resolutions : List Resolution) :
    Except Refusal Unit :=
  require (∀ item ∈ request.items.rows, 0 < remainingQuantity item →
      ((resolutions.find? fun resolution => resolution.item.id = item.id).map
        Resolution.quantity) = some (remainingQuantity item))
    (.returnValidation "Direct loan returns must resolve every outstanding unit.")

/-- The assets and statuses that `_flip_direct_loan_assets` saves. -/
def flippedLoanAssets (s : State) (loan : PublicToolLoan) (resolution : Resolution) :
    Except Refusal (List (InventoryAsset × AssetStatus)) :=
  let assets := (s.assets.rows.filter fun asset =>
      asset.id ∈ loan.assetIds ∧ asset.productId = resolution.item.productId ∧
        asset.makerspaceId = loan.makerspaceId ∧ asset.status = .issued).insertionSort
    fun a b => a.id ≤ b.id
  if resolution.assetOutcomes ≠ [] then do
    let refusal := Refusal.returnValidation "Return asset does not belong to this direct loan."
    require ((resolution.assetOutcomes.map Prod.fst).Nodup) refusal
    resolution.assetOutcomes.mapM fun assetOutcome => do
      let asset ← orRefuse (assets.find? fun asset => asset.id = assetOutcome.1) refusal
      return (asset, assetOutcome.2.status)
  else if resolution.returned ≤ 0 then return []
  else do
    require (resolution.returned ≤ assets.length)
      (.returnValidation "Return quantity exceeds issued direct loan assets.")
    return (assets.take resolution.returned.toNat).map fun asset => (asset, .available)

def flipDirectLoanAssets (loan : PublicToolLoan) (s : State) (resolution : Resolution) :
    Except Refusal State :=
  if s.individual resolution.item.productId then do
    let changes ← flippedLoanAssets s loan resolution
    return s.saveStatuses changes
  else return s

/-- The stock steps of `return_direct_loan`. -/
def resolveDirectLoan (s : State) (loan : PublicToolLoan) (request : HardwareRequest)
    (entries : List ResolutionEntry) : Except Refusal (State × HardwareRequest) :=
  if ∃ item ∈ request.items.rows, 0 < remainingQuantity item then do
    let resolutions ← buildResolutions s request entries
    requireFullResolution request resolutions
    let (s, request) ← returnItems s request resolutions
    let s ← resolutions.foldlM (flipDirectLoanAssets loan) s
    return (writeAccountability s request.id resolutions, request)
  else do
    require (entries = [])
      (.returnValidation "This direct loan has no outstanding units to resolve.")
    return (s, request)

def returnDirectLoan (s : State) (loanId : Nat) (payload : String)
    (entries : List ResolutionEntry) : Except Refusal State := do
  require ((entries.map ResolutionEntry.itemId).Nodup)
    (.validation "resolutions" "Duplicate item_id values are not allowed.")
  let locked ← orRefuse (s.loans.get? loanId) (.doesNotExist "PublicToolLoan")
  require (locked.source = .adminDirect) (.doesNotExist "PublicToolLoan")
  require (locked.status = .checkedOut)
    (.invalidTransition "Direct loan is not currently checked out.")
  returnScanQr s locked payload
  let request ← s.lockedRequest locked.requestId
  let (s, request) ← resolveDirectLoan s locked request entries
  let s := { s with
    returnEvents := s.returnEvents ++ [ReturnEvent.mk request.id locked.containerId] }
  let s := s.saveRequest (finalizeReturnStatus request)
  return s.saveLoan { locked with status := .returned }

def ReportOutcome.assetStatus : ReportOutcome → Option AssetStatus
  | .damaged => some .damaged
  | .missing => some .lost
  | .needsFix => some .maintenance
  | .noIssue => none

def ReportOutcome.issueType : ReportOutcome → Option IssueType
  | .damaged => some .damaged
  | .missing => some .missing
  | .needsFix => some .damaged
  | .noIssue => none

/-- One entry of `_validated_resolutions`. -/
def validatedTriage (request : HardwareRequest) (entry : Nat × Int) :
    Except Refusal (RequestItem × Int) := do
  let item ← orRefuse (request.items.get? entry.1)
    (.returnValidation "Problem report item does not belong to this loan.")
  require (0 < entry.2) (.returnValidation "Triage quantity must be positive.")
  require (entry.2 ≤ item.issued)
    (.returnValidation "Triage quantity exceeds issued quantity for this item.")
  return (item, entry.2)

def validatedTriages (request : HardwareRequest) (entries : List (Nat × Int)) :
    Except Refusal (List (RequestItem × Int)) := do
  require (entries ≠ []) (.returnValidation "At least one item must be triaged.")
  entries.mapM (validatedTriage request)

def moveIndividualAssets (s : State) (report : PublicProblemReport) (loan : PublicToolLoan)
    (item : RequestItem) (quantity : Int) (target : AssetStatus) : Except Refusal State := do
  let assets := ((s.assets.rows.filter fun asset =>
      asset.id ∈ loan.assetIds ∧ asset.makerspaceId = report.makerspaceId ∧
        asset.productId = item.productId ∧ asset.status = .available).insertionSort
    fun a b => a.id ≤ b.id).take quantity.toNat
  require (assets.length = quantity.toNat)
    (.returnValidation "Triage quantity exceeds returned assets for this item.")
  assets.foldlM (fun s asset => moveAssetStatus s asset target) s

def moveStock (s : State) (report : PublicProblemReport) (loan : PublicToolLoan)
    (outcome : ReportOutcome) (target : AssetStatus) (item : RequestItem) (quantity : Int) :
    Except Refusal State :=
  if s.individual item.productId then
    moveIndividualAssets s report loan item quantity target
  else moveAvailableToTriageBucket s item.productId quantity outcome

def triageItem (report : PublicProblemReport) (loan : PublicToolLoan) (outcome : ReportOutcome)
    (s : State) (resolution : RequestItem × Int) : Except Refusal State := do
  let target ← orRefuse outcome.assetStatus (.doesNotExist "ASSET_STATUS_OUTCOMES")
  let issueType ← orRefuse outcome.issueType (.doesNotExist "ACCOUNTABILITY_OUTCOMES")
  let s ← moveStock s report loan outcome target resolution.1 resolution.2
  return { s with
    accountability := s.accountability ++
      [⟨report.requestId, resolution.1.id, issueType, resolution.2⟩] }

/-- The stock steps of `triage_problem_report`. -/
def triageStock (s : State) (report : PublicProblemReport) (outcome : ReportOutcome)
    (entries : List (Nat × Int)) : Except Refusal State :=
  if outcome = .noIssue then return s
  else do
    let request ← s.lockedRequest report.requestId
    let loan ← orRefuse (s.loans.get? report.loanId) (.doesNotExist "PublicToolLoan")
    let resolutions ← validatedTriages request entries
    resolutions.foldlM (triageItem report loan outcome) s

def triageProblemReport (s : State) (reportId : Nat) (outcome : ReportOutcome)
    (entries : List (Nat × Int)) : Except Refusal State := do
  let locked ← orRefuse (s.reports.get? reportId) (.doesNotExist "PublicProblemReport")
  require (locked.outcome = none) (.invalidTransition "Problem report has already been triaged.")
  let s ← triageStock s locked outcome entries
  return { s with reports := s.reports.put { locked with outcome := some outcome } }

end Lending
end SpaceWorks
