import SpaceWorks.Lending.Availability

/-!
# Reviewed requests

Submission and review (`request_workflow.py`), box and handover (`handover_workflow.py`,
`handover_issue_helpers.py`), cancellation (`cancellation_workflow.py`) and return
(`return_workflow.py`, `return_helpers.py`) in `apps/hardware_requests`.  Evidence, notifications,
permissions and module gates stand before these steps.
-/

namespace SpaceWorks
namespace Lending

open Checked Availability

def State.individual (s : State) (productId : Nat) : Bool :=
  (s.products.get? productId).any fun product => product.trackingMode = .individual

/-- `uniq_hwreq_anon_idempotency`. -/
def idempotencyKeyTaken (s : State) (request : HardwareRequest) : Prop :=
  request.anonymousIdempotencyKeyFingerprint ≠ "" ∧
    ∃ other ∈ s.requests.rows, other.makerspaceId = request.makerspaceId ∧
      other.anonymousIdempotencyKeyFingerprint = request.anonymousIdempotencyKeyFingerprint

instance (s : State) (request : HardwareRequest) : Decidable (idempotencyKeyTaken s request) :=
  inferInstanceAs (Decidable (_ ∧ ∃ _ ∈ _, _))

def submitted (id makerspaceId requesterId : Nat) (items : List (Nat × Int))
    (keyFingerprint payloadFingerprint : String) : HardwareRequest where
  id := id
  makerspaceId := makerspaceId
  requesterId := requesterId
  items := Table.enumerate items
    (fun item n => { id := n, productId := item.1, requested := item.2 }) (fun _ _ => rfl)
  anonymousIdempotencyKeyFingerprint := keyFingerprint
  anonymousPayloadFingerprint := payloadFingerprint

/-- `HardwareRequest.objects.create`. -/
def createRequest (s : State) (request : HardwareRequest) : Except Refusal State := do
  require (¬ idempotencyKeyTaken s request) (.integrity "uniq_hwreq_anon_idempotency")
  let requests ← s.requests.insertNew request (.integrity "hardware_request_pkey")
  return { s with requests := requests }

/-- `submit_request`, with `_requestable_products`. -/
def submitRequest (s : State) (id makerspaceId requesterId : Nat) (items : List (Nat × Int)) :
    Except Refusal State := do
  forM items fun item => do
    let product ← orRefuse (s.products.get? item.1)
      (.validation "items" "One or more products are unavailable for request.")
    require (product.makerspaceId = makerspaceId ∧ product.isPublic ∧ ¬ product.isArchived)
      (.validation "items" "One or more products are unavailable for request.")
    require (1 ≤ item.2) (.validation "quantity" "Ensure this value is greater than or equal to 1.")
  createRequest s (submitted id makerspaceId requesterId items "" "")

/-- Without a map all of it, else what the map says or nothing. -/
def acceptedQuantity (accepted : Option (List (Nat × Int))) (item : RequestItem) : Int :=
  match accepted with
  | none => item.requested
  | some quantities => (quantities.lookup item.id).getD 0

def acceptRequest (s : State) (requestId : Nat) (accepted : Option (List (Nat × Int))) :
    Except Refusal State := do
  let locked ← s.lockedRequest requestId
  require (locked.status = .pendingApproval)
    (.invalidTransition "Cannot accept hardware request with this status.")
  require (∀ entry ∈ accepted.getD [], (locked.items.get? entry.1).isSome)
    (.requestValidation "Accepted quantities reference items that are not in this request.")
  require (∀ item ∈ locked.items.rows,
      0 ≤ acceptedQuantity accepted item ∧ acceptedQuantity accepted item ≤ item.requested)
    (.requestValidation "Accepted quantity must be between 0 and the requested quantity.")
  require ((locked.items.rows.map (acceptedQuantity accepted)).sum ≠ 0)
    (.requestValidation "Accept at least one unit, or reject the request instead.")
  let locked := { locked with
    items := locked.items.mapRows
      (fun item => { item with accepted := acceptedQuantity accepted item }) (fun _ => rfl) }
  let s ← reserveForRequest s locked
  return s.saveRequest { locked with status := .accepted }

def rejectRequest (s : State) (requestId : Nat) (reason : String) : Except Refusal State := do
  require (Python.strip reason ≠ "") (.requestValidation "Rejection reason is required.")
  let locked ← s.lockedRequest requestId
  require (locked.status = .pendingApproval)
    (.invalidTransition "Cannot reject hardware request with this status.")
  return s.saveRequest { locked with status := .rejected }

def activePublicContainerLoanExists (s : State) (box : Box) : Prop :=
  ∃ loan ∈ s.loans.rows, loan.makerspaceId = box.makerspaceId ∧
    loan.containerId = some box.id ∧ loan.status = .checkedOut

instance (s : State) (box : Box) : Decidable (activePublicContainerLoanExists s box) :=
  inferInstanceAs (Decidable (∃ _ ∈ _, _))

/-- A request other than `exceptId` is out with the box. -/
def requestHoldsBox (s : State) (boxId : Nat) (exceptId : Option Nat) : Prop :=
  ∃ request ∈ s.requests.rows, some request.id ≠ exceptId ∧
    request.assignedBoxId = some boxId ∧ request.status.out

instance (s : State) (boxId : Nat) (exceptId : Option Nat) :
    Decidable (requestHoldsBox s boxId exceptId) :=
  inferInstanceAs (Decidable (∃ _ ∈ _, _))

def assignBox (s : State) (requestId : Nat) (boxCode : String) : Except Refusal State := do
  let locked ← s.lockedRequest requestId
  require (locked.status = .accepted)
    (.invalidTransition "Cannot assign box for hardware request with this status.")
  let box ← orRefuse (s.boxes.rows.find? fun box =>
      box.makerspaceId = locked.makerspaceId ∧ box.code = boxCode ∧ box.isActive)
    (.boxValidation "Unknown or inactive box.")
  require (¬ requestHoldsBox s box.id (some locked.id) ∧ ¬ activePublicContainerLoanExists s box)
    (.boxUnavailable "Box is already out on another loan.")
  let s := s.saveRequest { locked with assignedBoxId := some box.id }
  return { s with scans := s.scans ++ [⟨box.id, locked.id, .issue⟩] }

def clearUnissuedAssignment (s : State) (request : HardwareRequest) :
    Except Refusal (State × HardwareRequest) := do
  require (request.status = .accepted ∧ request.issuedAt = none ∧ request.issuedBy = none)
    (.invalidTransition "Only an accepted, unissued assignment can be cleared.")
  match request.assignedBoxId with
  | none => return (s, request)
  | some boxId => do
    let box ← orRefuse (s.boxes.get? boxId) (.doesNotExist "Box")
    require (box.makerspaceId = request.makerspaceId)
      (.invalidTransition "Assigned box belongs to another makerspace.")
    let request := { request with assignedBoxId := none }
    return (s.saveRequest request, request)

def assertWhollyUnissued (s : State) (request : HardwareRequest) : Except Refusal Unit := do
  require (request.issuedAt = none ∧ request.issuedBy = none)
    (.invalidTransition "Request already has handover evidence or issue history.")
  require (∀ item ∈ request.items.rows, item.issued = 0 ∧ item.returned = 0 ∧
      item.damaged = 0 ∧ item.missing = 0 ∧ item.needsFix = 0)
    (.invalidTransition "Request already has handover quantities.")
  require ((∀ event ∈ s.returnEvents, event.requestId ≠ request.id) ∧
      (∀ entry ∈ s.accountability, entry.requestId ≠ request.id) ∧
      (∀ item ∈ request.items.rows, item.assetLinks = []) ∧
      (∀ loan ∈ s.loans.rows, loan.requestId ≠ request.id))
    (.invalidTransition "Request already has handover records.")

def cancelRequest (s : State) (requestId : Nat) (reason : String) : Except Refusal State := do
  let locked ← s.lockedRequest requestId
  require (locked.status = .accepted)
    (.invalidTransition "Only accepted, unissued requests can be cancelled.")
  require (Python.strip reason ≠ "" ∧ (Python.strip reason).length ≤ 500)
    (.requestValidation "Cancellation reason must contain 1 to 500 characters.")
  assertWhollyUnissued s locked
  let (s, locked) ← clearUnissuedAssignment s locked
  let s ← releaseRequestReservation s locked
  return s.saveRequest { locked with status := .cancelled }

def validateBrokenRejects (s : State) (locked : HardwareRequest) (rejects : List Reject) :
    Except Refusal Unit := do
  forM (rejects.filter fun reject => 0 < reject.broken) fun reject => do
    let item ← orRefuse (locked.items.get? reject.itemId)
      (.requestValidation "Unknown item in broken rejects.")
    require ((rejectOf rejects item.id).1 ≤ item.accepted)
      (.requestValidation "Cannot reject more units as broken than were accepted.")
    require (¬ s.individual item.productId)
      (.requestValidation
        "Individual-tracked items can't be rejected as broken at handover; issue them and mark the specific unit damaged at return.")
  require (0 < (locked.items.rows.map fun item =>
      item.accepted - (rejectOf rejects item.id).1).sum)
    (.requestValidation "Every accepted unit was rejected as broken, so nothing would be issued.")

/-- `validate_broken_rejects`, when a unit is rejected. -/
def checkRejects (s : State) (locked : HardwareRequest) (rejects : List Reject) :
    Except Refusal Unit :=
  if (rejects.filter fun reject => 0 < reject.broken) = [] then return ()
  else validateBrokenRejects s locked rejects

def individualHandoutError : Refusal :=
  .requestValidation "Individual-tracked products require scanned asset QR codes for handout."

/-- Each item takes the first scanned assets of its product, and none may be left. -/
def takeAssets : List InventoryAsset → List RequestItem →
    Except Refusal (List (RequestItem × List InventoryAsset))
  | pool, [] => do
    require (pool = []) individualHandoutError
    return []
  | pool, item :: items => do
    let assets := pool.filter fun asset => asset.productId = item.productId
    require (item.accepted ≤ assets.length) individualHandoutError
    let taken := assets.take item.accepted.toNat
    let rest ← takeAssets (pool.filter fun asset => asset ∉ taken) items
    return (item, taken) :: rest

def scannedAssetQr (s : State) (makerspaceId : Nat) (payload : String) : Except Refusal QrCode :=
  orRefuse (s.qrCodes.rows.find? fun qr =>
      qr.makerspaceId = makerspaceId ∧ qr.payload = payload ∧ qr.active ∧ qr.targetType = .asset)
    individualHandoutError

def scannedAsset (s : State) (makerspaceId : Nat) (qr : QrCode) :
    Except Refusal InventoryAsset := do
  let asset ← orRefuse (s.assets.get? qr.targetId) individualHandoutError
  require (asset.makerspaceId = makerspaceId ∧ asset.status = .available) individualHandoutError
  return asset

def issueIndividualAssets (s : State) (locked : HardwareRequest) (payloads : List String) :
    Except Refusal (State × HardwareRequest) := do
  let items := (locked.items.rows.filter fun item =>
      s.individual item.productId ∧ 0 < item.accepted).insertionSort
    fun a b => a.productId < b.productId ∨ (a.productId = b.productId ∧ a.id ≤ b.id)
  let expected := (items.map RequestItem.accepted).sum
  if expected = 0 then return (s, locked)
  else do
    require ((payloads.length : Int) = expected) individualHandoutError
    let qrs ← payloads.mapM (scannedAssetQr s locked.makerspaceId)
    require ((qrs.map QrCode.id).Nodup)
      (.invalidTransition "The same QR code was scanned more than once.")
    let assets ← qrs.mapM (scannedAsset s locked.makerspaceId)
    let picks ← takeAssets assets items
    let locked := { locked with
      items := locked.items.putAll (picks.map fun pick =>
        { pick.1 with
          assetLinks := pick.1.assetLinks ++ pick.2.map fun asset => { assetId := asset.id } }) }
    let s := s.saveStatuses ((picks.flatMap Prod.snd).map fun asset => (asset, .issued))
    return (s.saveRequest locked, locked)

/-- The box steps of `issue_request`: scanned, and on no loan. -/
def checkAssignedBox (s : State) (locked : HardwareRequest) : Except Refusal Unit :=
  match locked.assignedBoxId with
  | none => return ()
  | some boxId => do
    require (⟨boxId, locked.id, .issue⟩ ∈ s.scans)
      (.requestValidation "Box scan required before issue.")
    let box ← orRefuse (s.boxes.get? boxId) (.doesNotExist "Box")
    require (¬ activePublicContainerLoanExists s box)
      (.boxUnavailable "Box is already out on another loan.")

def checkActiveBoxUnique (s : State) (locked : HardwareRequest) : Except Refusal Unit :=
  match locked.assignedBoxId with
  | none => return ()
  | some boxId =>
    require (¬ requestHoldsBox s boxId (some locked.id))
      (.boxUnavailable "Box is already out on another loan.")

def issueRequest (s : State) (requestId actorId : Nat) (now : Int) (payloads : List String)
    (rejects : List Reject) : Except Refusal State := do
  let locked ← s.lockedRequest requestId
  require (locked.status = .accepted)
    (.invalidTransition "Cannot issue hardware request with this status.")
  checkAssignedBox s locked
  checkRejects s locked rejects
  let (s, locked) ← issueIndividualAssets s locked payloads
  let (s, locked) ← issueItems s locked rejects
  checkActiveBoxUnique s locked
  return s.saveRequest
    { locked with status := .issued, issuedBy := some actorId, issuedAt := some now }

structure ResolutionEntry where
  itemId : Nat
  returned : Int := 0
  damaged : Int := 0
  missing : Int := 0
  assets : List (Nat × ReturnOutcome) := []

def remainingQuantity (item : RequestItem) : Int :=
  item.issued - (item.returned + item.damaged + item.missing)

def countOutcome (assets : List (Nat × ReturnOutcome)) (outcome : ReturnOutcome) : Int :=
  assets.countP fun asset => asset.2 = outcome

def individualCounts (item : RequestItem) (entry : ResolutionEntry) :
    Except Refusal (Int × Int × Int) :=
  if entry.assets ≠ [] then do
    let exact := (countOutcome entry.assets .returned, countOutcome entry.assets .damaged,
      countOutcome entry.assets .missing)
    let provided := (entry.returned, entry.damaged, entry.missing)
    require (provided = (0, 0, 0) ∨ provided = exact)
      (.returnValidation "Asset outcomes must match return quantities.")
    return exact
  else do
    require (entry.damaged = 0 ∧ entry.missing = 0 ∧ entry.returned = remainingQuantity item)
      (.returnValidation "Individual-tracked returns require exact asset identity.")
    return (entry.returned, entry.damaged, entry.missing)

/-- The quantities, exact ones for an individual-tracked item. -/
def resolvedCounts (s : State) (item : RequestItem) (entry : ResolutionEntry) :
    Except Refusal (Int × Int × Int) :=
  if s.individual item.productId then individualCounts item entry
  else return (entry.returned, entry.damaged, entry.missing)

def buildResolution (s : State) (locked : HardwareRequest) (entry : ResolutionEntry) :
    Except Refusal Resolution := do
  let item ← orRefuse (locked.items.get? entry.itemId)
    (.returnValidation "Return item does not belong to this loan.")
  require (0 ≤ entry.returned ∧ 0 ≤ entry.damaged ∧ 0 ≤ entry.missing)
    (.returnValidation "Return quantities cannot be negative.")
  let (returned, damaged, missing) ← resolvedCounts s item entry
  require (returned + damaged + missing ≤ remainingQuantity item)
    (.returnValidation "Return quantity exceeds remaining issued quantity.")
  return { item, returned, damaged, missing, assetOutcomes := entry.assets }

def buildResolutions (s : State) (locked : HardwareRequest) (entries : List ResolutionEntry) :
    Except Refusal (List Resolution) := do
  let validated ← entries.mapM (buildResolution s locked)
  require (1 ≤ (validated.map Resolution.quantity).sum)
    (.returnValidation "At least one item must be resolved.")
  return validated

/-- The first component of `OUTCOME_MAP`. -/
def ReturnOutcome.link : ReturnOutcome → LinkOutcome
  | .returned => .returned
  | .damaged => .damaged
  | .missing => .lost

/-- The second component of `OUTCOME_MAP`. -/
def ReturnOutcome.status : ReturnOutcome → AssetStatus
  | .returned => .available
  | .damaged => .damaged
  | .missing => .lost

def issuedAssetIds (item : RequestItem) : List Nat :=
  (item.assetLinks.filter fun link => link.outcome = .issued).map AssetLink.assetId

/-- The links resolved: the named ones, or the first by asset. -/
def flippedLinks (resolution : Resolution) : Except Refusal (List (Nat × ReturnOutcome)) :=
  let issuedIds := issuedAssetIds resolution.item
  if resolution.assetOutcomes ≠ [] then do
    let requestedIds := resolution.assetOutcomes.map Prod.fst
    require ((issuedIds.filter fun assetId => assetId ∈ requestedIds).length = requestedIds.length)
      (.returnValidation "Return asset does not belong to this issued item.")
    return resolution.assetOutcomes
  else if resolution.returned ≤ 0 then return []
  else do
    let links := (issuedIds.insertionSort (· ≤ ·)).take resolution.returned.toNat
    require (links.length = resolution.returned.toNat)
      (.returnValidation "Return quantity exceeds linked issued assets.")
    return links.map fun assetId => (assetId, .returned)

def setLinkOutcomes (flips : List (Nat × ReturnOutcome)) (item : RequestItem) : RequestItem :=
  { item with
    assetLinks := item.assetLinks.map fun link =>
      if link.outcome = .issued then
        match flips.lookup link.assetId with
        | some outcome => { link with outcome := outcome.link }
        | none => link
      else link }

def flippedAssets (s : State) (flips : List (Nat × ReturnOutcome)) :
    Except Refusal (List (InventoryAsset × AssetStatus)) :=
  flips.mapM fun flip => do
    let asset ← orRefuse (s.assets.get? flip.1) (.doesNotExist "InventoryAsset")
    return (asset, flip.2.status)

/-- One turn of `flip_individual_asset_returns`. -/
def flipReturn (acc : State × HardwareRequest) (resolution : Resolution) :
    Except Refusal (State × HardwareRequest) :=
  if acc.1.individual resolution.item.productId then do
    let flips ← flippedLinks resolution
    let changes ← flippedAssets acc.1 flips
    let item ← orRefuse (acc.2.items.get? resolution.item.id) (.doesNotExist "HardwareRequestItem")
    let request := { acc.2 with items := acc.2.items.put (setLinkOutcomes flips item) }
    return ((acc.1.saveStatuses changes).saveRequest request, request)
  else return acc

def flipIndividualAssetReturns (s : State) (locked : HardwareRequest)
    (resolutions : List Resolution) : Except Refusal (State × HardwareRequest) :=
  resolutions.foldlM flipReturn (s, locked)

def writeAccountability (s : State) (requestId : Nat) (resolutions : List Resolution) : State :=
  { s with
    accountability := s.accountability ++ resolutions.flatMap fun resolution =>
      (if 0 < resolution.damaged then
          [⟨requestId, resolution.item.id, .damaged, resolution.damaged⟩] else [])
        ++ (if 0 < resolution.missing then
          [⟨requestId, resolution.item.id, .missing, resolution.missing⟩] else []) }

def finalizeReturnStatus (locked : HardwareRequest) : HardwareRequest :=
  if ∀ item ∈ locked.items.rows, item.returned + item.damaged + item.missing = item.issued then
    if ∃ item ∈ locked.items.rows, 0 < item.damaged ∨ 0 < item.missing then
      { locked with status := .closedWithIssue }
    else { locked with status := .returned }
  else { locked with status := .partiallyReturned }

/-- The checks of `ReturnRequestSerializer`. -/
def checkReturnEntries (entries : List ResolutionEntry) : Except Refusal Unit := do
  require ((entries.map ResolutionEntry.itemId).Nodup)
    (.validation "resolutions" "Duplicate item_id values are not allowed.")
  require (∀ entry ∈ entries,
      entry.returned + entry.damaged + entry.missing + entry.assets.length ≠ 0)
    (.validation "resolutions" "Each resolution must resolve at least one item.")
  require ((entries.flatMap fun entry => entry.assets.map Prod.fst).Nodup)
    (.validation "resolutions" "Duplicate asset_id values are not allowed.")

def requireReturnable (s : State) (locked : HardwareRequest) : Except Refusal Unit := do
  require (∀ loan ∈ s.loans.rows,
      ¬ (loan.requestId = locked.id ∧ loan.makerspaceId = locked.makerspaceId))
    (.returnValidation
      "This loan must be returned through its public tool or direct loan return flow.")
  require locked.status.out (.invalidTransition "Cannot return hardware request with this status.")

def matchingBox (s : State) (locked : HardwareRequest) (boxCode : String) :
    Except Refusal (Option Nat) :=
  match locked.assignedBoxId with
  | none => do
    require (boxCode = "")
      (.returnValidation "This loan has no assigned container; leave box_code blank.")
    return none
  | some boxId => do
    require (boxCode ≠ "")
      (.returnValidation "Scan the assigned container before returning this loan.")
    require (∃ box ∈ s.boxes.rows, box.makerspaceId = locked.makerspaceId ∧
        box.code = boxCode ∧ box.id = boxId)
      (.returnValidation "Scanned box does not match this loan.")
    return some boxId

/-- `return_items` of the return workflow. -/
def returnRequest (s : State) (requestId : Nat) (boxCode : String)
    (entries : List ResolutionEntry) : Except Refusal State := do
  checkReturnEntries entries
  let locked ← s.lockedRequest requestId
  requireReturnable s locked
  let box ← matchingBox s locked boxCode
  let resolutions ← buildResolutions s locked entries
  let (s, locked) ← returnItems s locked resolutions
  let (s, locked) ← flipIndividualAssetReturns s locked resolutions
  let s := writeAccountability s locked.id resolutions
  let s := { s with
    scans := s.scans ++ (box.map fun boxId => BoxScan.mk boxId locked.id .return).toList
    returnEvents := s.returnEvents ++ [ReturnEvent.mk locked.id box] }
  return s.saveRequest (finalizeReturnStatus locked)

end Lending
end SpaceWorks
