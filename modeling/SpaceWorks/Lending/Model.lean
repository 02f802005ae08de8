import Mathlib.Data.List.Sort
import SpaceWorks.Library.Postings
import SpaceWorks.Library.Python
import SpaceWorks.Library.Runs

/-!
# Hardware lending

The stock of `apps/inventory` (`models.py`), the containers and QR codes of `apps/boxes`
(`models.py`), and the requests, loans and reports of `apps/hardware_requests` (`models.py`,
`asset_link_models.py`, `self_checkout_models.py`).  Counts are integers: that no bucket becomes
negative is a theorem here, not a column type.
-/

namespace SpaceWorks
namespace Lending

open Checked TransactionalSystem

/-- The columns of `InventoryProduct`: six buckets, the total. -/
inductive Column
  | available
  | reserved
  | issued
  | damaged
  | lost
  | needsFix
  | total
  deriving DecidableEq

def Column.field : Column → String
  | .available => "available_quantity"
  | .reserved => "reserved_quantity"
  | .issued => "issued_quantity"
  | .damaged => "damaged_quantity"
  | .lost => "lost_quantity"
  | .needsFix => "needs_fix_quantity"
  | .total => "total_quantity"

abbrev Quantities := Column → Int

namespace Quantities

/-- `n` units in one column. -/
def gain (column : Column) (n : Int) : Quantities :=
  fun c => if c = column then n else 0

/-- `n` units from one column to another. -/
def move (source destination : Column) (n : Int) : Quantities :=
  gain destination n - gain source n

def held (q : Quantities) : Int :=
  q .available + q .reserved + q .issued + q .damaged + q .lost + q .needsFix

/-- No column is negative and the buckets are within the total. -/
structure Sound (q : Quantities) : Prop where
  nonneg : ∀ column, 0 ≤ q column
  within : held q ≤ q .total

theorem gain_apply (column : Column) (n : Int) (c : Column) :
    gain column n c = if c = column then n else 0 := rfl

@[simp] theorem gain_zero (column : Column) : gain column 0 = 0 := by
  funext c
  simp [gain]

theorem gain_add (column : Column) (m n : Int) :
    gain column (m + n) = gain column m + gain column n := by
  funext c
  by_cases h : c = column <;> simp [gain, h]

theorem move_apply (source destination : Column) (n : Int) (c : Column) :
    move source destination n c =
      (if c = destination then n else 0) - (if c = source then n else 0) := rfl

@[simp] theorem move_zero (source destination : Column) : move source destination 0 = 0 := by
  simp [move]

theorem move_add (source destination : Column) (m n : Int) :
    move source destination (m + n) = move source destination m + move source destination n := by
  simp only [move, gain_add]
  abel

end Quantities

inductive TrackingMode
  | quantity
  | individual
  deriving DecidableEq

structure InventoryProduct where
  id : Nat
  makerspaceId : Nat
  name : String
  categoryId : Option Nat := none
  boxId : Option Nat := none
  trackingMode : TrackingMode := .quantity
  quantities : Quantities := 0
  isPublic : Bool := true
  publicSelfCheckoutEnabled : Bool := false
  isArchived : Bool := false

structure Category where
  id : Nat
  makerspaceId : Nat
  slug : String

inductive AssetStatus
  | available
  | reserved
  | issued
  | damaged
  | lost
  | retired
  | maintenance
  deriving DecidableEq

structure InventoryAsset where
  id : Nat
  makerspaceId : Nat
  productId : Nat
  boxId : Option Nat := none
  assetTag : String
  status : AssetStatus := .available
  publicSelfCheckoutEnabled : Bool := false
  deriving DecidableEq

structure Box where
  id : Nat
  makerspaceId : Nat
  parentId : Option Nat := none
  code : String
  label : String := ""
  location : String := ""
  description : String := ""
  isActive : Bool := true

inductive TargetType
  | box
  | product
  | asset
  deriving DecidableEq

structure QrCode where
  id : Nat
  makerspaceId : Nat
  payload : String
  targetType : TargetType
  targetId : Nat
  active : Bool := true

inductive ScanContext
  | issue
  | return
  deriving DecidableEq

/-- A row of the append-only `BoxScan` table. -/
structure BoxScan where
  boxId : Nat
  requestId : Nat
  context : ScanContext
  deriving DecidableEq

/-- `HardwareRequestItemAsset.Outcome`. -/
inductive LinkOutcome
  | issued
  | returned
  | damaged
  | lost
  deriving DecidableEq

/-- A row of `HardwareRequestItemAsset`, kept with its request item. -/
structure AssetLink where
  assetId : Nat
  outcome : LinkOutcome := .issued

structure RequestItem where
  id : Nat
  productId : Nat
  requested : Int
  accepted : Int := 0
  issued : Int := 0
  returned : Int := 0
  damaged : Int := 0
  missing : Int := 0
  needsFix : Int := 0
  assetLinks : List AssetLink := []

inductive RequestStatus
  | draft
  | pendingApproval
  | rejected
  | accepted
  | cancelled
  | issued
  | partiallyReturned
  | returned
  | closedWithIssue
  deriving DecidableEq

/-- `issued` or `partially_returned`: units are out. -/
def RequestStatus.out (status : RequestStatus) : Prop :=
  status = .issued ∨ status = .partiallyReturned

instance (status : RequestStatus) : Decidable status.out :=
  inferInstanceAs (Decidable (_ ∨ _))

instance : Keyed RequestItem Nat := ⟨RequestItem.id⟩

structure HardwareRequest where
  id : Nat
  makerspaceId : Nat
  requesterId : Nat
  status : RequestStatus := .pendingApproval
  items : Table RequestItem
  assignedBoxId : Option Nat := none
  issuedBy : Option Nat := none
  issuedAt : Option Int := none
  anonymousIdempotencyKeyFingerprint : String := ""
  anonymousPayloadFingerprint : String := ""

inductive LoanSource
  | publicSelfCheckout
  | adminDirect
  deriving DecidableEq

inductive LoanStatus
  | checkedOut
  | returned
  deriving DecidableEq

structure PublicToolLoan where
  id : Nat
  makerspaceId : Nat
  requestId : Nat
  requesterId : Nat
  qrCodeId : Option Nat := none
  qrIds : List Nat := []
  containerId : Option Nat := none
  assetIds : List Nat := []
  source : LoanSource := .publicSelfCheckout
  status : LoanStatus := .checkedOut

/-- `PublicProblemReport.Outcome` other than the blank one. -/
inductive ReportOutcome
  | noIssue
  | damaged
  | missing
  | needsFix
  deriving DecidableEq

/-- `PublicProblemReport`; with an outcome it is resolved. -/
structure PublicProblemReport where
  id : Nat
  makerspaceId : Nat
  loanId : Nat
  requestId : Nat
  outcome : Option ReportOutcome := none

inductive IssueType
  | damaged
  | missing

structure RequesterAccountability where
  requestId : Nat
  itemId : Nat
  issueType : IssueType
  quantity : Int

structure ReturnEvent where
  requestId : Nat
  boxId : Option Nat

instance : Keyed Category Nat := ⟨Category.id⟩

instance : Keyed InventoryProduct Nat := ⟨InventoryProduct.id⟩

instance : Keyed InventoryAsset Nat := ⟨InventoryAsset.id⟩

instance : Keyed Box Nat := ⟨Box.id⟩

instance : Keyed QrCode Nat := ⟨QrCode.id⟩

instance : Keyed HardwareRequest Nat := ⟨HardwareRequest.id⟩

instance : Keyed PublicToolLoan Nat := ⟨PublicToolLoan.id⟩

instance : Keyed PublicProblemReport Nat := ⟨PublicProblemReport.id⟩

@[simp] theorem key_product (product : InventoryProduct) : key product = product.id := rfl

@[simp] theorem key_asset (asset : InventoryAsset) : key asset = asset.id := rfl

@[simp] theorem key_item (item : RequestItem) : key item = item.id := rfl

@[simp] theorem key_request (request : HardwareRequest) : key request = request.id := rfl

@[simp] theorem key_loan (loan : PublicToolLoan) : key loan = loan.id := rfl

/-- Products are accounts: a posting adds to the quantity columns. -/
instance : Account InventoryProduct Quantities where
  balance product := product.quantities
  post entry product := { product with quantities := product.quantities + entry }
  key_post _ _ := rfl
  balance_post _ _ := rfl
  post_zero product := by simp
  post_post m n product := by simp [add_assoc]

inductive Refusal
  | insufficientStock (message : String)
  | trackingModeChangeRefused (message : String)
  | invalidTransition (message : String)
  | requestValidation (message : String)
  | returnValidation (message : String)
  | requesterBlocked (message : String)
  | anonymousRequestIdempotencyConflict (message : String)
  | anonymousRequestOutstandingLimit (message : String)
  | boxValidation (message : String)
  | boxUnavailable (message : String)
  /-- `rest_framework.ValidationError`, of a field or blank. -/
  | validation (field message : String)
  | conflict (message : String)
  /-- `Model.DoesNotExist` and `get_object_or_404`. -/
  | doesNotExist (model : String)
  /-- A violated unique constraint, by its name. -/
  | integrity (constraint : String)
  deriving DecidableEq

structure State where
  boxes : Table Box := ∅
  categories : Table Category := ∅
  products : Table InventoryProduct := ∅
  assets : Table InventoryAsset := ∅
  qrCodes : Table QrCode := ∅
  requests : Table HardwareRequest := ∅
  loans : Table PublicToolLoan := ∅
  reports : Table PublicProblemReport := ∅
  scans : List BoxScan := []
  returnEvents : List ReturnEvent := []
  accountability : List RequesterAccountability := []

abbrev StockPosting := Posting InventoryProduct Nat Quantities Refusal

namespace State

def post (s : State) (postings : List StockPosting) : Except Refusal State := do
  let products ← bookAll (.doesNotExist "InventoryProduct") s.products postings
  return { s with products := products }

def assetsOf (s : State) (productId : Nat) : List InventoryAsset :=
  s.assets.rows.filter fun asset => asset.productId = productId

def assetCount (s : State) (productId : Nat) (status : AssetStatus) : Nat :=
  (s.assetsOf productId).countP fun asset => asset.status = status

def saveStatuses (s : State) (changes : List (InventoryAsset × AssetStatus)) : State :=
  { s with assets := s.assets.putAll (changes.map fun change =>
      { change.1 with status := change.2 }) }

def saveRequest (s : State) (request : HardwareRequest) : State :=
  { s with requests := s.requests.put request }

def saveLoan (s : State) (loan : PublicToolLoan) : State :=
  { s with loans := s.loans.put loan }

def lockedRequest (s : State) (requestId : Nat) : Except Refusal HardwareRequest :=
  orRefuse (s.requests.get? requestId) (.doesNotExist "HardwareRequest")

end State

end Lending
end SpaceWorks
