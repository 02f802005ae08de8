import Mathlib.Algebra.Order.Group.Int
import SpaceWorks.Lending.Stock

/-!
# The ledger of lending

What the columns of a product are supposed to count, read off the other tables.
-/

namespace SpaceWorks
namespace Lending

open Checked Quantities Availability

def RequestItem.acceptedOf (item : RequestItem) (productId : Nat) : Int :=
  if productId = item.productId then item.accepted else 0

def RequestItem.outstandingOf (item : RequestItem) (productId : Nat) : Int :=
  if productId = item.productId then remainingQuantity item else 0

def RequestItem.custody (item : RequestItem) (assetId : Nat) : Int :=
  (issuedAssetIds item).count assetId

def HardwareRequest.demand (request : HardwareRequest) (productId : Nat) : Int :=
  if request.status = .accepted then request.items.sum (·.acceptedOf productId) else 0

def HardwareRequest.outstanding (request : HardwareRequest) (productId : Nat) : Int :=
  if request.status.out then request.items.sum (·.outstandingOf productId) else 0

def HardwareRequest.custody (request : HardwareRequest) (assetId : Nat) : Int :=
  if request.status.out then request.items.sum (·.custody assetId) else 0

def PublicToolLoan.custody (loan : PublicToolLoan) (assetId : Nat) : Int :=
  if loan.status = .checkedOut ∧ assetId ∈ loan.assetIds then 1 else 0

def InventoryAsset.share (asset : InventoryAsset) (productId : Nat) : Quantities :=
  if asset.productId = productId then assetUnit asset.status else 0

def outstanding (s : State) (productId : Nat) : Int :=
  s.requests.sum (·.outstanding productId)

def custody (s : State) (assetId : Nat) : Int :=
  s.requests.sum (·.custody assetId) + s.loans.sum (·.custody assetId)

def loanedAssets (s : State) (loan : PublicToolLoan) (productId : Nat) : Int :=
  s.assets.sum fun asset =>
    if asset.id ∈ loan.assetIds ∧ asset.productId = productId then 1 else 0

theorem demand_eq_sum (s : State) (productId : Nat) :
    demand s productId = s.requests.sum (·.demand productId) := rfl

theorem assetCounts_eq_sum (s : State) (productId : Nat) :
    assetCounts s productId = s.assets.sum (·.share productId) := by
  rw [assetCounts, State.assetsOf, Table.sum_filter]
  exact Table.sum_congr fun asset _ => by simp [InventoryAsset.share]

theorem assetUnit_available : assetUnit .available = gain .available 1 + gain .total 1 := rfl

theorem assetUnit_sub {old new : AssetStatus} {oldBucket newBucket : Column}
    (hold : assetQuantityBucket old = some oldBucket)
    (hnew : assetQuantityBucket new = some newBucket) :
    assetUnit new - assetUnit old = move oldBucket newBucket 1 := by
  simp only [assetUnit, hold, hnew, move]
  abel

theorem held_add (q r : Quantities) : held (q + r) = held q + held r := by
  simp only [held, Pi.add_apply]
  omega

section Invariant

variable (s : State)

/-- The columns are sound, and count what they should. -/
structure Balanced (product : InventoryProduct) : Prop where
  sound : product.quantities.Sound
  reserved : product.trackingMode = .quantity → product.quantities .reserved = demand s product.id
  issued : product.trackingMode = .quantity → product.quantities .issued = outstanding s product.id
  mirrored : product.trackingMode = .individual → product.quantities =
      assetCounts s product.id + move .available .reserved (demand s product.id)

structure Untouched (item : RequestItem) : Prop where
  issued : item.issued = 0
  returned : item.returned = 0
  damaged : item.damaged = 0
  missing : item.missing = 0
  needsFix : item.needsFix = 0
  links : item.assetLinks = []

structure Filed (request : HardwareRequest) : Prop where
  accepted : ∀ item ∈ request.items, 0 ≤ item.accepted
  untouched : request.status = .pendingApproval ∨ request.status = .accepted →
    ∀ item ∈ request.items, Untouched item
  attributed : request.status = .accepted → ∃ item ∈ request.items, item.accepted ≠ 0

/-- The issued links name assets of the product, all out or none. -/
structure Linked (item : RequestItem) : Prop where
  complete : issuedAssetIds item = [] ∨
    ((issuedAssetIds item).length : Int) = remainingQuantity item
  assets : ∀ assetId ∈ issuedAssetIds item,
    ∃ asset, s.assets.get? assetId = some asset ∧ asset.productId = item.productId

/-- A checked-out loan's request is wholly out, with its assets. -/
structure Backs (loan : PublicToolLoan) (request : HardwareRequest) : Prop where
  found : s.requests.get? loan.requestId = some request
  makerspace : request.makerspaceId = loan.makerspaceId
  status : request.status = .issued
  items : ∀ item ∈ request.items, item.accepted = item.issued ∧ item.returned = 0 ∧
    item.damaged = 0 ∧ item.missing = 0 ∧ item.assetLinks = []
  assets : ∀ assetId ∈ loan.assetIds, ∃ asset, s.assets.get? assetId = some asset ∧
    asset.makerspaceId = loan.makerspaceId ∧
    ∃ item ∈ request.items, item.productId = asset.productId
  counted : ∀ product ∈ s.products, product.trackingMode = .individual →
    request.outstanding product.id = loanedAssets s loan product.id

/-- An item names a product of the request's makerspace. -/
def ItemsBound : Prop :=
  ∀ request ∈ s.requests, ∀ item ∈ request.items, ∃ product,
    s.products.get? item.productId = some product ∧ product.makerspaceId = request.makerspaceId

/-- Assets have an individual-tracked product of their makerspace. -/
def AssetsBound : Prop :=
  ∀ asset ∈ s.assets, ∃ product, s.products.get? asset.productId = some product ∧
    product.makerspaceId = asset.makerspaceId ∧ product.trackingMode = .individual

/-- An asset is issued exactly while one custody record holds it. -/
def InCustody : Prop :=
  ∀ asset ∈ s.assets, custody s asset.id = if asset.status = .issued then 1 else 0

/-- Checked-out loans are backed, returned ones closed, each with its own request. -/
structure Lent : Prop where
  backed : ∀ loan ∈ s.loans, loan.status = .checkedOut → ∃ request, Backs s loan request
  closed : ∀ loan ∈ s.loans, loan.status = .returned →
    ∃ request, s.requests.get? loan.requestId = some request ∧
      (request.status = .returned ∨ request.status = .closedWithIssue)
  distinct : ∀ loan ∈ s.loans, ∀ other ∈ s.loans,
    loan.requestId = other.requestId → loan.id = other.id

/-- At most one active QR code names an asset. -/
def Coded : Prop :=
  ∀ qr ∈ s.qrCodes, ∀ other ∈ s.qrCodes, qr.active → other.active →
    qr.targetType = .asset → other.targetType = .asset →
    qr.makerspaceId = other.makerspaceId → qr.targetId = other.targetId → qr.id = other.id

structure Recorded : Prop where
  items : ItemsBound s
  assets : AssetsBound s
  filed : ∀ request ∈ s.requests, Filed request
  linked : ∀ request ∈ s.requests, request.status.out → ∀ item ∈ request.items, Linked s item
  custody : InCustody s
  lent : Lent s
  coded : Coded s

structure Consistent : Prop extends Recorded s where
  balanced : ∀ product ∈ s.products, Balanced s product

end Invariant

end Lending
end SpaceWorks
