import SpaceWorks.Machines.Workflow

/-!
# The ledger of a consumable pool

A balance is a cache over the adjustment rows.  `posted` totals those of a pool, `runPosted` those
of a request's own run.
-/

namespace SpaceWorks
namespace Machines

open Checked TransactionalSystem List

structure Books where
  pools : Table MachineConsumablePool
  adjustments : List MachineConsumableAdjustment
  requests : Table MachineServiceRequest

def State.books (s : State) : Books :=
  ⟨s.pools, s.adjustments, s.requests⟩

@[simp] theorem books_pools (s : State) : s.books.pools = s.pools := rfl

@[simp] theorem books_adjustments (s : State) : s.books.adjustments = s.adjustments := rfl

@[simp] theorem books_requests (s : State) : s.books.requests = s.requests := rfl

/-- The kinds of adjustment that a request's own run makes. -/
def Kind.isRun : Kind → Bool
  | .reserve => true
  | .reconcile => true
  | _ => false

def posted (adjustments : List MachineConsumableAdjustment) (poolId : Nat) : Int :=
  ((adjustments.filter fun row => row.poolId = poolId).map
    MachineConsumableAdjustment.quantityDelta).sum

def MachineConsumableAdjustment.isRunOf (requestId poolId : Nat)
    (row : MachineConsumableAdjustment) : Bool :=
  row.serviceRequestId = some requestId && row.kind.isRun && row.poolId = poolId

def runPosted (adjustments : List MachineConsumableAdjustment) (requestId poolId : Nat) : Int :=
  ((adjustments.filter (MachineConsumableAdjustment.isRunOf requestId poolId)).map
    MachineConsumableAdjustment.quantityDelta).sum

@[simp] theorem posted_append_singleton
    (adjustments : List MachineConsumableAdjustment) (row : MachineConsumableAdjustment)
    (poolId : Nat) :
    posted (adjustments ++ [row]) poolId =
      posted adjustments poolId + if row.poolId = poolId then row.quantityDelta else 0 := by
  by_cases h : row.poolId = poolId <;> simp [posted, h]

@[simp] theorem runPosted_append_singleton
    (adjustments : List MachineConsumableAdjustment) (row : MachineConsumableAdjustment)
    (requestId poolId : Nat) :
    runPosted (adjustments ++ [row]) requestId poolId = runPosted adjustments requestId poolId +
        if row.isRunOf requestId poolId then row.quantityDelta else 0 := by
  by_cases h : row.isRunOf requestId poolId <;>
    simp [runPosted, h]

theorem posted_eq_zero {adjustments : List MachineConsumableAdjustment} {poolId : Nat}
    (h : ∀ row ∈ adjustments, row.poolId ≠ poolId) :
    posted adjustments poolId = 0 := by
  have hnone : (adjustments.filter fun row => row.poolId = poolId) = [] := by
    simpa using h
  simp [posted, hnone]

theorem runPosted_eq_zero {adjustments : List MachineConsumableAdjustment} {requestId : Nat}
    (h : ∀ row ∈ adjustments, row.serviceRequestId ≠ some requestId) (poolId : Nat) :
    runPosted adjustments requestId poolId = 0 := by
  have hnone :
      adjustments.filter (MachineConsumableAdjustment.isRunOf requestId poolId) = [] := by
    refine filter_eq_nil_iff.mpr fun row hrow => ?_
    simp [MachineConsumableAdjustment.isRunOf, h row hrow]
  simp [runPosted, hnone]

section Accounts

def RequestStatus.isFinished : RequestStatus → Bool
  | .completed => true
  | .collected => true
  | .failed => true
  | _ => false

namespace MachineServiceRequest

variable {request : MachineServiceRequest}

/-- A request's reservation, and its consumption afterwards. -/
def charged (request : MachineServiceRequest) : Int :=
  if request.status = .inProgress then request.reservedQuantity.getD 0
  else if request.status.isFinished then request.actualConsumedQuantity.getD 0
  else 0

def chargedAt (request : MachineServiceRequest) (poolId : Nat) : Int :=
  if request.runConsumablePoolId = some poolId then request.charged else 0

def outstandingAt (request : MachineServiceRequest) (poolId : Nat) : Int :=
  if request.status = .inProgress ∧ request.runConsumablePoolId = some poolId then
    request.reservedQuantity.getD 0
  else 0

/-- The accounting fields of a request agree with its status. -/
structure Accounted (request : MachineServiceRequest) : Prop where
  unstarted : request.status ≠ .inProgress → request.status.isFinished = false →
    request.runConsumablePoolId = none ∧ request.reservedGrams = 0 ∧ request.reservedQuantity = none
  reserved_nonneg : request.status = .inProgress → 0 ≤ request.reservedQuantity.getD 0
  reserved_grams : request.status = .inProgress → request.runConsumablePoolId ≠ none →
    request.reservedGrams = request.reservedQuantity.getD 0 ∨
      (request.reservedQuantity ≠ none ∧ ∃ unit ≠ MeteringUnit.weight,
        request.meteringUnit = some unit)

theorem chargedAt_of_unpooled (h : request.runConsumablePoolId = none) (poolId : Nat) :
    request.chargedAt poolId = 0 := by
  simp [chargedAt, h]

theorem outstandingAt_of_unpooled (h : request.runConsumablePoolId = none) (poolId : Nat) :
    request.outstandingAt poolId = 0 := by
  simp [outstandingAt, h]

theorem outstandingAt_nonneg (h : request.Accounted) (poolId : Nat) :
    0 ≤ request.outstandingAt poolId := by
  unfold outstandingAt
  split
  · next hrun => exact h.reserved_nonneg hrun.1
  · exact le_refl 0

end MachineServiceRequest

end Accounts

inductive Opening (pool : MachineConsumablePool) : Op → Int → Prop
  | created {new : NewPool} (hid : new.newId = pool.id) :
      Opening pool (.createPool new) pool.initialGrams
  /-- A received spool opens with the weight that is left on it. -/
  | received {data : ReceivedSpool} {remaining : Int} (hid : data.newId = pool.id)
      (hremaining : data.remainingWeightGrams.getD data.initialWeightGrams = some remaining) :
      Opening pool (.createReceivedPool data) remaining

/-- Two rows of one pool that differ in labels only. -/
structure SamePool (pool pool' : MachineConsumablePool) : Prop where
  id : pool'.id = pool.id
  initial : pool'.initialGrams = pool.initialGrams

inductive Effect (b : Books) (op : Op) : Books → Prop
  | idle : Effect b op b
  | opened {pool : MachineConsumablePool} (hnew : b.pools.get? (key pool) = none)
      (hopening : Opening pool op pool.remainingGrams)
      (hnonneg : 0 ≤ pool.remainingGrams) (hcapped : pool.remainingGrams ≤ pool.initialGrams) :
      Effect b op { b with pools := b.pools.insert pool hnew }
  | relabelled {pool pool' : MachineConsumablePool} (hpool : pool ∈ b.pools)
      (hsame : SamePool pool pool') (hbalance : pool'.remainingGrams = pool.remainingGrams) :
      Effect b op { b with pools := b.pools.put pool' }
  | posted {pool pool' : MachineConsumablePool} {row : MachineConsumableAdjustment}
      (hpool : pool ∈ b.pools) (hsame : SamePool pool pool') (hrow : row.poolId = pool.id)
      (hbalance : pool'.remainingGrams = pool.remainingGrams + row.quantityDelta)
      (hnonneg : 0 ≤ pool'.remainingGrams) (hcapped : pool'.remainingGrams ≤ pool.initialGrams)
      (hkind : row.kind.isRun = false)
      (hrequest : ∀ requestId, row.serviceRequestId = some requestId →
        (b.requests.get? requestId).isSome)
      (hcredit : row.quantityDelta ≤ 0 ∨
        ∃ reason, op = .correctPool pool.id row.quantityDelta reason) :
      Effect b op { b with pools := b.pools.put pool', adjustments := b.adjustments ++ [row] }
  | arrived {request : MachineServiceRequest} (hnew : b.requests.get? (key request) = none)
      (haccounted : request.Accounted) (hunpooled : request.runConsumablePoolId = none) :
      Effect b op { b with requests := b.requests.insert request hnew }
  | moved {request request' : MachineServiceRequest} (hrequest : request ∈ b.requests)
      (hid : request'.id = request.id) (haccounted : request'.Accounted)
      (hcharged : ∀ poolId, request'.chargedAt poolId = request.chargedAt poolId)
      (houtstanding : ∀ poolId, request'.outstandingAt poolId ≤ request.outstandingAt poolId) :
      Effect b op { b with requests := b.requests.put request' }
  /-- The run of a request posts a reservation or its reconciliation. -/
  | ran {request request' : MachineServiceRequest} {pool pool' : MachineConsumablePool}
      {row : MachineConsumableAdjustment} (hrequest : request ∈ b.requests)
      (hid : request'.id = request.id) (haccounted : request'.Accounted)
      (hpool : pool ∈ b.pools) (hsame : SamePool pool pool') (hrow : row.poolId = pool.id)
      (hbalance : pool'.remainingGrams = pool.remainingGrams + row.quantityDelta)
      (hnonneg : 0 ≤ pool'.remainingGrams) (hcapped : pool'.remainingGrams ≤ pool.initialGrams)
      (hkind : row.kind.isRun = true) (howner : row.serviceRequestId = some request.id)
      (hcharged : ∀ poolId, request'.chargedAt poolId =
        request.chargedAt poolId - if poolId = pool.id then row.quantityDelta else 0)
      (houtstanding : ∀ poolId, request'.outstandingAt poolId
          + (if poolId = pool.id then row.quantityDelta else 0)
        ≤ request.outstandingAt poolId) :
      Effect b op
        { pools := b.pools.put pool'
          adjustments := b.adjustments ++ [row]
          requests := b.requests.put request' }

end Machines
end SpaceWorks
