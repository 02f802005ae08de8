import SpaceWorks.Machines.Model

/-!
# The pooled consumable ledger

`service_consumable_pools.py` and `service_metering.py`: opening, the one writer `_apply`,
reservation and reconciliation, correction, retirement and manual usage; a received spool opens a
pool (`procurement.py`).  The rebinding at the end of `service_consumable_pools.py` makes the
metered `_apply` the writer; gram-only functions keep the prefix `legacy` here.
-/

namespace SpaceWorks
namespace Machines

open Checked Python

variable (s : State)

structure NewPool where
  newId : Nat
  makerspaceId : Nat
  material : String
  initialGrams : Option Int := none
  quantity : Option Int := none
  machineId : Option Nat := none
  machineTypeId : Option Nat := none
  color : String := ""
  unit : Option ConsumablePoolUnit := none
  isPublic : Bool := true

/-- `_grams`, and `_quantity` of `service_metering.py`. -/
def nonNegative (value : Int) (field message : String) : Except Error Int := do
  require (¬ value < 0) (.validation field message)
  return value

def grams (value : Int) (field : String) : Except Error Int :=
  nonNegative value field "Enter a non-negative gram amount."

def quantity (value : Int) (field : String) : Except Error Int :=
  nonNegative value field "Enter a non-negative quantity."

/-- The starting quantity `create_pool` takes from its two arguments. -/
def startingQuantity (new : NewPool) : Except Error Int :=
  match new.initialGrams, new.quantity with
  | some _, some _ =>
    throw (.validation "quantity" "Provide quantity or initial_grams, not both.")
  | some initial, none => return initial
  | none, some initial => return initial
  | none, none => throw (.validation "quantity" "A starting quantity is required.")

def scopedMachine (machineId : Option Nat) : Except Error (Option (Machine × MachineType)) :=
  match machineId with
  | none => return none
  | some id => do
    let machine ← orRefuse (s.machines.get? id) (.doesNotExist "Machine")
    let machineType ← orRefuse (s.machineTypes.get? machine.machineTypeId)
      (.doesNotExist "MachineType")
    return some (machine, machineType)

def scopedType (machineTypeId : Option Nat) : Except Error (Option MachineType) :=
  match machineTypeId with
  | none => return none
  | some id => do
    let machineType ← orRefuse (s.machineTypes.get? id) (.doesNotExist "MachineType")
    return some machineType

/-- A new pool's unit, by its type's scope or as given. -/
def newPoolUnit (new : NewPool) : Option MachineType → Except Error ConsumablePoolUnit
  | some scopedTo => typePoolUnit s scopedTo new.makerspaceId new.unit
  | none => return new.unit.getD .grams

def validateScopedPool (pool : MachineConsumablePool) :
    Option (Machine × MachineType) → Except Error Unit
  | some (_, machineType) => validatePool machineType pool none
  | none => return ()

def createPool (new : NewPool) : Except Error State := do
  let starting ← startingQuantity new
  let machine ← scopedMachine s new.machineId
  let machineType ← scopedType s new.machineTypeId
  let unit ← newPoolUnit s new ((machine.map Prod.snd).or machineType)
  let initial ← grams starting "initial_grams"
  require (strip new.material ≠ "") (.validation "material" "Material is required.")
  require (machine = none ∨ machineType = none)
    (.validation "machine_type" "Choose either machine or machine_type, not both.")
  require (∀ found ∈ machine, found.1.makerspaceId = new.makerspaceId)
    (.validation "machine" "Machine must belong to this makerspace.")
  require (∀ found ∈ machineType, found.makerspaceId = some new.makerspaceId
      ∨ (found.makerspaceId = none ∧ found.isBuiltin))
    (.validation "machine_type" "Machine type must be global or belong to this makerspace.")
  let pool : MachineConsumablePool :=
    { id := new.newId
      makerspaceId := new.makerspaceId
      machineId := new.machineId
      machineTypeId := new.machineTypeId
      material := strip new.material
      color := strip new.color
      unit := unit
      initialGrams := initial
      remainingGrams := initial
      isPublic := new.isPublic }
  validateScopedPool pool machine
  let pools ← s.pools.insertNew pool (.gate "duplicate primary key")
  return { s with pools := pools }

structure ReceivedSpool where
  newId : Nat
  makerspaceId : Nat
  material : String
  initialWeightGrams : Option Int := none
  remainingWeightGrams : Option (Option Int) := none
  printerId : Option Nat := none
  machineTypeId : Option Nat := none
  color : String := ""
  isActive : Bool := true

def checkPrinter (data : ReceivedSpool) : Option Nat → Except Error Unit
  | none => return ()
  | some printerId => do
    let printer ← orRefuse
      ((s.machines.get? printerId).filter fun machine =>
        machine.makerspaceId = data.makerspaceId &&
          (s.machineTypes.get? machine.machineTypeId).any fun machineType =>
            machineType.slug = "3d_printer")
      (.validation "printer" "Printer must belong to the same makerspace.")
    require (data.machineTypeId = none ∨ data.machineTypeId = some printer.machineTypeId)
      (.validation "machine_type" "This item cannot create a pool for another machine type.")

def createReceivedPool (data : ReceivedSpool) : Except Error State := do
  require (strip data.material ≠ "") (.validation "material" "This field is required.")
  let initial ← orRefuse data.initialWeightGrams
    (.validation "initial_weight_grams" "This field is required.")
  require (¬ initial < 0) (.validation "initial_weight_grams" "Must be zero or greater.")
  let remaining ← orRefuse (data.remainingWeightGrams.getD (some initial))
    (.validation "remaining_weight_grams" "Remaining weight cannot exceed initial weight.")
  require (¬ remaining < 0) (.validation "remaining_weight_grams" "Must be zero or greater.")
  require (¬ remaining > initial)
    (.validation "remaining_weight_grams" "Remaining weight cannot exceed initial weight.")
  checkPrinter s data data.printerId
  let pool : MachineConsumablePool :=
    { id := data.newId
      makerspaceId := data.makerspaceId
      machineId := data.printerId
      machineTypeId := if data.printerId = none then data.machineTypeId else none
      material := strip data.material
      color := strip data.color
      initialGrams := initial
      remainingGrams := remaining
      isActive := data.isActive }
  let pools ← s.pools.insertNew pool (.gate "duplicate primary key")
  return { s with pools := pools }

structure Posting where
  kind : Kind
  delta : Int
  serviceRequestId : Option Nat := none
  reason : String := ""
  meteringUnit : Option MeteringUnit := none

/-- The adjustment row `_apply` appends. -/
def Posting.row (posting : Posting) (pool : MachineConsumablePool) :
    MachineConsumableAdjustment :=
  { poolId := pool.id
    kind := posting.kind
    quantityDelta := posting.delta
    meteringUnit := posting.meteringUnit.getD (meteringUnitForPool pool.unit)
    serviceRequestId := posting.serviceRequestId
    reason := strip posting.reason }

def lockedPool (poolId : Nat) : Except Error MachineConsumablePool :=
  orRefuse (s.pools.get? poolId) (.doesNotExist "MachineConsumablePool")

/-- `_apply`: the only writer of a pool's balance after it was opened. -/
def apply (pool : MachineConsumablePool) (posting : Posting) : Except Error State := do
  let after := pool.remainingGrams + posting.delta
  require (¬ after < 0)
    (.validation "grams" s!"Only {decimalText pool.remainingGrams} {pool.unit.text} remain.")
  require (¬ after > pool.initialGrams)
    (.validation "grams" s!"Adjustment would exceed initial {pool.unit.text}.")
  return { s with
    adjustments := s.adjustments ++ [posting.row pool]
    pools := s.pools.put { pool with remainingGrams := after } }

def correctPool (poolId : Nat) (quantityDelta : Int) (reason : String) : Except Error State := do
  require (strip reason ≠ "") (.validation "reason" "A correction reason is required.")
  let locked ← lockedPool s poolId
  require (quantityDelta ≠ 0) (.validation "quantity_delta" "Adjustment cannot be zero.")
  apply s locked { kind := .correction, delta := quantityDelta, reason := reason }

def retirePool (poolId : Nat) (reason : String) : Except Error State := do
  require (strip reason ≠ "") (.validation "reason" "A retirement reason is required.")
  let locked ← lockedPool s poolId
  if locked.isActive then
    if locked.remainingGrams = 0 then
      return { s with pools := s.pools.put { locked with isActive := false } }
    else
      let s' ← apply s locked { kind := .retire, delta := -locked.remainingGrams, reason := reason }
      let emptied ← lockedPool s' poolId
      return { s' with pools := s'.pools.put { emptied with isActive := false } }
  else
    return s

def setPoolVisibility (poolId : Nat) (isPublic : Bool) : Except Error State := do
  let locked ← lockedPool s poolId
  return { s with pools := s.pools.put { locked with isPublic := isPublic } }

def lockedServiceRequest (requestId : Nat) : Except Error MachineServiceRequest :=
  orRefuse (s.requests.get? requestId) (.doesNotExist "MachineServiceRequest")

def typeOf (machine : Machine) : Except Error MachineType :=
  orRefuse (s.machineTypes.get? machine.machineTypeId) (.doesNotExist "MachineType")

def checkReservation (request : MachineServiceRequest) (pool : MachineConsumablePool)
    (machine : Machine) : Except Error Unit := do
  require pool.isActive (.validation "consumable_pool" "Consumable pool is retired.")
  require (pool.makerspaceId = request.makerspaceId ∧ poolServesMachine pool machine)
    (.validation "consumable_pool"
      "Consumable pool is incompatible with this machine service request.")
  let machineType ← typeOf s machine
  validatePool machineType pool
    (if isPrinterType machineType then request.capabilityPayload else none)

/-- The gram-only reservation the wrapper keeps for `planned_grams`. -/
def legacyReserveForRequest (request : MachineServiceRequest) (pool : MachineConsumablePool)
    (plannedGrams : Int) (machine : Machine) : Except Error (State × MachineServiceRequest) := do
  let planned ← grams plannedGrams "planned_grams"
  require (planned ≠ 0) (.validation "planned_grams" "Planned grams must be greater than zero.")
  checkReservation s request pool machine
  require (request.reservedGrams = 0)
    (.validation "planned_grams" "Consumable grams are already reserved.")
  let s' ← apply s pool { kind := .reserve, delta := -planned, serviceRequestId := some request.id }
  return (s', { request with
    runConsumablePoolId := some pool.id
    plannedGrams := planned
    reservedGrams := planned })

/-- `reserve_for_request`: exactly one of the planned amounts is given. -/
def reserveForRequest (request : MachineServiceRequest) (pool : MachineConsumablePool)
    (plannedGrams : Int) (plannedQuantity : Option Int) (machine : Machine) :
    Except Error (State × MachineServiceRequest) :=
  match plannedQuantity with
  | none => do
    let (s', row) ← legacyReserveForRequest s request pool plannedGrams machine
    let row := { row with
      meteringUnit := some .weight
      plannedQuantity := some row.plannedGrams
      reservedQuantity := some row.reservedGrams }
    return ({ s' with requests := s'.requests.put row }, row)
  | some planned => do
    let machineType ← typeOf s machine
    let unit := request.meteringUnit.getD (effectiveMeteringUnit s machineType request.makerspaceId)
    let amount ← quantity planned "planned_quantity"
    require (amount ≠ 0)
      (.validation "planned_quantity" "Planned quantity must be greater than zero.")
    require (poolUnitForMetering unit = some pool.unit)
      (.validation "consumable_pool"
        "Consumable pool unit is incompatible with this metering unit.")
    checkReservation s request pool machine
    require (request.reservedQuantity.getD 0 = 0)
      (.validation "planned_quantity" "Consumable quantity is already reserved.")
    let s' ← apply s pool
      { kind := .reserve, delta := -amount, serviceRequestId := some request.id,
        meteringUnit := some unit }
    let row := { request with
      runConsumablePoolId := some pool.id
      meteringUnit := some unit
      plannedQuantity := some amount
      reservedQuantity := some amount
      plannedGrams := if unit = .weight then amount else request.plannedGrams
      reservedGrams := if unit = .weight then amount else request.reservedGrams }
    return ({ s' with requests := s'.requests.put row }, row)

def isGenericReservation (request : MachineServiceRequest)
    (pool : Option MachineConsumablePool) : Bool :=
  let unit := (request.meteringUnit.or (pool.map fun p => meteringUnitForPool p.unit)).getD .weight
  (request.reservedQuantity ≠ none && unit ≠ .weight)
    || pool.any fun p => p.unit ≠ .grams

def settleReservation (request : MachineServiceRequest) (pool : MachineConsumablePool)
    (delta : Int) (reason : String) (unit : Option MeteringUnit) : Except Error State :=
  if delta = 0 then return s
  else
    apply s pool
      { kind := .reconcile, delta := delta, serviceRequestId := some request.id,
        reason := reason, meteringUnit := unit }

/-- The gram-only reconciliation behind the wrapper. -/
def legacyReconcileRequest (request : MachineServiceRequest) (pool : MachineConsumablePool)
    (actualGrams : Int) (reason : String) : Except Error (State × MachineServiceRequest) := do
  let actual ← grams actualGrams "actual_grams"
  let s' ← settleReservation s request pool (request.reservedGrams - actual) reason none
  return (s', { request with actualConsumedGrams := actual, reservedGrams := 0 })

/-- `reconcile_request`, for a request that has a run pool. -/
def reconcileRequest (request : MachineServiceRequest) (pool : MachineConsumablePool)
    (actualGrams : Int) (actualQuantity : Option Int) (reason : String) :
    Except Error (State × MachineServiceRequest) :=
  if actualQuantity = none ∧ ¬ isGenericReservation request (some pool) then do
    let (s', row) ← legacyReconcileRequest s request pool actualGrams reason
    let row := { row with
      meteringUnit := some .weight
      actualConsumedQuantity := some row.actualConsumedGrams
      reservedQuantity := some row.reservedGrams }
    return ({ s' with requests := s'.requests.put row }, row)
  else do
    let actual ← quantity (actualQuantity.getD (request.reservedQuantity.getD 0)) "actual_quantity"
    let unit := request.meteringUnit.getD (meteringUnitForPool pool.unit)
    let reserved := request.reservedQuantity.getD 0
    let s' ← settleReservation s request pool (reserved - actual) reason (some unit)
    let row := { request with
      actualConsumedQuantity := some actual
      reservedQuantity := some 0
      actualConsumedGrams := if unit = .weight then actual else request.actualConsumedGrams
      reservedGrams := if unit = .weight then 0 else request.reservedGrams }
    return ({ s' with requests := s'.requests.put row }, row)

structure ManualUsage where
  machineId : Nat
  durationMinutes : Int
  outcome : String
  percentComplete : Int := 100
  reason : String := ""
  grams : Int := 0
  quantity : Option Int := none
  meteringUnit : Option MeteringUnit := none
  poolId : Option Nat := none
  serviceRequestId : Option Nat := none
  note : String := ""
  price : Option Int := none

/-- The pool of a manual usage, with its compatibility checks. -/
def usagePool (machine : Machine) (machineType : MachineType) (poolId : Option Nat) :
    Except Error (Option MachineConsumablePool) :=
  match poolId with
  | none => return none
  | some id => do
    let pool ← lockedPool s id
    require (poolServesMachine pool machine)
      (.validation "consumable_pool" "Consumable pool is incompatible with this machine.")
    validatePool machineType pool none
    return some pool

def usedQuantity (consumedGrams : Int) : Option Int → Except Error Int
  | none => return consumedGrams
  | some value => grams value "quantity"

def checkUsageRequest (machine : Machine) : Option Nat → Except Error Unit
  | none => return ()
  | some requestId => do
    let request ← lockedServiceRequest s requestId
    require (request.makerspaceId = machine.makerspaceId)
      (.validation "service_request" "Service request must belong to this makerspace.")

/-- The debit of the pool a manual usage names, when it used anything. -/
def debitUsage (usage : ManualUsage) (consumed : Int) (unit : MeteringUnit) :
    Option MachineConsumablePool → Except Error State
  | none => return s
  | some pool =>
    if consumed = 0 then return s
    else
      apply s pool
        { kind := .manual, delta := -consumed, serviceRequestId := usage.serviceRequestId,
          reason := usage.reason, meteringUnit := some unit }

def logTypedManualUsage (usage : ManualUsage) : Except Error State := do
  let machine ← orRefuse (s.machines.get? usage.machineId) (.doesNotExist "Machine")
  let machineType ← typeOf s machine
  require (usage.outcome = "success" ∨ usage.outcome = "failed")
    (.validation "outcome" "Outcome must be success or failed.")
  require (¬ usage.durationMinutes < 0)
    (.validation "duration_minutes" "Duration must be a non-negative whole number.")
  require (0 ≤ usage.percentComplete ∧ usage.percentComplete ≤ 100)
    (.validation "percent_complete" "Percent must be between 0 and 100.")
  require (usage.outcome = "failed" → strip usage.reason ≠ "")
    (.validation "reason" "A failure reason is required.")
  let consumedGrams ← grams usage.grams "grams"
  let consumed ← usedQuantity consumedGrams usage.quantity
  let pool ← usagePool s machine machineType usage.poolId
  checkUsageRequest s machine usage.serviceRequestId
  let typeUnit := effectiveMeteringUnit s machineType machine.makerspaceId
  let unit := (usage.meteringUnit.or (pool.map fun p => meteringUnitForPool p.unit)).getD typeUnit
  require (∀ p ∈ pool, meteringUnitForPool p.unit = unit)
    (.validation "metering_unit" "Consumable pool unit is incompatible with this metering unit.")
  require (¬ (consumed ≠ 0 ∧ pool = none ∧ (unit = .minutes ∨ unit ≠ typeUnit)))
    (.validation "consumable_pool" "A consumable pool is required when quantity is recorded.")
  let entry : MachineUsageEntry :=
    { machineId := machine.id
      serviceRequestId := usage.serviceRequestId
      consumablePoolId := usage.poolId
      hours := roundHalfEven (usage.durationMinutes * usage.percentComplete) 60
      durationMinutes := usage.durationMinutes
      outcome := usage.outcome
      percentComplete := usage.percentComplete
      reason := strip usage.reason
      consumedGrams := consumedGrams
      meteringUnit := unit
      consumedQuantity := consumed
      note := strip usage.note
      price := usage.price }
  debitUsage { s with usageEntries := s.usageEntries ++ [entry] } usage consumed unit pool

end Machines
end SpaceWorks
