import SpaceWorks.Library.Runs
import SpaceWorks.Library.Checked
import SpaceWorks.Library.Table
import SpaceWorks.Library.Python

/-!
# Machines, consumable pools and service requests

The rows of `apps/machines` behind ledger and workflow, the metering units (`metering.py`,
`type_settings.py`) and the compatibility checks (`consumable_scope.py`, `printer_capabilities.py`).
Amounts are hundredths; texts compared by `casefold` are stored folded.
-/

namespace SpaceWorks
namespace Machines

open Checked

inductive MeteringUnit
  | minutes
  | weight
  | volume
  | length
  | count
  deriving DecidableEq

inductive ConsumablePoolUnit
  | grams
  | milliliters
  | millimeters
  | count
  deriving DecidableEq

def ConsumablePoolUnit.text : ConsumablePoolUnit → String
  | .grams => "grams"
  | .milliliters => "milliliters"
  | .millimeters => "millimeters"
  | .count => "count"

def poolUnitForMetering : MeteringUnit → Option ConsumablePoolUnit
  | .weight => some .grams
  | .volume => some .milliliters
  | .length => some .millimeters
  | .count => some .count
  | .minutes => none

def meteringUnitForPool : ConsumablePoolUnit → MeteringUnit
  | .grams => .weight
  | .milliliters => .volume
  | .millimeters => .length
  | .count => .count

theorem poolUnitForMetering_eq_some {unit : MeteringUnit} {poolUnit : ConsumablePoolUnit} :
    poolUnitForMetering unit = some poolUnit ↔ meteringUnitForPool poolUnit = unit := by
  cases unit <;> cases poolUnit <;> simp [poolUnitForMetering, meteringUnitForPool]

inductive RequestStatus
  | pending
  | accepted
  | inProgress
  | completed
  | collected
  | rejected
  | failed
  deriving DecidableEq

def RequestStatus.text : RequestStatus → String
  | .pending => "pending"
  | .accepted => "accepted"
  | .inProgress => "in_progress"
  | .completed => "completed"
  | .collected => "collected"
  | .rejected => "rejected"
  | .failed => "failed"

inductive MachineStatus
  | idle
  | running
  | reserved
  | maintenance
  | offline
  deriving DecidableEq

inductive Kind
  | reserve
  | reconcile
  | manual
  | correction
  | retire

inductive AllocationPolicy
  | firstIdle
  | staffSelect
  deriving DecidableEq

structure MachineType where
  id : Nat
  makerspaceId : Option Nat := none
  slug : String := ""
  isBuiltin : Bool := true
  meteringUnit : MeteringUnit := .weight
  usesConsumables : Bool := true
  acceptedMaterials : List String := []
  acceptedColours : List String := []

structure TypeOverride where
  makerspaceId : Nat
  machineTypeId : Nat
  meteringUnit : Option MeteringUnit := none
  usesConsumables : Option Bool := none

structure Machine where
  id : Nat
  makerspaceId : Nat
  machineTypeId : Nat
  status : MachineStatus := .idle
  isActive : Bool := true

structure ServiceQueue where
  id : Nat
  makerspaceId : Nat
  machineTypeId : Nat
  isActive : Bool := true
  capacity : Option Nat := none
  allocationPolicy : AllocationPolicy := .staffSelect

structure MachineConsumablePool where
  id : Nat
  makerspaceId : Nat
  machineId : Option Nat := none
  machineTypeId : Option Nat := none
  material : String := ""
  color : String := ""
  unit : ConsumablePoolUnit := .grams
  initialGrams : Int
  remainingGrams : Int
  isActive : Bool := true
  isPublic : Bool := true
  deriving DecidableEq

structure MachineConsumableAdjustment where
  poolId : Nat
  kind : Kind
  quantityDelta : Int
  meteringUnit : MeteringUnit
  serviceRequestId : Option Nat := none
  reason : String := ""

/-- The part of a printer's `capability_payload` the pool check reads. -/
structure PrinterPayload where
  requestedMaterial : String
  requestedColor : String
  noFilamentPreference : Bool := false
  deriving DecidableEq

structure MachineServiceRequest where
  id : Nat
  makerspaceId : Nat
  queueId : Option Nat := none
  bucketMachineId : Option Nat := none
  status : RequestStatus := .pending
  assignedMachineId : Option Nat := none
  reason : String := ""
  estimatedMinutes : Int := 0
  actualMinutes : Int := 0
  failPercentComplete : Int := 0
  capabilityPayload : Option PrinterPayload := none
  plannedGrams : Int := 0
  reservedGrams : Int := 0
  actualConsumedGrams : Int := 0
  meteringUnit : Option MeteringUnit := none
  plannedQuantity : Option Int := none
  reservedQuantity : Option Int := none
  actualConsumedQuantity : Option Int := none
  runConsumablePoolId : Option Nat := none
  deriving DecidableEq

structure MachineUsageEntry where
  machineId : Nat
  serviceRequestId : Option Nat
  consumablePoolId : Option Nat
  hours : Int
  durationMinutes : Int
  outcome : String
  percentComplete : Int
  reason : String
  consumedGrams : Int
  meteringUnit : MeteringUnit
  consumedQuantity : Int
  note : String
  price : Option Int

instance : Keyed MachineType Nat := ⟨MachineType.id⟩

instance : Keyed TypeOverride (Nat × Nat) := ⟨fun row => (row.makerspaceId, row.machineTypeId)⟩

instance : Keyed Machine Nat := ⟨Machine.id⟩

instance : Keyed ServiceQueue Nat := ⟨ServiceQueue.id⟩

instance : Keyed MachineConsumablePool Nat := ⟨MachineConsumablePool.id⟩

instance : Keyed MachineServiceRequest Nat := ⟨MachineServiceRequest.id⟩

@[simp] theorem key_machine (machine : Machine) : key machine = machine.id := rfl

@[simp] theorem key_pool (pool : MachineConsumablePool) : key pool = pool.id := rfl

@[simp] theorem key_request (request : MachineServiceRequest) : key request = request.id := rfl

inductive Error
  | validation (field message : String)
  | validationText (message : String)
  | consumptionInvalid (message : String)
  | machineUnavailable (message : String)
  | invalidTransition (message : String)
  | doesNotExist (model : String)
  /-- A refusal of another app, or the debit of own consumables. -/
  | gate (message : String)

structure State where
  machineTypes : Table MachineType
  overrides : Table TypeOverride
  machines : Table Machine
  queues : Table ServiceQueue
  pools : Table MachineConsumablePool
  adjustments : List MachineConsumableAdjustment
  requests : Table MachineServiceRequest
  usageEntries : List MachineUsageEntry

section Units

variable (s : State)

/-- `settings_from_config`: the unit and the consumables switch. -/
def settingsFromConfig (machineType : MachineType) (row : Option TypeOverride) :
    MeteringUnit × Bool :=
  let unit := (row.bind TypeOverride.meteringUnit).getD machineType.meteringUnit
  let uses := (row.bind TypeOverride.usesConsumables).getD machineType.usesConsumables
  (unit, if unit = .minutes then false else uses)

/-- `effective_type_config`; only global types take the makerspace's row. -/
def effectiveTypeConfig (machineType : MachineType) (makerspaceId : Nat) : MeteringUnit × Bool :=
  settingsFromConfig machineType <|
    if machineType.makerspaceId = none then
      s.overrides.get? (makerspaceId, machineType.id)
    else none

def effectiveMeteringUnit (machineType : MachineType) (makerspaceId : Nat) : MeteringUnit :=
  (effectiveTypeConfig s machineType makerspaceId).1

def typePoolUnit (machineType : MachineType) (makerspaceId : Nat)
    (requested : Option ConsumablePoolUnit) : Except Error ConsumablePoolUnit := do
  let (unit, uses) := effectiveTypeConfig s machineType makerspaceId
  let derived ← orRefuse (if uses then poolUnitForMetering unit else none)
    (.validation "machine_type" "This machine type does not use consumable pools.")
  require (requested = none ∨ requested = some derived)
    (.validation "unit" s!"Consumable pools for this machine type use {derived.text}.")
  return derived

end Units

def poolServesMachine (pool : MachineConsumablePool) (machine : Machine) : Bool :=
  pool.makerspaceId = machine.makerspaceId &&
    (pool.machineId = some machine.id
      || (pool.machineId = none && pool.machineTypeId = some machine.machineTypeId)
      || (pool.machineId = none && pool.machineTypeId = none))

def isPrinterType (machineType : MachineType) : Bool :=
  machineType.makerspaceId = none && machineType.slug = "3d_printer"

def validatePool (machineType : MachineType) (pool : MachineConsumablePool)
    (payload : Option PrinterPayload) : Except Error Unit :=
  if isPrinterType machineType then do
    require (pool.material ∈ machineType.acceptedMaterials)
      (.validation "consumable_pool" "Pool material is not accepted by this printer type.")
    require (pool.color ∈ machineType.acceptedColours)
      (.validation "consumable_pool" "Pool colour is not accepted by this printer type.")
    match payload with
    | none => return ()
    | some payload =>
      require (payload.noFilamentPreference ∨
          (pool.material = payload.requestedMaterial ∧ pool.color = payload.requestedColor))
        (.validation "consumable_pool" "Pool material and colour must match the print request.")
  else return ()

end Machines
end SpaceWorks
