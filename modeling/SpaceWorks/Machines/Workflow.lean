import SpaceWorks.Machines.Pools

/-!
# The service workflow

`service_workflow_actions.py` and the reprints of `service_workflow_followups.py`, staff operations
on a status (`services.py`), and one step function.  Each operation is one step; the answers of
other apps arrive as its `gate`.
-/

namespace SpaceWorks
namespace Machines

open Checked

variable (s : State)

def allowedEdges : RequestStatus → List RequestStatus
  | .pending => [.accepted, .rejected]
  | .accepted => [.inProgress]
  | .inProgress => [.completed, .failed]
  | .completed => [.collected]
  | _ => []

def requireEdge (request : MachineServiceRequest) (next : RequestStatus) : Except Error Unit :=
  require (next ∈ allowedEdges request.status)
    (.invalidTransition
      s!"Cannot transition machine service request from {request.status.text} to {next.text}.")

def requireAvailable (machine : Machine) : Except Error Unit :=
  require (machine.isActive ∧ machine.status = .idle)
    (.machineUnavailable "Machine is not available for service requests.")

def checkedMinutes (value : Int) (field : String) : Except Error Int := do
  require (¬ value < 0) (.consumptionInvalid s!"{field} must be a non-negative whole number.")
  return value

def checkedPercent (value : Int) : Except Error Int := do
  let parsed ← checkedMinutes value "percent_complete"
  require (¬ parsed > 100) (.consumptionInvalid "percent_complete must be between 0 and 100.")
  return parsed

def estimatedMinutes (current : Int) : Option Int → Except Error Int
  | none => return current
  | some value => checkedMinutes value "estimated_minutes"

inductive Target
  | queue (id : Nat)
  | machine (id : Nat)

structure Submission where
  newId : Nat
  target : Target
  capabilityPayload : Option PrinterPayload := none
  gate : Except String Unit := .ok ()

def submitToQueue (submission : Submission) (queueId : Nat) :
    Except Error MachineServiceRequest := do
  let queue ← orRefuse (s.queues.get? queueId) (.doesNotExist "ServiceQueue")
  let machineType ← orRefuse (s.machineTypes.get? queue.machineTypeId) (.doesNotExist "MachineType")
  require (machineType.makerspaceId = none ∨ machineType.makerspaceId = some queue.makerspaceId)
    (.machineUnavailable "Service queue machine type is outside its makerspace.")
  submission.gate.mapError Error.gate
  require queue.isActive (.machineUnavailable "Service queue is inactive.")
  return { id := submission.newId
           makerspaceId := queue.makerspaceId
           queueId := some queue.id
           capabilityPayload := submission.capabilityPayload }

/-- `submit` on one machine: its default bucket takes the request. -/
def submitToMachine (submission : Submission) (machineId : Nat) :
    Except Error MachineServiceRequest := do
  let machine ← orRefuse (s.machines.get? machineId) (.doesNotExist "Machine")
  let machineType ← typeOf s machine
  require (machineType.makerspaceId = none ∨ machineType.makerspaceId = some machine.makerspaceId)
    (.machineUnavailable "Machine or machine type is outside its makerspace.")
  submission.gate.mapError Error.gate
  requireAvailable machine
  return { id := submission.newId
           makerspaceId := machine.makerspaceId
           bucketMachineId := some machine.id
           assignedMachineId := some machine.id
           capabilityPayload := submission.capabilityPayload }

def submittedRow (submission : Submission) : Except Error MachineServiceRequest :=
  match submission.target with
  | .queue queueId => submitToQueue s submission queueId
  | .machine machineId => submitToMachine s submission machineId

def submit (submission : Submission) : Except Error State := do
  let row ← submittedRow s submission
  let requests ← s.requests.insertNew row (.gate "duplicate primary key")
  return { s with requests := requests }

def createReprint (requestId newId : Nat) (gate : Except String Unit) : Except Error State := do
  gate.mapError Error.gate
  let original ← lockedServiceRequest s requestId
  require (original.status = .failed ∨ original.status = .completed ∨ original.status = .collected)
    (.invalidTransition "Only terminal service requests can be reprinted.")
  let child : MachineServiceRequest :=
    { id := newId
      makerspaceId := original.makerspaceId
      queueId := original.queueId
      bucketMachineId := original.bucketMachineId
      status := .accepted
      assignedMachineId :=
        if original.bucketMachineId = none then none else original.assignedMachineId
      estimatedMinutes := original.estimatedMinutes
      capabilityPayload := original.capabilityPayload
      plannedGrams := original.plannedGrams }
  let requests ← s.requests.insertNew child (.gate "duplicate primary key")
  return { s with requests := requests }

def acceptedPlan (current : Int) : Option Int → Except Error Int
  | none => return current
  | some planned => do
    require (¬ planned < 0) (.consumptionInvalid "planned_grams must be non-negative.")
    return planned

def accept (requestId : Nat) (estimated plannedGrams : Option Int) (note : String)
    (gate : Except String Unit) : Except Error State := do
  let locked ← lockedServiceRequest s requestId
  gate.mapError Error.gate
  requireEdge locked .accepted
  let minutes ← estimatedMinutes locked.estimatedMinutes estimated
  let planned ← acceptedPlan locked.plannedGrams plannedGrams
  let row := { locked with
    status := .accepted
    estimatedMinutes := minutes
    plannedGrams := planned
    reason := if note = "" then locked.reason else Python.strip note }
  return { s with requests := s.requests.put row }

def reject (requestId : Nat) (reason : String) (gate : Except String Unit) :
    Except Error State := do
  require (Python.strip reason ≠ "") (.consumptionInvalid "A rejection reason is required.")
  let locked ← lockedServiceRequest s requestId
  gate.mapError Error.gate
  requireEdge locked .rejected
  let row := { locked with status := .rejected, reason := Python.strip reason }
  return { s with requests := s.requests.put row }

/-- The arguments of `start`; `inScope` is for the actor's role. -/
structure StartArgs where
  requestId : Nat
  inScope : Machine → Bool := fun _ => true
  machineId : Option Nat := none
  estimatedMinutes : Option Int := none
  consumablePoolId : Option Nat := none
  plannedGrams : Option Int := none
  plannedQuantity : Option Int := none
  gate : Except String Unit := .ok ()

def requestQueue (request : MachineServiceRequest) : Except Error (Option ServiceQueue) :=
  match request.queueId with
  | none => return none
  | some queueId => do
    let queue ← orRefuse (s.queues.get? queueId) (.doesNotExist "ServiceQueue")
    return some queue

/-- `order_by("id").first()` of the machines with a property. -/
def firstMachine (p : Machine → Bool) : Option Machine :=
  (s.machines.rows.filter p).foldl
    (fun best machine =>
      match best with
      | none => some machine
      | some found => if machine.id < found.id then some machine else some found)
    none

def startMachine (args : StartArgs) (request : MachineServiceRequest)
    (queue : Option ServiceQueue) : Except Error (Option Machine) :=
  match args.machineId, queue with
  | some machineId, _ =>
    return (s.machines.get? machineId).filter args.inScope
  | none, some queue =>
    if queue.allocationPolicy = .firstIdle then
      return firstMachine s fun machine =>
        args.inScope machine && machine.makerspaceId = request.makerspaceId
          && machine.machineTypeId = queue.machineTypeId
          && machine.isActive
          && machine.status = .idle
    else
      throw (.machineUnavailable "A machine is required to start service.")
  | none, none =>
    throw (.machineUnavailable "A machine is required to start service.")

def checkBucketMachine (request : MachineServiceRequest) (machine : Machine) :
    Except Error Unit :=
  match request.bucketMachineId with
  | none => return ()
  | some bucketMachineId => do
    let bucketMachine ← orRefuse (s.machines.get? bucketMachineId) (.doesNotExist "Machine")
    require (machine.id = bucketMachine.id ∨ machine.machineTypeId = bucketMachine.machineTypeId)
      (.machineUnavailable "Machine is not the same type as the one this request was made for.")

/-- The capacity of a queue counts its requests in progress. -/
def checkQueueCapacity (queue : Option ServiceQueue) : Except Error Unit :=
  match queue.bind ServiceQueue.capacity with
  | none => return ()
  | some capacity =>
    require (¬ (s.requests.rows.filter fun request =>
        request.queueId = queue.map ServiceQueue.id
          && request.status = .inProgress).length ≥ capacity)
      (.machineUnavailable "Service queue capacity has been reached.")

def requirePrinterStartInputs (machineType : MachineType) (minutes : Int) (args : StartArgs) :
    Except Error Unit :=
  if isPrinterType machineType then do
    require (¬ minutes ≤ 0)
      (.consumptionInvalid "Printer service requires positive estimated_minutes before starting.")
    require (¬ (args.consumablePoolId = none ∨ args.plannedGrams = none))
      (.consumptionInvalid
        "Printer service requires a consumable pool and planned grams before starting.")
  else return ()

def recordUnpooledPlan (request : MachineServiceRequest) (machineType : MachineType)
    (planned : Int) : Except Error MachineServiceRequest := do
  let unit := effectiveMeteringUnit s machineType request.makerspaceId
  require (unit ≠ .minutes)
    (.consumptionInvalid
      "A consumable pool and exactly one planned quantity must be supplied together.")
  require (¬ planned < 0) (.consumptionInvalid "planned_quantity must be non-negative.")
  return { request with
    meteringUnit := some unit
    plannedQuantity := some planned
    plannedGrams := if unit = .weight then planned else request.plannedGrams }

/-- `start` reserves nothing, an unpooled plan, or from a pool, which drops a new estimate. -/
def startReservation (args : StartArgs) (request : MachineServiceRequest) (minutes : Int)
    (machine : Machine) (machineType : MachineType) :
    Except Error (State × MachineServiceRequest) :=
  match args.consumablePoolId, args.plannedGrams, args.plannedQuantity with
  | none, none, none => return (s, { request with estimatedMinutes := minutes })
  | none, none, some planned => do
    let row ← recordUnpooledPlan s { request with estimatedMinutes := minutes } machineType planned
    return (s, row)
  | some poolId, some planned, none => do
    let pool ← orRefuse
      ((s.pools.get? poolId).filter fun pool => pool.makerspaceId = request.makerspaceId)
      (.consumptionInvalid "Consumable pool is not available for this service request.")
    reserveForRequest s request pool planned none machine
  | some poolId, none, some planned => do
    let pool ← orRefuse
      ((s.pools.get? poolId).filter fun pool => pool.makerspaceId = request.makerspaceId)
      (.consumptionInvalid "Consumable pool is not available for this service request.")
    reserveForRequest s request pool 0 (some planned) machine
  | _, _, _ =>
    throw (.consumptionInvalid
      "A consumable pool and exactly one planned quantity must be supplied together.")

def start (args : StartArgs) : Except Error State := do
  let locked ← lockedServiceRequest s args.requestId
  args.gate.mapError Error.gate
  requireEdge locked .inProgress
  let queue ← requestQueue s locked
  let found ← startMachine s args locked queue
  let machine ← orRefuse (found.filter fun m => m.makerspaceId = locked.makerspaceId)
    (.machineUnavailable "Machine is not available for this service request.")
  require (∀ q ∈ queue, machine.machineTypeId = q.machineTypeId)
    (.machineUnavailable "Machine is not compatible with this service queue.")
  checkBucketMachine s locked machine
  requireAvailable machine
  checkQueueCapacity s queue
  let minutes ← estimatedMinutes locked.estimatedMinutes args.estimatedMinutes
  let machineType ← typeOf s machine
  requirePrinterStartInputs machineType minutes args
  let (s', row) ← startReservation s args locked minutes machine machineType
  return { s' with
    requests := s'.requests.put
      { row with status := .inProgress, assignedMachineId := some machine.id }
    machines := s'.machines.put { machine with status := .running } }

def lockAssignedMachine (request : MachineServiceRequest) : Except Error Machine := do
  let machineId ← orRefuse request.assignedMachineId
    (.machineUnavailable "No machine is assigned to this service request.")
  orRefuse (s.machines.get? machineId) (.doesNotExist "Machine")

def releaseQueueMachine (machineId : Nat) : Table Machine :=
  match s.machines.get? machineId with
  | none => s.machines
  | some machine =>
    if machine.status = .running then s.machines.put { machine with status := .idle }
    else s.machines

def recordUnpooledActual (request : MachineServiceRequest) (machineType : MachineType)
    (actualGrams actualQuantity : Option Int) : Except Error MachineServiceRequest :=
  let unit := effectiveMeteringUnit s machineType request.makerspaceId
  let measured := actualQuantity.or (if unit = .weight then actualGrams else none)
  match (if unit = .minutes then none else measured) with
  | none => return { request with meteringUnit := some unit }
  | some quantity => do
    require (¬ quantity < 0) (.consumptionInvalid "actual_quantity must be non-negative.")
    return { request with
      meteringUnit := some unit
      actualConsumedQuantity := some quantity
      actualConsumedGrams := if unit = .weight then quantity else request.actualConsumedGrams }

structure FinishArgs where
  requestId : Nat
  actualMinutes : Int
  actualGrams : Option Int := none
  actualQuantity : Option Int := none
  gate : Except String Unit := .ok ()

/-- A finished run's consumption; `settle` gives the amounts of the reconciliation. -/
def finishConsumption (request : MachineServiceRequest) (machineType : MachineType)
    (args : FinishArgs) (actualGrams : Int) (actualQuantity : Option Int) (reason : String) :
    Except Error (State × MachineServiceRequest) :=
  match request.runConsumablePoolId with
  | none => do
    let row ← recordUnpooledActual s request machineType args.actualGrams args.actualQuantity
    return (s, row)
  | some poolId => do
    let pool ← lockedPool s poolId
    reconcileRequest s request pool actualGrams actualQuantity reason

def complete (args : FinishArgs) : Except Error State := do
  let locked ← lockedServiceRequest s args.requestId
  requireEdge locked .completed
  let machine ← lockAssignedMachine s locked
  let minutes ← checkedMinutes args.actualMinutes "actual_minutes"
  args.gate.mapError Error.gate
  let machineType ← typeOf s machine
  let (s', row) ← finishConsumption s locked machineType args
    (args.actualGrams.getD locked.plannedGrams) args.actualQuantity ""
  return { s' with
    requests := s'.requests.put { row with status := .completed, actualMinutes := minutes }
    machines := releaseQueueMachine s' machine.id }

/-- `_failed_share`, as `_quantity` then rounds it to hundredths. -/
def failedShare (reserved percent : Int) (unit : Option MeteringUnit) : Int :=
  if unit = some .count then Python.roundHalfUp (reserved * percent) 10000 * 100
  else Python.roundHalfEven (reserved * percent) 100

/-- The actual amounts `fail` reconciles with when none were measured. -/
def failedAmounts (request : MachineServiceRequest) (percent : Int) (args : FinishArgs) :
    Int × Option Int :=
  match request.reservedQuantity with
  | some reserved =>
    if request.meteringUnit ≠ some .weight then
      (0, some (args.actualQuantity.getD (failedShare reserved percent request.meteringUnit)))
    else
      ((args.actualGrams.or args.actualQuantity).getD
        (Python.roundHalfEven (request.plannedGrams * percent) 100), none)
  | none =>
    ((args.actualGrams.or args.actualQuantity).getD
      (Python.roundHalfEven (request.plannedGrams * percent) 100), none)

def fail (args : FinishArgs) (reason : String) (percentComplete : Int) : Except Error State := do
  require (Python.strip reason ≠ "") (.consumptionInvalid "A failure reason is required.")
  let locked ← lockedServiceRequest s args.requestId
  requireEdge locked .failed
  let machine ← lockAssignedMachine s locked
  let minutes ← checkedMinutes args.actualMinutes "actual_minutes"
  let percent ← checkedPercent percentComplete
  args.gate.mapError Error.gate
  let machineType ← typeOf s machine
  let (s', row) ← finishConsumption s locked machineType args
    (failedAmounts locked percent args).1 (failedAmounts locked percent args).2
    (Python.strip reason)
  return { s' with
    requests := s'.requests.put
      { row with
        status := .failed
        actualMinutes := minutes
        failPercentComplete := percent
        reason := Python.strip reason }
    machines := releaseQueueMachine s' machine.id }

def collect (requestId : Nat) (gate : Except String Unit) : Except Error State := do
  let locked ← lockedServiceRequest s requestId
  gate.mapError Error.gate
  requireEdge locked .collected
  return { s with requests := s.requests.put { locked with status := .collected } }

def setStatus (machineId : Nat) (status : MachineStatus) : Except Error State := do
  let machine ← orRefuse (s.machines.get? machineId) (.doesNotExist "Machine")
  require machine.isActive (.validationText "Machine is retired.")
  return { s with machines := s.machines.put { machine with status := status } }

def retireMachine (machineId : Nat) (gate : Except String Unit) : Except Error State := do
  gate.mapError Error.gate
  let machine ← orRefuse (s.machines.get? machineId) (.doesNotExist "Machine")
  let row := { machine with isActive := false, status := .offline }
  return { s with machines := s.machines.put row }

def unretireMachine (machineId : Nat) (gate : Except String Unit) : Except Error State := do
  let machine ← orRefuse (s.machines.get? machineId) (.doesNotExist "Machine")
  gate.mapError Error.gate
  return { s with machines := s.machines.put { machine with isActive := true } }

inductive Op
  | createPool (new : NewPool)
  | createReceivedPool (data : ReceivedSpool)
  | correctPool (poolId : Nat) (quantityDelta : Int) (reason : String)
  | retirePool (poolId : Nat) (reason : String)
  | setPoolVisibility (poolId : Nat) (isPublic : Bool)
  | logTypedManualUsage (usage : ManualUsage)
  | submit (submission : Submission)
  | createReprint (requestId newId : Nat) (gate : Except String Unit)
  | accept (requestId : Nat) (estimated plannedGrams : Option Int) (note : String)
      (gate : Except String Unit)
  | reject (requestId : Nat) (reason : String) (gate : Except String Unit)
  | start (args : StartArgs)
  | complete (args : FinishArgs)
  | fail (args : FinishArgs) (reason : String) (percentComplete : Int)
  | collect (requestId : Nat) (gate : Except String Unit)
  | setStatus (machineId : Nat) (status : MachineStatus)
  | retireMachine (machineId : Nat) (gate : Except String Unit)
  | unretireMachine (machineId : Nat) (gate : Except String Unit)

def step : Op → Except Error State
  | .createPool new => createPool s new
  | .createReceivedPool data => createReceivedPool s data
  | .correctPool poolId quantityDelta reason => correctPool s poolId quantityDelta reason
  | .retirePool poolId reason => retirePool s poolId reason
  | .setPoolVisibility poolId isPublic => setPoolVisibility s poolId isPublic
  | .logTypedManualUsage usage => logTypedManualUsage s usage
  | .submit submission => submit s submission
  | .createReprint requestId newId gate => createReprint s requestId newId gate
  | .accept requestId estimated plannedGrams note gate =>
    accept s requestId estimated plannedGrams note gate
  | .reject requestId reason gate => reject s requestId reason gate
  | .start args => start s args
  | .complete args => complete s args
  | .fail args reason percentComplete => fail s args reason percentComplete
  | .collect requestId gate => collect s requestId gate
  | .setStatus machineId status => setStatus s machineId status
  | .retireMachine machineId gate => retireMachine s machineId gate
  | .unretireMachine machineId gate => unretireMachine s machineId gate

end Machines
end SpaceWorks
