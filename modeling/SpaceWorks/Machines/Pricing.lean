import SpaceWorks.Machines.Occupancy
import SpaceWorks.Machines.Retirement

/-!
# Units of metering and pricing

The price of a job (`service_pricing.py`).  Reservations in a planned quantity and logged usage
check the pool's unit; one in planned grams does not, and stamps the request with weight.
-/

namespace SpaceWorks
namespace Machines

open Checked TransactionalSystem Table List

section Pricing

structure TypePrice where
  makerspaceId : Nat
  machineTypeId : Nat
  ratePerUnit : Int
  flatFee : Int
  paymentEnabled : Bool := false
  freeBelowQuantity : Int := 0

instance keyedTypePrice : Keyed TypePrice (Nat × Nat) :=
  ⟨fun row => (row.makerspaceId, row.machineTypeId)⟩

/-- `rate_per_unit * quantity + flat_fee`, in ten-thousandths. -/
def TypePrice.amount (price : TypePrice) (quantity : Int) : Int :=
  price.ratePerUnit * quantity + price.flatFee * 100

variable (s : State)

def pricedType (request : MachineServiceRequest) : Option MachineType :=
  (request.assignedMachineId.bind s.machines.get?).bind fun machine =>
    s.machineTypes.get? machine.machineTypeId

def effectiveQuantity (request : MachineServiceRequest) (machineType : MachineType) : Int :=
  if effectiveMeteringUnit s machineType request.makerspaceId = .minutes then
    request.actualMinutes * 100
  else
    match request.actualConsumedQuantity with
    | some quantity => quantity
    | none => request.actualConsumedGrams

def computeAmount (prices : Table TypePrice) (request : MachineServiceRequest) : Int :=
  match pricedType s request with
  | none => 0
  | some machineType =>
    match (prices.get? (request.makerspaceId, machineType.id)).filter
        TypePrice.paymentEnabled with
    | none => 0
    | some price =>
      let amount := price.amount (effectiveQuantity s request machineType)
      if amount ≤ 0 then 0 else Python.roundHalfEven amount 100

end Pricing

section Measures

structure Measure where
  amount : Int
  unit : Option MeteringUnit
  deriving DecidableEq

/-- In the unit, or zero and not measured. -/
def Measure.ExpressedIn (measure : Measure) (unit : MeteringUnit) : Prop :=
  measure.unit = some unit ∨ (measure.unit = none ∧ measure.amount = 0)

variable (s : State)

/-- `effective_quantity`, with its column's unit. -/
def effectiveMeasure (request : MachineServiceRequest) (machineType : MachineType) : Measure :=
  if effectiveMeteringUnit s machineType request.makerspaceId = .minutes then
    ⟨request.actualMinutes * 100, some .minutes⟩
  else
    match request.actualConsumedQuantity with
    | some quantity => ⟨quantity, request.meteringUnit⟩
    | none =>
      ⟨request.actualConsumedGrams,
        if request.actualConsumedGrams = 0 then none else some .weight⟩

@[simp] theorem effectiveMeasure_amount
    (request : MachineServiceRequest) (machineType : MachineType) :
    (effectiveMeasure s request machineType).amount =
      effectiveQuantity s request machineType := by
  unfold effectiveMeasure effectiveQuantity
  split
  · rfl
  · split <;> rfl

/-- The type's rate meets a quantity in its unit. -/
def PricedInUnit (request : MachineServiceRequest) : Prop :=
  ∀ machineType ∈ pricedType s request,
    (effectiveMeasure s request machineType).amount = effectiveQuantity s request machineType ∧
      (effectiveMeasure s request machineType).ExpressedIn
        (effectiveMeteringUnit s machineType request.makerspaceId)

def pricingUnit (request : MachineServiceRequest) : Option MeteringUnit :=
  (pricedType s request).map fun machineType =>
    effectiveMeteringUnit s machineType request.makerspaceId

structure UnitsAgree (request : MachineServiceRequest) : Prop where
  unstarted : request.status ≠ .inProgress → request.status.isFinished = false →
    request.runConsumablePoolId = none ∧ request.meteringUnit = none
  unmeasured : request.status.isFinished = false → request.actualConsumedQuantity = none
  grams : request.actualConsumedQuantity = none → request.actualConsumedGrams = 0
  reserved : ∀ poolId, request.runConsumablePoolId = some poolId →
    ∃ pool ∈ s.pools, pool.id = poolId ∧ request.meteringUnit = some (meteringUnitForPool pool.unit)
  priced : ∀ unit, pricingUnit s request = some unit → unit ≠ .minutes →
    (request.runConsumablePoolId ≠ none ∨ request.actualConsumedQuantity ≠ none) →
    request.meteringUnit = some unit

def Stamped (row : MachineConsumableAdjustment) : Prop :=
  ∃ pool ∈ s.pools, pool.id = row.poolId ∧ row.meteringUnit = meteringUnitForPool pool.unit

structure Metered : Prop where
  stamped : ∀ row ∈ s.adjustments, Stamped s row
  requests : ∀ request ∈ s.requests, UnitsAgree s request

variable {s}

theorem UnitsAgree.pricedInUnit {request : MachineServiceRequest} (h : UnitsAgree s request) :
    PricedInUnit s request := by
  intro machineType htype
  refine ⟨effectiveMeasure_amount s request machineType, ?_⟩
  have hunit : pricingUnit s request =
      some (effectiveMeteringUnit s machineType request.makerspaceId) := by
    rw [pricingUnit, Option.mem_def.mp htype, Option.map_some]
  unfold effectiveMeasure
  split
  · next hminutes => exact .inl (by rw [hminutes])
  · next hne =>
      cases hmeasured : request.actualConsumedQuantity with
      | some =>
        exact .inl (h.priced _ hunit hne (.inr (by simp [hmeasured])))
      | none =>
        have hzero := h.grams hmeasured
        exact .inr ⟨if_pos hzero, hzero⟩

end Measures

section

variable {s s' : State}

/-- What every operation keeps of the tables that units are read from. -/
structure KeepsUnits (s s' : State) : Prop where
  types : s'.machineTypes = s.machineTypes
  overrides : s'.overrides = s.overrides
  machines : ∀ id, (s'.machines.get? id).map Machine.machineTypeId =
    (s.machines.get? id).map Machine.machineTypeId
  pools : ∀ pool ∈ s.pools, ∃ pool' ∈ s'.pools, pool'.id = pool.id ∧ pool'.unit = pool.unit

theorem KeepsUnits.effectiveMeteringUnit
    (h : KeepsUnits s s') (machineType : MachineType) (makerspaceId : Nat) :
    effectiveMeteringUnit s' machineType makerspaceId =
      effectiveMeteringUnit s machineType makerspaceId := by
  simp [Machines.effectiveMeteringUnit, effectiveTypeConfig, h.overrides]

theorem KeepsUnits.pricedType (h : KeepsUnits s s') (request : MachineServiceRequest) :
    pricedType s' request = pricedType s request := by
  have hthrough : ∀ (t : State) (id : Nat),
      ((t.machines.get? id).bind fun machine => t.machineTypes.get? machine.machineTypeId) =
        ((t.machines.get? id).map Machine.machineTypeId).bind t.machineTypes.get? := by
    intro t id
    cases t.machines.get? id <;> rfl
  simp only [Machines.pricedType]
  cases request.assignedMachineId with
  | none => rfl
  | some id =>
    simp only [Option.bind_some]
    rw [hthrough s' id, hthrough s id, h.machines id, h.types]

theorem KeepsUnits.pricingUnit (h : KeepsUnits s s') (request : MachineServiceRequest) :
    pricingUnit s' request = pricingUnit s request := by
  simp [Machines.pricingUnit, h.pricedType, h.effectiveMeteringUnit]

theorem KeepsUnits.unitsAgree (h : KeepsUnits s s') {request : MachineServiceRequest}
    (hrequest : UnitsAgree s request) :
    UnitsAgree s' request where
  unstarted := hrequest.unstarted
  unmeasured := hrequest.unmeasured
  grams := hrequest.grams
  reserved := by
    intro poolId hpooled
    obtain ⟨pool, hpool, hid, hunit⟩ := hrequest.reserved poolId hpooled
    obtain ⟨pool', hpool', hid', hunit'⟩ := h.pools pool hpool
    exact ⟨pool', hpool', hid'.trans hid, by rw [hunit', hunit]⟩
  priced := by
    intro unit hunit
    rw [h.pricingUnit] at hunit
    exact hrequest.priced unit hunit

theorem KeepsUnits.stamped (h : KeepsUnits s s') {row : MachineConsumableAdjustment}
    (hrow : Stamped s row) :
    Stamped s' row := by
  obtain ⟨pool, hpool, hid, hunit⟩ := hrow
  obtain ⟨pool', hpool', hid', hunit'⟩ := h.pools pool hpool
  exact ⟨pool', hpool', hid'.trans hid, by rw [hunit', hunit]⟩

/-- Adjustments in their pool's unit, and requests whose units agree. -/
structure AddsMetered (s s' : State) : Prop where
  adjustments : ∀ row ∈ s'.adjustments, row ∈ s.adjustments ∨ Stamped s row
  requests : ∀ request ∈ s'.requests, request ∈ s.requests ∨ UnitsAgree s request

theorem Metered.step (hs : Metered s) (hkeeps : KeepsUnits s s') (hadds : AddsMetered s s') :
    Metered s' where
  stamped := by
    intro row hrow
    rcases hadds.adjustments row hrow with hold | hnew
    · exact hkeeps.stamped (hs.stamped row hold)
    · exact hkeeps.stamped hnew
  requests := by
    intro request hrequest
    rcases hadds.requests request hrequest with hold | hnew
    · exact hkeeps.unitsAgree (hs.requests request hold)
    · exact hkeeps.unitsAgree hnew

theorem pools_of_poolEffect {op : Op} {pools : Table MachineConsumablePool}
    (h : PoolEffect s op pools) :
    ∀ pool ∈ s.pools, ∃ pool' ∈ pools, pool'.id = pool.id ∧ pool'.unit = pool.unit := by
  have hput : ∀ {pool pool' : MachineConsumablePool}, pool ∈ s.pools → pool'.id = pool.id →
      pool'.unit = pool.unit → ∀ found ∈ s.pools,
      ∃ found' ∈ s.pools.put pool', found'.id = found.id ∧ found'.unit = found.unit := by
    intro pool pool' hpool hid hunit found hfound
    by_cases hsame : found.id = pool.id
    · obtain rfl : found = pool := eq_of_key_eq hfound hpool hsame
      have hmem : pool' ∈ s.pools.put pool' := by
        have hget : s.pools.get? (key pool') = some found := by
          rw [key_pool, hid]
          exact get?_key hfound
        exact mem_put_self hget
      exact ⟨pool', hmem, hid, hunit⟩
    · refine ⟨found, mem_of_get? (k := found.id) ?_, rfl, rfl⟩
      rw [get?_put_of_ne _ (by rw [key_pool, hid]; exact hsame)]
      exact get?_key hfound
  intro found hfound
  cases h with
  | kept => exact ⟨found, hfound, rfl, rfl⟩
  | opened hnew => exact ⟨found, (mem_insert hnew).mpr (.inl hfound), rfl, rfl⟩
  | lowered hpool hid hunit | credited hpool hid hunit => exact hput hpool hid hunit found hfound

theorem machineTypeId_put (machine machine' : Machine)
    (hmachine : s.machines.get? machine.id = some machine)
    (hid : machine'.id = machine.id) (htype : machine'.machineTypeId = machine.machineTypeId)
    (id : Nat) :
    ((s.machines.put machine').get? id).map Machine.machineTypeId =
      (s.machines.get? id).map Machine.machineTypeId := by
  rw [get?_put]
  split
  · next heq =>
      rw [key_machine, hid] at heq
      rw [heq, hmachine]
      simp [htype]
  · rfl

theorem machineTypeId_release (s : State) (machineId id : Nat) :
    ((releaseQueueMachine s machineId).get? id).map Machine.machineTypeId =
      (s.machines.get? id).map Machine.machineTypeId := by
  unfold releaseQueueMachine
  split
  · rfl
  · next machine hmachine =>
      split
      · have hid : machine.id = machineId := key_of_get? hmachine
        exact machineTypeId_put machine _ (hid ▸ hmachine) (by rfl) (by rfl) id
      · rfl

variable {request row : MachineServiceRequest} {pool : MachineConsumablePool} {plannedGrams : Int}
variable {machine : Machine}

/-- The machine `start` would run the request on. -/
def StartsOn (s : State) (args : StartArgs) (machine : Machine) : Prop :=
  ∃ request queue, lockedServiceRequest s args.requestId = .ok request ∧
    requestQueue s request = .ok queue ∧ startMachine s args request queue = .ok (some machine)

/-- A start reserves planned grams where they mean nothing. -/
def MisplacesGrams (s : State) (op : Op) : Prop :=
  ∃ args poolId, op = .start args ∧ args.consumablePoolId = some poolId ∧
    args.plannedGrams ≠ none ∧ args.plannedQuantity = none ∧
    ((∃ pool ∈ s.pools, pool.id = poolId ∧ pool.unit ≠ .grams) ∨
      ∃ machine machineType, StartsOn s args machine ∧
        s.machineTypes.get? machine.machineTypeId = some machineType ∧
        effectiveMeteringUnit s machineType machine.makerspaceId ≠ .minutes ∧
        effectiveMeteringUnit s machineType machine.makerspaceId ≠ .weight)

structure ReservedIn (s s' : State) (request row : MachineServiceRequest)
    (pool : MachineConsumablePool) (unit : MeteringUnit) : Prop where
  types : s'.machineTypes = s.machineTypes
  overrides : s'.overrides = s.overrides
  machines : s'.machines = s.machines
  requests : s'.requests = s.requests.put row
  adjustments : ∃ posted, posted.poolId = pool.id ∧
    (posted.meteringUnit = meteringUnitForPool pool.unit ∨ posted.meteringUnit = unit) ∧
    s'.adjustments = s.adjustments ++ [posted]
  makerspace : row.makerspaceId = request.makerspaceId
  pool : row.runConsumablePoolId = some pool.id
  unit : row.meteringUnit = some unit
  quantity : row.actualConsumedQuantity = request.actualConsumedQuantity
  grams : row.actualConsumedGrams = request.actualConsumedGrams

theorem reserveForRequest_grams
    (h : reserveForRequest s request pool plannedGrams none machine = .ok (s', row)) :
    ReservedIn s s' request row pool .weight := by
  simp only [reserveForRequest, legacyReserveForRequest, bind_ok, pure_ok, apply_ok,
    Prod.mk.injEq] at h
  obtain ⟨_, ⟨_, -, -, -, -, -, -, -, _, ⟨-, -, rfl⟩, rfl⟩, rfl, rfl⟩ := h
  exact ⟨rfl, rfl, rfl, rfl, ⟨_, rfl, .inl rfl, rfl⟩, rfl, rfl, rfl, rfl, rfl⟩

/-- A planned reservation is in the pool's unit, the request's or its type's. -/
theorem reserveForRequest_quantity {planned : Int}
    (h : reserveForRequest s request pool plannedGrams (some planned) machine = .ok (s', row)) :
    ∃ machineType, s.machineTypes.get? machine.machineTypeId = some machineType ∧
      ∃ unit, unit = request.meteringUnit.getD
          (effectiveMeteringUnit s machineType request.makerspaceId) ∧
        meteringUnitForPool pool.unit = unit ∧ ReservedIn s s' request row pool unit := by
  simp only [reserveForRequest, bind_ok, require_ok, pure_ok, apply_ok, Prod.mk.injEq] at h
  obtain ⟨machineType, htype, _, -, -, -, -, hunit, -, -, -, -, _, ⟨-, -, rfl⟩, rfl, rfl⟩ := h
  exact ⟨machineType, orRefuse_ok.mp htype, _, rfl, poolUnitForMetering_eq_some.mp hunit, rfl,
    rfl, rfl, rfl, ⟨_, rfl, .inr rfl, rfl⟩, rfl, rfl, rfl, rfl, rfl⟩

/-- `start` leaves no pool, or a unit of both pool and machine type. -/
theorem startReservation_units {args : StartArgs} {minutes : Int} {machineType : MachineType}
    (hfresh : request.meteringUnit = none) (hmachine : StartsOn s args machine)
    (htype : s.machineTypes.get? machine.machineTypeId = some machineType)
    (hplace : machine.makerspaceId = request.makerspaceId) (hop : ¬ MisplacesGrams s (.start args))
    (h : startReservation s args request minutes machine machineType = .ok (s', row)) :
    (s' = s ∧ row.makerspaceId = request.makerspaceId ∧
        row.runConsumablePoolId = request.runConsumablePoolId ∧
        row.actualConsumedQuantity = request.actualConsumedQuantity ∧
        row.actualConsumedGrams = request.actualConsumedGrams) ∨
      ∃ pool ∈ s.pools, ∃ unit, ReservedIn s s' request row pool unit ∧
        meteringUnitForPool pool.unit = unit ∧
        (effectiveMeteringUnit s machineType request.makerspaceId = .minutes ∨
          unit = effectiveMeteringUnit s machineType request.makerspaceId) := by
  have hpool : ∀ {poolId : Nat} {pool : MachineConsumablePool},
      ((s.pools.get? poolId).filter fun pool => pool.makerspaceId = request.makerspaceId) =
        some pool → pool ∈ s.pools ∧ pool.id = poolId := by
    intro poolId pool hfound
    exact get?_eq_some.mp (Option.filter_eq_some_iff.mp hfound).1
  unfold startReservation at h
  split at h
  · simp at h
    obtain ⟨rfl, rfl⟩ := h
    exact .inl ⟨rfl, rfl, rfl, rfl, rfl⟩
  · simp only [recordUnpooledPlan, bind_ok, pure_ok, Prod.mk.injEq] at h
    obtain ⟨_, ⟨-, -, -, -, rfl⟩, rfl, rfl⟩ := h
    exact .inl ⟨rfl, rfl, rfl, rfl, rfl⟩
  · next poolId planned hpoolId hgrams hquantity =>
      simp only [bind_ok, orRefuse_ok] at h
      obtain ⟨pool, hfound, h⟩ := h
      obtain ⟨hmem, hid⟩ := hpool hfound
      have hin : pool.unit = .grams := by
        by_contra hother
        exact hop ⟨args, poolId, rfl, hpoolId, by simp [hgrams], hquantity,
          .inl ⟨pool, hmem, hid, hother⟩⟩
      refine .inr ⟨pool, hmem, .weight, reserveForRequest_grams h, by rw [hin]; rfl, ?_⟩
      by_contra hneither
      rw [not_or] at hneither
      refine hop ⟨args, poolId, rfl, hpoolId, by simp [hgrams], hquantity,
        .inr ⟨machine, machineType, hmachine, htype, ?_, ?_⟩⟩
      · rw [hplace]
        exact hneither.1
      · rw [hplace]
        exact Ne.symm hneither.2
  · simp only [bind_ok, orRefuse_ok] at h
    obtain ⟨pool, hfound, h⟩ := h
    obtain ⟨found, hfoundType, unit, hunit, hsame, hreserved⟩ := reserveForRequest_quantity h
    obtain rfl : machineType = found := Option.some.inj (htype.symm.trans hfoundType)
    rw [hfresh, Option.getD_none] at hunit
    exact .inr ⟨pool, (hpool hfound).1, unit, hreserved, hsame, .inr hunit⟩
  · simp at h

variable {posting : Posting} {row : MachineServiceRequest}

structure SameTypes (s s' : State) : Prop where
  types : s'.machineTypes = s.machineTypes
  overrides : s'.overrides = s.overrides
  machines : ∀ id, (s'.machines.get? id).map Machine.machineTypeId =
    (s.machines.get? id).map Machine.machineTypeId

theorem AddsMetered.of_requests (hadjustments : s'.adjustments = s.adjustments)
    (hrequests : ∀ request ∈ s'.requests, request ∈ s.requests ∨ UnitsAgree s request) :
    AddsMetered s s' :=
  ⟨fun _ hrow => .inl (hadjustments ▸ hrow), hrequests⟩

theorem AddsMetered.idle (hadjustments : s'.adjustments = s.adjustments)
    (hrequests : s'.requests = s.requests) :
    AddsMetered s s' :=
  .of_requests hadjustments fun _ hrequest => .inl (hrequests ▸ hrequest)

theorem AddsMetered.put (row : MachineServiceRequest)
    (hadjustments : s'.adjustments = s.adjustments) (hrequests : s'.requests = s.requests.put row)
    (hrow : UnitsAgree s row) :
    AddsMetered s s' := by
  refine .of_requests hadjustments fun request hrequest => ?_
  rw [hrequests] at hrequest
  rcases mem_of_mem_put hrequest with rfl | ⟨hold, -⟩
  · exact .inr hrow
  · exact .inl hold

theorem AddsMetered.insert {row : MachineServiceRequest} (hnew : s.requests.get? (key row) = none)
    (hadjustments : s'.adjustments = s.adjustments)
    (hrequests : s'.requests = s.requests.insert row hnew) (hrow : UnitsAgree s row) :
    AddsMetered s s' := by
  refine .of_requests hadjustments fun request hrequest => ?_
  rw [hrequests] at hrequest
  rcases (mem_insert hnew).mp hrequest with hold | rfl
  · exact .inl hold
  · exact .inr hrow

theorem units_of_posting (hpool : pool ∈ s.pools)
    (hunit : ∀ unit, posting.meteringUnit = some unit → meteringUnitForPool pool.unit = unit)
    (hsame : SameTypes s s') (hrequests : s'.requests = s.requests)
    (hadjustments : s'.adjustments = s.adjustments ++ [posting.row pool]) :
    SameTypes s s' ∧ AddsMetered s s' := by
  refine ⟨hsame, ⟨fun row hrow => ?_, fun _ hrequest => .inl (hrequests ▸ hrequest)⟩⟩
  rw [hadjustments] at hrow
  rcases mem_append.mp hrow with hold | hnew
  · exact .inl hold
  · obtain rfl := mem_singleton.mp hnew
    refine .inr ⟨pool, hpool, rfl, ?_⟩
    show posting.meteringUnit.getD (meteringUnitForPool pool.unit) = meteringUnitForPool pool.unit
    cases hmetered : posting.meteringUnit with
    | none => rfl
    | some unit => exact (hunit unit hmetered).symm

theorem apply_units (hpool : pool ∈ s.pools)
    (hunit : ∀ unit, posting.meteringUnit = some unit → meteringUnitForPool pool.unit = unit)
    (h : apply s pool posting = .ok s') :
    SameTypes s s' ∧ AddsMetered s s' := by
  obtain ⟨-, -, rfl⟩ := apply_ok.mp h
  exact units_of_posting hpool hunit ⟨rfl, rfl, fun _ => rfl⟩ rfl rfl

theorem retirePool_units {poolId : Nat} {reason : String}
    (h : retirePool s poolId reason = .ok s') :
    SameTypes s s' ∧ AddsMetered s s' := by
  simp only [retirePool, bind_ok, lockedPool_ok] at h
  obtain ⟨-, -, _, ⟨hpool, -⟩, h⟩ := h
  split at h
  · split at h
    · obtain rfl := pure_ok.mp h
      exact ⟨⟨rfl, rfl, fun _ => rfl⟩, .idle rfl rfl⟩
    · simp at h
      obtain ⟨_, hmid, _, -, rfl⟩ := h
      obtain ⟨⟨htypes, hoverrides, hmachines⟩, ⟨hadjustments, hrequests⟩⟩ :=
        apply_units hpool (by simp) hmid
      exact ⟨⟨htypes, hoverrides, hmachines⟩, ⟨hadjustments, hrequests⟩⟩
  · obtain rfl := pure_ok.mp h
    exact ⟨⟨rfl, rfl, fun _ => rfl⟩, .idle rfl rfl⟩

theorem logTypedManualUsage_units {usage : ManualUsage} (h : logTypedManualUsage s usage = .ok s') :
    SameTypes s s' ∧ AddsMetered s s' := by
  simp only [logTypedManualUsage, bind_ok, require_ok] at h
  obtain ⟨_, -, _, -, -, -, -, -, -, -, -, -, _, -, _, -, found,
    hfound, _, -, -, hunit, -, -, h⟩ := h
  cases found with
  | none =>
    obtain rfl := pure_ok.mp h
    exact ⟨⟨rfl, rfl, fun _ => rfl⟩, .idle rfl rfl⟩
  | some pool =>
    simp only [debitUsage] at h
    split at h
    · obtain rfl := pure_ok.mp h
      exact ⟨⟨rfl, rfl, fun _ => rfl⟩, .idle rfl rfl⟩
    · obtain ⟨-, -, rfl⟩ := apply_ok.mp h
      refine units_of_posting (usagePool_spec hfound pool rfl) ?_ ⟨rfl, rfl, fun _ => rfl⟩ rfl rfl
      intro unit hmetered
      exact (hunit pool rfl).trans (Option.some.inj hmetered)

theorem unitsAgree_of_fresh
    (hpool : row.runConsumablePoolId = none) (hunit : row.meteringUnit = none)
    (hquantity : row.actualConsumedQuantity = none) (hgrams : row.actualConsumedGrams = 0) :
    UnitsAgree s row where
  unstarted := fun _ _ => ⟨hpool, hunit⟩
  unmeasured := fun _ => hquantity
  grams := fun _ => hgrams
  reserved := by simp [hpool]
  priced := by simp [hpool, hquantity]

theorem submittedRow_units {submission : Submission} (h : submittedRow s submission = .ok row) :
    UnitsAgree s row := by
  unfold submittedRow at h
  split at h
  · simp [submitToQueue] at h
    obtain ⟨-, -, -, -, -, -, -, -, -, -, rfl⟩ := h
    exact unitsAgree_of_fresh rfl rfl rfl rfl
  · simp [submitToMachine] at h
    obtain ⟨-, -, -, -, -, -, -, -, -, -, rfl⟩ := h
    exact unitsAgree_of_fresh rfl rfl rfl rfl

theorem UnitsAgree.decided {request : MachineServiceRequest} (h : UnitsAgree s request)
    (hstatus : request.status = .pending)
    (hpool : row.runConsumablePoolId = request.runConsumablePoolId)
    (hunit : row.meteringUnit = request.meteringUnit)
    (hquantity : row.actualConsumedQuantity = request.actualConsumedQuantity)
    (hgrams : row.actualConsumedGrams = request.actualConsumedGrams) :
    UnitsAgree s row := by
  obtain ⟨hnone, hmetered⟩ := h.unstarted (by simp [hstatus])
    (by simp [hstatus, RequestStatus.isFinished])
  have hmeasured := h.unmeasured (by simp [hstatus, RequestStatus.isFinished])
  exact unitsAgree_of_fresh (hpool.trans hnone) (hunit.trans hmetered) (hquantity.trans hmeasured)
    (hgrams.trans (h.grams hmeasured))

variable {request row : MachineServiceRequest} {reason : String} {args : FinishArgs}
variable {actualGrams : Int} {actualQuantity : Option Int}

theorem start_units {args : StartArgs} (hs : Metered s) (hop : ¬ MisplacesGrams s (.start args))
    (h : start s args = .ok s') :
    SameTypes s s' ∧ AddsMetered s s' := by
  simp only [start, requireEdge, bind_ok, require_ok, pure_ok, orRefuse_ok,
    inProgress_mem_allowedEdges] at h
  obtain ⟨request, hlocked, -, -, -, hstatus, queue, hqueue, _, hfound, machine, hmachine, -, -,
    -, -, -, -, -, -, _, -, machineType, htype, -, -, ⟨mid, row⟩, hreservation, rfl⟩ := h
  obtain ⟨hrequest, _⟩ := lockedServiceRequest_ok.mp hlocked
  obtain ⟨rfl, hplace⟩ := Option.filter_eq_some_iff.mp hmachine
  have hmem : machine ∈ s.machines := mem_of_startMachine hfound rfl
  have hget : s.machines.get? machine.id = some machine := get?_key hmem
  have htypeOf : s.machineTypes.get? machine.machineTypeId = some machineType :=
    orRefuse_ok.mp htype
  have hagree := hs.requests request hrequest
  obtain ⟨hunpooled, hfresh⟩ := hagree.unstarted (by simp [hstatus])
    (by simp [hstatus, RequestStatus.isFinished])
  have hunmeasured := hagree.unmeasured (by simp [hstatus, RequestStatus.isFinished])
  have hput := machineTypeId_put machine { machine with status := .running } hget rfl rfl
  let final : MachineServiceRequest :=
    { row with status := .inProgress, assignedMachineId := some machine.id }
  have hfinalUnit : row.makerspaceId = request.makerspaceId → pricingUnit s final =
      some (effectiveMeteringUnit s machineType request.makerspaceId) := by
    intro hspace
    simp [pricingUnit, pricedType, final, hget, htypeOf, hspace]
  rcases startReservation_units hfresh ⟨request, queue, hlocked, hqueue, hfound⟩ htypeOf
    (of_decide_eq_true hplace) hop hreservation with
    ⟨rfl, _, hpool, hquantity, hgrams⟩ | ⟨pool, hpool, _, hreserved, hunit, hprice⟩
  · refine ⟨⟨rfl, rfl, hput⟩, .put final rfl rfl ?_⟩
    exact
      { unstarted := fun hnot => absurd rfl hnot
        unmeasured := fun _ => hquantity.trans hunmeasured
        grams := fun _ => hgrams.trans (hagree.grams hunmeasured)
        reserved := by simp [final, hpool, hunpooled]
        priced := by simp [final, hpool, hunpooled, hquantity, hunmeasured] }
  · obtain ⟨_, hposted, hstamp, hadjustments⟩ := hreserved.adjustments
    have hagreed : UnitsAgree s final :=
      { unstarted := fun hnot => absurd rfl hnot
        unmeasured := fun _ => hreserved.quantity.trans hunmeasured
        grams := fun _ => hreserved.grams.trans (hagree.grams hunmeasured)
        reserved := by
          intro poolId hpooled
          obtain rfl : pool.id = poolId := Option.some.inj (hreserved.pool.symm.trans hpooled)
          exact ⟨pool, hpool, rfl, by rw [hunit]; exact hreserved.unit⟩
        priced := by
          intro priceUnit hpriced hminutes _
          obtain rfl := Option.some.inj ((hfinalUnit hreserved.makerspace).symm.trans hpriced)
          exact hprice.elim (absurd · hminutes) fun heq => heq ▸ hreserved.unit }
    have hrequests : mid.requests.put final = s.requests.put final := by
      rw [hreserved.requests, put_put _ (by rfl)]
    refine ⟨⟨hreserved.types, hreserved.overrides, ?_⟩, ⟨?_, ?_⟩⟩
    · rw [hreserved.machines]
      exact hput
    · intro other hother
      rw [show _ = _ from hadjustments] at hother
      rcases mem_append.mp hother with hold | hnew
      · exact .inl hold
      · obtain rfl := mem_singleton.mp hnew
        exact .inr ⟨pool, hpool, hposted.symm, hstamp.elim id fun hsame => hsame.trans hunit.symm⟩
    · intro other hother
      rw [show _ = _ from hrequests] at hother
      rcases mem_of_mem_put hother with rfl | ⟨hold, -⟩
      · exact .inr hagreed
      · exact .inl hold

structure FinishedIn (s s' : State) (request row : MachineServiceRequest)
    (typeUnit : MeteringUnit) : Prop where
  types : s'.machineTypes = s.machineTypes
  overrides : s'.overrides = s.overrides
  adjustments : ∀ posted ∈ s'.adjustments, posted ∈ s.adjustments ∨ Stamped s posted
  makerspace : row.makerspaceId = request.makerspaceId
  assigned : row.assignedMachineId = request.assignedMachineId
  pool : row.runConsumablePoolId = request.runConsumablePoolId
  pooled : row.runConsumablePoolId ≠ none → row.meteringUnit = request.meteringUnit
  unpooled : row.runConsumablePoolId = none → row.meteringUnit = some typeUnit
  grams : row.actualConsumedQuantity = none → row.actualConsumedGrams = 0

theorem settleReservation_units {pool : MachineConsumablePool} {delta : Int}
    {unit : Option MeteringUnit} (hpool : pool ∈ s.pools)
    (hunit : ∀ u, unit = some u → meteringUnitForPool pool.unit = u)
    (h : settleReservation s request pool delta reason unit = .ok s') :
    s'.machineTypes = s.machineTypes ∧ s'.overrides = s.overrides ∧
      ∀ posted ∈ s'.adjustments, posted ∈ s.adjustments ∨ Stamped s posted := by
  unfold settleReservation at h
  split at h
  · obtain rfl := pure_ok.mp h
    exact ⟨rfl, rfl, fun _ hold => .inl hold⟩
  · obtain ⟨hsame, hadds⟩ := apply_units hpool hunit h
    exact ⟨hsame.types, hsame.overrides, hadds.adjustments⟩

theorem finishConsumption_units {machineType : MachineType} (hagree : UnitsAgree s request)
    (hstatus : request.status = .inProgress)
    (h : finishConsumption s request machineType args actualGrams actualQuantity reason =
      .ok (s', row)) :
    FinishedIn s s' request row
      (effectiveMeteringUnit s machineType request.makerspaceId) := by
  have hgrams := hagree.grams (hagree.unmeasured (by simp [hstatus, RequestStatus.isFinished]))
  unfold finishConsumption at h
  split at h
  · next hunpooled =>
      simp only [bind_ok, pure_ok, Prod.mk.injEq] at h
      obtain ⟨_, hrow, rfl, rfl⟩ := h
      simp only [recordUnpooledActual] at hrow
      split at hrow
      · obtain rfl := pure_ok.mp hrow
        exact ⟨rfl, rfl, fun _ hold => .inl hold, rfl, rfl, rfl,
          fun hpooled => absurd hunpooled hpooled, fun _ => rfl, fun _ => hgrams⟩
      · simp at hrow
        obtain ⟨-, -, rfl⟩ := hrow
        exact ⟨rfl, rfl, fun _ hold => .inl hold, rfl, rfl, rfl,
          fun hpooled => absurd hunpooled hpooled, fun _ => rfl, by simp⟩
  · next poolId hpooled =>
      simp [lockedPool_ok] at h
      obtain ⟨pool, ⟨hpool, rfl⟩, h⟩ := h
      obtain ⟨found, hfound, hid, hunit⟩ := hagree.reserved pool.id hpooled
      obtain rfl : found = pool := eq_of_key_eq hfound hpool hid
      unfold reconcileRequest at h
      split at h
      · next hlegacy =>
          -- the gram-only path stamps weight, which the pool is in
          have hweight : meteringUnitForPool found.unit = .weight := by
            have hin : found.unit = .grams := by
              by_contra hother
              exact hlegacy.2 (by simp [isGenericReservation, hother])
            rw [hin]
            rfl
          simp only [legacyReconcileRequest, bind_ok, pure_ok, Prod.mk.injEq] at h
          obtain ⟨_, ⟨_, -, _, hsettle, rfl⟩, rfl, rfl⟩ := h
          obtain ⟨htypes, hoverrides, hadjustments⟩ :=
            settleReservation_units hpool (by simp) hsettle
          exact ⟨htypes, hoverrides, hadjustments, rfl, rfl, rfl,
            fun _ => (hunit.trans (congrArg some hweight)).symm,
            fun hnone => absurd (hpooled.symm.trans hnone) (by simp), by simp⟩
      · simp at h
        obtain ⟨_, -, _, hsettle, rfl, rfl⟩ := h
        obtain ⟨htypes, hoverrides, hadjustments⟩ :=
          settleReservation_units hpool (by simp [hunit]) hsettle
        exact ⟨htypes, hoverrides, hadjustments, rfl, rfl, rfl, fun _ => rfl,
          fun hnone => absurd (hpooled.symm.trans hnone) (by simp), by simp⟩

theorem FinishedIn.unitsAgree {final : MachineServiceRequest} {machineType : MachineType}
    (h : FinishedIn s s' request row (effectiveMeteringUnit s machineType request.makerspaceId))
    (hagree : UnitsAgree s request) (hassigned : request.assignedMachineId = some machine.id)
    (hmachine : s.machines.get? machine.id = some machine)
    (htype : s.machineTypes.get? machine.machineTypeId = some machineType)
    (hfinished : final.status.isFinished = true) (hfinal : final.makerspaceId = row.makerspaceId ∧
      final.assignedMachineId = row.assignedMachineId ∧
      final.runConsumablePoolId = row.runConsumablePoolId ∧
      final.meteringUnit = row.meteringUnit ∧
      final.actualConsumedQuantity = row.actualConsumedQuantity ∧
      final.actualConsumedGrams = row.actualConsumedGrams) :
    UnitsAgree s final := by
  obtain ⟨hspace, hplaced, hpool, hunit, hquantity, hgrams⟩ := hfinal
  have hpricing : ∀ other : MachineServiceRequest, other.makerspaceId = request.makerspaceId →
      other.assignedMachineId = request.assignedMachineId →
      pricingUnit s other =
        some (effectiveMeteringUnit s machineType request.makerspaceId) := by
    intro other hsame hon
    simp [pricingUnit, pricedType, hsame, hon, hassigned, hmachine, htype]
  exact
    { unstarted := fun _ hnot => by simp [hfinished] at hnot
      unmeasured := fun hnot => by simp [hfinished] at hnot
      grams := fun hnone => hgrams.trans (h.grams (hquantity.symm.trans hnone))
      reserved := by
        intro poolId hpooled
        obtain ⟨pool, hmem, hid, hstamp⟩ :=
          hagree.reserved poolId (h.pool.symm.trans (hpool.symm.trans hpooled))
        refine ⟨pool, hmem, hid, ?_⟩
        rw [hunit, h.pooled (by rw [← hpool, hpooled]; simp), hstamp]
      priced := by
        intro unit hpriced hminutes _
        rw [hpricing final (hspace.trans h.makerspace) (hplaced.trans h.assigned)] at hpriced
        rw [hunit]
        by_cases hnone : row.runConsumablePoolId = none
        · exact (h.unpooled hnone).trans hpriced
        · rw [h.pooled hnone]
          refine hagree.priced unit ((hpricing request rfl rfl).trans hpriced) hminutes (.inl ?_)
          rw [← h.pool]
          exact hnone }

theorem finish_units {mid : State} (final : MachineServiceRequest) {machineType : MachineType}
    (hs : Metered s) (hrequest : request ∈ s.requests) (hstatus : request.status = .inProgress)
    (hmachine : lockAssignedMachine s request = .ok machine)
    (htype : typeOf s machine = .ok machineType)
    (hfinish : finishConsumption s request machineType args actualGrams actualQuantity reason =
      .ok (mid, row)) (hid : final.id = row.id) (hfinished : final.status.isFinished = true)
    (hfinal : final.makerspaceId = row.makerspaceId ∧
      final.assignedMachineId = row.assignedMachineId ∧
      final.runConsumablePoolId = row.runConsumablePoolId ∧
      final.meteringUnit = row.meteringUnit ∧
      final.actualConsumedQuantity = row.actualConsumedQuantity ∧
      final.actualConsumedGrams = row.actualConsumedGrams)
    (htypes : s'.machineTypes = mid.machineTypes) (hoverrides : s'.overrides = mid.overrides)
    (hmachines : s'.machines = releaseQueueMachine mid machine.id)
    (hadjustments : s'.adjustments = mid.adjustments)
    (hrequests : s'.requests = mid.requests.put final) :
    SameTypes s s' ∧ AddsMetered s s' := by
  have hagree := hs.requests request hrequest
  have hunits := finishConsumption_units hagree hstatus hfinish
  obtain ⟨hkept, hrowId, hput⟩ := finishConsumption_machines hfinish
  have hget : s.machines.get? machine.id = some machine := by
    simp [lockAssignedMachine] at hmachine
    obtain ⟨_, -, hfound⟩ := hmachine
    exact get?_key (mem_of_get? hfound)
  have hagreed : UnitsAgree s final := hunits.unitsAgree hagree (lockAssignedMachine_spec hmachine)
    hget (orRefuse_ok.mp htype) hfinished hfinal
  refine ⟨⟨htypes.trans hunits.types, hoverrides.trans hunits.overrides, fun id => ?_⟩,
    ⟨fun posted hposted => hunits.adjustments posted (hadjustments ▸ hposted), fun other hother => ?_⟩⟩
  · rw [hmachines, releaseQueueMachine_congr hkept]
    exact machineTypeId_release s machine.id id
  · rw [hrequests, hput final (hid.trans hrowId)] at hother
    rcases mem_of_mem_put hother with rfl | ⟨hold, -⟩
    · exact .inr hagreed
    · exact .inl hold

theorem complete_units (hs : Metered s) (h : complete s args = .ok s') :
    SameTypes s s' ∧ AddsMetered s s' := by
  simp only [complete, requireEdge, bind_ok, require_ok, pure_ok,
    lockedServiceRequest_ok, completed_mem_allowedEdges] at h
  obtain ⟨_, ⟨hrequest, -⟩, -, hstatus, _, hmachine, minutes, -, -, -, _,
    htype, ⟨_, row⟩, hfinish, rfl⟩ := h
  exact finish_units { row with status := .completed, actualMinutes := minutes }
    hs hrequest hstatus hmachine htype hfinish rfl rfl ⟨rfl, rfl, rfl, rfl, rfl, rfl⟩ rfl rfl rfl
    rfl rfl

theorem fail_units {percentComplete : Int} (hs : Metered s)
    (h : fail s args reason percentComplete = .ok s') :
    SameTypes s s' ∧ AddsMetered s s' := by
  simp only [fail, requireEdge, bind_ok, require_ok, pure_ok,
    lockedServiceRequest_ok, failed_mem_allowedEdges] at h
  obtain ⟨-, -, _, ⟨hrequest, -⟩, -, hstatus, _, hmachine, minutes, -, percent, -, -, -,
    _, htype, ⟨_, row⟩, hfinish, rfl⟩ := h
  exact finish_units
    { row with
      status := .failed
      actualMinutes := minutes
      failPercentComplete := percent
      reason := Python.strip reason }
    hs hrequest hstatus hmachine htype hfinish rfl rfl ⟨rfl, rfl, rfl, rfl, rfl, rfl⟩ rfl rfl rfl
    rfl rfl

theorem collect_units {requestId : Nat} {gate : Except String Unit} (hs : Metered s)
    (h : collect s requestId gate = .ok s') :
    SameTypes s s' ∧ AddsMetered s s' := by
  simp [collect, requireEdge, lockedServiceRequest_ok] at h
  obtain ⟨request, ⟨hrequest, -⟩, -, -, -, _, rfl⟩ := h
  have hagree := hs.requests request hrequest
  refine ⟨⟨rfl, rfl, fun _ => rfl⟩, .put _ rfl rfl ?_⟩
  exact
    { unstarted := fun _ hnot => by simp [RequestStatus.isFinished] at hnot
      unmeasured := fun hnot => by simp [RequestStatus.isFinished] at hnot
      grams := hagree.grams
      reserved := hagree.reserved
      priced := hagree.priced }

theorem staffed_units {machineId : Nat} {machine' : Machine}
    (hget : s.machines.get? machineId = some machine)
    (hid : machine'.id = machine.id) (htype : machine'.machineTypeId = machine.machineTypeId) :
    SameTypes s { s with machines := s.machines.put machine' } ∧
      AddsMetered s { s with machines := s.machines.put machine' } := by
  have hfound : s.machines.get? machine.id = some machine := get?_key (mem_of_get? hget)
  exact ⟨⟨rfl, rfl, machineTypeId_put _ _ hfound hid htype⟩, .idle rfl rfl⟩

/-- Operations without misplaced grams add only what is in the units of pool and type. -/
theorem step_units {op : Op} (hs : Metered s) (hop : ¬ MisplacesGrams s op)
    (h : step s op = .ok s') :
    SameTypes s s' ∧ AddsMetered s s' := by
  cases op with
  | createPool =>
    simp [step, createPool] at h
    obtain ⟨_, -, _, -, _, -, _, -, _, -, -, -, -, -, -, -, -, -, -, -,
      _, -, rfl⟩ := h
    exact ⟨⟨rfl, rfl, fun _ => rfl⟩, .idle rfl rfl⟩
  | createReceivedPool =>
    simp [step, createReceivedPool] at h
    obtain ⟨-, -, _, -, -, -, _, -, -, -, -, -, -, -, _, -, rfl⟩ := h
    exact ⟨⟨rfl, rfl, fun _ => rfl⟩, .idle rfl rfl⟩
  | correctPool =>
    simp only [step, correctPool, bind_ok, lockedPool_ok] at h
    obtain ⟨-, -, _, ⟨hpool, -⟩, -, -, h⟩ := h
    exact apply_units hpool (by simp) h
  | retirePool => exact retirePool_units h
  | setPoolVisibility =>
    simp [step, setPoolVisibility] at h
    obtain ⟨_, -, rfl⟩ := h
    exact ⟨⟨rfl, rfl, fun _ => rfl⟩, .idle rfl rfl⟩
  | logTypedManualUsage => exact logTypedManualUsage_units h
  | submit =>
    simp only [step, submit, bind_ok, pure_ok, insertNew_ok] at h
    obtain ⟨_, hrow, _, ⟨hnew, rfl⟩, rfl⟩ := h
    exact ⟨⟨rfl, rfl, fun _ => rfl⟩, .insert hnew rfl rfl (submittedRow_units hrow)⟩
  | createReprint =>
    simp only [step, createReprint, bind_ok, pure_ok, insertNew_ok] at h
    obtain ⟨-, -, _, -, -, -, _, ⟨hnew, rfl⟩, rfl⟩ := h
    exact ⟨⟨rfl, rfl, fun _ => rfl⟩, .insert hnew rfl rfl (unitsAgree_of_fresh rfl rfl rfl rfl)⟩
  | accept =>
    simp only [step, accept, requireEdge, bind_ok, require_ok, pure_ok,
      lockedServiceRequest_ok, accepted_mem_allowedEdges] at h
    obtain ⟨request, ⟨hrequest, -⟩, -, -, -, hstatus, -, -, -, -, rfl⟩ := h
    exact ⟨⟨rfl, rfl, fun _ => rfl⟩,
      .put _ rfl rfl ((hs.requests request hrequest).decided hstatus rfl rfl rfl rfl)⟩
  | reject =>
    simp only [step, reject, requireEdge, bind_ok, require_ok, pure_ok,
      lockedServiceRequest_ok, rejected_mem_allowedEdges] at h
    obtain ⟨-, -, request, ⟨hrequest, -⟩, -, -, -, hstatus, rfl⟩ := h
    exact ⟨⟨rfl, rfl, fun _ => rfl⟩,
      .put _ rfl rfl ((hs.requests request hrequest).decided hstatus rfl rfl rfl rfl)⟩
  | start => exact start_units hs hop h
  | complete => exact complete_units hs h
  | fail => exact fail_units hs h
  | collect => exact collect_units hs h
  | setStatus =>
    simp [step, setStatus] at h
    obtain ⟨_, hget, -, -, rfl⟩ := h
    exact staffed_units hget rfl rfl
  | retireMachine =>
    simp only [step, retireMachine, bind_ok, orRefuse_ok, pure_ok] at h
    obtain ⟨-, -, _, hget, rfl⟩ := h
    exact staffed_units hget rfl rfl
  | unretireMachine =>
    simp [step, unretireMachine] at h
    obtain ⟨_, hget, -, -, rfl⟩ := h
    exact staffed_units hget rfl rfl

end

theorem metered_of_step {s s' : State} {op : Op} (hb : Balanced s.books) (hs : Metered s)
    (hop : ¬ MisplacesGrams s op) (h : step s op = .ok s') :
    Metered s' := by
  obtain ⟨hsame, hadds⟩ := step_units hs hop h
  exact hs.step ⟨hsame.types, hsame.overrides, hsame.machines,
    pools_of_poolEffect (step_poolEffect hb h)⟩ hadds

/-- **Units of metering and pricing.** While no start misplaces grams, adjustments and reservations
are in their pool's unit, and requests are priced in their machine type's. -/
theorem units_agree_of_run {s₀ : State} (h₀ : s₀.Fresh) {ops : List Op}
    (hops : Throughout step (fun s op => ¬ MisplacesGrams s op) s₀ ops)
    {before after : List Op} (hsplit : ops = before ++ after) :
    (∀ row ∈ (run step s₀ before).adjustments,
      ∃ pool ∈ (run step s₀ before).pools, pool.id = row.poolId ∧
        row.meteringUnit = meteringUnitForPool pool.unit) ∧
    (∀ request ∈ (run step s₀ before).requests, ∀ poolId,
      request.runConsumablePoolId = some poolId →
        ∃ pool ∈ (run step s₀ before).pools, pool.id = poolId ∧
          request.meteringUnit = some (meteringUnitForPool pool.unit)) ∧
    ∀ request ∈ (run step s₀ before).requests, PricedInUnit (run step s₀ before) request := by
  subst hsplit
  have hinit : Metered s₀ := by
    constructor
    · simp [h₀.adjustments]
    · intro request hrequest
      rw [h₀.requests] at hrequest
      exact absurd hrequest (notMem_empty request)
  obtain ⟨-, hmetered⟩ := run_preserves_throughout (I := fun s => Balanced s.books ∧ Metered s)
    (fun hs hop h => ⟨balanced_preserved hs.1 h, metered_of_step hs.1 hs.2 hop h⟩)
    ⟨balanced_of_fresh h₀, hinit⟩ (throughout_append.mp hops).1
  exact ⟨hmetered.stamped, fun request hrequest => (hmetered.requests request hrequest).reserved,
    fun request hrequest => (hmetered.requests request hrequest).pricedInUnit⟩

theorem units_agree_of_retiringRun :
    workshop.Fresh ∧
    Throughout step (fun s op => ¬ MisplacesGrams s op) workshop retiringRun ∧
    (∀ row ∈ (run step workshop retiringRun).adjustments,
      ∃ pool ∈ (run step workshop retiringRun).pools, pool.id = row.poolId ∧
        row.meteringUnit = meteringUnitForPool pool.unit) ∧
    (∀ request ∈ (run step workshop retiringRun).requests, ∀ poolId,
      request.runConsumablePoolId = some poolId →
        ∃ pool ∈ (run step workshop retiringRun).pools, pool.id = poolId ∧
          request.meteringUnit = some (meteringUnitForPool pool.unit)) ∧
    ∀ request ∈ (run step workshop retiringRun).requests,
      PricedInUnit (run step workshop retiringRun) request := by
  have hgrams : ∀ pool ∈ (run step workshop (retiringRun.take 3)).pools.rows,
      pool.unit = .grams := by
    decide
  have hweight : ∀ machineType ∈ workshop.machineTypes.rows,
      machineType.meteringUnit = .weight := by
    decide
  have hplaced : Throughout step (fun s op => ¬ MisplacesGrams s op) workshop retiringRun := by
    refine ⟨?_, ?_, ?_, ?_, trivial⟩
    · rintro ⟨_, _, hop, -⟩
      cases hop
    · rintro ⟨_, _, hop, -⟩
      cases hop
    · rintro ⟨_, _, hop, -⟩
      cases hop
    · rintro ⟨_, _, -, -, -, -, ⟨pool, hpool, -, hunit⟩ |
        ⟨machine, machineType, -, htype, -, hunit⟩⟩
      · exact hunit (hgrams pool hpool)
      · refine hunit ?_
        have hplain : effectiveMeteringUnit (run step workshop (retiringRun.take 3)) machineType
            machine.makerspaceId = machineType.meteringUnit := by
          show (settingsFromConfig machineType (if machineType.makerspaceId = none then none
            else none)).1 = machineType.meteringUnit
          simp [settingsFromConfig]
        exact hplain.trans (hweight machineType (mem_of_get? htype))
  exact ⟨⟨rfl, rfl, rfl⟩, hplaced, units_agree_of_run ⟨rfl, rfl, rfl⟩ hplaced (append_nil _).symm⟩

def resinWorkshop : State :=
  { workshop with
    machineTypes := ⟨[{ id := 1, slug := "resin_printer", meteringUnit := .volume }], by decide⟩ }

/-- 40 "grams" of millilitres are reserved, 50 used. -/
def resinRun : List Op :=
  [.createPool { newId := 1, makerspaceId := 1, material := "Resin", initialGrams := some 10000,
                 machineId := some 1 },
    .submit { newId := 1, target := .machine 1 },
    .accept 1 none none "" (.ok ()),
    .start { requestId := 1, machineId := some 1, consumablePoolId := some 1,
             plannedGrams := some 4000 },
    .complete { requestId := 1, actualMinutes := 30, actualQuantity := some 5000 }]

def resinPrices : Table TypePrice :=
  ⟨[{ makerspaceId := 1, machineTypeId := 1, ratePerUnit := 200, flatFee := 0,
      paymentEnabled := true }], by decide⟩

/-- Millilitres are debited in weight, and 50 g priced per millilitre. -/
theorem resinRun_mixes_units :
    (∃ pool ∈ (run step resinWorkshop resinRun).pools.rows, pool.unit = .milliliters ∧
      ∃ row ∈ (run step resinWorkshop resinRun).adjustments, row.poolId = pool.id ∧
        row.quantityDelta = -1000 ∧ row.meteringUnit = .weight) ∧
    ∃ request ∈ (run step resinWorkshop resinRun).requests.rows,
      request.runConsumablePoolId = some 1 ∧ request.meteringUnit = some .weight ∧
      ∃ machineType ∈ pricedType (run step resinWorkshop resinRun) request,
        effectiveMeteringUnit (run step resinWorkshop resinRun) machineType 1 = .volume ∧
        effectiveMeasure (run step resinWorkshop resinRun) request machineType =
          ⟨5000, some .weight⟩ ∧
        computeAmount (run step resinWorkshop resinRun) resinPrices request = 10000 := by
  decide

end Machines
end SpaceWorks
