import SpaceWorks.Machines.Headroom

/-!
# Retired pools

`retire_pool` writes the balance off, and reservations refuse the pool.  A correction, and the
reconciliation of an earlier reservation, do not ask.
-/

namespace SpaceWorks
namespace Machines

open Checked TransactionalSystem Table Option

def balance (s : State) (poolId : Nat) : Option Int :=
  (s.pools.get? poolId).map MachineConsumablePool.remainingGrams

/-- A correction that credits a pool within its initial quantity. -/
def CorrectsUp (s : State) (poolId : Nat) (op : Op) : Prop :=
  ∃ quantityDelta reason, op = .correctPool poolId quantityDelta reason ∧
    Python.strip reason ≠ "" ∧ 0 < quantityDelta ∧
    ∃ pool ∈ s.pools, pool.id = poolId ∧ pool.remainingGrams + quantityDelta ≤ pool.initialGrams

/-- The machine of a run, as `complete` and `fail` lock it. -/
def HasMachine (s : State) (request : MachineServiceRequest) : Prop :=
  ∃ machineId ∈ request.assignedMachineId, ∃ machine ∈ s.machines.get? machineId,
    ∃ machineType, s.machineTypes.get? machine.machineTypeId = some machineType

/-- What `complete` and `fail` check besides the pool of the run. -/
def FinishChecks (s : State) (request : MachineServiceRequest) : Op → Prop
  | .complete args =>
    request.status = .inProgress ∧ HasMachine s request ∧ 0 ≤ args.actualMinutes ∧
      args.gate = .ok ()
  | .fail args reason percentComplete =>
    Python.strip reason ≠ "" ∧ request.status = .inProgress ∧ HasMachine s request ∧
      0 ≤ args.actualMinutes ∧ (0 ≤ percentComplete ∧ percentComplete ≤ 100) ∧
      args.gate = .ok ()
  | _ => False

/-- A run finishes below its reservation, and the rest fits. -/
def GivesBack (s : State) (poolId : Nat) (op : Op) : Prop :=
  ∃ request ∈ s.requests, ∃ pool ∈ s.pools, pool.id = poolId ∧
    request.runConsumablePoolId = some poolId ∧
    ∃ actual, Finishes s request pool op actual ∧ FinishChecks s request op ∧
      0 ≤ actual ∧ actual < request.reservedQuantity.getD 0 ∧
      pool.remainingGrams + (request.reservedQuantity.getD 0 - actual) ≤ pool.initialGrams

def Refills (s : State) (poolId : Nat) (op : Op) : Prop :=
  CorrectsUp s poolId op ∨ GivesBack s poolId op

inductive PoolEffect (s : State) (op : Op) : Table MachineConsumablePool → Prop
  | kept : PoolEffect s op s.pools
  | opened {pool : MachineConsumablePool} (hnew : s.pools.get? (key pool) = none) :
      PoolEffect s op (s.pools.insert pool hnew)
  | lowered {pool pool' : MachineConsumablePool} (hpool : pool ∈ s.pools)
      (hid : pool'.id = pool.id) (hunit : pool'.unit = pool.unit)
      (hnonneg : 0 ≤ pool'.remainingGrams) (hle : pool'.remainingGrams ≤ pool.remainingGrams) :
      PoolEffect s op (s.pools.put pool')
  | credited {pool pool' : MachineConsumablePool} (hpool : pool ∈ s.pools)
      (hid : pool'.id = pool.id) (hunit : pool'.unit = pool.unit)
      (hrefills : Refills s pool.id op) :
      PoolEffect s op (s.pools.put pool')

section

variable {s s' : State} {request row : MachineServiceRequest} {pool : MachineConsumablePool}
variable {actualGrams : Int} {actualQuantity : Option Int} {reason : String}

def moveBalance (pool : MachineConsumablePool) (delta : Int) : MachineConsumablePool :=
  { pool with remainingGrams := pool.remainingGrams + delta }

@[simp] theorem moveBalance_id (pool : MachineConsumablePool) (delta : Int) :
    (moveBalance pool delta).id = pool.id := rfl

@[simp] theorem moveBalance_remainingGrams (pool : MachineConsumablePool) (delta : Int) :
    (moveBalance pool delta).remainingGrams = pool.remainingGrams + delta := rfl

theorem settleReservation_pools {delta : Int} {unit : Option MeteringUnit}
    (h : settleReservation s request pool delta reason unit = .ok s') :
    (delta = 0 ∧ s'.pools = s.pools) ∨
      (0 ≤ pool.remainingGrams + delta ∧ pool.remainingGrams + delta ≤ pool.initialGrams ∧
        s'.pools = s.pools.put (moveBalance pool delta)) := by
  rcases settleReservation_spec h with ⟨hzero, rfl⟩ | ⟨_, -, rfl, -, happly⟩
  · exact .inl ⟨hzero, rfl⟩
  · obtain ⟨hlow, hhigh, rfl⟩ := apply_ok.mp happly
    exact .inr ⟨hlow, hhigh, rfl⟩

theorem reconcileRequest_pools (hgrams : request.reservedGrams = request.reservedQuantity.getD 0 ∨
      (request.reservedQuantity ≠ none ∧ ∃ unit ≠ MeteringUnit.weight,
        request.meteringUnit = some unit))
    (h : reconcileRequest s request pool actualGrams actualQuantity reason = .ok (s', row)) :
    0 ≤ reconciledActual request pool actualGrams actualQuantity ∧
      ∃ delta, delta = request.reservedQuantity.getD 0
          - reconciledActual request pool actualGrams actualQuantity ∧
        ((delta = 0 ∧ s'.pools = s.pools) ∨
          (0 ≤ pool.remainingGrams + delta ∧ pool.remainingGrams + delta ≤ pool.initialGrams ∧
            s'.pools = s.pools.put (moveBalance pool delta))) := by
  unfold reconcileRequest at h
  split at h
  · next hlegacy =>
      rw [reconciledActual, if_pos hlegacy, ← reservedGrams_of_legacy hgrams hlegacy.2]
      simp only [legacyReconcileRequest, grams, nonNegative, bind_ok, require_ok,
        pure_ok, Prod.mk.injEq] at h
      obtain ⟨_, ⟨_, ⟨-, hnonneg, rfl⟩, _, hsettle, rfl⟩, rfl, rfl⟩ := h
      have hmoved := settleReservation_pools hsettle
      exact ⟨not_lt.mp hnonneg, _, rfl, hmoved⟩
  · next hgeneric =>
      rw [reconciledActual, if_neg hgeneric]
      simp only [quantity, nonNegative, bind_ok, require_ok, pure_ok, Prod.mk.injEq] at h
      obtain ⟨_, ⟨-, hnonneg, rfl⟩, _, hsettle, rfl, rfl⟩ := h
      have hmoved := settleReservation_pools hsettle
      exact ⟨not_lt.mp hnonneg, _, rfl, hmoved⟩

theorem settleReservation_credits
    (s : State) (request : MachineServiceRequest) (reason : String) (unit : Option MeteringUnit)
    {delta : Int} (hlow : 0 ≤ pool.remainingGrams) (hpos : 0 < delta)
    (hfits : pool.remainingGrams + delta ≤ pool.initialGrams) :
    ∃ mid, settleReservation s request pool delta reason unit = .ok mid ∧
      mid.pools = s.pools.put (moveBalance pool delta) := by
  unfold settleReservation
  rw [if_neg (by omega)]
  refine ⟨_, apply_ok.mpr ⟨?_, hfits, rfl⟩, rfl⟩
  show 0 ≤ pool.remainingGrams + delta
  omega

theorem reconcileRequest_credits (s : State) (reason : String)
    (hgrams : request.reservedGrams = request.reservedQuantity.getD 0 ∨
      (request.reservedQuantity ≠ none ∧ ∃ unit ≠ MeteringUnit.weight,
        request.meteringUnit = some unit)) (hlow : 0 ≤ pool.remainingGrams)
    (hnonneg : 0 ≤ reconciledActual request pool actualGrams actualQuantity)
    (hless : reconciledActual request pool actualGrams actualQuantity
      < request.reservedQuantity.getD 0)
    (hfits : pool.remainingGrams + (request.reservedQuantity.getD 0
      - reconciledActual request pool actualGrams actualQuantity) ≤ pool.initialGrams) :
    ∃ done, reconcileRequest s request pool actualGrams actualQuantity reason = .ok done ∧
      done.1.pools = s.pools.put (moveBalance pool (request.reservedQuantity.getD 0
        - reconciledActual request pool actualGrams actualQuantity)) := by
  unfold reconcileRequest
  split
  · next hlegacy =>
      rw [reconciledActual, if_pos hlegacy, ← reservedGrams_of_legacy hgrams hlegacy.2] at *
      obtain ⟨mid, hsettle, hpools⟩ := settleReservation_credits s request reason none hlow
        (Int.sub_pos.mpr hless) hfits
      simp only [legacyReconcileRequest, grams, nonNegative, bind_ok, require_ok, pure_ok]
      exact ⟨_, ⟨_, ⟨_, ⟨⟨⟩, not_lt.mpr hnonneg, rfl⟩, mid, hsettle, rfl⟩, rfl⟩, hpools⟩
  · next hgeneric =>
      rw [reconciledActual, if_neg hgeneric] at *
      obtain ⟨mid, hsettle, hpools⟩ := settleReservation_credits s request reason
        (some (request.meteringUnit.getD (meteringUnitForPool pool.unit))) hlow
        (Int.sub_pos.mpr hless) hfits
      simp only [quantity, nonNegative, bind_ok, require_ok, pure_ok]
      exact ⟨_, ⟨_, ⟨⟨⟩, not_lt.mpr hnonneg, rfl⟩, mid, hsettle, rfl⟩, hpools⟩

variable {op : Op} {request : MachineServiceRequest} {args : FinishArgs} {poolId : Nat}

theorem hasMachine_of_locked {machine : Machine} {machineType : MachineType}
    (hmachine : lockAssignedMachine s request = .ok machine)
    (htype : typeOf s machine = .ok machineType) :
    HasMachine s request := by
  simp [lockAssignedMachine] at hmachine
  obtain ⟨machineId, hassigned, hfound⟩ := hmachine
  exact ⟨machineId, hassigned, machine, hfound, machineType, orRefuse_ok.mp htype⟩

theorem finish_poolEffect {row : MachineServiceRequest} {machineType : MachineType}
    {actualGrams : Int} {actualQuantity : Option Int} (hrequest : request ∈ s.requests)
    (haccounted : request.Accounted) (hstatus : request.status = .inProgress)
    (hchecks : FinishChecks s request op) (hop : ∀ pool, Finishes s request pool op
      (reconciledActual request pool actualGrams actualQuantity))
    (h : finishConsumption s request machineType args actualGrams actualQuantity reason =
      .ok (s', row)) :
    PoolEffect s op s'.pools := by
  unfold finishConsumption at h
  split at h
  · simp at h
    obtain ⟨-, -, rfl, -⟩ := h
    exact .kept
  · next poolId hpooled =>
      simp [lockedPool_ok] at h
      obtain ⟨pool, ⟨hpool, rfl⟩, h⟩ := h
      obtain ⟨hnonneg, delta, _, hmoved⟩ := reconcileRequest_pools
        (haccounted.reserved_grams hstatus (by simp [hpooled])) h
      rcases hmoved with ⟨-, hkept⟩ | ⟨hlow, _, hput⟩
      · rw [hkept]
        exact .kept
      · rw [hput]
        rcases lt_or_ge 0 delta with _ | _
        · refine .credited hpool rfl rfl (.inr ⟨request, hrequest, pool, hpool, rfl, hpooled, _,
            hop pool, hchecks, hnonneg, by omega, by omega⟩)
        · refine .lowered hpool rfl rfl hlow ?_
          show pool.remainingGrams + delta ≤ pool.remainingGrams
          omega

theorem complete_poolEffect (haccounted : ∀ request ∈ s.requests, request.Accounted)
    (h : complete s args = .ok s') :
    PoolEffect s (.complete args) s'.pools := by
  simp only [complete, requireEdge, checkedMinutes, bind_ok, require_ok, pure_ok,
    lockedServiceRequest_ok, completed_mem_allowedEdges, mapError_eq_ok] at h
  obtain ⟨request, ⟨hrequest, hid⟩, -, hstatus, _, hmachine, _, ⟨-, hminutes, rfl⟩, _,
    hgate, _, htype, ⟨mid, _⟩, hfinish, rfl⟩ := h
  show PoolEffect s (.complete args) mid.pools
  refine finish_poolEffect hrequest (haccounted request hrequest) hstatus
    ⟨hstatus, hasMachine_of_locked hmachine htype, not_lt.mp hminutes, hgate⟩
    (fun pool => .complete ?_) hfinish
  rw [← hid]
  exact get?_key hrequest

theorem fail_poolEffect {percentComplete : Int}
    (haccounted : ∀ request ∈ s.requests, request.Accounted)
    (h : fail s args reason percentComplete = .ok s') :
    PoolEffect s (.fail args reason percentComplete) s'.pools := by
  simp only [fail, requireEdge, checkedPercent, checkedMinutes, bind_ok, require_ok,
    pure_ok, lockedServiceRequest_ok, failed_mem_allowedEdges, mapError_eq_ok] at h
  obtain ⟨-, hreason, request, ⟨hrequest, hid⟩, -, hstatus, _, hmachine, _,
    ⟨-, hminutes, rfl⟩, _, ⟨_, ⟨-, hlow, rfl⟩, -, hhigh, rfl⟩, _, hgate, _, htype,
    ⟨mid, _⟩, hfinish, rfl⟩ := h
  show PoolEffect s (.fail args reason percentComplete) mid.pools
  refine finish_poolEffect hrequest (haccounted request hrequest) hstatus
    ⟨hreason, hstatus, hasMachine_of_locked hmachine htype, not_lt.mp hminutes,
      ⟨not_lt.mp hlow, not_lt.mp hhigh⟩, hgate⟩
    (fun pool => .fail ?_) hfinish
  rw [← hid]
  exact get?_key hrequest

theorem start_poolEffect {args : StartArgs} (h : start s args = .ok s') :
    PoolEffect s (.start args) s'.pools := by
  simp only [start, bind_ok, pure_ok] at h
  obtain ⟨_, -, -, -, -, -, _, -, _, -, _, -, -, -, -, -, -, -, -, -, _, -,
    _, -, -, -, ⟨mid, _⟩, hreservation, rfl⟩ := h
  rcases startReservation_spec hreservation with
    ⟨rfl, -⟩ | ⟨pool, hpool, _, _, hreserve⟩
  · exact .kept
  · obtain ⟨amount, _, _, hlow, -, -, -, -, -, hbooks⟩ :=
      reserveForRequest_spec hreserve
    have hpools : mid.pools = _ := congrArg Books.pools hbooks
    rw [hpools]
    refine .lowered hpool rfl rfl hlow ?_
    show pool.remainingGrams + -amount ≤ pool.remainingGrams
    omega

theorem correctPool_poolEffect {quantityDelta : Int}
    (h : correctPool s poolId quantityDelta reason = .ok s') :
    PoolEffect s (.correctPool poolId quantityDelta reason) s'.pools := by
  simp only [correctPool, bind_ok, require_ok, lockedPool_ok] at h
  obtain ⟨-, hreason, pool, ⟨hpool, rfl⟩, -, -, h⟩ := h
  obtain ⟨hlow, hhigh, rfl⟩ := apply_ok.mp h
  rcases lt_or_ge 0 quantityDelta with hpos | _
  · exact .credited hpool rfl rfl
      (.inl ⟨quantityDelta, reason, rfl, hreason, hpos, pool, hpool, rfl, hhigh⟩)
  · refine .lowered hpool rfl rfl hlow ?_
    show pool.remainingGrams + quantityDelta ≤ pool.remainingGrams
    omega

theorem retirePool_poolEffect (hrange : ∀ pool ∈ s.pools, 0 ≤ pool.remainingGrams)
    (h : retirePool s poolId reason = .ok s') :
    PoolEffect s (.retirePool poolId reason) s'.pools := by
  simp only [retirePool, bind_ok, require_ok, lockedPool_ok] at h
  obtain ⟨-, -, pool, ⟨hpool, rfl⟩, h⟩ := h
  have hnonneg := hrange pool hpool
  split at h
  · split at h
    · obtain rfl := pure_ok.mp h
      exact .lowered hpool rfl rfl hnonneg (le_refl _)
    · simp only [bind_ok, lockedPool_ok, pure_ok, apply_ok] at h
      obtain ⟨_, ⟨-, -, rfl⟩, _, ⟨hemptied, hid⟩, rfl⟩ := h
      rcases mem_of_mem_put hemptied with rfl | ⟨-, hne⟩
      · simp only [key_pool, put_put]
        refine .lowered hpool rfl rfl ?_ ?_
        · show 0 ≤ pool.remainingGrams + -pool.remainingGrams
          omega
        · show pool.remainingGrams + -pool.remainingGrams ≤ pool.remainingGrams
          omega
      · exact absurd hid hne
  · obtain rfl := pure_ok.mp h
    exact .kept

theorem logTypedManualUsage_poolEffect {usage : ManualUsage}
    (h : logTypedManualUsage s usage = .ok s') :
    PoolEffect s (.logTypedManualUsage usage) s'.pools := by
  simp only [logTypedManualUsage, grams, nonNegative, bind_ok, require_ok, pure_ok] at h
  obtain ⟨_, -, _, -, -, -, -, -, -, -, -, -, _, ⟨-, hgrams, rfl⟩,
    consumed, hconsumed, found, hfound, _, -, -, -, -, -, h⟩ := h
  have hnonneg : 0 ≤ consumed := usedQuantity_nonneg (not_lt.mp hgrams) hconsumed
  cases found with
  | none =>
    obtain rfl := pure_ok.mp h
    exact .kept
  | some pool =>
    simp only [debitUsage] at h
    split at h
    · obtain rfl := pure_ok.mp h
      exact .kept
    · obtain ⟨hlow, -, rfl⟩ := apply_ok.mp h
      refine .lowered (usagePool_spec hfound pool rfl) rfl rfl hlow ?_
      show pool.remainingGrams + -consumed ≤ pool.remainingGrams
      omega

/-- A committed operation keeps the pools, opens, debits or refills one. -/
theorem step_poolEffect (hb : Balanced s.books) (h : step s op = .ok s') :
    PoolEffect s op s'.pools := by
  have hrange : ∀ pool ∈ s.pools, 0 ≤ pool.remainingGrams := fun pool hpool =>
    (hb.in_range pool hpool).1
  cases op with
  | createPool =>
    simp only [step, createPool, bind_ok, pure_ok, insertNew_ok] at h
    obtain ⟨_, -, _, -, _, -, _, -, _, -, -, -, -, -, -, -, -, -, -, -,
      _, ⟨hnew, rfl⟩, rfl⟩ := h
    exact .opened hnew
  | createReceivedPool =>
    simp only [step, createReceivedPool, bind_ok, pure_ok, insertNew_ok] at h
    obtain ⟨-, -, _, -, -, -, _, -, -, -, -, -, -, -, _, ⟨hnew, rfl⟩, rfl⟩ := h
    exact .opened hnew
  | correctPool => exact correctPool_poolEffect h
  | retirePool => exact retirePool_poolEffect hrange h
  | setPoolVisibility =>
    simp [step, setPoolVisibility, lockedPool_ok] at h
    obtain ⟨pool, ⟨hpool, rfl⟩, rfl⟩ := h
    exact .lowered hpool rfl rfl (hrange pool hpool) (le_refl _)
  | logTypedManualUsage => exact logTypedManualUsage_poolEffect h
  | submit =>
    simp [step, submit] at h
    obtain ⟨_, -, _, -, rfl⟩ := h
    exact .kept
  | createReprint =>
    simp [step, createReprint] at h
    obtain ⟨-, -, _, -, -, -, _, -, rfl⟩ := h
    exact .kept
  | accept =>
    simp [step, accept] at h
    obtain ⟨-, -, -, -, -, -, -, -, -, -, rfl⟩ := h
    exact .kept
  | reject =>
    simp [step, reject] at h
    obtain ⟨-, -, -, -, -, -, -, -, rfl⟩ := h
    exact .kept
  | start => exact start_poolEffect h
  | complete => exact complete_poolEffect hb.accounted h
  | fail => exact fail_poolEffect hb.accounted h
  | collect =>
    simp [step, collect] at h
    obtain ⟨-, -, -, -, -, -, rfl⟩ := h
    exact .kept
  | setStatus =>
    simp [step, setStatus] at h
    obtain ⟨-, -, -, -, rfl⟩ := h
    exact .kept
  | retireMachine =>
    simp [step, retireMachine] at h
    obtain ⟨-, -, -, -, rfl⟩ := h
    exact .kept
  | unretireMachine =>
    simp [step, unretireMachine] at h
    obtain ⟨-, -, -, -, rfl⟩ := h
    exact .kept

theorem balance_put {pool pool' : MachineConsumablePool}
    (hpool : pool ∈ s.pools) (hid : pool'.id = pool.id) (poolId : Nat) :
    ((s.pools.put pool').get? poolId).map MachineConsumablePool.remainingGrams =
      if poolId = pool.id then some pool'.remainingGrams else balance s poolId := by
  split
  · next heq =>
      subst heq
      have hfound : s.pools.get? (key pool') = some pool := by
        rw [key_pool, hid]
        exact get?_key hpool
      rw [← hid]
      simp [show (s.pools.put pool').get? pool'.id = some pool' from get?_put_self hfound]
  · next hne =>
      rw [get?_put_of_ne _ (by rw [key_pool, hid]; exact hne)]
      rfl

theorem balance_eq_some {amount : Int} :
    balance s poolId = some amount ↔
      ∃ pool ∈ s.pools, pool.id = poolId ∧ pool.remainingGrams = amount := by
  simp only [balance, map_eq_some_iff, get?_eq_some, key_pool]
  constructor
  · rintro ⟨pool, ⟨hpool, hid⟩, hamount⟩
    exact ⟨pool, hpool, hid, hamount⟩
  · rintro ⟨pool, hpool, hid, hamount⟩
    exact ⟨pool, ⟨hpool, hid⟩, hamount⟩

theorem empty_of_step (hb : Balanced s.books) (hempty : balance s poolId = some 0)
    (hop : ¬ Refills s poolId op) (h : step s op = .ok s') :
    balance s' poolId = some 0 := by
  have heffect := step_poolEffect hb h
  unfold balance
  generalize s'.pools = pools at heffect
  cases heffect with
  | kept => exact hempty
  | @opened pool hnew =>
    have hne : poolId ≠ key pool := by
      rintro rfl
      rw [balance, hnew] at hempty
      cases hempty
    rw [get?_insert, if_neg hne]
    exact hempty
  | @lowered pool pool' hpool hid =>
    rw [balance_put hpool hid]
    split
    · next heq =>
        obtain ⟨found, hfound, hfoundId, _⟩ := balance_eq_some.mp hempty
        obtain rfl : found = pool := eq_of_key_eq hfound hpool (hfoundId.trans heq)
        have hstill : pool'.remainingGrams = 0 := by omega
        rw [hstill]
    · exact hempty
  | @credited _ _ hpool hid _ hrefills =>
    rw [balance_put hpool hid, if_neg]
    · exact hempty
    · rintro rfl
      exact hop hrefills

theorem finishConsumption_credits
    {request : MachineServiceRequest} {pool : MachineConsumablePool} {actualGrams : Int}
    {actualQuantity : Option Int} (hb : Balanced s.books)
    (hrequest : request ∈ s.requests) (hstatus : request.status = .inProgress)
    (hpool : pool ∈ s.pools) (hpooled : request.runConsumablePoolId = some pool.id)
    (hnonneg : 0 ≤ reconciledActual request pool actualGrams actualQuantity)
    (hless : reconciledActual request pool actualGrams actualQuantity
      < request.reservedQuantity.getD 0)
    (hfits : pool.remainingGrams + (request.reservedQuantity.getD 0
      - reconciledActual request pool actualGrams actualQuantity) ≤ pool.initialGrams)
    (machineType : MachineType) (args : FinishArgs) (reason : String) :
    ∃ done, finishConsumption s request machineType args actualGrams actualQuantity reason
        = .ok done ∧
      (done.1.pools.get? pool.id).map MachineConsumablePool.remainingGrams ≠ some 0 := by
  have hbalance := (hb.in_range pool hpool).1
  obtain ⟨done, hreconcile, hpools⟩ := reconcileRequest_credits s reason
    ((hb.accounted request hrequest).reserved_grams hstatus (by simp [hpooled])) hbalance hnonneg
    hless hfits
  refine ⟨done, ?_, ?_⟩
  · simp only [finishConsumption, hpooled, bind_ok, lockedPool_ok]
    exact ⟨pool, ⟨hpool, rfl⟩, hreconcile⟩
  · rw [hpools, balance_put hpool (moveBalance_id pool _), if_pos rfl, moveBalance_remainingGrams]
    intro hzero
    have hafter := some.inj hzero
    omega

theorem not_empty_of_givesBack (hb : Balanced s.books) (hop : GivesBack s poolId op) :
    ∃ s', step s op = .ok s' ∧ balance s' poolId ≠ some 0 := by
  obtain ⟨request, hrequest, _, hpool, rfl, hpooled, _, hfinishes, hchecks, hnonneg, hless,
    hfits⟩ := hop
  cases hfinishes with
  | @complete args hfound =>
    obtain ⟨hstatus, ⟨machineId, hassigned, machine, hmachine, machineType, htype⟩, hminutes,
      hgate⟩ := hchecks
    obtain ⟨done, hdone, hcredit⟩ := finishConsumption_credits hb hrequest hstatus hpool hpooled
      hnonneg hless hfits machineType args ""
    have hstep : ∃ s', step s (.complete args) = .ok s' ∧ s'.pools = done.1.pools := by
      simp only [step, complete, requireEdge, checkedMinutes, lockAssignedMachine, typeOf,
        lockedServiceRequest, bind_ok, require_ok, pure_ok, orRefuse_ok,
        completed_mem_allowedEdges, mapError_eq_ok]
      exact ⟨_, ⟨request, hfound, ⟨⟩, hstatus, machine, ⟨machineId, hassigned, hmachine⟩, _,
        ⟨⟨⟩, not_lt.mpr hminutes, rfl⟩, ⟨⟩, hgate, machineType, htype, done, hdone, rfl⟩, rfl⟩
    obtain ⟨s', hok, hpools⟩ := hstep
    refine ⟨s', hok, ?_⟩
    rw [balance, hpools]
    exact hcredit
  | @fail args reason percentComplete hfound =>
    obtain ⟨hreason, hstatus, ⟨machineId, hassigned, machine, hmachine, machineType, htype⟩,
      hminutes, ⟨hlow, hhigh⟩, hgate⟩ := hchecks
    obtain ⟨done, hdone, hcredit⟩ := finishConsumption_credits hb hrequest hstatus hpool hpooled
      hnonneg hless hfits machineType args (Python.strip reason)
    have hstep : ∃ s', step s (.fail args reason percentComplete) = .ok s' ∧
        s'.pools = done.1.pools := by
      simp only [step, fail, requireEdge, checkedMinutes, checkedPercent, lockAssignedMachine,
        typeOf, lockedServiceRequest, bind_ok, require_ok, pure_ok, orRefuse_ok,
        failed_mem_allowedEdges, mapError_eq_ok]
      exact ⟨_, ⟨⟨⟩, hreason, request, hfound, ⟨⟩, hstatus, machine,
        ⟨machineId, hassigned, hmachine⟩, _, ⟨⟨⟩, not_lt.mpr hminutes, rfl⟩, _,
        ⟨_, ⟨⟨⟩, not_lt.mpr hlow, rfl⟩, ⟨⟩, not_lt.mpr hhigh, rfl⟩, ⟨⟩, hgate, machineType, htype,
        done, hdone, rfl⟩, rfl⟩
    obtain ⟨s', hok, hpools⟩ := hstep
    refine ⟨s', hok, ?_⟩
    rw [balance, hpools]
    exact hcredit

theorem not_empty_of_correctsUp (hb : Balanced s.books) (hop : CorrectsUp s poolId op) :
    ∃ s', step s op = .ok s' ∧ balance s' poolId ≠ some 0 := by
  obtain ⟨quantityDelta, reason, rfl, hreason, _, pool, hpool, rfl, hfits⟩ := hop
  have hnonneg := (hb.in_range pool hpool).1
  have hstep : ∃ s', step s (.correctPool pool.id quantityDelta reason) = .ok s' ∧
      s'.pools = s.pools.put (moveBalance pool quantityDelta) := by
    simp only [step, correctPool, bind_ok, require_ok, lockedPool_ok, apply_ok]
    exact ⟨_, ⟨⟨⟩, hreason, pool, ⟨hpool, rfl⟩, ⟨⟩, by omega, by omega, hfits, rfl⟩, rfl⟩
  obtain ⟨s', hok, hpools⟩ := hstep
  refine ⟨s', hok, ?_⟩
  rw [balance, hpools, balance_put hpool (moveBalance_id pool _), if_pos rfl,
    moveBalance_remainingGrams]
  intro hzero
  have hafter := some.inj hzero
  omega

theorem empty_settle_iff (hb : Balanced s.books) (hempty : balance s poolId = some 0) :
    balance (settle step s op) poolId = some 0 ↔ ¬ Refills s poolId op := by
  constructor
  · intro hstill hrefills
    have hcredit : ∃ s', step s op = .ok s' ∧ balance s' poolId ≠ some 0 := by
      rcases hrefills with hcorrects | hgives
      · exact not_empty_of_correctsUp hb hcorrects
      · exact not_empty_of_givesBack hb hgives
    obtain ⟨_, hstep, hleft⟩ := hcredit
    rw [settle_ok hstep] at hstill
    exact hleft hstill
  · intro hop
    cases h : step s op with
    | ok =>
      rw [settle_ok h]
      exact empty_of_step hb hempty hop h
    | error =>
      rw [settle_error h]
      exact hempty

theorem empty_of_retirePool_iff {reason : String} (h : retirePool s poolId reason = .ok s') :
    balance s' poolId = some 0 ↔
    ∃ pool ∈ s.pools, pool.id = poolId ∧ (pool.isActive = true ∨ pool.remainingGrams = 0) := by
  simp only [retirePool, bind_ok, require_ok, lockedPool_ok] at h
  obtain ⟨-, -, pool, ⟨hpool, rfl⟩, h⟩ := h
  split at h
  · next hactive =>
      refine iff_of_true ?_ ⟨pool, hpool, rfl, .inl hactive⟩
      split at h
      · next hzero =>
          obtain rfl := pure_ok.mp h
          exact (balance_put hpool (by rfl) _).trans ((if_pos rfl).trans (congrArg some hzero))
      · simp only [bind_ok, lockedPool_ok, pure_ok, apply_ok] at h
        obtain ⟨_, ⟨-, -, rfl⟩, _, ⟨hemptied, hid⟩, rfl⟩ := h
        rcases mem_of_mem_put hemptied with rfl | ⟨-, hne⟩
        · simp only [balance, key_pool, put_put]
          exact (balance_put hpool (by rfl) _).trans
            ((if_pos rfl).trans (congrArg some (Int.add_right_neg _)))
        · exact absurd hid hne
  · next hretired =>
      obtain rfl := pure_ok.mp h
      constructor
      · intro hempty
        obtain ⟨found, hfound, hid, hzero⟩ := balance_eq_some.mp hempty
        exact ⟨found, hfound, hid, .inr hzero⟩
      · rintro ⟨found, hfound, hid, hactive | hzero⟩
        · obtain rfl : found = pool := eq_of_key_eq hfound hpool hid
          exact absurd hactive hretired
        · exact balance_eq_some.mpr ⟨found, hfound, hid, hzero⟩

end

/-- **Retired pools.** A retired pool is empty ever after exactly when it was active or empty and is
not refilled. -/
theorem emptied_after_retirement_iff
    {s₀ s' : State} (h₀ : s₀.Fresh) (before after : List Op) {poolId : Nat} {reason : String}
    (hretire : step (run step s₀ before) (.retirePool poolId reason) = .ok s') :
    (∀ between rest, after = between ++ rest → balance (run step s' between) poolId = some 0) ↔
    (∃ pool ∈ (run step s₀ before).pools, pool.id = poolId ∧
      (pool.isActive = true ∨ pool.remainingGrams = 0)) ∧
    ∀ between op rest, after = between ++ op :: rest →
      ¬ Refills (run step s' between) poolId op := by
  have hbalanced : ∀ between, Balanced (run step s' between).books := by
    intro between
    have hrun : run step s₀ (before ++ .retirePool poolId reason :: between) =
        run step s' between := by
      rw [run_append, run_cons, settle_ok hretire]
    rw [← hrun]
    exact run_preserves balanced_preserved (balanced_of_fresh h₀) _
  constructor
  · intro hall
    refine ⟨(empty_of_retirePool_iff hretire).mp (hall [] after rfl), ?_⟩
    intro between op rest hops
    have hbefore := hall between (op :: rest) hops
    have hafter := hall (between ++ [op]) rest (by simp [hops])
    rw [run_append, run_cons, run_nil] at hafter
    exact (empty_settle_iff (hbalanced between) hbefore).mp hafter
  · rintro ⟨hfound, hkept⟩ between rest hops
    induction between using List.reverseRecOn generalizing rest with
    | nil => exact (empty_of_retirePool_iff hretire).mpr hfound
    | append_singleton between op ih =>
      have hops' : after = between ++ op :: rest := by simp [hops]
      rw [run_append, run_cons, run_nil]
      exact (empty_settle_iff (hbalanced between) (ih (op :: rest) hops')).mpr
        (hkept between op rest hops')

def retiringRun : List Op :=
  [.createPool { newId := 1, makerspaceId := 1, material := "PLA", initialGrams := some 10000 },
    .submit { newId := 1, target := .machine 1 },
    .accept 1 none none "" (.ok ()),
    .start { requestId := 1, machineId := some 1, consumablePoolId := some 1,
             plannedGrams := some 4000 }]

def retiredState : State :=
  run step workshop (retiringRun ++ [.retirePool 1 "end of spool"])

def usedUp : List Op :=
  [.complete { requestId := 1, actualMinutes := 30, actualGrams := some 4000 }]

theorem emptied_after_retirement_of_usedUp :
    workshop.Fresh ∧
    step (run step workshop retiringRun) (.retirePool 1 "end of spool") = .ok retiredState ∧
    ((∀ between rest, usedUp = between ++ rest → balance (run step retiredState between) 1 = some 0)
      ↔
    (∃ pool ∈ (run step workshop retiringRun).pools, pool.id = 1 ∧
      (pool.isActive = true ∨ pool.remainingGrams = 0)) ∧
    ∀ between op rest, usedUp = between ++ op :: rest →
      ¬ Refills (run step retiredState between) 1 op) :=
  have hretire :
      step (run step workshop retiringRun) (.retirePool 1 "end of spool") = .ok retiredState := rfl
  ⟨⟨rfl, rfl, rfl⟩, hretire, emptied_after_retirement_iff ⟨rfl, rfl, rfl⟩ retiringRun usedUp hretire⟩

/-- The job uses 30 g, and the retired pool holds 10 g, also when retired again. -/
theorem retired_pool_is_credited :
    balance retiredState 1 = some 0 ∧
    balance (run step retiredState
      [.complete { requestId := 1, actualMinutes := 30, actualGrams := some 3000 }]) 1 = some 1000 ∧
    balance (run step retiredState
      [.complete { requestId := 1, actualMinutes := 30, actualGrams := some 3000 },
        .retirePool 1 "still some left"]) 1 = some 1000 := by
  decide

end Machines
end SpaceWorks
