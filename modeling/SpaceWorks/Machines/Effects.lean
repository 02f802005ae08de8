import SpaceWorks.Machines.Ledger

/-!
# What the machine services do to the books

Every committed operation has one of the effects of `Ledger.lean`; the ledger rests on this and not
on the bodies.
-/

namespace SpaceWorks
namespace Machines

open Checked TransactionalSystem Table

variable {s s' : State}

section

variable {pool : MachineConsumablePool} {posting : Posting}

theorem apply_ok :
    apply s pool posting = .ok s' ↔
    0 ≤ pool.remainingGrams + posting.delta ∧
      pool.remainingGrams + posting.delta ≤ pool.initialGrams ∧
      s' = { s with
        adjustments := s.adjustments ++ [posting.row pool]
        pools := s.pools.put
          { pool with remainingGrams := pool.remainingGrams + posting.delta } } := by
  simp only [apply, bind_ok, require_ok, pure_ok]
  constructor
  · rintro ⟨-, hnonneg, -, hcapped, rfl⟩
    exact ⟨not_lt.mp hnonneg, not_lt.mp hcapped, rfl⟩
  · rintro ⟨hnonneg, hcapped, rfl⟩
    exact ⟨⟨⟩, not_lt.mpr hnonneg, ⟨⟩, not_lt.mpr hcapped, rfl⟩

theorem apply_ne_error (hlow : 0 ≤ pool.remainingGrams + posting.delta)
    (hhigh : pool.remainingGrams + posting.delta ≤ pool.initialGrams) (e : Error) :
    apply s pool posting ≠ .error e := by
  rw [apply_ok.mpr ⟨hlow, hhigh, rfl⟩]
  simp

theorem lockedPool_ok {poolId : Nat} :
    lockedPool s poolId = .ok pool ↔ pool ∈ s.pools ∧ pool.id = poolId := by
  rw [lockedPool, orRefuse_ok]
  exact get?_eq_some

theorem lockedServiceRequest_ok {requestId : Nat} {request : MachineServiceRequest} :
    lockedServiceRequest s requestId = .ok request ↔
    request ∈ s.requests ∧ request.id = requestId := by
  rw [lockedServiceRequest, orRefuse_ok]
  exact get?_eq_some

variable {poolId : Nat} {reason : String} {machine : Machine}

theorem createPool_effect {new : NewPool} (h : createPool s new = .ok s') :
    Effect s.books (.createPool new) s'.books := by
  simp only [createPool, grams, nonNegative, bind_ok, require_ok, pure_ok, insertNew_ok] at h
  obtain ⟨_, -, _, -, _, -, _, -, _, ⟨-, hnonneg, rfl⟩, -, -, -, -,
    -, -, -, -, -, -, _, ⟨hnew, rfl⟩, rfl⟩ := h
  exact .opened hnew (.created rfl) (not_lt.mp hnonneg) (le_refl _)

theorem createReceivedPool_effect {data : ReceivedSpool} (h : createReceivedPool s data = .ok s') :
    Effect s.books (.createReceivedPool data) s'.books := by
  simp only [createReceivedPool, bind_ok, require_ok, pure_ok, orRefuse_ok, insertNew_ok] at h
  obtain ⟨-, -, _, hinitial, -, -, _, hremaining, -, hnonneg, -, hcapped, -, -, _,
    ⟨hnew, rfl⟩, rfl⟩ := h
  refine .opened hnew (.received rfl ?_) (not_lt.mp hnonneg) (not_lt.mp hcapped)
  rw [hinitial]
  exact hremaining

theorem correctPool_effect {quantityDelta : Int}
    (h : correctPool s poolId quantityDelta reason = .ok s') :
    Effect s.books (.correctPool poolId quantityDelta reason) s'.books := by
  simp only [correctPool, bind_ok, require_ok, lockedPool_ok] at h
  obtain ⟨-, -, _, ⟨hpool, rfl⟩, -, -, h⟩ := h
  obtain ⟨hnonneg, hcapped, rfl⟩ := apply_ok.mp h
  exact .posted hpool ⟨rfl, rfl⟩ rfl rfl hnonneg hcapped rfl (by simp [Posting.row])
    (.inr ⟨reason, rfl⟩)

theorem retirePool_effect (hrange : ∀ pool ∈ s.pools, 0 ≤ pool.remainingGrams)
    (h : retirePool s poolId reason = .ok s') :
    Effect s.books (.retirePool poolId reason) s'.books := by
  simp only [retirePool, bind_ok, require_ok, lockedPool_ok] at h
  obtain ⟨-, -, pool, ⟨hpool, rfl⟩, h⟩ := h
  split at h
  · split at h
    · obtain rfl := pure_ok.mp h
      exact .relabelled hpool ⟨rfl, rfl⟩ rfl
    · simp only [bind_ok, lockedPool_ok, pure_ok, apply_ok] at h
      obtain ⟨_, ⟨hnonneg, hcapped, rfl⟩, emptied, ⟨hemptied, hid⟩, rfl⟩ := h
      have hwritten : emptied =
          { pool with remainingGrams := pool.remainingGrams + -pool.remainingGrams } := by
        rcases mem_of_mem_put hemptied with heq | ⟨-, hne⟩
        · exact heq
        · exact absurd hid hne
      subst hwritten
      have hdebit : -pool.remainingGrams ≤ 0 := Int.neg_nonpos_of_nonneg (hrange pool hpool)
      simp only [State.books, key_pool, put_put]
      exact .posted hpool ⟨rfl, rfl⟩ rfl rfl hnonneg hcapped rfl (by simp [Posting.row])
        (.inl hdebit)
  · obtain rfl := pure_ok.mp h
    exact .idle

theorem setPoolVisibility_effect {isPublic : Bool}
    (h : setPoolVisibility s poolId isPublic = .ok s') :
    Effect s.books (.setPoolVisibility poolId isPublic) s'.books := by
  simp [setPoolVisibility, lockedPool_ok] at h
  obtain ⟨_, ⟨hpool, rfl⟩, rfl⟩ := h
  exact .relabelled hpool ⟨rfl, rfl⟩ rfl

theorem usedQuantity_nonneg {consumedGrams consumed : Int} {value : Option Int}
    (hgrams : 0 ≤ consumedGrams) (h : usedQuantity consumedGrams value = .ok consumed) :
    0 ≤ consumed := by
  cases value with
  | none =>
    obtain rfl := pure_ok.mp h
    exact hgrams
  | some =>
    simp only [usedQuantity, grams, nonNegative, bind_ok, require_ok, pure_ok] at h
    obtain ⟨-, hvalue, rfl⟩ := h
    exact not_lt.mp hvalue

theorem usagePool_spec {machineType : MachineType} {poolId : Option Nat}
    {found : Option MachineConsumablePool}
    (h : usagePool s machine machineType poolId = .ok found) :
    ∀ pool ∈ found, pool ∈ s.pools := by
  cases poolId with
  | none =>
    obtain rfl := pure_ok.mp h
    simp
  | some =>
    simp [usagePool, lockedPool_ok] at h
    obtain ⟨_, ⟨hpool, -⟩, -, -, -, -, rfl⟩ := h
    simpa using hpool

theorem checkUsageRequest_spec {serviceRequestId : Option Nat} {u : Unit}
    (h : checkUsageRequest s machine serviceRequestId = .ok u)
    (requestId : Nat) (hrequest : serviceRequestId = some requestId) :
    (s.requests.get? requestId).isSome := by
  subst hrequest
  simp [checkUsageRequest, lockedServiceRequest] at h
  obtain ⟨_, hfound, -⟩ := h
  simp [hfound]

theorem logTypedManualUsage_effect {usage : ManualUsage}
    (h : logTypedManualUsage s usage = .ok s') :
    Effect s.books (.logTypedManualUsage usage) s'.books := by
  simp only [logTypedManualUsage, grams, nonNegative, bind_ok, require_ok, pure_ok] at h
  obtain ⟨_, -, _, -, -, -, -, -, -, -, -, -, _, ⟨-, hgrams, rfl⟩,
    consumed, hconsumed, found, hfound, _, hrequest, -, -, -, -, h⟩ := h
  have hnonneg : 0 ≤ consumed := usedQuantity_nonneg (not_lt.mp hgrams) hconsumed
  cases found with
  | none =>
    obtain rfl := pure_ok.mp h
    exact .idle
  | some pool =>
    simp only [debitUsage] at h
    split at h
    · obtain rfl := pure_ok.mp h
      exact .idle
    · have hpool : pool ∈ s.pools := usagePool_spec hfound pool rfl
      have hdebit : -consumed ≤ 0 := Int.neg_nonpos_of_nonneg hnonneg
      obtain ⟨hlow, hhigh, rfl⟩ := apply_ok.mp h
      exact .posted hpool ⟨rfl, rfl⟩ rfl rfl hlow hhigh rfl (checkUsageRequest_spec hrequest)
        (.inl hdebit)

variable {status : RequestStatus}

@[simp] theorem accepted_mem_allowedEdges :
    .accepted ∈ allowedEdges status ↔ status = .pending := by
  cases status <;> simp [allowedEdges]

@[simp] theorem rejected_mem_allowedEdges :
    .rejected ∈ allowedEdges status ↔ status = .pending := by
  cases status <;> simp [allowedEdges]

@[simp] theorem inProgress_mem_allowedEdges :
    .inProgress ∈ allowedEdges status ↔ status = .accepted := by
  cases status <;> simp [allowedEdges]

@[simp] theorem completed_mem_allowedEdges :
    .completed ∈ allowedEdges status ↔ status = .inProgress := by
  cases status <;> simp [allowedEdges]

@[simp] theorem failed_mem_allowedEdges :
    .failed ∈ allowedEdges status ↔ status = .inProgress := by
  cases status <;> simp [allowedEdges]

@[simp] theorem collected_mem_allowedEdges :
    .collected ∈ allowedEdges status ↔ status = .completed := by
  cases status <;> simp [allowedEdges]

variable {request row : MachineServiceRequest}

theorem accounted_of_unreserved (hstatus : row.status ≠ .inProgress)
    (hpool : row.runConsumablePoolId = none) (hgrams : row.reservedGrams = 0)
    (hquantity : row.reservedQuantity = none) :
    row.Accounted where
  unstarted := fun _ _ => ⟨hpool, hgrams, hquantity⟩
  reserved_nonneg := fun h => absurd h hstatus
  reserved_grams := fun h => absurd h hstatus

theorem accounted_of_finished (hstatus : row.status.isFinished = true) :
    row.Accounted where
  unstarted := fun _ h => by simp [hstatus] at h
  reserved_nonneg := fun h => by simp [h, RequestStatus.isFinished] at hstatus
  reserved_grams := fun h => by simp [h, RequestStatus.isFinished] at hstatus

theorem moved_of_unpooled {b : Books} {op : Op} (hrequest : request ∈ b.requests)
    (hpool : request.runConsumablePoolId = none) (hid : row.id = request.id)
    (haccounted : row.Accounted) (hrow : row.runConsumablePoolId = none) :
    Effect b op { b with requests := b.requests.put row } := by
  refine .moved hrequest hid haccounted (fun poolId => ?_) (fun poolId => ?_)
  · rw [MachineServiceRequest.chargedAt_of_unpooled hpool,
      MachineServiceRequest.chargedAt_of_unpooled hrow]
  · rw [MachineServiceRequest.outstandingAt_of_unpooled hpool,
      MachineServiceRequest.outstandingAt_of_unpooled hrow]

end

theorem submittedRow_spec {submission : Submission} {row : MachineServiceRequest}
    (h : submittedRow s submission = .ok row) :
    row.Accounted ∧ row.runConsumablePoolId = none := by
  unfold submittedRow at h
  split at h
  · simp [submitToQueue] at h
    obtain ⟨-, -, -, -, -, -, -, -, -, -, rfl⟩ := h
    exact ⟨accounted_of_unreserved (by simp) rfl rfl rfl, rfl⟩
  · simp [submitToMachine] at h
    obtain ⟨-, -, -, -, -, -, -, -, -, -, rfl⟩ := h
    exact ⟨accounted_of_unreserved (by simp) rfl rfl rfl, rfl⟩

theorem submit_effect {submission : Submission} (h : submit s submission = .ok s') :
    Effect s.books (.submit submission) s'.books := by
  simp only [submit, bind_ok, pure_ok, insertNew_ok] at h
  obtain ⟨_, hrow, _, ⟨hnew, rfl⟩, rfl⟩ := h
  obtain ⟨haccounted, hunpooled⟩ := submittedRow_spec hrow
  exact .arrived hnew haccounted hunpooled

theorem createReprint_effect {requestId newId : Nat} {gate : Except String Unit}
    (h : createReprint s requestId newId gate = .ok s') :
    Effect s.books (.createReprint requestId newId gate) s'.books := by
  simp only [createReprint, bind_ok, pure_ok, insertNew_ok] at h
  obtain ⟨-, -, _, -, -, -, _, ⟨hnew, rfl⟩, rfl⟩ := h
  exact .arrived hnew (accounted_of_unreserved (by simp) rfl rfl rfl) rfl

section Decisions

variable (haccounted : ∀ request ∈ s.requests, request.Accounted)
  {requestId : Nat} {gate : Except String Unit}

include haccounted

theorem accept_effect {estimated plannedGrams : Option Int} {note : String}
    (h : accept s requestId estimated plannedGrams note gate = .ok s') :
    Effect s.books (.accept requestId estimated plannedGrams note gate) s'.books := by
  simp only [accept, requireEdge, bind_ok, require_ok, pure_ok,
    lockedServiceRequest_ok, accepted_mem_allowedEdges] at h
  obtain ⟨request, ⟨hrequest, -⟩, -, -, -, hstatus, -, -, -, -, rfl⟩ := h
  obtain ⟨hpool, hgrams, hquantity⟩ := (haccounted request hrequest).unstarted
    (by simp [hstatus]) (by simp [hstatus, RequestStatus.isFinished])
  exact moved_of_unpooled hrequest hpool rfl
    (accounted_of_unreserved (by simp) hpool hgrams hquantity) hpool

theorem reject_effect {reason : String} (h : reject s requestId reason gate = .ok s') :
    Effect s.books (.reject requestId reason gate) s'.books := by
  simp only [reject, requireEdge, bind_ok, require_ok, pure_ok,
    lockedServiceRequest_ok, rejected_mem_allowedEdges] at h
  obtain ⟨-, -, request, ⟨hrequest, -⟩, -, -, -, hstatus, rfl⟩ := h
  obtain ⟨hpool, hgrams, hquantity⟩ := (haccounted request hrequest).unstarted
    (by simp [hstatus]) (by simp [hstatus, RequestStatus.isFinished])
  exact moved_of_unpooled hrequest hpool rfl
    (accounted_of_unreserved (by simp) hpool hgrams hquantity) hpool

omit haccounted in
theorem collect_effect (h : collect s requestId gate = .ok s') :
    Effect s.books (.collect requestId gate) s'.books := by
  simp only [collect, requireEdge, bind_ok, require_ok, pure_ok,
    lockedServiceRequest_ok, collected_mem_allowedEdges] at h
  obtain ⟨_, ⟨hrequest, -⟩, -, -, -, hstatus, rfl⟩ := h
  refine .moved hrequest rfl (accounted_of_finished rfl) (fun poolId => ?_) (fun poolId => ?_)
  · simp [MachineServiceRequest.chargedAt, MachineServiceRequest.charged, hstatus,
      RequestStatus.isFinished]
  · simp [MachineServiceRequest.outstandingAt, hstatus]

end Decisions

section

variable {request row : MachineServiceRequest} {machine : Machine} {args : StartArgs}

structure Reserved (request row : MachineServiceRequest) (pool : MachineConsumablePool)
    (amount : Int) : Prop where
  id : row.id = request.id
  pool : row.runConsumablePoolId = some pool.id
  quantity : row.reservedQuantity = some amount
  grams : row.reservedGrams = amount ∨ ∃ unit ≠ MeteringUnit.weight, row.meteringUnit = some unit

theorem reserveForRequest_spec {pool : MachineConsumablePool} {plannedGrams : Int}
    {plannedQuantity : Option Int}
    (h : reserveForRequest s request pool plannedGrams plannedQuantity machine = .ok (s', row)) :
    ∃ (amount : Int) (posting : Posting), 0 < amount ∧ 0 ≤ pool.remainingGrams + -amount ∧
      pool.remainingGrams + -amount ≤ pool.initialGrams ∧
      posting.kind = .reserve ∧
      posting.delta = -amount ∧
      posting.serviceRequestId = some request.id ∧
      Reserved request row pool amount ∧
      s'.books =
        { pools := s.pools.put { pool with remainingGrams := pool.remainingGrams + -amount }
          adjustments := s.adjustments ++ [posting.row pool]
          requests := s.requests.put row } := by
  cases plannedQuantity with
  | none =>
    simp only [reserveForRequest, legacyReserveForRequest, grams, nonNegative, bind_ok,
      require_ok, pure_ok, apply_ok, Prod.mk.injEq] at h
    obtain ⟨_, ⟨_, ⟨-, hnonneg, rfl⟩, -, hpos, -, -, -, -, _, ⟨hlow, hhigh, rfl⟩, rfl⟩,
      rfl, rfl⟩ := h
    exact ⟨plannedGrams, _, lt_of_le_of_ne (not_lt.mp hnonneg) (Ne.symm hpos), hlow, hhigh,
      rfl, rfl, rfl, ⟨rfl, rfl, rfl, .inl rfl⟩, rfl⟩
  | some planned =>
    simp only [reserveForRequest, quantity, nonNegative, bind_ok, require_ok,
      pure_ok, apply_ok, Prod.mk.injEq] at h
    obtain ⟨machineType, -, _, ⟨-, hnonneg, rfl⟩, -, hpos, -, _, -, -, -, -, _,
      ⟨hlow, hhigh, rfl⟩, rfl, rfl⟩ := h
    refine ⟨planned, _, lt_of_le_of_ne (not_lt.mp hnonneg) (Ne.symm hpos), hlow, hhigh,
      rfl, rfl, rfl, ⟨rfl, rfl, rfl, ?_⟩, rfl⟩
    by_cases hweight : request.meteringUnit.getD
        (effectiveMeteringUnit s machineType request.makerspaceId) = .weight
    · exact .inl (by simp [hweight])
    · exact .inr ⟨_, hweight, rfl⟩

theorem startReservation_spec {minutes : Int} {machineType : MachineType}
    (h : startReservation s args request minutes machine machineType = .ok (s', row)) :
    (s' = s ∧ row.id = request.id ∧ row.runConsumablePoolId = request.runConsumablePoolId
        ∧ row.reservedQuantity = request.reservedQuantity) ∨
      ∃ pool ∈ s.pools, ∃ plannedGrams plannedQuantity,
        reserveForRequest s request pool plannedGrams plannedQuantity machine = .ok (s', row) := by
  have hpool : ∀ {poolId : Nat} {pool : MachineConsumablePool},
      ((s.pools.get? poolId).filter fun pool => pool.makerspaceId = request.makerspaceId) =
        some pool → pool ∈ s.pools := by
    intro poolId pool hfound
    exact mem_of_get? (Option.filter_eq_some_iff.mp hfound).1
  unfold startReservation at h
  split at h
  · simp at h
    obtain ⟨rfl, rfl⟩ := h
    exact .inl ⟨rfl, rfl, rfl, rfl⟩
  · simp only [recordUnpooledPlan, bind_ok, pure_ok, Prod.mk.injEq] at h
    obtain ⟨_, ⟨-, -, -, -, rfl⟩, rfl, rfl⟩ := h
    exact .inl ⟨rfl, rfl, rfl, rfl⟩
  · simp only [bind_ok, orRefuse_ok] at h
    obtain ⟨pool, hfound, h⟩ := h
    exact .inr ⟨pool, hpool hfound, _, _, h⟩
  · simp only [bind_ok, orRefuse_ok] at h
    obtain ⟨pool, hfound, h⟩ := h
    exact .inr ⟨pool, hpool hfound, _, _, h⟩
  · simp at h

theorem started_accounted {amount : Int} (hstatus : row.status = .inProgress)
    (hquantity : row.reservedQuantity = some amount) (hamount : 0 < amount)
    (hgrams : row.reservedGrams = amount ∨
      ∃ unit ≠ MeteringUnit.weight, row.meteringUnit = some unit) :
    row.Accounted where
  unstarted := fun h => absurd hstatus h
  reserved_nonneg := fun _ => by simp [hquantity, hamount.le]
  reserved_grams := fun _ _ => by
    rcases hgrams with hgrams | hunit
    · exact .inl (by simp [hgrams, hquantity])
    · exact .inr ⟨by simp [hquantity], hunit⟩

theorem start_effect (haccounted : ∀ request ∈ s.requests, request.Accounted)
    (h : start s args = .ok s') :
    Effect s.books (.start args) s'.books := by
  simp only [start, requireEdge, bind_ok, require_ok, pure_ok,
    lockedServiceRequest_ok, inProgress_mem_allowedEdges] at h
  obtain ⟨request, ⟨hrequest, -⟩, -, -, -, hstatus, _, -, _, -, _, -, -, -, -, -, -, -,
    -, -, _, -, _, -, -, -, ⟨mid, row⟩, hreservation, rfl⟩ := h
  obtain ⟨hunpooled, -, hunreserved⟩ := (haccounted request hrequest).unstarted
    (by simp [hstatus]) (by simp [hstatus, RequestStatus.isFinished])
  rcases startReservation_spec hreservation with
    ⟨rfl, hid, hpool, hquantity⟩ | ⟨pool, hmem, _, _, hreserve⟩
  · have hrow : row.runConsumablePoolId = none := hpool.trans hunpooled
    have hnone : row.reservedQuantity = none := hquantity.trans hunreserved
    refine moved_of_unpooled hrequest hunpooled hid ?_ hrow
    exact
      { unstarted := fun h => absurd rfl h
        reserved_nonneg := fun _ => by simp [hnone]
        reserved_grams := fun _ h => absurd hrow h }
  · obtain ⟨_, _, hamount, hlow, hhigh, hkind, hdelta, howner, hres, hbooks⟩ :=
      reserveForRequest_spec hreserve
    have hpools : mid.pools = _ := congrArg Books.pools hbooks
    have hadjustments : mid.adjustments = _ := congrArg Books.adjustments hbooks
    have hrequests : mid.requests = _ := congrArg Books.requests hbooks
    simp only [State.books, hpools, hadjustments, hrequests]
    rw [put_put _ (by simp)]
    refine .ran hrequest hres.id ?_ hmem ⟨rfl, rfl⟩ rfl ?_ hlow hhigh ?_ howner
      (fun poolId => ?_) (fun poolId => ?_)
    · exact started_accounted rfl hres.quantity hamount hres.grams
    · simp [Posting.row, hdelta]
    · simp [Posting.row, hkind, Kind.isRun]
    · rw [MachineServiceRequest.chargedAt_of_unpooled hunpooled]
      by_cases hp : poolId = pool.id
      · subst hp
        simp [MachineServiceRequest.chargedAt, MachineServiceRequest.charged, hres.pool,
          hres.quantity, Posting.row, hdelta]
      · simp [MachineServiceRequest.chargedAt, hres.pool, hp, Ne.symm hp]
    · rw [MachineServiceRequest.outstandingAt_of_unpooled hunpooled]
      by_cases hp : poolId = pool.id
      · subst hp
        simp [MachineServiceRequest.outstandingAt, hres.pool, hres.quantity, Posting.row, hdelta]
      · simp [MachineServiceRequest.outstandingAt, hres.pool, hp, Ne.symm hp]

variable {pool : MachineConsumablePool} {reason : String} {actualGrams : Int}
variable {actualQuantity : Option Int} {args : FinishArgs}

theorem settleReservation_spec {delta : Int} {unit : Option MeteringUnit}
    (h : settleReservation s request pool delta reason unit = .ok s') :
    (delta = 0 ∧ s' = s) ∨ ∃ posting : Posting, posting.kind = .reconcile ∧ posting.delta = delta ∧
        posting.serviceRequestId = some request.id ∧
        apply s pool posting = .ok s' := by
  unfold settleReservation at h
  split at h
  · next hzero => exact .inl ⟨hzero, (pure_ok.mp h).symm⟩
  · exact .inr ⟨_, rfl, rfl, rfl, h⟩

theorem reservedGrams_of_legacy {pool : Option MachineConsumablePool}
    (hgrams : request.reservedGrams = request.reservedQuantity.getD 0 ∨
      (request.reservedQuantity ≠ none ∧ ∃ unit ≠ MeteringUnit.weight,
        request.meteringUnit = some unit)) (hlegacy : ¬ isGenericReservation request pool) :
    request.reservedGrams = request.reservedQuantity.getD 0 := by
  rcases hgrams with hgrams | ⟨hsome, _, hunit, hmetered⟩
  · exact hgrams
  · refine absurd ?_ hlegacy
    simp [isGenericReservation, hmetered, hunit, hsome]

theorem reconcileRequest_spec (hgrams : request.reservedGrams = request.reservedQuantity.getD 0 ∨
      (request.reservedQuantity ≠ none ∧ ∃ unit ≠ MeteringUnit.weight,
        request.meteringUnit = some unit))
    (h : reconcileRequest s request pool actualGrams actualQuantity reason = .ok (s', row)) :
    ∃ (actual : Int) (reasonText : String) (unit : Option MeteringUnit) (mid : State), 0 ≤ actual ∧
      settleReservation s request pool (request.reservedQuantity.getD 0 - actual) reasonText
        unit = .ok mid ∧
      row.id = request.id ∧
      row.runConsumablePoolId = request.runConsumablePoolId ∧
      row.actualConsumedQuantity = some actual ∧
      s' = { mid with requests := mid.requests.put row } := by
  unfold reconcileRequest at h
  split at h
  · next hlegacy =>
      have hreserved := reservedGrams_of_legacy hgrams hlegacy.2
      simp only [legacyReconcileRequest, grams, nonNegative, bind_ok, require_ok,
        pure_ok, Prod.mk.injEq] at h
      obtain ⟨_, ⟨_, ⟨-, hnonneg, rfl⟩, mid, hsettle, rfl⟩, rfl, rfl⟩ := h
      rw [hreserved] at hsettle
      exact ⟨_, _, _, mid, not_lt.mp hnonneg, hsettle, rfl, rfl, rfl, rfl⟩
  · simp only [quantity, nonNegative, bind_ok, require_ok, pure_ok, Prod.mk.injEq] at h
    obtain ⟨_, ⟨-, hnonneg, rfl⟩, mid, hsettle, rfl, rfl⟩ := h
    exact ⟨_, _, _, mid, not_lt.mp hnonneg, hsettle, rfl, rfl, rfl, rfl⟩

theorem finish_effect {op : Op} {final : MachineServiceRequest} {machineType : MachineType}
    (hrequest : request ∈ s.requests) (haccounted : request.Accounted)
    (hstatus : request.status = .inProgress)
    (hfinal : final.id = row.id ∧ final.runConsumablePoolId = row.runConsumablePoolId
      ∧ final.actualConsumedQuantity = row.actualConsumedQuantity)
    (hfinished : final.status.isFinished = true)
    (h : finishConsumption s request machineType args actualGrams actualQuantity reason =
      .ok (s', row)) :
    Effect s.books op
      { pools := s'.pools, adjustments := s'.adjustments, requests := s'.requests.put final } := by
  obtain ⟨hid, hpoolId, hactual⟩ := hfinal
  have hstopped : final.status ≠ .inProgress := by
    intro hrun
    simp [hrun, RequestStatus.isFinished] at hfinished
  have hdone : final.Accounted := accounted_of_finished hfinished
  unfold finishConsumption at h
  split at h
  · next hunpooled =>
      simp only [bind_ok, pure_ok, Prod.mk.injEq] at h
      obtain ⟨row', hrow, rfl, rfl⟩ := h
      have hkept : row'.id = request.id ∧ row'.runConsumablePoolId = none := by
        simp only [recordUnpooledActual] at hrow
        split at hrow
        · obtain rfl := pure_ok.mp hrow
          exact ⟨rfl, hunpooled⟩
        · simp at hrow
          obtain ⟨-, -, rfl⟩ := hrow
          exact ⟨rfl, hunpooled⟩
      exact moved_of_unpooled hrequest hunpooled (hid.trans hkept.1) hdone (hpoolId.trans hkept.2)
  · next poolId hpooled =>
      simp [lockedPool_ok] at h
      obtain ⟨pool, ⟨hpool, rfl⟩, h⟩ := h
      obtain ⟨actual, _, _, _, _, hsettle, hrowid, hrowpool, hrowactual,
        rfl⟩ := reconcileRequest_spec (haccounted.reserved_grams hstatus (by simp [hpooled])) h
      have hfinalid : final.id = request.id := hid.trans hrowid
      have hfinalpool : final.runConsumablePoolId = some pool.id :=
        (hpoolId.trans hrowpool).trans hpooled
      have hcharged : final.charged = actual := by
        simp [MachineServiceRequest.charged, hstopped, hfinished, hactual, hrowactual]
      have hreserved : request.charged = request.reservedQuantity.getD 0 := by
        rw [MachineServiceRequest.charged, if_pos hstatus]
      have hkeys : key row = key final := hid.symm
      rw [put_put _ hkeys]
      rcases settleReservation_spec hsettle with ⟨_, rfl⟩ |
        ⟨posting, hkind, _, howner, happly⟩
      · refine .moved hrequest hfinalid hdone (fun poolId => ?_) (fun poolId => ?_)
        · have hsame : request.charged = actual := by omega
          simp [MachineServiceRequest.chargedAt, hfinalpool, hpooled, hcharged, hsame]
        · have hleft := MachineServiceRequest.outstandingAt_nonneg haccounted poolId
          simpa [MachineServiceRequest.outstandingAt, hstopped] using hleft
      · obtain ⟨hlow, hhigh, rfl⟩ := apply_ok.mp happly
        refine .ran hrequest hfinalid hdone hpool ⟨rfl, rfl⟩ rfl rfl hlow hhigh ?_ howner
          (fun poolId => ?_) (fun poolId => ?_)
        · simp [Posting.row, hkind, Kind.isRun]
        · by_cases hp : poolId = pool.id
          · subst hp
            have hsettled : actual = request.charged - posting.delta := by omega
            simp [MachineServiceRequest.chargedAt, hfinalpool, hpooled, hcharged, hsettled,
              Posting.row]
          · simp [MachineServiceRequest.chargedAt, hfinalpool, hpooled, hp, Ne.symm hp]
        · by_cases hp : poolId = pool.id
          · subst hp
            have hcredit : posting.delta ≤ request.reservedQuantity.getD 0 := by omega
            simpa [MachineServiceRequest.outstandingAt, hstopped, hstatus, hpooled, Posting.row]
              using hcredit
          · simp [MachineServiceRequest.outstandingAt, hstopped, hpooled, hp, Ne.symm hp]

theorem complete_effect (haccounted : ∀ request ∈ s.requests, request.Accounted)
    (h : complete s args = .ok s') :
    Effect s.books (.complete args) s'.books := by
  simp only [complete, requireEdge, bind_ok, require_ok, pure_ok,
    lockedServiceRequest_ok, completed_mem_allowedEdges] at h
  obtain ⟨request, ⟨hrequest, -⟩, -, hstatus, _, -, _, -, -, -, _, -,
    ⟨_, _⟩, hfinish, rfl⟩ := h
  refine finish_effect hrequest (haccounted request hrequest) hstatus ?_ ?_ hfinish
  · exact ⟨rfl, rfl, rfl⟩
  · rfl

theorem fail_effect {percentComplete : Int} (haccounted : ∀ request ∈ s.requests, request.Accounted)
    (h : fail s args reason percentComplete = .ok s') :
    Effect s.books (.fail args reason percentComplete) s'.books := by
  simp only [fail, requireEdge, bind_ok, require_ok, pure_ok,
    lockedServiceRequest_ok, failed_mem_allowedEdges] at h
  obtain ⟨-, -, request, ⟨hrequest, -⟩, -, hstatus, _, -, _, -, _, -, -, -,
    _, -, ⟨_, _⟩, hfinish, rfl⟩ := h
  refine finish_effect hrequest (haccounted request hrequest) hstatus ?_ ?_ hfinish
  · exact ⟨rfl, rfl, rfl⟩
  · rfl

end

/-- Every committed operation has one of the effects on the books. -/
theorem step_effect {op : Op} (haccounted : ∀ request ∈ s.requests, request.Accounted)
    (hrange : ∀ pool ∈ s.pools, 0 ≤ pool.remainingGrams) (h : step s op = .ok s') :
    Effect s.books op s'.books := by
  cases op with
  | createPool => exact createPool_effect h
  | createReceivedPool => exact createReceivedPool_effect h
  | correctPool => exact correctPool_effect h
  | retirePool => exact retirePool_effect hrange h
  | setPoolVisibility => exact setPoolVisibility_effect h
  | logTypedManualUsage => exact logTypedManualUsage_effect h
  | submit => exact submit_effect h
  | createReprint => exact createReprint_effect h
  | accept => exact accept_effect haccounted h
  | reject => exact reject_effect haccounted h
  | start => exact start_effect haccounted h
  | complete => exact complete_effect haccounted h
  | fail => exact fail_effect haccounted h
  | collect => exact collect_effect h
  | setStatus =>
    simp [step, setStatus] at h
    obtain ⟨-, -, -, -, rfl⟩ := h
    exact .idle
  | retireMachine =>
    simp [step, retireMachine] at h
    obtain ⟨-, -, -, -, rfl⟩ := h
    exact .idle
  | unretireMachine =>
    simp [step, unretireMachine] at h
    obtain ⟨-, -, -, -, rfl⟩ := h
    exact .idle

end Machines
end SpaceWorks
