import Mathlib.Algebra.Order.Group.Int
import SpaceWorks.Machines.Conservation

/-!
# Headroom for the stock that runs give back

A finishing run gives back to its pool, and the writer refuses a balance above the initial quantity:
balance and reservations have to fit together.
-/

namespace SpaceWorks
namespace Machines

open Checked TransactionalSystem Table

def outstanding (requests : Table MachineServiceRequest) (poolId : Nat) : Int :=
  requests.sum fun request => request.outstandingAt poolId

def Roomy (b : Books) (poolId : Nat) : Prop :=
  ∀ pool ∈ b.pools, pool.id = poolId →
    pool.remainingGrams + outstanding b.requests poolId ≤ pool.initialGrams

/-- A correction whose balance fits only without the running reservations. -/
def Overfills (b : Books) (poolId : Nat) (op : Op) : Prop :=
  ∃ quantityDelta reason, op = .correctPool poolId quantityDelta reason ∧ Python.strip reason ≠ "" ∧
    ∃ pool ∈ b.pools, pool.id = poolId ∧
      pool.initialGrams - outstanding b.requests poolId < pool.remainingGrams + quantityDelta ∧
      pool.remainingGrams + quantityDelta ≤ pool.initialGrams

section Step

variable {b b' : Books} {op : Op} {poolId : Nat}

theorem outstanding_put
    {requests : Table MachineServiceRequest} {request request' : MachineServiceRequest}
    (hrequest : request ∈ requests) (hid : request'.id = request.id) (poolId : Nat) :
    outstanding (requests.put request') poolId + request.outstandingAt poolId =
      outstanding requests poolId + request'.outstandingAt poolId := by
  refine sum_put ?_ _
  rw [key_request, hid]
  exact get?_key hrequest

theorem roomy_of_effect (h : Effect b op b') (hb : Balanced b) (hroomy : Roomy b poolId)
    (hop : ∀ quantityDelta reason, op = .correctPool poolId quantityDelta reason →
      ∀ pool ∈ b.pools, pool.id = poolId →
        pool.remainingGrams + quantityDelta + outstanding b.requests poolId ≤ pool.initialGrams) :
    Roomy b' poolId := by
  intro x hx hxid
  cases h with
  | idle => exact hroomy x hx hxid
  | @opened _ hnew =>
    rcases (mem_insert hnew).mp hx with hold | rfl
    · exact hroomy x hold hxid
    · have hzero : outstanding b.requests poolId = 0 := by
        refine sum_eq_zero fun request hrequest => ?_
        have hposted := hb.run_posted request hrequest poolId
        unfold MachineServiceRequest.outstandingAt
        split
        · next hrun =>
            have hnone : runPosted b.adjustments request.id poolId = 0 := by
              have hempty : ∀ row ∈ b.adjustments, row.poolId ≠ poolId := by
                intro row hrow hpool
                have hknown := hb.pools_known row hrow
                rw [hpool, ← hxid, ← key_pool, hnew] at hknown
                simp at hknown
              have hfilter : b.adjustments.filter
                  (MachineConsumableAdjustment.isRunOf request.id poolId) = [] := by
                refine List.filter_eq_nil_iff.mpr fun row hrow => ?_
                simp [MachineConsumableAdjustment.isRunOf, hempty row hrow]
              simp [runPosted, hfilter]
            rw [hnone, MachineServiceRequest.chargedAt, if_pos hrun.2,
              MachineServiceRequest.charged, if_pos hrun.1] at hposted
            omega
        · rfl
      show x.remainingGrams + outstanding b.requests poolId ≤ x.initialGrams
      omega
  | @relabelled pool _ hpool hsame =>
    rcases mem_of_mem_put hx with rfl | ⟨hold, -⟩
    · have hbefore := hroomy pool hpool (hsame.id.symm.trans hxid)
      have hinitial := hsame.initial
      show x.remainingGrams + outstanding b.requests poolId ≤ x.initialGrams
      omega
    · exact hroomy x hold hxid
  | @posted pool _ row hpool hsame _ _ _ _ _ _ hcredit =>
    rcases mem_of_mem_put hx with rfl | ⟨hold, -⟩
    · have hpoolid : pool.id = poolId := hsame.id.symm.trans hxid
      have hbefore := hroomy pool hpool hpoolid
      have hinitial := hsame.initial
      show x.remainingGrams + outstanding b.requests poolId ≤ x.initialGrams
      rcases hcredit with _ | ⟨reason, hcorrection⟩
      · omega
      · have hcovered := hop row.quantityDelta reason (hpoolid ▸ hcorrection) pool hpool hpoolid
        omega
    · exact hroomy x hold hxid
  | @arrived request hnew _ hunpooled =>
    have hsame : outstanding (b.requests.insert request hnew) poolId =
        outstanding b.requests poolId := by
      simp [outstanding, MachineServiceRequest.outstandingAt_of_unpooled hunpooled]
    rw [hsame]
    exact hroomy x hx hxid
  | @moved _ request' hrequest hid _ _ houtstanding =>
    have hput := outstanding_put hrequest hid poolId
    have hbefore := hroomy x hx hxid
    have hless := houtstanding poolId
    show x.remainingGrams + outstanding (b.requests.put request') poolId ≤ x.initialGrams
    omega
  | @ran request request' pool pool' row hrequest hid haccounted hpool hsame hrow hbalance
      hnonneg hcapped hkind howner hcharged houtstanding =>
    have hput := outstanding_put hrequest hid poolId
    have hless := houtstanding poolId
    show x.remainingGrams + outstanding (b.requests.put request') poolId ≤ x.initialGrams
    rcases mem_of_mem_put hx with rfl | ⟨hold, hne⟩
    · have hpoolid : pool.id = poolId := hsame.id.symm.trans hxid
      have hbefore := hroomy pool hpool hpoolid
      have hinitial := hsame.initial
      omega
    · have hother : ¬ poolId = pool.id := by
        intro heq
        exact hne ((hxid.trans heq).trans hsame.id.symm)
      have hbefore := hroomy x hold hxid
      omega

theorem roomy_of_step {s s' : State} (hb : Balanced s.books) (hroomy : Roomy s.books poolId)
    (hop : ¬ Overfills s.books poolId op) (h : step s op = .ok s') :
    Roomy s'.books poolId := by
  refine roomy_of_effect
    (step_effect hb.accounted (fun pool hpool => (hb.in_range pool hpool).1) h) hb hroomy ?_
  rintro quantityDelta reason rfl pool hpool rfl
  simp only [step, correctPool, bind_ok, require_ok, lockedPool_ok, apply_ok] at h
  obtain ⟨-, hreason, locked, ⟨hlocked, hid⟩, -, -, -, hcapped, -⟩ := h
  obtain rfl : locked = pool := eq_of_key_eq hlocked hpool hid
  by_contra hover
  exact hop ⟨quantityDelta, reason, rfl, hreason, locked, hpool, rfl, by omega, hcapped⟩

theorem not_roomy_of_overfills {s : State} (hb : Balanced s.books) (hroomy : Roomy s.books poolId)
    (hop : Overfills s.books poolId op) :
    ¬ Roomy (settle step s op).books poolId := by
  obtain ⟨quantityDelta, reason, rfl, hreason, pool, hpool, rfl, hover, hcapped⟩ := hop
  have hbefore := hroomy pool hpool rfl
  have hnonneg := (hb.in_range pool hpool).1
  let pool' : MachineConsumablePool :=
    { pool with remainingGrams := pool.remainingGrams + quantityDelta }
  have hstep : step s (.correctPool pool.id quantityDelta reason) = .ok { s with
      adjustments := s.adjustments ++
        [Posting.row { kind := .correction, delta := quantityDelta, reason := reason } pool]
      pools := s.pools.put pool' } := by
    simp only [step, correctPool, bind_ok, require_ok, lockedPool_ok, apply_ok]
    exact ⟨⟨⟩, hreason, pool, ⟨hpool, rfl⟩, ⟨⟩, by omega, by omega, hcapped, rfl⟩
  intro hafter
  rw [settle_ok hstep] at hafter
  have hmem : pool' ∈ s.pools.put pool' :=
    mem_put_self (show s.pools.get? (key pool') = some pool from get?_key hpool)
  have hbound := hafter pool' hmem rfl
  simp only [books_requests, pool'] at hbound hover
  omega

end Step

section Finishing

def reconciledActual (request : MachineServiceRequest) (pool : MachineConsumablePool)
    (actualGrams : Int) (actualQuantity : Option Int) : Int :=
  if actualQuantity = none ∧ ¬ isGenericReservation request (some pool) then actualGrams
  else actualQuantity.getD (request.reservedQuantity.getD 0)

/-- A run finishes on a pool, with its consumption. -/
inductive Finishes (s : State) (request : MachineServiceRequest)
    (pool : MachineConsumablePool) : Op → Int → Prop
  | complete {args : FinishArgs} (hrequest : s.requests.get? args.requestId = some request) :
      Finishes s request pool (.complete args)
        (reconciledActual request pool (args.actualGrams.getD request.plannedGrams)
          args.actualQuantity)
  | fail {args : FinishArgs} {reason : String} {percentComplete : Int}
      (hrequest : s.requests.get? args.requestId = some request) :
      Finishes s request pool (.fail args reason percentComplete)
        (reconciledActual request pool (failedAmounts request percentComplete args).1
          (failedAmounts request percentComplete args).2)

def RefusedByPool (s : State) (op : Op) : Prop :=
  ∃ message, step s op = .error (.validation "grams" message)

/-- The pool refuses no finishing run within its reservation. -/
def NeverRefused (s : State) (poolId : Nat) : Prop :=
  ∀ request ∈ s.requests, ∀ pool ∈ s.pools, pool.id = poolId →
    request.runConsumablePoolId = some poolId →
    ∀ op actual, Finishes s request pool op actual →
      0 ≤ actual → actual ≤ request.reservedQuantity.getD 0 → ¬ RefusedByPool s op

variable {s : State}
  {request : MachineServiceRequest} {pool : MachineConsumablePool} {actualGrams : Int}
  {actualQuantity : Option Int} {reason message : String}

theorem reconcileRequest_not_refused (hb : Balanced s.books) (hroomy : Roomy s.books pool.id)
    (hrequest : request ∈ s.requests) (hpool : pool ∈ s.pools)
    (hstatus : request.status = .inProgress) (hpooled : request.runConsumablePoolId = some pool.id)
    (hnonneg : 0 ≤ reconciledActual request pool actualGrams actualQuantity)
    (hreserved : reconciledActual request pool actualGrams actualQuantity
      ≤ request.reservedQuantity.getD 0) :
    reconcileRequest s request pool actualGrams actualQuantity reason
      ≠ .error (.validation "grams" message) := by
  have haccounted := hb.accounted request hrequest
  have hbalance := (hb.in_range pool hpool).1
  have hfits : pool.remainingGrams + request.reservedQuantity.getD 0 ≤ pool.initialGrams := by
    have hbound := hroomy pool hpool rfl
    have hshare : request.outstandingAt pool.id ≤ outstanding s.requests pool.id :=
      le_sum (fun other hother => MachineServiceRequest.outstandingAt_nonneg
        (hb.accounted other hother) pool.id) hrequest
    rw [MachineServiceRequest.outstandingAt, if_pos ⟨hstatus, hpooled⟩] at hshare
    rw [books_requests] at hbound
    omega
  have hsettles : ∀ (delta : Int) (reasonText : String) (unit : Option MeteringUnit),
      0 ≤ delta → delta ≤ request.reservedQuantity.getD 0 →
      settleReservation s request pool delta reasonText unit
        ≠ .error (.validation "grams" message) := by
    intro delta reasonText unit hdelta hle
    unfold settleReservation
    split
    · simp
    · refine apply_ne_error ?_ ?_ _
      · show 0 ≤ pool.remainingGrams + delta
        omega
      · show pool.remainingGrams + delta ≤ pool.initialGrams
        omega
  have hamount : ∀ (value : Int) (field text : String), field ≠ "grams" →
      nonNegative value field text ≠ .error (.validation "grams" message) := by
    intro value field text hfield hrefused
    simp [nonNegative, hfield] at hrefused
  intro herror
  unfold reconcileRequest at herror
  split at herror
  · next hlegacy =>
      have hactual : reconciledActual request pool actualGrams actualQuantity = actualGrams :=
        if_pos hlegacy
      have hgrams := reservedGrams_of_legacy
        (haccounted.reserved_grams hstatus (by simp [hpooled])) hlegacy.2
      rcases bind_eq_error.mp herror with hlegacyError | ⟨_, -, hdone⟩
      · obtain ⟨actual, hvalue, hlater⟩ :=
          refused_later hlegacyError (hamount actualGrams _ _ (by decide))
        obtain rfl : actualGrams = actual := by
          simp [grams, nonNegative] at hvalue
          obtain ⟨-, -, rfl⟩ := hvalue
          rfl
        rcases bind_eq_error.mp hlater with hsettle | ⟨_, -, hdone⟩
        · exact hsettles _ _ _ (by omega) (by omega) hsettle
        · simp at hdone
      · simp at hdone
  · next hgeneric =>
      have hactual : reconciledActual request pool actualGrams actualQuantity =
          actualQuantity.getD (request.reservedQuantity.getD 0) :=
        if_neg hgeneric
      obtain ⟨actual, hvalue, hlater⟩ := refused_later herror (hamount _ _ _ (by decide))
      obtain rfl : actualQuantity.getD (request.reservedQuantity.getD 0) = actual := by
        simp [quantity, nonNegative] at hvalue
        obtain ⟨-, -, rfl⟩ := hvalue
        rfl
      rcases bind_eq_error.mp hlater with hsettle | ⟨_, -, hdone⟩
      · exact hsettles _ _ _ (by omega) (by omega) hsettle
      · simp at hdone

theorem finishConsumption_not_refused {machineType : MachineType} {args : FinishArgs}
    (hb : Balanced s.books) (hroomy : Roomy s.books pool.id) (hrequest : request ∈ s.requests)
    (hpool : pool ∈ s.pools) (hstatus : request.status = .inProgress)
    (hpooled : request.runConsumablePoolId = some pool.id)
    (hnonneg : 0 ≤ reconciledActual request pool actualGrams actualQuantity)
    (hreserved : reconciledActual request pool actualGrams actualQuantity
      ≤ request.reservedQuantity.getD 0) :
    finishConsumption s request machineType args actualGrams actualQuantity reason
      ≠ .error (.validation "grams" message) := by
  intro herror
  simp only [finishConsumption, hpooled] at herror
  obtain ⟨found, hfound, hreconcile⟩ := refused_later herror (by simp [lockedPool])
  obtain ⟨hmem, hid⟩ := lockedPool_ok.mp hfound
  obtain rfl : found = pool := eq_of_key_eq hmem hpool hid
  exact reconcileRequest_not_refused hb hroomy hrequest hpool hstatus hpooled hnonneg hreserved
    hreconcile

theorem neverRefused_of_roomy {poolId : Nat} (hb : Balanced s.books)
    (hroomy : Roomy s.books poolId) :
    NeverRefused s poolId := by
  rintro request hrequest _ hpool rfl hpooled _ _ hfinishes hnonneg hreserved
    ⟨message, herror⟩
  cases hfinishes with
  | @complete _ hfound =>
    obtain ⟨locked, hlocked, herror⟩ := refused_later herror (by simp [lockedServiceRequest])
    obtain rfl : request = locked := by
      rw [lockedServiceRequest, orRefuse_ok, hfound] at hlocked
      exact Option.some.inj hlocked
    obtain ⟨_, hedge, herror⟩ := refused_later herror (by simp [requireEdge])
    have hstatus : request.status = .inProgress := by
      simpa [requireEdge] using hedge
    obtain ⟨_, -, herror⟩ :=
      refused_later herror (by simp [lockAssignedMachine, bind_eq_error])
    obtain ⟨_, -, herror⟩ := refused_later herror (by simp [checkedMinutes])
    obtain ⟨_, _, herror⟩ := refused_later herror (by simp)
    obtain ⟨_, -, herror⟩ := refused_later herror (by simp [typeOf])
    obtain ⟨_, _, hdone⟩ := refused_later herror
      (finishConsumption_not_refused hb hroomy hrequest hpool hstatus hpooled hnonneg hreserved)
    simp at hdone
  | @fail _ _ percentComplete hfound =>
    obtain ⟨_, _, herror⟩ := refused_later herror (by simp)
    obtain ⟨locked, hlocked, herror⟩ := refused_later herror (by simp [lockedServiceRequest])
    obtain rfl : request = locked := by
      rw [lockedServiceRequest, orRefuse_ok, hfound] at hlocked
      exact Option.some.inj hlocked
    obtain ⟨_, hedge, herror⟩ := refused_later herror (by simp [requireEdge])
    have hstatus : request.status = .inProgress := by
      simpa [requireEdge] using hedge
    obtain ⟨_, -, herror⟩ :=
      refused_later herror (by simp [lockAssignedMachine, bind_eq_error])
    obtain ⟨_, -, herror⟩ := refused_later herror (by simp [checkedMinutes])
    obtain ⟨percent, hpercent, herror⟩ :=
      refused_later herror (by simp [checkedPercent, checkedMinutes, bind_eq_error])
    obtain rfl : percentComplete = percent := by
      simp only [checkedPercent, checkedMinutes, bind_ok, pure_ok] at hpercent
      obtain ⟨_, ⟨-, -, rfl⟩, -, -, rfl⟩ := hpercent
      rfl
    obtain ⟨_, _, herror⟩ := refused_later herror (by simp)
    obtain ⟨_, -, herror⟩ := refused_later herror (by simp [typeOf])
    obtain ⟨_, _, hdone⟩ := refused_later herror
      (finishConsumption_not_refused hb hroomy hrequest hpool hstatus hpooled hnonneg hreserved)
    simp at hdone

end Finishing

/-- **Headroom along every run.** Balance and reservations fit into the pool, and it refuses no
finishing run, exactly when no correction overfills it. -/
theorem roomy_of_run_iff {s₀ : State} (h₀ : s₀.Fresh) (ops : List Op) (poolId : Nat) :
    (∀ before after, ops = before ++ after →
      Roomy (run step s₀ before).books poolId ∧ NeverRefused (run step s₀ before) poolId)
      ↔
    ∀ before op after, ops = before ++ op :: after →
      ¬ Overfills (run step s₀ before).books poolId op := by
  have hbalanced : ∀ before, Balanced (run step s₀ before).books := fun before =>
    run_preserves balanced_preserved (balanced_of_fresh h₀) before
  constructor
  · intro hall before op after hops hover
    have hbefore := (hall before (op :: after) hops).1
    have hafter := (hall (before ++ [op]) after (by simp [hops])).1
    rw [run_append] at hafter
    exact not_roomy_of_overfills (hbalanced before) hbefore hover hafter
  · intro hcovered before after hops
    have hroomy : Roomy (run step s₀ before).books poolId := by
      induction before using List.reverseRecOn generalizing after with
      | nil =>
        intro pool hpool
        rw [run_nil, books_pools, h₀.pools] at hpool
        exact absurd hpool (notMem_empty pool)
      | append_singleton before op ih =>
        have hops' : ops = before ++ op :: after := by simp [hops]
        have hprev := ih (op :: after) hops'
        rw [run_append, run_cons, run_nil]
        cases h : step (run step s₀ before) op with
        | ok =>
          rw [settle_ok h]
          exact roomy_of_step (hbalanced before) hprev (hcovered before op after hops') h
        | error =>
          rw [settle_error h]
          exact hprev
    exact ⟨hroomy, neverRefused_of_roomy (hbalanced before) hroomy⟩

def strandingRun : List Op :=
  [.createPool { newId := 1, makerspaceId := 1, material := "PLA", initialGrams := some 10000 },
    .submit { newId := 1, target := .machine 1 },
    .accept 1 none none "" (.ok ()),
    .start { requestId := 1, machineId := some 1, consumablePoolId := some 1,
             plannedGrams := some 4000 },
    .correctPool 1 4000 "recount"]

theorem roomy_of_strandingRun_prefix :
    workshop.Fresh ∧
    ((∀ before after, strandingRun.dropLast = before ++ after →
      Roomy (run step workshop before).books 1 ∧ NeverRefused (run step workshop before) 1)
      ↔
    ∀ before op after, strandingRun.dropLast = before ++ op :: after →
      ¬ Overfills (run step workshop before).books 1 op) :=
  ⟨⟨rfl, rfl, rfl⟩, roomy_of_run_iff ⟨rfl, rfl, rfl⟩ strandingRun.dropLast 1⟩

def strandedPool : MachineConsumablePool :=
  { id := 1, makerspaceId := 1, material := "PLA", initialGrams := 10000, remainingGrams := 10000 }

def strandedJob : MachineServiceRequest :=
  { id := 1, makerspaceId := 1, bucketMachineId := some 1, status := .inProgress,
    assignedMachineId := some 1, plannedGrams := 4000, reservedGrams := 4000,
    meteringUnit := some .weight, plannedQuantity := some 4000, reservedQuantity := some 4000,
    runConsumablePoolId := some 1 }

/-- The pool is full while 40 g are held, so finishing with nothing used is refused. -/
theorem strandingRun_refuses_completion :
    ¬ Roomy (run step workshop strandingRun).books 1 ∧
      ¬ NeverRefused (run step workshop strandingRun) 1 := by
  have hpool : strandedPool ∈ (run step workshop strandingRun).pools :=
    mem_of_get? (show Table.get? _ 1 = _ by decide)
  have hfound : (run step workshop strandingRun).requests.get? 1 = some strandedJob := by decide
  have hheld : outstanding (run step workshop strandingRun).requests 1 = 4000 := by decide
  constructor
  · intro hroomy
    have hbound := hroomy strandedPool hpool rfl
    exact absurd hbound (by decide)
  · intro hnever
    exact hnever strandedJob (mem_of_get? hfound) strandedPool hpool rfl rfl
      (.complete { requestId := 1, actualMinutes := 0, actualGrams := some 0 }) 0
      (.complete hfound) (by decide) (by decide) ⟨_, rfl⟩

end Machines
end SpaceWorks
