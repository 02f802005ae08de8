import SpaceWorks.Machines.Effects

/-!
# Conservation of the pooled consumables

`Balanced` is the invariant of the books.
-/

namespace SpaceWorks
namespace Machines

open Checked TransactionalSystem Table List

structure Balanced (b : Books) : Prop where
  accounted : ∀ request ∈ b.requests, request.Accounted
  /-- Every balance stays within its pool. -/
  in_range : ∀ pool ∈ b.pools, 0 ≤ pool.remainingGrams ∧ pool.remainingGrams ≤ pool.initialGrams
  run_posted : ∀ request ∈ b.requests, ∀ poolId,
    runPosted b.adjustments request.id poolId = -request.chargedAt poolId
  pools_known : ∀ row ∈ b.adjustments, (b.pools.get? row.poolId).isSome
  requests_known : ∀ row ∈ b.adjustments, ∀ requestId,
    row.serviceRequestId = some requestId → (b.requests.get? requestId).isSome

section Tables

variable {ρ : Type} [Keyed ρ Nat] {t : Table ρ} {r : ρ} {id : Nat}

theorem isSome_get?_put (h : (t.get? id).isSome) : ((t.put r).get? id).isSome := by
  rw [get?_put]
  split <;> simpa using h

theorem isSome_get?_insert (hnew : t.get? (key r) = none) (h : (t.get? id).isSome) :
    ((t.insert r hnew).get? id).isSome := by
  rw [get?_insert]
  split
  · rfl
  · exact h

theorem isSome_get?_of_mem (h : r ∈ t) : (t.get? (key r)).isSome := by
  simp [get?_key h]

end Tables

section

variable {b b' : Books} {op : Op}

theorem posted_of_fresh (hb : Balanced b) {poolId : Nat} (hnew : b.pools.get? poolId = none) :
    posted b.adjustments poolId = 0 := by
  refine posted_eq_zero fun row hrow hpool => ?_
  have hknown := hb.pools_known row hrow
  rw [hpool, hnew] at hknown
  simp at hknown

theorem runPosted_of_fresh (hb : Balanced b) {requestId : Nat}
    (hnew : b.requests.get? requestId = none) (poolId : Nat) :
    runPosted b.adjustments requestId poolId = 0 := by
  refine runPosted_eq_zero (fun row hrow howner => ?_) poolId
  have hknown := hb.requests_known row hrow requestId howner
  rw [hnew] at hknown
  simp at hknown

theorem balanced_of_effect (h : Effect b op b') (hb : Balanced b) :
    Balanced b' := by
  cases h with
  | idle => exact hb
  | @opened _ hnew _ hnonneg hcapped =>
    exact
      { accounted := hb.accounted
        in_range := by
          intro x hx
          rcases (mem_insert hnew).mp hx with hold | rfl
          · exact hb.in_range x hold
          · exact ⟨hnonneg, hcapped⟩
        run_posted := hb.run_posted
        pools_known := fun row hrow => isSome_get?_insert hnew (hb.pools_known row hrow)
        requests_known := hb.requests_known }
  | @relabelled pool _ hpool hsame hbalance =>
    exact
      { accounted := hb.accounted
        in_range := by
          intro x hx
          rcases mem_of_mem_put hx with rfl | ⟨hold, -⟩
          · rw [hbalance, hsame.initial]
            exact hb.in_range pool hpool
          · exact hb.in_range x hold
        run_posted := hb.run_posted
        pools_known := fun row hrow => isSome_get?_put (hb.pools_known row hrow)
        requests_known := hb.requests_known }
  | @posted _ _ _ hpool hsame hrow _ hnonneg hcapped hkind hrequest =>
    exact
      { accounted := hb.accounted
        in_range := by
          intro x hx
          rcases mem_of_mem_put hx with rfl | ⟨hold, -⟩
          · exact ⟨hnonneg, hsame.initial ▸ hcapped⟩
          · exact hb.in_range x hold
        run_posted := by
          intro request hmem poolId
          simp [MachineConsumableAdjustment.isRunOf, hkind, hb.run_posted request hmem]
        pools_known := by
          intro x hx
          rcases mem_append.mp hx with hold | hnew
          · exact isSome_get?_put (hb.pools_known x hold)
          · obtain rfl := mem_singleton.mp hnew
            rw [hrow]
            exact isSome_get?_put (isSome_get?_of_mem hpool)
        requests_known := by
          intro x hx requestId howner
          rcases mem_append.mp hx with hold | hnew
          · exact hb.requests_known x hold requestId howner
          · obtain rfl := mem_singleton.mp hnew
            exact hrequest requestId howner }
  | @arrived _ hnew haccounted hunpooled =>
    exact
      { accounted := by
          intro x hx
          rcases (mem_insert hnew).mp hx with hold | rfl
          · exact hb.accounted x hold
          · exact haccounted
        in_range := hb.in_range
        run_posted := by
          intro x hx poolId
          rcases (mem_insert hnew).mp hx with hold | rfl
          · exact hb.run_posted x hold poolId
          · rw [MachineServiceRequest.chargedAt_of_unpooled hunpooled poolId, neg_zero]
            exact runPosted_of_fresh hb hnew poolId
        pools_known := hb.pools_known
        requests_known := fun row hrow requestId howner =>
          isSome_get?_insert hnew (hb.requests_known row hrow requestId howner) }
  | @moved request _ hrequest hid haccounted hcharged =>
    exact
      { accounted := by
          intro x hx
          rcases mem_of_mem_put hx with rfl | ⟨hold, -⟩
          · exact haccounted
          · exact hb.accounted x hold
        in_range := hb.in_range
        run_posted := by
          intro x hx poolId
          rcases mem_of_mem_put hx with rfl | ⟨hold, -⟩
          · rw [hid, hcharged]
            exact hb.run_posted request hrequest poolId
          · exact hb.run_posted x hold poolId
        pools_known := hb.pools_known
        requests_known := fun row hrow requestId howner =>
          isSome_get?_put (hb.requests_known row hrow requestId howner) }
  | @ran request request' pool pool' row hrequest hid haccounted hpool hsame hrow hbalance
      hnonneg hcapped hkind howner hcharged houtstanding =>
    exact
      { accounted := by
          intro x hx
          rcases mem_of_mem_put hx with rfl | ⟨hold, -⟩
          · exact haccounted
          · exact hb.accounted x hold
        in_range := by
          intro x hx
          rcases mem_of_mem_put hx with rfl | ⟨hold, -⟩
          · exact ⟨hnonneg, hsame.initial ▸ hcapped⟩
          · exact hb.in_range x hold
        run_posted := by
          intro x hx poolId
          rcases mem_of_mem_put hx with rfl | ⟨hold, hne⟩
          · have hbefore := hb.run_posted request hrequest poolId
            by_cases hp : poolId = pool.id
            · subst hp
              simp [MachineConsumableAdjustment.isRunOf, hkind, howner, hrow, hid, hcharged,
                hbefore, neg_add_eq_sub]
            · simp [MachineConsumableAdjustment.isRunOf, hrow, hid, hcharged, hbefore, hp,
                Ne.symm hp]
          · have hother : request.id ≠ x.id := fun heq => hne (by simp [hid, heq])
            simp [MachineConsumableAdjustment.isRunOf, howner, hother, hb.run_posted x hold poolId]
        pools_known := by
          intro x hx
          rcases mem_append.mp hx with hold | hnew
          · exact isSome_get?_put (hb.pools_known x hold)
          · obtain rfl := mem_singleton.mp hnew
            rw [hrow]
            exact isSome_get?_put (isSome_get?_of_mem hpool)
        requests_known := by
          intro x hx requestId hfor
          rcases mem_append.mp hx with hold | hnew
          · exact isSome_get?_put (hb.requests_known x hold requestId hfor)
          · obtain rfl := mem_singleton.mp hnew
            obtain rfl : request.id = requestId := Option.some.inj (howner.symm.trans hfor)
            exact isSome_get?_put (isSome_get?_of_mem hrequest) }

theorem balanced_preserved : Preserves step fun s => Balanced s.books :=
  fun _ _ _ hs h =>
    balanced_of_effect
      (step_effect hs.accounted (fun pool hpool => (hs.in_range pool hpool).1) h) hs

/-- An operation opens a pool, or moves its balance by what it posts. -/
theorem opened_or_carried (h : Effect b op b') (hb : Balanced b)
    {pool' : MachineConsumablePool} (hpool' : pool' ∈ b'.pools) :
    (Opening pool' op pool'.remainingGrams ∧ posted b'.adjustments pool'.id = 0) ∨
      ∃ pool ∈ b.pools, SamePool pool pool' ∧
        pool'.remainingGrams - posted b'.adjustments pool'.id =
          pool.remainingGrams - posted b.adjustments pool.id := by
  have hkept : ∀ pool ∈ b.pools, SamePool pool pool ∧
      pool.remainingGrams - posted b.adjustments pool.id =
        pool.remainingGrams - posted b.adjustments pool.id :=
    fun _ _ => ⟨⟨rfl, rfl⟩, rfl⟩
  cases h with
  | idle | arrived | moved => exact .inr ⟨pool', hpool', hkept pool' hpool'⟩
  | opened hnew hopening =>
    rcases (mem_insert hnew).mp hpool' with hold | rfl
    · exact .inr ⟨pool', hold, hkept pool' hold⟩
    · exact .inl ⟨hopening, posted_of_fresh hb hnew⟩
  | relabelled hpool hsame hbalance =>
    rcases mem_of_mem_put hpool' with rfl | ⟨hold, -⟩
    · exact .inr ⟨_, hpool, hsame, by rw [hbalance, hsame.id]⟩
    · exact .inr ⟨pool', hold, hkept pool' hold⟩
  | posted hpool hsame hrow hbalance | ran _ _ _ hpool hsame hrow hbalance =>
    rcases mem_of_mem_put hpool' with rfl | ⟨hold, hne⟩
    · refine .inr ⟨_, hpool, hsame, ?_⟩
      simp [hbalance, hsame.id, hrow]
    · refine .inr ⟨pool', hold, ⟨rfl, rfl⟩, ?_⟩
      have hother : ¬ _ = pool'.id := fun heq => hne (hsame.id.trans (hrow.symm.trans heq)).symm
      simp [hother]

variable {s₀ : State} {ops : List Op} {pool pool' : MachineConsumablePool} {q : Int}

/-- The run of `ops` from `s₀` opened a pool with `q`. -/
def OpenedWith (s₀ : State) (ops : List Op) (pool : MachineConsumablePool) (q : Int) : Prop :=
  ∃ before op after, ops = before ++ op :: after ∧
    (∃ s', step (run step s₀ before) op = .ok s') ∧ Opening pool op q

theorem OpenedWith.append (h : OpenedWith s₀ ops pool q) (op : Op) :
    OpenedWith s₀ (ops ++ [op]) pool q := by
  obtain ⟨before, opener, after, rfl, hcommit, hopening⟩ := h
  exact ⟨before, opener, after ++ [op], by simp, hcommit, hopening⟩

theorem Opening.same {op : Op} (h : Opening pool op q) (hsame : SamePool pool pool') :
    Opening pool' op q := by
  cases h with
  | created hid => exact hsame.initial ▸ .created (hid.trans hsame.id.symm)
  | received hid hremaining => exact .received (hid.trans hsame.id.symm) hremaining

theorem OpenedWith.same (h : OpenedWith s₀ ops pool q) (hsame : SamePool pool pool') :
    OpenedWith s₀ ops pool' q := by
  obtain ⟨before, opener, after, rfl, hcommit, hopening⟩ := h
  exact ⟨before, opener, after, rfl, hcommit, hopening.same hsame⟩

structure State.Fresh (s : State) : Prop where
  pools : s.pools = ∅
  adjustments : s.adjustments = []
  requests : s.requests = ∅

theorem balanced_of_fresh {s : State} (h : s.Fresh) :
    Balanced s.books where
  accounted := by simp [h.requests]
  in_range := by simp [h.pools]
  run_posted := by simp [h.requests]
  pools_known := by simp [h.adjustments]
  requests_known := by simp [h.adjustments]

theorem opened_of_run (h₀ : s₀.Fresh) (ops : List Op) :
    ∀ pool ∈ (run step s₀ ops).pools, ∃ q, OpenedWith s₀ ops pool q ∧
      pool.remainingGrams = q + posted (run step s₀ ops).adjustments pool.id := by
  refine run_history
    (I := fun (as : List Op) (s : State) => ∀ pool ∈ s.pools, ∃ q, OpenedWith s₀ as pool q ∧
      pool.remainingGrams = q + posted s.adjustments pool.id)
    ?_ ?_ ?_ ops
  · simp [h₀.pools]
  · intro as s op s' ih hrun h pool' hpool'
    have hb : Balanced s.books := hrun ▸ run_preserves balanced_preserved (balanced_of_fresh h₀) as
    have heffect := step_effect hb.accounted (fun pool hpool => (hb.in_range pool hpool).1) h
    rcases opened_or_carried heffect hb hpool' with ⟨hopening, hzero⟩ |
      ⟨pool, hpool, hsame, hcarried⟩
    · refine ⟨pool'.remainingGrams, ⟨as, op, [], rfl, ⟨s', by rw [hrun, h]⟩, hopening⟩, ?_⟩
      rw [books_adjustments] at hzero
      omega
    · obtain ⟨q, hopened, _⟩ := ih pool hpool
      refine ⟨q, (hopened.append op).same hsame, ?_⟩
      rw [books_adjustments, books_adjustments] at hcarried
      omega
  · intro as s op e ih hrun h pool hpool
    obtain ⟨q, hopened, hbalance⟩ := ih pool hpool
    exact ⟨q, hopened.append op, hbalance⟩

/-- **The ledger of the pools along every run.** A balance is its opening quantity plus adjustments,
between zero and the initial quantity, and a finished request has posted minus its consumption on
its pool, nothing elsewhere. -/
theorem pool_ledger_of_run {s₀ : State} (h₀ : s₀.Fresh) (ops : List Op) :
    (∀ pool ∈ (run step s₀ ops).pools,
      0 ≤ pool.remainingGrams ∧ pool.remainingGrams ≤ pool.initialGrams ∧
        ∃ q, OpenedWith s₀ ops pool q ∧
          pool.remainingGrams = q + posted (run step s₀ ops).adjustments pool.id) ∧
    ∀ request ∈ (run step s₀ ops).requests, request.status.isFinished = true →
      ∀ poolId, runPosted (run step s₀ ops).adjustments request.id poolId =
        if request.runConsumablePoolId = some poolId then
          -request.actualConsumedQuantity.getD 0
        else 0 := by
  have hb : Balanced (run step s₀ ops).books :=
    run_preserves balanced_preserved (balanced_of_fresh h₀) ops
  refine ⟨fun pool hpool => ?_, fun request hrequest hfinished poolId => ?_⟩
  · obtain ⟨hnonneg, hcapped⟩ := hb.in_range pool hpool
    exact ⟨hnonneg, hcapped, opened_of_run h₀ ops pool hpool⟩
  · have hstopped : request.status ≠ .inProgress := by
      intro hrun
      simp [hrun, RequestStatus.isFinished] at hfinished
    have hposted := hb.run_posted request hrequest poolId
    rw [books_adjustments] at hposted
    rw [hposted, MachineServiceRequest.chargedAt, MachineServiceRequest.charged,
      if_neg hstopped, if_pos hfinished]
    split <;> simp

def workshop : State where
  machineTypes := ⟨[{ id := 1, slug := "laser_cutter" }], by decide⟩
  overrides := ∅
  machines := ⟨[{ id := 1, makerspaceId := 1, machineTypeId := 1 }], by decide⟩
  queues := ∅
  pools := ∅
  adjustments := []
  requests := ∅
  usageEntries := []

/-- 40 g reserved, 30 g used, 5 g logged by hand, and a spool with 800 g left of 1000 g. -/
def workshopRun : List Op :=
  [.createPool { newId := 1, makerspaceId := 1, material := "PLA", initialGrams := some 100000 },
    .submit { newId := 1, target := .machine 1 },
    .accept 1 none none "" (.ok ()),
    .start { requestId := 1, machineId := some 1, consumablePoolId := some 1,
             plannedGrams := some 4000 },
    .complete { requestId := 1, actualMinutes := 30, actualGrams := some 3000 },
    .logTypedManualUsage { machineId := 1, durationMinutes := 5, outcome := "success",
                           grams := 500, poolId := some 1, serviceRequestId := some 1 },
    .createReceivedPool { newId := 2, makerspaceId := 1, material := "PLA",
                          initialWeightGrams := some 100000,
                          remainingWeightGrams := some (some 80000) }]

theorem pool_ledger_of_workshopRun :
    workshop.Fresh ∧
    (∀ pool ∈ (run step workshop workshopRun).pools,
      0 ≤ pool.remainingGrams ∧ pool.remainingGrams ≤ pool.initialGrams ∧
        ∃ q, OpenedWith workshop workshopRun pool q ∧
          pool.remainingGrams = q + posted (run step workshop workshopRun).adjustments pool.id) ∧
    ∀ request ∈ (run step workshop workshopRun).requests, request.status.isFinished = true →
      ∀ poolId, runPosted (run step workshop workshopRun).adjustments request.id poolId =
        if request.runConsumablePoolId = some poolId then
          -request.actualConsumedQuantity.getD 0
        else 0 :=
  ⟨⟨rfl, rfl, rfl⟩, pool_ledger_of_run ⟨rfl, rfl, rfl⟩ workshopRun⟩

/-- The deltas on a pool that name a request. -/
def ownPosted (adjustments : List MachineConsumableAdjustment) (requestId poolId : Nat) : Int :=
  ((adjustments.filter fun row => row.serviceRequestId = some requestId && row.poolId = poolId).map
    MachineConsumableAdjustment.quantityDelta).sum

/-- The spool starts below its initial quantity, and the logged 5 g are not in the job's
consumption. -/
theorem workshopRun_breaks_initial_ledger :
    (∃ pool ∈ (run step workshop workshopRun).pools, pool.remainingGrams ≠
      pool.initialGrams + posted (run step workshop workshopRun).adjustments pool.id) ∧
    ∃ request ∈ (run step workshop workshopRun).requests, request.status = .completed ∧
      request.runConsumablePoolId = some 1 ∧
      ownPosted (run step workshop workshopRun).adjustments request.id 1 ≠
        -request.actualConsumedQuantity.getD 0 := by
  constructor
  · show ∃ pool ∈ (run step workshop workshopRun).pools.rows, _
    decide
  · show ∃ request ∈ (run step workshop workshopRun).requests.rows, _
    decide

end

end Machines
end SpaceWorks
