import SpaceWorks.Machines.Conservation

/-!
# One running request for each machine

A start asks for an idle machine and makes it running; a finish gives it back, as long as the staff
leave an occupied machine alone.
-/

namespace SpaceWorks
namespace Machines

open Checked TransactionalSystem Table

def MachineServiceRequest.runsOn (request : MachineServiceRequest) (machineId : Nat) : Prop :=
  request.status = .inProgress ∧ request.assignedMachineId = some machineId

instance (request : MachineServiceRequest) (machineId : Nat) :
    Decidable (request.runsOn machineId) :=
  inferInstanceAs (Decidable (_ ∧ _))

/-- At most one request runs, on a machine that is RUNNING. -/
structure Exclusive (s : State) (machineId : Nat) : Prop where
  single : ∀ request ∈ s.requests, ∀ other ∈ s.requests,
    request.runsOn machineId → other.runsOn machineId → request = other
  running : ∀ request ∈ s.requests, request.runsOn machineId →
    ∃ machine ∈ s.machines, machine.id = machineId ∧ machine.status = .running

/-- Staff takes the machine out of RUNNING while a request runs. -/
def Overrides (s : State) (machineId : Nat) (op : Op) : Prop :=
  (∃ request ∈ s.requests, request.runsOn machineId) ∧
    ((∃ status, op = .setStatus machineId status ∧ status ≠ .running ∧
        ∃ machine ∈ s.machines, machine.id = machineId ∧ machine.isActive) ∨
      op = .retireMachine machineId (.ok ()))

inductive Shift (s : State) : Op → State → Prop
  | quiet {op : Op} {s' : State} (hmachines : s'.machines = s.machines)
      (hrequests : ∀ request ∈ s'.requests, request.status = .inProgress →
        request ∈ s.requests) :
      Shift s op s'
  | started {op : Op} {s' : State} {request : MachineServiceRequest} {machine : Machine}
      (row : MachineServiceRequest)
      (hrequest : request ∈ s.requests)
      (hmachine : machine ∈ s.machines)
      (hidle : machine.status = .idle)
      (hid : row.id = request.id)
      (hruns : row.runsOn machine.id)
      (hrequests : s'.requests = s.requests.put row)
      (hmachines : s'.machines = s.machines.put { machine with status := .running }) :
      Shift s op s'
  | finished {op : Op} {s' : State} {request : MachineServiceRequest} {machineId : Nat}
      (row : MachineServiceRequest)
      (hrequest : request ∈ s.requests)
      (hruns : request.runsOn machineId)
      (hid : row.id = request.id)
      (hstatus : row.status ≠ .inProgress)
      (hrequests : s'.requests = s.requests.put row)
      (hmachines : s'.machines = releaseQueueMachine s machineId) :
      Shift s op s'
  | staffed {op : Op} {s' : State} {machine : Machine} (new : Machine)
      (hmachine : machine ∈ s.machines)
      (hid : new.id = machine.id)
      (hcover : machine.status = .running → new.status ≠ .running →
        (∃ request ∈ s.requests, request.runsOn machine.id) → Overrides s machine.id op)
      (hrequests : s'.requests = s.requests)
      (hmachines : s'.machines = s.machines.put new) :
      Shift s op s'

section

variable {s s' : State} {op : Op} {pool : MachineConsumablePool} {reason : String}
  {request row : MachineServiceRequest} {machine : Machine} {args : StartArgs} {machineId : Nat}

theorem Shift.put {op : Op} {row : MachineServiceRequest} (hmachines : s'.machines = s.machines)
    (hrequests : s'.requests = s.requests.put row) (hstatus : row.status ≠ .inProgress) :
    Shift s op s' := by
  refine .quiet hmachines fun request hrequest hruns => ?_
  rw [hrequests] at hrequest
  rcases mem_of_mem_put hrequest with rfl | ⟨hold, -⟩
  · exact absurd hruns hstatus
  · exact hold

theorem Shift.pooled (hmachines : s'.machines = s.machines) (hrequests : s'.requests = s.requests) :
    Shift s op s' :=
  .quiet hmachines fun _ hrequest _ => hrequests ▸ hrequest

theorem apply_machines {posting : Posting} (h : apply s pool posting = .ok s') :
    s'.machines = s.machines ∧ s'.requests = s.requests := by
  obtain ⟨-, -, rfl⟩ := apply_ok.mp h
  exact ⟨rfl, rfl⟩

theorem debitUsage_machines {usage : ManualUsage} {consumed : Int} {unit : MeteringUnit}
    {pool : Option MachineConsumablePool} (h : debitUsage s usage consumed unit pool = .ok s') :
    s'.machines = s.machines ∧ s'.requests = s.requests := by
  unfold debitUsage at h
  split at h
  · exact pure_ok.mp h ▸ ⟨rfl, rfl⟩
  · split at h
    · exact pure_ok.mp h ▸ ⟨rfl, rfl⟩
    · exact apply_machines h

theorem retirePool_shift {poolId : Nat} (h : retirePool s poolId reason = .ok s') :
    Shift s (.retirePool poolId reason) s' := by
  simp only [retirePool, bind_ok, require_ok, lockedPool_ok] at h
  obtain ⟨-, -, _, -, h⟩ := h
  split at h
  · split at h
    · obtain rfl := pure_ok.mp h
      exact .pooled rfl rfl
    · simp at h
      obtain ⟨_, hmid, _, -, rfl⟩ := h
      obtain ⟨hmachines, hrequests⟩ := apply_machines hmid
      exact .pooled hmachines hrequests
  · obtain rfl := pure_ok.mp h
    exact .pooled rfl rfl

theorem Shift.insert
    {op : Op} {row : MachineServiceRequest} (hnew : s.requests.get? (key row) = none)
    (hmachines : s'.machines = s.machines) (hrequests : s'.requests = s.requests.insert row hnew)
    (hstatus : row.status ≠ .inProgress) :
    Shift s op s' := by
  refine .quiet hmachines fun request hrequest hruns => ?_
  rw [hrequests] at hrequest
  rcases (mem_insert hnew).mp hrequest with hold | rfl
  · exact hold
  · exact absurd hruns hstatus

theorem submit_shift {submission : Submission} (h : submit s submission = .ok s') :
    Shift s (.submit submission) s' := by
  simp only [submit, bind_ok, pure_ok, insertNew_ok] at h
  obtain ⟨_, hrow, _, ⟨hnew, rfl⟩, rfl⟩ := h
  refine .insert hnew rfl rfl ?_
  unfold submittedRow at hrow
  split at hrow
  · simp [submitToQueue] at hrow
    obtain ⟨-, -, -, -, -, -, -, -, -, -, rfl⟩ := hrow
    simp
  · simp [submitToMachine] at hrow
    obtain ⟨-, -, -, -, -, -, -, -, -, -, rfl⟩ := hrow
    simp

theorem reserveForRequest_machines {plannedGrams : Int} {plannedQuantity : Option Int}
    (h : reserveForRequest s request pool plannedGrams plannedQuantity machine = .ok (s', row)) :
    s'.machines = s.machines := by
  cases plannedQuantity with
  | none =>
    simp only [reserveForRequest, legacyReserveForRequest, bind_ok, pure_ok, Prod.mk.injEq] at h
    obtain ⟨_, ⟨_, -, _, -, _, -, _, -, _, hmid, rfl⟩, rfl, rfl⟩ := h
    exact (apply_machines hmid).1
  | some =>
    simp only [reserveForRequest, bind_ok, pure_ok, Prod.mk.injEq] at h
    obtain ⟨_, -, _, -, _, -, _, -, _, -, _, -, _, hmid, rfl, rfl⟩ := h
    exact (apply_machines hmid).1

theorem startReservation_machines {minutes : Int} {machineType : MachineType}
    (h : startReservation s args request minutes machine machineType = .ok (s', row)) :
    s'.machines = s.machines ∧ row.id = request.id ∧
      ∀ final : MachineServiceRequest, final.id = request.id →
        s'.requests.put final = s.requests.put final := by
  rcases startReservation_spec h with ⟨rfl, hid, -, -⟩ | ⟨_, -, _,
    _, hreserve⟩
  · exact ⟨rfl, hid, fun _ _ => rfl⟩
  · obtain ⟨_, _, -, -, -, -, -, -, hreserved, hbooks⟩ := reserveForRequest_spec hreserve
    refine ⟨reserveForRequest_machines hreserve, hreserved.id, fun final hfinal => ?_⟩
    have hrequests : s'.requests = s.requests.put row := congrArg Books.requests hbooks
    rw [hrequests, put_put _ (hreserved.id.trans hfinal.symm)]

theorem mem_of_foldl_choice {choose : Option Machine → Machine → Option Machine}
    (hchoose : ∀ best head, choose best head = best ∨ choose best head = some head)
    {machines : List Machine} {best : Option Machine}
    (h : machines.foldl choose best = some machine) :
    machine ∈ machines ∨ best = some machine := by
  induction machines generalizing best with
  | nil => exact .inr h
  | cons head _ ih =>
    rcases ih h with hmem | hfound
    · exact .inl (List.mem_cons_of_mem head hmem)
    · rcases hchoose best head with hkept | htaken
      · exact .inr (hkept ▸ hfound)
      · refine .inl (List.mem_cons.mpr (.inl ?_))
        exact (Option.some.inj (htaken.symm.trans hfound)).symm

theorem mem_of_firstMachine {p : Machine → Bool} (h : firstMachine s p = some machine) :
    machine ∈ s.machines := by
  refine (mem_of_foldl_choice (fun best head => ?_) h).elim (fun hmem => ?_) fun hnone => ?_
  · cases best with
    | none => exact .inr rfl
    | some => exact (ite_eq_or_eq ..).symm
  · exact (List.mem_filter.mp hmem).1
  · cases hnone

theorem mem_of_startMachine {queue : Option ServiceQueue} {found : Option Machine}
    (h : startMachine s args request queue = .ok found) (hmachine : found = some machine) :
    machine ∈ s.machines := by
  unfold startMachine at h
  split at h
  · obtain rfl := pure_ok.mp h
    exact mem_of_get? (Option.filter_eq_some_iff.mp hmachine).1
  · split at h
    · obtain rfl := pure_ok.mp h
      exact mem_of_firstMachine hmachine
    · simp at h
  · simp at h

theorem start_shift (h : start s args = .ok s') :
    Shift s (.start args) s' := by
  simp only [start, requireAvailable, bind_ok, require_ok, pure_ok, orRefuse_ok,
    lockedServiceRequest_ok] at h
  obtain ⟨_, ⟨hrequest, -⟩, -, -, -, -, _, -, _, hfound, machine, hmachine, -, -,
    -, -, -, ⟨-, hidle⟩, -, -, _, -, _, -, -, -, ⟨_, row⟩, hreservation,
    rfl⟩ := h
  obtain ⟨hmachines, hid, hput⟩ := startReservation_machines hreservation
  have hmem := mem_of_startMachine hfound (Option.filter_eq_some_iff.mp hmachine).1
  exact .started { row with status := .inProgress, assignedMachineId := some machine.id }
    hrequest hmem hidle hid ⟨rfl, rfl⟩ (hput _ hid) (by rw [hmachines])

theorem finishConsumption_machines {machineType : MachineType} {args : FinishArgs}
    {actualGrams : Int} {actualQuantity : Option Int}
    (h : finishConsumption s request machineType args actualGrams actualQuantity reason =
      .ok (s', row)) :
    s'.machines = s.machines ∧ row.id = request.id ∧
      ∀ final : MachineServiceRequest, final.id = request.id →
        s'.requests.put final = s.requests.put final := by
  have hsettled : ∀ {pool : MachineConsumablePool} {delta : Int} {reason : String}
      {unit : Option MeteringUnit} {mid : State},
      settleReservation s request pool delta reason unit = .ok mid →
        mid.machines = s.machines ∧ mid.requests = s.requests := by
    intro pool delta reason unit mid hsettle
    rcases settleReservation_spec hsettle with ⟨-, rfl⟩ | ⟨_, -, -, -, happly⟩
    · exact ⟨rfl, rfl⟩
    · exact apply_machines happly
  unfold finishConsumption at h
  split at h
  · simp only [bind_ok, pure_ok, Prod.mk.injEq] at h
    obtain ⟨_, hrow, rfl, rfl⟩ := h
    refine ⟨rfl, ?_, fun _ _ => rfl⟩
    simp only [recordUnpooledActual] at hrow
    split at hrow
    · exact pure_ok.mp hrow ▸ rfl
    · simp at hrow
      obtain ⟨-, -, rfl⟩ := hrow
      rfl
  · simp at h
    obtain ⟨_, -, h⟩ := h
    unfold reconcileRequest at h
    split at h
    · simp only [legacyReconcileRequest, bind_ok, pure_ok, Prod.mk.injEq] at h
      obtain ⟨_, ⟨_, -, _, hsettle, rfl⟩, rfl, rfl⟩ := h
      obtain ⟨hmachines, hrequests⟩ := hsettled hsettle
      refine ⟨hmachines, rfl, fun final hfinal => ?_⟩
      rw [put_put _ (by exact hfinal.symm), hrequests]
    · simp at h
      obtain ⟨_, -, _, hsettle, rfl, rfl⟩ := h
      obtain ⟨hmachines, hrequests⟩ := hsettled hsettle
      refine ⟨hmachines, rfl, fun final hfinal => ?_⟩
      rw [put_put _ (by exact hfinal.symm), hrequests]

theorem lockAssignedMachine_spec (h : lockAssignedMachine s request = .ok machine) :
    request.assignedMachineId = some machine.id := by
  simp [lockAssignedMachine] at h
  obtain ⟨machineId, hassigned, hget⟩ := h
  rw [hassigned, show machine.id = machineId from key_of_get? hget]

theorem releaseQueueMachine_congr (h : s'.machines = s.machines) (machineId : Nat) :
    releaseQueueMachine s' machineId = releaseQueueMachine s machineId := by
  unfold releaseQueueMachine
  rw [h]

theorem complete_shift {args : FinishArgs} (h : complete s args = .ok s') :
    Shift s (.complete args) s' := by
  simp only [complete, requireEdge, bind_ok, require_ok, pure_ok,
    lockedServiceRequest_ok, completed_mem_allowedEdges] at h
  obtain ⟨_, ⟨hrequest, -⟩, -, hstatus, machine, hmachine, minutes, -, -, -, _, -,
    ⟨_, row⟩, hfinish, rfl⟩ := h
  obtain ⟨hmachines, hid, hput⟩ := finishConsumption_machines hfinish
  exact .finished { row with status := .completed, actualMinutes := minutes } hrequest
    ⟨hstatus, lockAssignedMachine_spec hmachine⟩ hid (by simp) (hput _ hid)
    (releaseQueueMachine_congr hmachines machine.id)

theorem fail_shift {args : FinishArgs} {percentComplete : Int}
    (h : fail s args reason percentComplete = .ok s') :
    Shift s (.fail args reason percentComplete) s' := by
  simp only [fail, requireEdge, bind_ok, require_ok, pure_ok,
    lockedServiceRequest_ok, failed_mem_allowedEdges] at h
  obtain ⟨-, -, _, ⟨hrequest, -⟩, -, hstatus, machine, hmachine, minutes, -, percent, -, -, -,
    _, -, ⟨_, row⟩, hfinish, rfl⟩ := h
  obtain ⟨hmachines, hid, hput⟩ := finishConsumption_machines hfinish
  exact .finished { row with
      status := .failed
      actualMinutes := minutes
      failPercentComplete := percent
      reason := Python.strip reason }
    hrequest ⟨hstatus, lockAssignedMachine_spec hmachine⟩ hid (by simp) (hput _ hid)
    (releaseQueueMachine_congr hmachines machine.id)

theorem setStatus_shift {status : MachineStatus} (h : setStatus s machineId status = .ok s') :
    Shift s (.setStatus machineId status) s' := by
  simp [setStatus] at h
  obtain ⟨machine, hget, hactive, rfl⟩ := h
  have hmem := mem_of_get? hget
  have hid : machine.id = machineId := key_of_get? hget
  refine .staffed { machine with status := status } hmem rfl ?_ rfl rfl
  intro _ hstatus hoccupied
  exact ⟨hoccupied, .inl ⟨status, by rw [hid], hstatus, machine, hmem, rfl, hactive⟩⟩

theorem retireMachine_shift {gate : Except String Unit}
    (h : retireMachine s machineId gate = .ok s') :
    Shift s (.retireMachine machineId gate) s' := by
  simp only [retireMachine, bind_ok, orRefuse_ok, mapError_eq_ok, pure_ok] at h
  obtain ⟨_, hgate, machine, hget, rfl⟩ := h
  have hid : machine.id = machineId := key_of_get? hget
  refine .staffed { machine with isActive := false, status := .offline }
    (mem_of_get? hget) rfl ?_ rfl rfl
  intro _ _ hoccupied
  exact ⟨hoccupied, .inr (by rw [hid, hgate])⟩

theorem step_shift (h : step s op = .ok s') :
    Shift s op s' := by
  cases op with
  | createPool =>
    simp [step, createPool] at h
    obtain ⟨_, -, _, -, _, -, _, -, _, -, _, -, _, -, _, -, _, -, _, -, _, -, rfl⟩ := h
    exact .pooled rfl rfl
  | createReceivedPool =>
    simp [step, createReceivedPool] at h
    obtain ⟨_, -, _, -, _, -, _, -, _, -, _, -, _, -, _, -, rfl⟩ := h
    exact .pooled rfl rfl
  | correctPool =>
    simp only [step, correctPool, bind_ok] at h
    obtain ⟨_, -, _, -, _, -, h⟩ := h
    obtain ⟨hmachines, hrequests⟩ := apply_machines h
    exact .pooled hmachines hrequests
  | retirePool => exact retirePool_shift h
  | setPoolVisibility =>
    simp [step, setPoolVisibility] at h
    obtain ⟨_, -, rfl⟩ := h
    exact .pooled rfl rfl
  | logTypedManualUsage =>
    simp only [step, logTypedManualUsage, bind_ok] at h
    obtain ⟨_, -, _, -, _, -, _, -, _, -, _, -, _, -, _, -, _, -, _, -, _, -, _, -, h⟩ := h
    obtain ⟨hmachines, hrequests⟩ := debitUsage_machines h
    exact .pooled hmachines hrequests
  | submit => exact submit_shift h
  | createReprint =>
    simp only [step, createReprint, bind_ok, pure_ok, insertNew_ok] at h
    obtain ⟨_, -, _, -, _, -, _, ⟨hnew, rfl⟩, rfl⟩ := h
    exact .insert hnew rfl rfl (by simp)
  | accept =>
    simp [step, accept] at h
    obtain ⟨_, -, _, -, _, -, _, -, _, -, rfl⟩ := h
    exact .put rfl rfl (by simp)
  | reject =>
    simp [step, reject] at h
    obtain ⟨_, -, _, -, _, -, _, -, rfl⟩ := h
    exact .put rfl rfl (by simp)
  | start => exact start_shift h
  | complete => exact complete_shift h
  | fail => exact fail_shift h
  | collect =>
    simp [step, collect] at h
    obtain ⟨_, -, _, -, _, -, rfl⟩ := h
    exact .put rfl rfl (by simp)
  | setStatus => exact setStatus_shift h
  | retireMachine => exact retireMachine_shift h
  | unretireMachine =>
    simp [step, unretireMachine] at h
    obtain ⟨machine, hget, -, -, rfl⟩ := h
    refine .staffed { machine with isActive := true } (mem_of_get? hget) rfl ?_ rfl rfl
    intro hstatus hne _
    exact absurd hstatus hne

theorem Exclusive.status
    (h : Exclusive s machineId) {request : MachineServiceRequest} {machine : Machine}
    (hrequest : request ∈ s.requests) (hruns : request.runsOn machineId)
    (hmachine : machine ∈ s.machines) (hid : machine.id = machineId) :
    machine.status = .running := by
  obtain ⟨_, hother, hotherId, hstatus⟩ := h.running request hrequest hruns
  rw [eq_of_key_eq hmachine hother (hid.trans hotherId.symm)]
  exact hstatus

theorem running_put {machine new : Machine}
    (hmachine : machine ∈ s.machines) (hne : machine.id ≠ new.id)
    (hmachines : s'.machines = s.machines.put new) :
    machine ∈ s'.machines := by
  rw [hmachines]
  exact mem_put.mpr (.inl ⟨hmachine, hne⟩)

theorem exclusive_of_shift (h : Exclusive s machineId) (hkept : ¬ Overrides s machineId op)
    (hshift : Shift s op s') :
    Exclusive s' machineId := by
  cases hshift with
  | quiet hmachines hrequests =>
    refine ⟨fun request hrequest other hother hruns hruns' => ?_, fun request hrequest hruns => ?_⟩
    · exact h.single request (hrequests request hrequest hruns.1) other
        (hrequests other hother hruns'.1) hruns hruns'
    · rw [hmachines]
      exact h.running request (hrequests request hrequest hruns.1) hruns
  | @started _ machine row hrequest hmachine hidle _ hruns hrequests hmachines =>
    -- the started machine was idle, so no request ran on it
    have hfree : ∀ request ∈ s.requests, ¬ request.runsOn machine.id ∨ machine.id ≠ machineId := by
      intro request hrequest
      by_cases heq : machine.id = machineId
      · subst heq
        refine .inl fun hruns => ?_
        have hstatus := h.status hrequest hruns hmachine rfl
        rw [hidle] at hstatus
        cases hstatus
      · exact .inr heq
    have hcase : ∀ request ∈ s'.requests, request.runsOn machineId →
        (request = row ∧ machine.id = machineId) ∨
          (request ∈ s.requests ∧ machine.id ≠ machineId) := by
      intro request hmem hrunsOn
      rw [hrequests] at hmem
      rcases mem_of_mem_put hmem with rfl | ⟨hold, -⟩
      · exact .inl ⟨rfl, Option.some.inj (hruns.2.symm.trans hrunsOn.2)⟩
      · refine .inr ⟨hold, fun heq => ?_⟩
        subst heq
        exact (hfree request hold).elim (fun hnot => hnot hrunsOn) fun hne => hne rfl
    refine ⟨fun request hmem other hother hrunsOn hrunsOn' => ?_, fun request hmem hrunsOn => ?_⟩
    · rcases hcase request hmem hrunsOn with ⟨rfl, heq⟩ | ⟨hold, hne⟩ <;>
        rcases hcase other hother hrunsOn' with ⟨rfl, heq'⟩ | ⟨hold', hne'⟩
      · rfl
      · exact absurd heq hne'
      · exact absurd heq' hne
      · exact h.single request hold other hold' hrunsOn hrunsOn'
    · rcases hcase request hmem hrunsOn with ⟨-, heq⟩ | ⟨hold, hne⟩
      · refine ⟨{ machine with status := .running }, ?_, heq, rfl⟩
        rw [hmachines]
        exact mem_put_self (show s.machines.get? machine.id = some machine from
          get?_key hmachine)
      · obtain ⟨kept, hkeptMem, hkeptId, hstatus⟩ := h.running request hold hrunsOn
        refine ⟨kept, running_put hkeptMem ?_ hmachines, hkeptId, hstatus⟩
        exact fun heq => hne (heq.symm.trans hkeptId)
  | @finished original finishedOn _ hrequest hruns hid hstatus hrequests hmachines =>
    have hcase : ∀ request ∈ s'.requests, request.runsOn machineId →
        request ∈ s.requests ∧ finishedOn ≠ machineId := by
      intro request hmem hrunsOn
      rw [hrequests] at hmem
      rcases mem_of_mem_put hmem with rfl | ⟨hold, hkey⟩
      · exact absurd hrunsOn.1 hstatus
      · refine ⟨hold, ?_⟩
        rintro rfl
        apply hkey
        rw [h.single request hold original hrequest hrunsOn hruns]
        exact hid.symm
    refine ⟨fun request hmem other hother hrunsOn hrunsOn' => ?_, fun request hmem hrunsOn => ?_⟩
    · exact h.single request (hcase request hmem hrunsOn).1 other
        (hcase other hother hrunsOn').1 hrunsOn hrunsOn'
    · obtain ⟨hold, hne⟩ := hcase request hmem hrunsOn
      obtain ⟨kept, hkeptMem, hkeptId, hkeptStatus⟩ := h.running request hold hrunsOn
      refine ⟨kept, ?_, hkeptId, hkeptStatus⟩
      rw [hmachines]
      unfold releaseQueueMachine
      split
      · exact hkeptMem
      · next released hget =>
          split
          · refine mem_put.mpr (.inl ⟨hkeptMem, fun heq => hne ?_⟩)
            exact (key_of_get? hget).symm.trans (heq.symm.trans hkeptId)
          · exact hkeptMem
  | @staffed machine new hmachine hid hcover hrequests hmachines =>
    refine ⟨hrequests ▸ h.single, fun request hmem hrunsOn => ?_⟩
    have hmem : request ∈ s.requests := hrequests ▸ hmem
    obtain ⟨kept, hkeptMem, hkeptId, hkeptStatus⟩ := h.running request hmem hrunsOn
    by_cases heq : machine.id = machineId
    · subst heq
      have hstatus := h.status hmem hrunsOn hmachine rfl
      refine ⟨new, ?_, hid, ?_⟩
      · rw [hmachines]
        refine mem_put_self (?_ : _ = some machine)
        rw [key_machine, hid]
        exact get?_key hmachine
      · by_contra hne
        exact hkept (hcover hstatus hne ⟨request, hmem, hrunsOn⟩)
    · refine ⟨kept, running_put hkeptMem ?_ hmachines, hkeptId, hkeptStatus⟩
      exact fun hkey => heq (hid.symm.trans (hkey.symm.trans hkeptId))

theorem not_exclusive_of_overrides (h : Exclusive s machineId) (hover : Overrides s machineId op) :
    ¬ Exclusive (settle step s op) machineId := by
  obtain ⟨⟨request, hrequest, hruns⟩, hop⟩ := hover
  obtain ⟨machine, hmachine, rfl, _⟩ := h.running request hrequest hruns
  have hget : s.machines.get? machine.id = some machine := get?_key hmachine
  -- the machine is written with another status and its request stays
  have hwritten : ∃ new : Machine, new.id = machine.id ∧ new.status ≠ .running ∧
      settle step s op = { s with machines := s.machines.put new } := by
    rcases hop with ⟨status, rfl, hne, other, hother, hid, hactive⟩ | rfl
    · obtain rfl : other = machine := eq_of_key_eq hother hmachine hid
      refine ⟨{ other with status := status }, rfl, hne, settle_ok ?_⟩
      simp only [step, setStatus, bind_ok, orRefuse_ok, require_ok, pure_ok]
      exact ⟨other, hget, ⟨⟩, hactive, rfl⟩
    · refine ⟨{ machine with isActive := false, status := .offline }, rfl, by simp, settle_ok ?_⟩
      simp only [step, retireMachine, bind_ok, orRefuse_ok, mapError_eq_ok, pure_ok]
      exact ⟨⟨⟩, trivial, machine, hget, rfl⟩
  obtain ⟨new, hid, hne, hsettle⟩ := hwritten
  intro hafter
  rw [hsettle] at hafter
  have hput : new ∈ s.machines.put new := by
    refine mem_put_self (?_ : _ = some machine)
    rw [key_machine, hid]
    exact hget
  exact hne (hafter.status hrequest hruns hput hid)

end

theorem exclusive_of_fresh {s : State} (h : s.Fresh) (machineId : Nat) :
    Exclusive s machineId where
  single := by simp [h.requests]
  running := by simp [h.requests]

/-- **One running request for each machine.** At most one is in progress, with the machine RUNNING,
in every state exactly when no staff operation overrides it. -/
theorem exclusive_of_run_iff {s₀ : State} (h₀ : s₀.Fresh) (ops : List Op) (machineId : Nat) :
    (∀ before after, ops = before ++ after → Exclusive (run step s₀ before) machineId) ↔
    ∀ before op after, ops = before ++ op :: after →
      ¬ Overrides (run step s₀ before) machineId op := by
  constructor
  · intro hall before op after hops hover
    have hbefore := hall before (op :: after) hops
    have hafter := hall (before ++ [op]) after (by simp [hops])
    rw [run_append, run_cons, run_nil] at hafter
    exact not_exclusive_of_overrides hbefore hover hafter
  · intro hkept before
    induction before using List.reverseRecOn with
    | nil => exact fun _ _ => exclusive_of_fresh h₀ machineId
    | append_singleton before op ih =>
      intro after hops
      have hops' : ops = before ++ op :: after := by simp [hops]
      have hprev := ih (op :: after) hops'
      rw [run_append, run_cons, run_nil]
      cases h : step (run step s₀ before) op with
      | ok =>
        rw [settle_ok h]
        exact exclusive_of_shift hprev (hkept before op after hops') (step_shift h)
      | error =>
        rw [settle_error h]
        exact hprev

def overriddenRun : List Op :=
  [.submit { newId := 1, target := .machine 1 }, .submit { newId := 2, target := .machine 1 },
    .accept 1 none none "" (.ok ()),
    .accept 2 none none "" (.ok ()),
    .start { requestId := 1, machineId := some 1 },
    .setStatus 1 .idle,
    .start { requestId := 2, machineId := some 1 }]

/-- The overridden run, without its last two operations. -/
theorem exclusive_of_overriddenRun_prefix :
    workshop.Fresh ∧
    ((∀ before after, overriddenRun.take 5 = before ++ after →
      Exclusive (run step workshop before) 1)
      ↔
    ∀ before op after, overriddenRun.take 5 = before ++ op :: after →
      ¬ Overrides (run step workshop before) 1 op) :=
  ⟨⟨rfl, rfl, rfl⟩, exclusive_of_run_iff ⟨rfl, rfl, rfl⟩ (overriddenRun.take 5) 1⟩

/-- Two requests are in progress at its end. -/
theorem overriddenRun_runs_two :
    ∃ request ∈ (run step workshop overriddenRun).requests,
      ∃ other ∈ (run step workshop overriddenRun).requests,
        request.runsOn 1 ∧ other.runsOn 1 ∧ request ≠ other := by
  decide

end Machines
end SpaceWorks
