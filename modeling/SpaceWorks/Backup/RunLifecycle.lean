import SpaceWorks.Backup.RunCoverage
import SpaceWorks.Library.Python
import SpaceWorks.Library.Runs
import SpaceWorks.Library.Table

/-!
# The lifecycle of backup runs

The transactions of `services_runs.py`, `services_lease.py` and `runs.py`, in any order: a worker
can go on after another one has failed its run.  All but `finalize_run` are fenced by the status.
-/

namespace SpaceWorks
namespace RunLifecycle

open Checked Python Table TransactionalSystem Coverage List

instance : Keyed BackupRun String := ⟨BackupRun.id⟩

structure BackupLease where
  holder : Option String := none
  leasedUntil : Option Nat := none

structure Deployment where
  runs : Table BackupRun := ∅
  coverage : List BackupRunCoverage := []
  archives : List BackupArchive := []
  lease : BackupLease := {}
  lastSuccess : Option (String × Option Nat) := none

/-- A status of `PENDING` or `RUNNING`. -/
def isOpen (run : BackupRun) : Bool :=
  run.status = .pending ∨ run.status = .running

/-- The update of the runs that a filter selects. -/
def update (s : Deployment) (selects : BackupRun → Bool) (status : RunStatus)
    (failureDetail : BackupRun → String) (finishedAt : BackupRun → Option Nat) : Deployment :=
  { s with runs := s.runs.mapRows (fun run =>
      if selects run then { run with
        status := status
        failureDetail := failureDetail run
        finishedAt := finishedAt run }
      else run) (by
    intro run
    split <;> rfl) }

def owned (id holder : String) (status : RunStatus) (run : BackupRun) : Bool :=
  run.id = id ∧ run.holder = some holder ∧ run.status = status

def releaseLease (lease : BackupLease) (holder : String) : BackupLease :=
  if lease.holder = some holder then {} else lease

/-- `_renew_lease`, `BACKUP_LEASE_SECONDS` from now. -/
def renewLease (leaseSeconds : Nat) (lease : BackupLease) (holder : String) (now : Nat) :
    Except String BackupLease := do
  require (lease.holder = some holder) "The backup run lost its deployment lease."
  pure { lease with leasedUntil := some (now + leaseSeconds) }

inductive Transaction
  | openRun (id holder : String) (cohort : List (Nat × Bool))
  | claimLease (holder : String) (now : Nat)
  | startRun (id holder : String) (now : Nat)
  | renewLease (holder : String) (now : Nat)
  | recordCoverage (id holder : String) (makerspaceId : Int) (archiveId : String) (path : Path)
  | markCoverageCovered (id holder : String) (archive : BackupArchive)
  | finalizeScheduledRun (id holder : String) (now : Nat)
  | failRun (id holder detail : String) (now : Nat)
  | releaseLease (holder : String)
  | failStaleRun (stale : BackupRun) (now : Nat)
  | writeArchives (archives : List BackupArchive)

def step (leaseSeconds : Nat) (s : Deployment) : Transaction → Except String Deployment
  | .openRun id holder cohort => do
    require (cohort ≠ []) "A backup run cannot open with zero servable makerspaces."
    let runs ← s.runs.insertNew
      { id := id, holder := some holder, status := .pending, failureDetail := "",
        finishedAt := none, flagSnapshot := .dict (cohort.map fun (makerspaceId, enabled) =>
          (toString makerspaceId, .bool enabled)) } "The id of a run is used once."
    pure { s with runs := runs }
  | .claimLease holder now => do
    require (s.lease.leasedUntil.all (· ≤ now)) "Another backup already holds the deployment lease."
    pure { s with lease := ⟨some holder, some (now + leaseSeconds)⟩ }
  | .startRun id holder now => do
    require (s.runs.rows.any (owned id holder .pending)) "The backup run start fence was lost."
    let lease ← renewLease leaseSeconds s.lease holder now
    pure { update s (owned id holder .pending) .running BackupRun.failureDetail
      BackupRun.finishedAt with lease := lease }
  | .renewLease holder now => do
    let lease ← renewLease leaseSeconds s.lease holder now
    pure { s with lease := lease }
  | .recordCoverage id holder makerspaceId archiveId path => do
    let run ← orRefuse (s.runs.get? id) "BackupRun matching query does not exist."
    let coverage ← recordCoverage run (some holder) s.coverage makerspaceId archiveId path
    pure { s with coverage := coverage }
  | .markCoverageCovered id holder archive => do
    require (s.runs.rows.any (owned id holder .running) ∧ archive.backupRunId = some id)
      "Coverage finalization refused because the run fence was lost."
    pure { s with coverage := s.coverage.map fun row =>
      if row.runId = id ∧ row.archiveId = some archive.id ∧ row.covered = false then { row with
        covered := true
        archiveSha256Snapshot := archive.archiveSha256
        completedAtSnapshot := archive.completedAt }
      else row }
  | .finalizeScheduledRun id holder now => do
    let run ← orRefuse (s.runs.get? id) "BackupRun matching query does not exist."
    let finalized ← finalizeRun run (some holder) s.coverage s.archives now
    pure { s with
      runs := s.runs.put finalized
      lastSuccess := if finalized.status = .complete then some (id, finalized.finishedAt)
        else s.lastSuccess }
  | .failRun id holder detail now =>
    let message := String.ofList ((strip detail).toList.take 500)
    pure (update s (fun run => run.id = id ∧ run.holder = some holder ∧ isOpen run) .failed
      (fun _ => if message = "" then "The scheduled backup run failed." else message)
      fun _ => some now)
  | .releaseLease holder => pure { s with lease := releaseLease s.lease holder }
  | .failStaleRun stale now => do
    require (isOpen stale) "Only pending and running runs are read."
    let selects := fun run : BackupRun =>
      run.id = stale.id ∧ run.status = stale.status ∧ run.holder = stale.holder
    pure { update s (fun run => selects run) .failed
      (fun _ => "The previous backup run exited without finalizing.") fun _ => some now with
      lease := if s.runs.rows.any (fun run => selects run) then
        stale.holder.elim s.lease (releaseLease s.lease) else s.lease }
  | .writeArchives archives => pure { s with archives := archives }

variable {leaseSeconds : Nat} {s t : Deployment}

structure Settled (s t : Deployment) : Prop where
  status : ∀ run ∈ s.runs, isOpen run = false →
    ∃ run' ∈ t.runs, run'.id = run.id ∧ run'.status = run.status
  coverage : ∀ run ∈ s.runs, isOpen run = false →
    t.coverage.filter (·.runId = run.id) = s.coverage.filter (·.runId = run.id)

/-- The last success is of a run that is `COMPLETE`. -/
def SuccessStands (s : Deployment) : Prop :=
  ∀ success, s.lastSuccess = some success →
    ∃ run ∈ s.runs, run.id = success.1 ∧ run.status = .complete

theorem SuccessStands.of_settled (h : SuccessStands s) (hsettled : Settled s t)
    (hsame : t.lastSuccess = s.lastSuccess) : SuccessStands t := by
  intro success hsuccess
  obtain ⟨run, hrun, hid, hstatus⟩ := h success (hsame ▸ hsuccess)
  obtain ⟨run', hrun', hid', hstatus'⟩ := hsettled.status run hrun (by simp [isOpen, hstatus])
  exact ⟨run', hrun', hid'.trans hid, hstatus'.trans hstatus⟩

theorem settled_of_runs (hruns : t.runs = s.runs) (hcoverage : t.coverage = s.coverage) :
    Settled s t where
  status run hrun _ := ⟨run, hruns ▸ hrun, rfl, rfl⟩
  coverage _ _ _ := by rw [hcoverage]

theorem settled_of_update {selects : BackupRun → Bool} {status : RunStatus}
    {failureDetail : BackupRun → String} {finishedAt : BackupRun → Option Nat}
    (hopen : ∀ run, selects run = true → isOpen run = true)
    (hruns : t.runs = (update s selects status failureDetail finishedAt).runs)
    (hcoverage : t.coverage = s.coverage) : Settled s t where
  status run hrun hterminal := by
    have hselects : ¬ selects run = true := by
      intro h
      rw [hopen run h] at hterminal
      cases hterminal
    rw [hruns]
    simp only [update, mem_mapRows]
    exact ⟨run, ⟨run, hrun, if_neg hselects⟩, rfl, rfl⟩
  coverage _ _ _ := by rw [hcoverage]

theorem settled_of_coverage {locked : BackupRun} (hlocked : locked ∈ s.runs)
    (hopen : isOpen locked = true) (hruns : t.runs = s.runs) (hcoverage : ∀ id, id ≠ locked.id →
      t.coverage.filter (·.runId = id) = s.coverage.filter (·.runId = id)) : Settled s t where
  status run hrun _ := ⟨run, hruns ▸ hrun, rfl, rfl⟩
  coverage run hrun hterminal := by
    refine hcoverage run.id fun hid => ?_
    rw [eq_of_key_eq hrun hlocked hid, hopen] at hterminal
    cases hterminal

theorem isOpen_of_owned {id holder : String} {status : RunStatus} {run : BackupRun}
    (hstatus : status = .pending ∨ status = .running) (h : owned id holder status run = true) :
    isOpen run = true := by
  obtain ⟨-, -, rfl⟩ := of_decide_eq_true h
  exact decide_eq_true hstatus

/-- A permitted finalization meets an open run, or repeats its verdict. -/
def Fenced (s : Deployment) : Transaction → Prop
  | .finalizeScheduledRun id holder now => ∀ run, s.runs.get? id = some run →
      run.holder = some holder → isOpen run = false →
        (run.status = .complete ↔ coverageFailures run
          (s.coverage.filter (·.runId = run.id)) s.archives now = [])
  | _ => True

theorem finalizeRun_ok {run finalized : BackupRun} {holder : String} {now : Nat}
    {coverage : List BackupRunCoverage} {archives : List BackupArchive}
    (h : finalizeRun run (some holder) coverage archives now = .ok finalized) :
    run.holder = some holder ∧ finalized.id = run.id ∧ finalized.status =
      if coverageFailures run (coverage.filter (·.runId = run.id)) archives now = [] then .complete
      else .failed := by
  simp only [finalizeRun, bind_ok, require_ok, pure_ok] at h
  obtain ⟨-, ⟨-, hholder⟩, rfl⟩ := h
  exact ⟨hholder, rfl, rfl⟩

theorem status_of_terminal {run : BackupRun} (h : isOpen run = false) :
    run.status = .complete ∨ run.status = .failed := by
  unfold isOpen at h
  cases hstatus : run.status <;> simp_all

/-- A finalization keeps the terminal runs exactly when it is fenced. -/
theorem settled_finalize_iff {id holder : String} {now : Nat}
    (h : step leaseSeconds s (.finalizeScheduledRun id holder now) = .ok t) :
    (Settled s t ↔ Fenced s (.finalizeScheduledRun id holder now)) ∧
      (t.lastSuccess = s.lastSuccess ∨ SuccessStands t) := by
  simp [step] at h
  obtain ⟨run, hrun, finalized, hfinalized, rfl⟩ := h
  obtain ⟨hholder, hid, hstatus⟩ := finalizeRun_ok hfinalized
  have hkey : key run = id := key_of_get? hrun
  have hmem := mem_of_get? hrun
  have hput : finalized ∈ s.runs.put finalized := by
    have hold : s.runs.get? (key finalized) = some run := by
      rw [show key finalized = id from hid.trans hkey, hrun]
    exact mem_put_self hold
  have hverdict : isOpen run = false → ((run.status = .complete ↔ coverageFailures run
      (s.coverage.filter (·.runId = run.id)) s.archives now = []) ↔
        finalized.status = run.status) := by
    intro hterminal
    rw [hstatus]
    rcases status_of_terminal hterminal with h | h <;> rw [h] <;> split <;> simp [*]
  refine ⟨⟨fun hsettled other hother _ hterminal => ?_, fun hfenced => ?_⟩, ?_⟩
  · cases hrun.symm.trans hother
    obtain ⟨_, hrun', hid', hstatus'⟩ := hsettled.status run hmem hterminal
    rw [eq_of_key_eq hrun' hput (hid'.trans hid.symm)] at hstatus'
    exact (hverdict hterminal).mpr hstatus'
  · refine ⟨fun other hother hterminal => ?_, fun _ _ _ => rfl⟩
    by_cases hsame : other.id = id
    · rw [eq_of_key_eq hother hmem (hsame.trans hkey.symm)] at hterminal ⊢
      exact ⟨finalized, hput, hid, (hverdict hterminal).mp (hfenced run hrun hholder hterminal)⟩
    · exact ⟨other, mem_put.mpr (.inl ⟨hother, fun heq => hsame
        (heq.trans (hid.trans hkey))⟩), rfl, rfl⟩
  · by_cases hcomplete : finalized.status = .complete
    · refine .inr fun success hsuccess => ⟨finalized, hput, ?_, hcomplete⟩
      rw [if_pos hcomplete] at hsuccess
      cases hsuccess
      exact hid.trans hkey
    · exact .inl (if_neg hcomplete)

/-- All other transactions keep the terminal runs and the last success. -/
theorem settled_of_step {transaction : Transaction} (h : step leaseSeconds s transaction = .ok t)
    (hother : ∀ id holder now, transaction ≠ .finalizeScheduledRun id holder now) :
    Settled s t ∧ t.lastSuccess = s.lastSuccess := by
  cases transaction with
  | openRun =>
    simp only [step, bind_ok, pure_ok, insertNew_ok] at h
    obtain ⟨-, -, _, ⟨hfresh, rfl⟩, rfl⟩ := h
    exact ⟨⟨fun run hrun _ => ⟨run, (mem_insert hfresh).mpr (.inl hrun), rfl, rfl⟩,
      fun _ _ _ => rfl⟩, rfl⟩
  | claimLease =>
    simp [step] at h
    obtain ⟨-, -, rfl⟩ := h
    exact ⟨settled_of_runs rfl rfl, rfl⟩
  | startRun =>
    simp [step] at h
    obtain ⟨-, -, _, -, rfl⟩ := h
    exact ⟨settled_of_update (fun run => isOpen_of_owned (.inl rfl)) rfl rfl, rfl⟩
  | renewLease =>
    simp [step] at h
    obtain ⟨_, -, rfl⟩ := h
    exact ⟨settled_of_runs rfl rfl, rfl⟩
  | recordCoverage =>
    simp [step] at h
    obtain ⟨run, hrun, _, hcoverage, rfl⟩ := h
    simp only [recordCoverage, bind_ok, require_ok] at hcoverage
    obtain ⟨-, -, -, hopen, hcoverage⟩ := hcoverage
    refine ⟨settled_of_coverage (mem_of_get? hrun) (decide_eq_true hopen) rfl
      fun other hne => ?_, rfl⟩
    have hid : run.id ≠ other := hne.symm
    split at hcoverage
    · cases hcoverage
      simp [hid]
    · simp at hcoverage
      obtain ⟨-, -, -, -, rfl⟩ := hcoverage
      rfl
  | markCoverageCovered id =>
    simp [step] at h
    obtain ⟨⟨⟨run, hrun, howned⟩, -⟩, rfl⟩ := h
    have hid : run.id = id := (of_decide_eq_true howned).1
    refine ⟨settled_of_coverage hrun (isOpen_of_owned (.inr rfl) howned) rfl
      fun other hne => ?_, rfl⟩
    induction s.coverage with
    | nil => rfl
    | cons row _ ih =>
      rw [map_cons, filter_cons, filter_cons, ih]
      by_cases hrow : row.runId = other
      · simp [hrow, hid ▸ hne]
      · split <;> simp [hrow]
  | finalizeScheduledRun id holder now => exact absurd rfl (hother id holder now)
  | failRun =>
    cases h
    exact ⟨settled_of_update (fun run hrun => (of_decide_eq_true hrun).2.2) rfl rfl, rfl⟩
  | releaseLease | writeArchives =>
    cases h
    exact ⟨settled_of_runs rfl rfl, rfl⟩
  | failStaleRun =>
    simp only [step, bind_ok, require_ok, pure_ok] at h
    obtain ⟨-, hopen, rfl⟩ := h
    refine ⟨settled_of_update (fun run hrun => ?_) rfl rfl, rfl⟩
    rw [isOpen, (of_decide_eq_true hrun).2.1]
    exact hopen

variable (leaseSeconds : Nat)

/-- Terminal runs stay, and the last success is complete. -/
def Upholds (s : Deployment) (transaction : Transaction) : Prop :=
  let t := settle (step leaseSeconds) s transaction
  Settled s t ∧ SuccessStands t

theorem upholds_iff {s : Deployment} {transaction : Transaction} (hstands : SuccessStands s)
    (hfenced : ∀ t, step leaseSeconds s transaction = .ok t → (Settled s t ↔ Fenced s transaction) ∧
        (t.lastSuccess = s.lastSuccess ∨ SuccessStands t))
    (hrefused : ∀ e, step leaseSeconds s transaction = .error e → Fenced s transaction) :
    Upholds leaseSeconds s transaction ↔ Fenced s transaction := by
  unfold Upholds
  cases h : step leaseSeconds s transaction with
  | error e => simp [settle_error h, settled_of_runs, hstands, hrefused e h]
  | ok t =>
    obtain ⟨hiff, hsuccess⟩ := hfenced t h
    rw [settle_ok h]
    constructor
    · exact fun ⟨hsettled, _⟩ => hiff.mp hsettled
    · intro hmet
      have hsettled := hiff.mpr hmet
      exact ⟨hsettled, hsuccess.elim (hstands.of_settled hsettled) id⟩

/-- Terminal runs and the last success stay exactly when every finalization is fenced. -/
theorem terminal_runs_stay_iff (transactions : List Transaction) :
    Throughout (step leaseSeconds) (Upholds leaseSeconds) {} transactions ↔
      Throughout (step leaseSeconds) Fenced {} transactions := by
  have hiff : ∀ {s : Deployment} {transaction}, SuccessStands s →
      (Upholds leaseSeconds s transaction ↔ Fenced s transaction) := by
    intro s transaction hstands
    refine upholds_iff leaseSeconds hstands (fun t h => ?_) fun e h => ?_
    · cases transaction with
      | finalizeScheduledRun => exact settled_finalize_iff h
      | _ =>
        obtain ⟨hsettled, hsame⟩ := settled_of_step h (by simp)
        exact ⟨iff_of_true hsettled trivial, .inl hsame⟩
    · cases transaction with
      | finalizeScheduledRun =>
        intro run hrun hholder
        simp [step, hrun, finalizeRun, require, hholder, bind, Except.bind, pure, Except.pure] at h
      | _ => trivial
  refine throughout_congr hiff (fun hstands hfenced h => ?_) (by simp [SuccessStands]) transactions
  have hupholds := (hiff hstands).mpr hfenced
  exact settle_ok h ▸ hupholds.2

def sweptRun : List Transaction :=
  [.openRun "r" "h" [(7, false)], .claimLease "h" 0, .startRun "r" "h" 0, .renewLease "h" 1,
    .markCoverageCovered "r" "h"
      { soloArchive with id := "g", scope := .deployment, makerspaceId := none },
    .recordCoverage "r" "h" 7 "a" .tenant, .renewLease "h" 2, .writeArchives [soloArchive],
    .markCoverageCovered "r" "h" soloArchive, .failStaleRun soloRun 4]

theorem swept_run_completes :
    let s := run (step 900) {} sweptRun
    let t := settle (step 900) s (.finalizeScheduledRun "r" "h" 5)
    s.runs.rows.map BackupRun.status = [.failed] ∧
      t.runs.rows.map BackupRun.status = [.complete] ∧ t.lastSuccess = some ("r", some 5) ∧
      ¬ Throughout (step 900) (Upholds 900) {}
        (sweptRun ++ [.finalizeScheduledRun "r" "h" 5]) := by
  intro s t
  have hs : s.runs.rows.map BackupRun.status = [.failed] := by decide +kernel
  have ht : t.runs.rows.map BackupRun.status = [.complete] := by decide +kernel
  refine ⟨hs, ht, by decide +kernel, fun h => ?_⟩
  obtain ⟨⟨hsettled, -⟩, -⟩ := (throughout_append.mp h).2
  obtain ⟨row, hrow, hstatus⟩ := mem_map.mp (hs ▸ mem_singleton_self _ : _ ∈ s.runs.rows.map _)
  obtain ⟨_, hrow', -, hkept⟩ := hsettled.status row hrow (by simp [isOpen, hstatus])
  have hmem := mem_map_of_mem (f := BackupRun.status) hrow'
  rw [hkept, hstatus] at hmem
  exact absurd (ht ▸ hmem) (by decide)

end RunLifecycle
end SpaceWorks
