import Mathlib.Data.List.Dedup
import SpaceWorks.Library.Checked
import SpaceWorks.Library.Numerals
import SpaceWorks.Library.PyValue

/-!
# The coverage of a backup run

`record_coverage` and `finalize_run` of `runs.py` over one frozen cohort.
-/

namespace SpaceWorks
namespace Coverage

open Checked Python List Option

inductive RunStatus where
  | pending
  | running
  | complete
  | failed
  deriving DecidableEq

structure BackupRun where
  id : String
  holder : Option String
  status : RunStatus
  flagSnapshot : Value
  failureDetail : String
  finishedAt : Option Nat

inductive Scope where
  | deployment
  | makerspace
  deriving DecidableEq

inductive ArchiveStatus where
  | pending
  | running
  | promoting
  | available
  | failed
  | expired
  deriving DecidableEq

structure BackupArchive where
  id : String
  scope : Scope
  makerspaceId : Option Int
  backupRunId : Option String
  status : ArchiveStatus
  manifest : Value
  archiveSha256 : String
  completedAt : Option Nat
  expiresAt : Option Nat

inductive Path where
  | global
  | tenant
  deriving DecidableEq

structure BackupRunCoverage where
  runId : String
  makerspaceId : Option Int
  archiveId : Option String
  path : Path
  covered : Bool := false
  makerspaceIdSnapshot : Int
  archiveIdSnapshot : Option String
  archiveSha256Snapshot : String := ""
  completedAtSnapshot : Option Nat := none

/-- One entry of a dict, written over or added. -/
def setItem (entries : List (Int × Value)) (key : Int) (value : Value) : List (Int × Value) :=
  if key ∈ entries.map Prod.fst then
    entries.map fun entry => if entry.1 = key then (key, value) else entry
  else entries ++ [(key, value)]

/-- The frozen flags of a snapshot, if they are well formed. -/
def frozenFlags : Value → Option (List (Int × Bool))
  | .dict entries =>
    (entries.foldlM (fun flags entry =>
      (int? entry.1.toList).map fun key => setItem flags key entry.2) []).bind fun flags =>
      flags.mapM fun entry =>
        match entry.2 with
        | .bool enabled => some (entry.1, enabled)
        | _ => none
  | _ => none

def unmet (holds : Bool) (reason : String) : List String :=
  if holds then [] else [reason]

def BackupArchive.entry (archive : BackupArchive) (key : String) : Value :=
  (archive.manifest.get key).getD .null

def BackupArchive.lists (archive : BackupArchive) (makerspaceId : Int) : Bool :=
  match archive.entry "covered_makerspace_ids" with
  | .list covered => covered.any (Value.eq (.int makerspaceId))
  | _ => false

/-- `_coverage_row_errors` with `_archive_binding_errors`. -/
def coverageRowErrors (run : BackupRun) (coverage : BackupRunCoverage)
    (archive : Option BackupArchive) (enabled : Bool) (now : Nat) : List String :=
  let expectedPath := if enabled then Path.global else Path.tenant
  unmet (coverage.path = expectedPath) "path" ++
  unmet coverage.covered "state" ++
  match archive with
  | none => ["archive_missing"]
  | some archive =>
    unmet (coverage.archiveIdSnapshot = some archive.id) "archive_snapshot" ++
    unmet (archive.status = .available) "archive_status" ++
    unmet (if enabled then
        archive.scope = .deployment && archive.makerspaceId.all (· = 0)
      else
        archive.scope = .makerspace &&
          archive.makerspaceId = some coverage.makerspaceIdSnapshot) "archive_scope" ++
    unmet (archive.lists coverage.makerspaceIdSnapshot) "manifest_cohort" ++
    unmet (coverage.archiveSha256Snapshot ≠ "" &&
      coverage.archiveSha256Snapshot = archive.archiveSha256) "archive_digest" ++
    unmet (coverage.completedAtSnapshot.isSome &&
      coverage.completedAtSnapshot = archive.completedAt) "archive_completed_at" ++
    unmet (archive.expiresAt.any (now < ·)) "archive_expired" ++
    unmet (archive.backupRunId = some run.id) "archive_run" ++
    unmet (Value.eq (archive.entry "backup_run_id") (.str run.id)) "manifest_run"

def rowsOf (rows : List BackupRunCoverage) (makerspaceId : Int) : List BackupRunCoverage :=
  rows.filter fun row => row.makerspaceIdSnapshot = makerspaceId

def archiveOf (archives : List BackupArchive) (row : BackupRunCoverage) : Option BackupArchive :=
  row.archiveId.bind fun archiveId => archives.find? fun archive => archive.id = archiveId

def globalArchiveIds (flags : List (Int × Bool)) (rows : List BackupRunCoverage) :
    List (Option String) :=
  (flags.filterMap fun flag =>
    match flag.2, rowsOf rows flag.1 with
    | true, [row] => some row.archiveIdSnapshot
    | _, _ => none).dedup

def coverageFailures (run : BackupRun) (rows : List BackupRunCoverage)
    (archives : List BackupArchive) (now : Nat) : List (String × String) :=
  match frozenFlags run.flagSnapshot with
  | none => [("snapshot", "invalid_frozen_flag_snapshot")]
  | some flags =>
    ((((rows.map fun row => row.makerspaceIdSnapshot).dedup.filter fun makerspaceId =>
      makerspaceId ∉ flags.map Prod.fst).mergeSort).map fun makerspaceId =>
        (toString makerspaceId, "outside_cohort")) ++
    (if 1 < (globalArchiveIds flags rows).length then
      (flags.filter Prod.snd).map fun flag => (toString flag.1, "global_archive")
    else []) ++
    (flags.mergeSort fun a b => a.1 ≤ b.1).flatMap fun flag =>
      (match rowsOf rows flag.1 with
        | [] => ["missing"]
        | [row] => coverageRowErrors run row (archiveOf archives row) flag.2 now
        | _ => ["duplicate"]).map fun reason => (toString flag.1, reason)

/-- `_failure_detail`, with the reasons of a makerspace together. -/
def failureDetail (failures : List (String × String)) : String :=
  let entries := (failures.map Prod.fst).eraseDups.map fun makerspaceId =>
    makerspaceId ++ " (" ++ ",".intercalate
      ((failures.filter fun failure => failure.1 = makerspaceId).map Prod.snd) ++ ")"
  String.ofList (("Coverage validation failed for makerspace ids: " ++
    "; ".intercalate entries).toList.take 500)

def finalizeRun (run : BackupRun) (holder : Option String) (rows : List BackupRunCoverage)
    (archives : List BackupArchive) (now : Nat) : Except String BackupRun := do
  require (holder ≠ none ∧ run.holder = holder)
    "Backup run mutation refused because its holder does not match."
  let failures := coverageFailures run (rows.filter fun row => row.runId = run.id) archives now
  pure { run with
    finishedAt := some now
    status := if failures = [] then .complete else .failed
    failureDetail := if failures = [] then "" else failureDetail failures }

def recordCoverage (run : BackupRun) (holder : Option String) (rows : List BackupRunCoverage)
    (makerspaceId : Int) (archiveId : String) (path : Path) :
    Except String (List BackupRunCoverage) := do
  require (holder ≠ none ∧ run.holder = holder)
    "Backup run mutation refused because its holder does not match."
  require (run.status = .pending ∨ run.status = .running)
    "Coverage cannot be recorded against a terminal backup run."
  match rows.find? fun row => row.runId = run.id && row.makerspaceIdSnapshot = makerspaceId with
  | none =>
    pure (rows ++ [{
      runId := run.id
      makerspaceId := some makerspaceId
      archiveId := some archiveId
      path := path
      makerspaceIdSnapshot := makerspaceId
      archiveIdSnapshot := some archiveId }])
  | some coverage =>
    require (coverage.archiveIdSnapshot = some archiveId)
      "A different archive is already bound to this run and makerspace."
    require (coverage.path = path ∧ coverage.archiveId = some archiveId ∧
        coverage.makerspaceId.all (· = makerspaceId))
      "Existing coverage does not match the requested immutable binding."
    pure rows

section Covered

variable {run : BackupRun} {rows : List BackupRunCoverage} {archives : List BackupArchive}
variable {now : Nat}

/-- A row is bound as the frozen flag demands. -/
structure Bound (run : BackupRun) (coverage : BackupRunCoverage) (archive : BackupArchive)
    (enabled : Bool) (now : Nat) : Prop where
  path : coverage.path = if enabled then .global else .tenant
  snapshot : coverage.archiveIdSnapshot = some archive.id
  available : archive.status = .available
  scope : if enabled then archive.scope = .deployment ∧ ∀ n, archive.makerspaceId = some n → n = 0
    else archive.scope = .makerspace ∧ archive.makerspaceId = some coverage.makerspaceIdSnapshot
  listed : archive.lists coverage.makerspaceIdSnapshot = true
  digest : coverage.archiveSha256Snapshot ≠ "" ∧
    coverage.archiveSha256Snapshot = archive.archiveSha256
  completed : ∃ time, coverage.completedAtSnapshot = some time ∧ archive.completedAt = some time
  unexpired : ∃ time, archive.expiresAt = some time ∧ now < time
  inRun : archive.backupRunId = some run.id
  manifest : Value.eq (archive.entry "backup_run_id") (.str run.id) = true

/-- Every makerspace of the cohort has one bound row, and there are no others. -/
structure Matched (run : BackupRun) (rows : List BackupRunCoverage) (archives : List BackupArchive)
    (now : Nat) (flags : List (Int × Bool)) : Prop where
  inside : ∀ row ∈ rows, row.makerspaceIdSnapshot ∈ flags.map Prod.fst
  bound : ∀ flag ∈ flags, ∃ row archive, rowsOf rows flag.1 = [row] ∧
    archiveOf archives row = some archive ∧ Bound run row archive flag.2 now
  shared : ∀ row ∈ rows, ∀ row' ∈ rows, (row.makerspaceIdSnapshot, true) ∈ flags →
    (row'.makerspaceIdSnapshot, true) ∈ flags → row.archiveIdSnapshot = row'.archiveIdSnapshot

structure Covered (run : BackupRun) (rows : List BackupRunCoverage) (archives : List BackupArchive)
    (now : Nat) (flags : List (Int × Bool)) : Prop extends
    Matched run rows archives now flags where
  covered : ∀ row ∈ rows, row.covered = true

@[simp] theorem unmet_eq_nil {holds : Bool} {reason : String} :
    unmet holds reason = [] ↔ holds = true := by
  cases holds <;> simp [unmet]

theorem coverageRowErrors_eq_nil {coverage : BackupRunCoverage} {archive : Option BackupArchive}
    {enabled : Bool} :
    coverageRowErrors run coverage archive enabled now = [] ↔ coverage.covered = true ∧
        ∃ found, archive = some found ∧ Bound run coverage found enabled now := by
  cases archive with
  | none => simp [coverageRowErrors]
  | some =>
    simp only [coverageRowErrors, append_eq_nil_iff, unmet_eq_nil, decide_eq_true_eq,
      Bool.and_eq_true, some.injEq, exists_eq_left', and_assoc]
    constructor
    · rintro ⟨hpath, hcovered, hsnapshot, havailable, hscope, hlisted, hfilled, hdigest, hset,
        hcompleted, hunexpired, hrun, hmanifest⟩
      refine ⟨hcovered, hpath, hsnapshot, havailable, ?_, hlisted, ⟨hfilled, hdigest⟩, ?_, ?_,
        hrun, hmanifest⟩
      · cases enabled <;> simpa [Option.all_eq_true] using hscope
      · obtain ⟨time, htime⟩ := isSome_iff_exists.mp hset
        exact ⟨time, htime, hcompleted ▸ htime⟩
      · simpa [Option.any_eq_true] using hunexpired
    · rintro ⟨hcovered, h⟩
      obtain ⟨_, htime, hcompleted⟩ := h.completed
      refine ⟨h.path, hcovered, h.snapshot, h.available, ?_, h.listed, h.digest.1, h.digest.2,
        by simp [htime], htime.trans hcompleted.symm, ?_, h.inRun, h.manifest⟩
      · have hscope := h.scope
        cases enabled <;> simpa [Option.all_eq_true] using hscope
      · simpa [Option.any_eq_true] using h.unexpired

theorem eq_of_rowsOf {row found : BackupRunCoverage} (hrow : row ∈ rows)
    (h : rowsOf rows row.makerspaceIdSnapshot = [found]) : row = found := by
  have hmem : row ∈ rowsOf rows row.makerspaceIdSnapshot :=
    mem_filter.mpr ⟨hrow, decide_eq_true rfl⟩
  exact mem_singleton.mp (h ▸ hmem)

theorem mem_globalArchiveIds {flags : List (Int × Bool)} {archiveId : Option String} :
    archiveId ∈ globalArchiveIds flags rows ↔
      ∃ makerspaceId row, (makerspaceId, true) ∈ flags ∧ rowsOf rows makerspaceId = [row] ∧
        row.archiveIdSnapshot = archiveId := by
  rw [globalArchiveIds, mem_dedup, mem_filterMap]
  constructor
  · rintro ⟨⟨makerspaceId, _⟩, hflag, h⟩
    split at h
    · next row henabled hrow =>
        exact ⟨makerspaceId, row, henabled ▸ hflag, hrow, some.inj h⟩
    · cases h
  · rintro ⟨_, _, hflag, hrow, rfl⟩
    exact ⟨_, hflag, by simp [hrow]⟩

theorem shared_iff {flags : List (Int × Bool)}
    (hone : ∀ flag ∈ flags, ∃ row, rowsOf rows flag.1 = [row]) :
    (globalArchiveIds flags rows).length ≤ 1 ↔
      ∀ row ∈ rows, ∀ row' ∈ rows, (row.makerspaceIdSnapshot, true) ∈ flags →
        (row'.makerspaceIdSnapshot, true) ∈ flags →
        row.archiveIdSnapshot = row'.archiveIdSnapshot := by
  have hmem : ∀ row ∈ rows, (row.makerspaceIdSnapshot, true) ∈ flags →
      row.archiveIdSnapshot ∈ globalArchiveIds flags rows := by
    intro row hrow hflag
    obtain ⟨_, hfound⟩ := hone _ hflag
    exact mem_globalArchiveIds.mpr ⟨_, row, hflag, eq_of_rowsOf hrow hfound ▸ hfound, rfl⟩
  constructor
  · intro hlength row hrow row' hrow' hflag hflag'
    obtain ⟨archiveId, hsubset⟩ : ∃ archiveId, globalArchiveIds flags rows ⊆ [archiveId] := by
      match globalArchiveIds flags rows, hlength with
      | [], _ => exact ⟨none, nil_subset _⟩
      | [archiveId], _ => exact ⟨archiveId, List.Subset.refl _⟩
    rw [mem_singleton.mp (hsubset (hmem row hrow hflag)),
      mem_singleton.mp (hsubset (hmem row' hrow' hflag'))]
  · intro hshared
    have hequal : ∀ a ∈ globalArchiveIds flags rows, ∀ b ∈ globalArchiveIds flags rows, a = b := by
      intro a ha b hb
      obtain ⟨_, row, hflag, hrow, rfl⟩ := mem_globalArchiveIds.mp ha
      obtain ⟨_, row', hflag', hrow', rfl⟩ := mem_globalArchiveIds.mp hb
      obtain ⟨hmem, hid⟩ := mem_filter.mp (hrow ▸ mem_singleton_self row : row ∈ _)
      obtain ⟨hmem', hid'⟩ := mem_filter.mp (hrow' ▸ mem_singleton_self row' : row' ∈ _)
      rw [decide_eq_true_eq] at hid hid'
      exact hshared row hmem row' hmem' (hid ▸ hflag) (hid' ▸ hflag')
    have hnodup : (globalArchiveIds flags rows).Nodup := nodup_dedup _
    match globalArchiveIds flags rows, hequal, hnodup with
    | [], _, _ => exact Nat.zero_le 1
    | [_], _, _ => exact Nat.le_refl 1
    | a :: b :: _, hequal, hnodup =>
      refine absurd ?_ (nodup_cons.mp hnodup).1
      rw [hequal a (by simp) b (by simp)]
      exact mem_cons_self

/-- No reason against a run exactly when its cohort is covered. -/
theorem coverageFailures_eq_nil :
    coverageFailures run rows archives now = [] ↔
      ∃ flags, frozenFlags run.flagSnapshot = some flags ∧
        Covered run rows archives now flags := by
  unfold coverageFailures
  cases hflags : frozenFlags run.flagSnapshot with
  | none => simp
  | some flags =>
    have hinside : ((((rows.map fun row => row.makerspaceIdSnapshot).dedup.filter fun id =>
        id ∉ flags.map Prod.fst).mergeSort).map fun id : Int =>
          (toString id, "outside_cohort")) = [] ↔
        ∀ row ∈ rows, row.makerspaceIdSnapshot ∈ flags.map Prod.fst := by
      rw [map_eq_nil_iff, ← length_eq_zero_iff, length_mergeSort,
        length_eq_zero_iff, filter_eq_nil_iff]
      simp only [mem_dedup, List.forall_mem_map, decide_eq_true_eq, not_not]
    have hrows : (((flags.mergeSort fun a b => a.1 ≤ b.1).flatMap fun flag =>
        (match rowsOf rows flag.1 with
          | [] => ["missing"]
          | [row] => coverageRowErrors run row (archiveOf archives row) flag.2 now
          | _ => ["duplicate"]).map fun reason => (toString flag.1, reason)) = []) ↔
        ∀ flag ∈ flags, ∃ row, rowsOf rows flag.1 = [row] ∧ row.covered = true ∧
          ∃ archive, archiveOf archives row = some archive ∧
            Bound run row archive flag.2 now := by
      simp only [flatMap_eq_nil_iff, mem_mergeSort, map_eq_nil_iff]
      refine forall₂_congr fun flag _ => ?_
      split
      · next hnone => simp [hnone]
      · next row hone => simp [hone, coverageRowErrors_eq_nil]
      · next hnone hone =>
          simp only [cons_ne_nil, false_iff]
          rintro ⟨row, hrow, -⟩
          exact hone row hrow
    simp only [append_eq_nil_iff, hinside, hrows, some.injEq, exists_eq_left']
    constructor
    · rintro ⟨⟨hinside, hglobal⟩, hbound⟩
      have hone : ∀ flag ∈ flags, ∃ row, rowsOf rows flag.1 = [row] := fun flag hflag =>
        (hbound flag hflag).imp fun _ h => h.1
      refine ⟨⟨hinside, fun flag hflag => ?_, (shared_iff hone).mp ?_⟩, fun row hrow => ?_⟩
      · obtain ⟨row, hrow, -, archive, hbound⟩ := hbound flag hflag
        exact ⟨row, archive, hrow, hbound⟩
      · by_contra hmany
        rw [if_pos (by omega), map_eq_nil_iff, filter_eq_nil_iff] at hglobal
        obtain ⟨_, harchive⟩ :=
          exists_mem_of_length_pos (l := globalArchiveIds flags rows) (by omega)
        obtain ⟨_, _, hflag, -⟩ := mem_globalArchiveIds.mp harchive
        exact hglobal _ hflag rfl
      · obtain ⟨flag, hflag, hid⟩ := mem_map.mp (hinside row hrow)
        obtain ⟨_, hfound, hcovered, -⟩ := hbound flag hflag
        rw [eq_of_rowsOf hrow (hid ▸ hfound)]
        exact hcovered
    · intro h
      have hone : ∀ flag ∈ flags, ∃ row, rowsOf rows flag.1 = [row] := fun flag hflag =>
        (h.bound flag hflag).imp fun _ ⟨_, hrow, _⟩ => hrow
      have hlength := (shared_iff hone).mpr h.shared
      refine ⟨⟨h.inside, if_neg (by omega)⟩, fun flag hflag => ?_⟩
      obtain ⟨row, archive, hrow, hbound⟩ := h.bound flag hflag
      have hmem : row ∈ rowsOf rows flag.1 := hrow ▸ mem_singleton_self row
      exact ⟨row, hrow, h.covered row (mem_filter.mp hmem).1, archive, hbound⟩

end Covered

section Runs

variable {run finished : BackupRun} {rows : List BackupRunCoverage}
variable {archives : List BackupArchive} {now : Nat} {holder : Option String}

theorem recordCoverage_keeps {makerspaceId : Int} {archiveId : String} {path : Path}
    {rows' : List BackupRunCoverage}
    (h : recordCoverage run holder rows makerspaceId archiveId path = .ok rows') :
    rows' = rows ∨ (∃ row, rows' = rows ++ [row]) ∧
      ∀ row ∈ rows, ¬ (row.runId = run.id ∧ row.makerspaceIdSnapshot = makerspaceId) := by
  obtain ⟨-, -, h⟩ := bind_ok.mp h
  obtain ⟨-, -, h⟩ := bind_ok.mp h
  split at h
  · next hnone =>
      refine .inr ⟨⟨_, (pure_ok.mp h).symm⟩, fun row hrow hsame => ?_⟩
      have hother := find?_eq_none.mp hnone row hrow
      simp [hsame] at hother
  · simp at h
    obtain ⟨-, -, -, -, rfl⟩ := h
    exact .inl rfl

/-- A run completes exactly when its frozen cohort is covered; no row is written over. -/
theorem run_complete_iff (h : finalizeRun run holder rows archives now = .ok finished) :
    (finished.status = .complete ↔ ∃ flags, frozenFlags run.flagSnapshot = some flags ∧
      Covered run (rows.filter fun row => row.runId = run.id) archives now flags) ∧
    ∀ makerspaceId archiveId path rows',
      recordCoverage run holder rows makerspaceId archiveId path = .ok rows' →
      rows' = rows ∨ (∃ row, rows' = rows ++ [row]) ∧
        ∀ row ∈ rows, ¬ (row.runId = run.id ∧ row.makerspaceIdSnapshot = makerspaceId) := by
  refine ⟨?_, fun makerspaceId archiveId path rows' => recordCoverage_keeps⟩
  simp [finalizeRun] at h
  obtain ⟨-, -, rfl⟩ := h
  rw [← coverageFailures_eq_nil]
  split <;> simp [*]

def soloRun : BackupRun :=
  ⟨"r", some "h", .running, .dict [("7", .bool false)], "", none⟩

def soloArchive : BackupArchive :=
  ⟨"a", .makerspace, some 7, some "r", .available,
    .dict [("covered_makerspace_ids", .list [.int 7]), ("backup_run_id", .str "r")], "d", some 3,
    some 9⟩

def soloRow (covered : Bool) : BackupRunCoverage :=
  ⟨"r", some 7, some "a", .tenant, covered, 7, some "a", "d", some 3⟩

theorem soloRun_bound (covered : Bool) :
    Bound soloRun (soloRow covered) soloArchive false 5 where
  path := rfl
  snapshot := rfl
  available := rfl
  scope := ⟨rfl, rfl⟩
  listed := rfl
  digest := ⟨show "d" ≠ "" by decide, rfl⟩
  completed := ⟨3, rfl, rfl⟩
  unexpired := ⟨9, rfl, by decide⟩
  inRun := rfl
  manifest := rfl

theorem soloRun_matched (covered : Bool) :
    Matched soloRun [soloRow covered] [soloArchive] 5 [(7, false)] where
  inside := by simp [soloRow]
  bound := by
    intro flag hflag
    rw [mem_singleton] at hflag
    subst hflag
    exact ⟨soloRow covered, soloArchive, rfl, rfl, soloRun_bound covered⟩
  shared := by simp [soloRow]

theorem soloRun_completes :
    ∃ finished, finalizeRun soloRun (some "h") [soloRow true] [soloArchive] 5 = .ok finished ∧
      finished.status = .complete :=
  ⟨_, rfl, (@run_complete_iff soloRun _ [soloRow true] [soloArchive] 5 (some "h") rfl).1.mpr
    ⟨[(7, false)], rfl, soloRun_matched true, by simp [soloRow]⟩⟩

theorem pending_row_fails :
    frozenFlags soloRun.flagSnapshot = some [(7, false)] ∧
    Matched soloRun [soloRow false] [soloArchive] 5 [(7, false)] ∧
    ∃ finished, finalizeRun soloRun (some "h") [soloRow false] [soloArchive] 5 = .ok finished ∧
      finished.status = .failed := by
  have hfailures : coverageFailures soloRun [soloRow false] [soloArchive] 5 ≠ [] := by
    rw [Ne, coverageFailures_eq_nil]
    rintro ⟨_, -, h⟩
    exact absurd (h.covered (soloRow false) mem_cons_self) (by decide)
  exact ⟨rfl, soloRun_matched false, _, rfl, if_neg hfailures⟩

end Runs

end Coverage
end SpaceWorks
