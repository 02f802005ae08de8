import SpaceWorks.Machines.Ledger

/-!
# Machine usage totals

`annotate_machine_usage` adds the hours of the ledger and the minutes of finished runs; an entry
linked to a finished run of its machine is left out, whatever the window.  Totals are in
three-hundredths of an hour.
-/

namespace SpaceWorks
namespace Machines

open List

section Model

structure UsageEntry where
  machineId : Nat
  hours : Int
  serviceRequestId : Option Nat := none
  createdAt : Int

structure ServiceRun where
  id : Nat
  makerspaceId : Nat
  status : RequestStatus
  assignedMachineId : Option Nat := none
  actualMinutes : Int := 0
  completedAt : Option Int := none
  failedAt : Option Int := none
  deriving DecidableEq

instance keyedServiceRun : Keyed ServiceRun Nat := ⟨ServiceRun.id⟩

structure UsageBook where
  entries : List UsageEntry
  runs : Table ServiceRun

/-- A `date_range`: an inclusive start and an exclusive end. -/
structure DateRange where
  start : Option Int := none
  stop : Option Int := none
  deriving DecidableEq

/-- `_period_q`; a comparison with a missing timestamp is not true. -/
def inPeriod (dateRange : Option DateRange) (at? : Option Int) : Bool :=
  match dateRange with
  | none => true
  | some range =>
    (range.start.all fun start => at?.any fun t => start ≤ t)
      && range.stop.all fun stop => at?.any fun t => t < stop

def ServiceRun.measuredOn (run : ServiceRun) (machineId makerspaceId : Nat) : Bool :=
  run.status.isFinished && 0 < run.actualMinutes && run.assignedMachineId = some machineId
    && run.makerspaceId = makerspaceId

variable (b : UsageBook)

/-- The ledger query's `exclude`: the run owns the hours. -/
def superseded (machine : Machine) (entry : UsageEntry) : Bool :=
  (entry.serviceRequestId.bind b.runs.get?).any fun run =>
    run.measuredOn entry.machineId machine.makerspaceId

def countedEntries (machine : Machine) (dateRange : Option DateRange) : List UsageEntry :=
  b.entries.filter fun entry =>
    entry.machineId = machine.id && !superseded b machine entry
      && inPeriod dateRange (some entry.createdAt)

/-- The finished service runs of a machine, by their timestamps. -/
def countedRuns (machine : Machine) (dateRange : Option DateRange) : List ServiceRun :=
  b.runs.rows.filter fun run =>
    run.assignedMachineId = some machine.id && run.makerspaceId = machine.makerspaceId
      && 0 < run.actualMinutes
      && (((run.status = .completed || run.status = .collected)
            && inPeriod dateRange run.completedAt)
          || (run.status = .failed && inPeriod dateRange run.failedAt))

/-- The hours in three-hundredths, before rounding. -/
def unroundedTotal (machine : Machine) (dateRange : Option DateRange) : Int :=
  3 * ((countedEntries b machine dateRange).map UsageEntry.hours).sum
    + 5 * ((countedRuns b machine dateRange).map ServiceRun.actualMinutes).sum

end Model

def ServiceRun.finishedAt (run : ServiceRun) : Option Int :=
  if run.status = .failed then run.failedAt else run.completedAt

structure DateRange.SplitsAt (range : DateRange) (point : Int) : Prop where
  start_le : ∀ start ∈ range.start, start ≤ point
  le_stop : ∀ stop ∈ range.stop, point ≤ stop

def DateRange.before (range : DateRange) (point : Int) : DateRange :=
  { range with stop := some point }

def DateRange.onward (range : DateRange) (point : Int) : DateRange :=
  { range with start := some point }

/-- What has no timestamp, and is in no part. -/
def undated (range : DateRange) (at? : Option Int) : Bool :=
  range.start.isNone && range.stop.isNone && at?.isNone

theorem inPeriod_split
    {range : DateRange} {point : Int} (h : range.SplitsAt point) (at? : Option Int) :
    (inPeriod (some range) at?).toNat = (inPeriod (some (range.before point)) at?).toNat
        + (inPeriod (some (range.onward point)) at?).toNat + (undated range at?).toNat := by
  obtain ⟨start, stop⟩ := range
  have hstart := h.start_le
  have hstop := h.le_stop
  simp only [inPeriod, DateRange.before, DateRange.onward, undated]
  cases at? with
  | none => cases start <;> cases stop <;> simp
  | some t =>
    by_cases hbefore : t < point
    · have hend : (stop.all fun stop => decide (t < stop)) = true := by
        cases stop with
        | none => rfl
        | some stop => exact decide_eq_true (lt_of_lt_of_le hbefore (hstop stop rfl))
      simp [hend, hbefore, not_le.mpr hbefore]
    · have hbegin : (start.all fun start => decide (start ≤ t)) = true := by
        cases start with
        | none => rfl
        | some start => exact decide_eq_true ((hstart start rfl).trans (not_lt.mp hbefore))
      simp [hbegin, hbefore, not_lt.mp hbefore]

theorem sum_filter_split {α : Type} {value : α → Int} {p first second rest : α → Bool} {xs : List α}
    (h : ∀ x ∈ xs, (p x).toNat = (first x).toNat + (second x).toNat + (rest x).toNat) :
    ((xs.filter p).map value).sum =
      ((xs.filter first).map value).sum + ((xs.filter second).map value).sum
        + ((xs.filter rest).map value).sum := by
  induction xs with
  | nil => simp
  | cons x =>
    cases hp : p x <;> cases hf : first x <;> cases hs : second x <;> cases hr : rest x <;>
      simp_all <;> omega

section Sources

variable {b : UsageBook} {machine : Machine} {dateRange : Option DateRange}

theorem countedRuns_eq (b : UsageBook) (machine : Machine) (dateRange : Option DateRange) :
    countedRuns b machine dateRange = b.runs.rows.filter fun run =>
      run.measuredOn machine.id machine.makerspaceId && inPeriod dateRange run.finishedAt := by
  refine filter_congr fun run _ => ?_
  unfold ServiceRun.measuredOn ServiceRun.finishedAt
  cases hstatus : run.status <;>
    simp [RequestStatus.isFinished, Bool.and_comm, Bool.and_left_comm, Bool.and_assoc]

theorem mem_countedRuns {run : ServiceRun} :
    run ∈ countedRuns b machine dateRange ↔
      run ∈ b.runs ∧ run.measuredOn machine.id machine.makerspaceId = true ∧
        inPeriod dateRange run.finishedAt = true := by
  rw [countedRuns_eq, mem_filter, Bool.and_eq_true]
  rfl

theorem nodup_countedRuns (b : UsageBook) (machine : Machine) (dateRange : Option DateRange) :
    (countedRuns b machine dateRange).Nodup :=
  (List.Nodup.of_map ServiceRun.id b.runs.nodup).filter _

theorem count_countedRuns {run : ServiceRun} (hrun : run ∈ b.runs)
    (hmeasured : run.measuredOn machine.id machine.makerspaceId = true) :
    (countedRuns b machine dateRange).count run =
      if inPeriod dateRange run.finishedAt then 1 else 0 := by
  rw [(nodup_countedRuns b machine dateRange).count]
  simp [mem_countedRuns, hrun, hmeasured]

theorem superseded_iff {entry : UsageEntry} :
    superseded b machine entry = true ↔ ∃ run ∈ b.runs, entry.serviceRequestId = some run.id ∧
        run.measuredOn entry.machineId machine.makerspaceId = true := by
  unfold superseded
  cases hlink : entry.serviceRequestId with
  | none => simp
  | some =>
    simp only [Option.bind_some, Option.any_eq_true, Table.get?_eq_some, Option.some.injEq]
    constructor
    · rintro ⟨run, ⟨hrun, hid⟩, hmeasured⟩
      exact ⟨run, hrun, hid.symm, hmeasured⟩
    · rintro ⟨run, hrun, hid, hmeasured⟩
      exact ⟨run, ⟨hrun, hid.symm⟩, hmeasured⟩

theorem mem_countedEntries {entry : UsageEntry} :
    entry ∈ countedEntries b machine dateRange ↔ entry ∈ b.entries ∧ entry.machineId = machine.id ∧
        inPeriod dateRange (some entry.createdAt) = true ∧
        ∀ run ∈ b.runs, entry.serviceRequestId = some run.id →
          run.measuredOn machine.id machine.makerspaceId = false := by
  have hkept : entry.machineId = machine.id → (superseded b machine entry = false ↔
      ∀ run ∈ b.runs, entry.serviceRequestId = some run.id →
        run.measuredOn machine.id machine.makerspaceId = false) := by
    intro hmachine
    rw [← Bool.not_eq_true, superseded_iff, hmachine]
    simp
  rw [countedEntries, mem_filter]
  simp only [Bool.and_eq_true, decide_eq_true_eq, Bool.not_eq_true']
  constructor
  · rintro ⟨hentry, ⟨hmachine, hnot⟩, hperiod⟩
    exact ⟨hentry, hmachine, hperiod, (hkept hmachine).mp hnot⟩
  · rintro ⟨hentry, hmachine, hperiod, hlinks⟩
    exact ⟨hentry, ⟨hmachine, (hkept hmachine).mpr hlinks⟩, hperiod⟩

end Sources

/-- The minutes of a machine's measured runs that carry no timestamp. -/
def undatedMinutes (b : UsageBook) (machine : Machine) : Int :=
  ((b.runs.rows.filter fun run =>
    run.measuredOn machine.id machine.makerspaceId && run.finishedAt.isNone).map
      ServiceRun.actualMinutes).sum

/-- **Usage totals.** A finished run with minutes is counted once, by its own minutes and time, an
entry without one by its hours, and windows add up, but for what has no timestamp. -/
theorem usage_totals_split (b : UsageBook) (machine : Machine) :
    (∀ run ∈ b.runs, run.measuredOn machine.id machine.makerspaceId = true → ∀ dateRange,
      (∀ entry ∈ countedEntries b machine dateRange, entry.serviceRequestId ≠ some run.id) ∧
        (countedRuns b machine dateRange).count run =
          if inPeriod dateRange run.finishedAt then 1 else 0) ∧
    (∀ run ∈ b.runs, run.measuredOn machine.id machine.makerspaceId = false →
      ∀ dateRange, run ∉ countedRuns b machine dateRange) ∧
    (∀ entry ∈ b.entries, entry.machineId = machine.id →
      (∀ run ∈ b.runs, entry.serviceRequestId = some run.id →
        run.measuredOn machine.id machine.makerspaceId = false) →
      ∀ dateRange, entry ∈ countedEntries b machine dateRange ↔
        inPeriod dateRange (some entry.createdAt) = true) ∧
    ∀ (range : DateRange) (point : Int), range.SplitsAt point →
      unroundedTotal b machine (some range) = unroundedTotal b machine (some (range.before point))
          + unroundedTotal b machine (some (range.onward point))
          + 5 * if range = {} then undatedMinutes b machine else 0 := by
  refine ⟨?_, ?_, ?_, ?_⟩
  · intro run hrun hmeasured dateRange
    refine ⟨fun entry hentry hlink => ?_, count_countedRuns hrun hmeasured⟩
    have hnot := (mem_countedEntries.mp hentry).2.2.2 run hrun hlink
    rw [hmeasured] at hnot
    cases hnot
  · intro run _ hmeasured dateRange hcounted
    have hmeasured' := (mem_countedRuns.mp hcounted).2.1
    rw [hmeasured] at hmeasured'
    cases hmeasured'
  · intro entry hentry hmachine hlinks dateRange
    rw [mem_countedEntries]
    exact ⟨fun h => h.2.2.1, fun hperiod => ⟨hentry, hmachine, hperiod, hlinks⟩⟩
  · intro range point hsplit
    have hentries : ((countedEntries b machine (some range)).map UsageEntry.hours).sum =
        ((countedEntries b machine (some (range.before point))).map UsageEntry.hours).sum
          + ((countedEntries b machine (some (range.onward point))).map UsageEntry.hours).sum
          + ((b.entries.filter fun _ => false).map UsageEntry.hours).sum := by
      refine sum_filter_split fun entry _ => ?_
      have hperiod := inPeriod_split hsplit (some entry.createdAt)
      cases hkept : (decide (entry.machineId = machine.id) && !superseded b machine entry)
      · simp
      · simpa [undated] using hperiod
    have hruns : ((countedRuns b machine (some range)).map ServiceRun.actualMinutes).sum =
        ((countedRuns b machine (some (range.before point))).map ServiceRun.actualMinutes).sum
          + ((countedRuns b machine (some (range.onward point))).map ServiceRun.actualMinutes).sum
          + ((b.runs.rows.filter fun run =>
              run.measuredOn machine.id machine.makerspaceId && undated range run.finishedAt).map
                ServiceRun.actualMinutes).sum := by
      simp only [countedRuns_eq]
      refine sum_filter_split fun run _ => ?_
      cases hmeasured : run.measuredOn machine.id machine.makerspaceId
      · simp
      · simpa using inPeriod_split hsplit run.finishedAt
    have hundated : ((b.runs.rows.filter fun run =>
        run.measuredOn machine.id machine.makerspaceId && undated range run.finishedAt).map
          ServiceRun.actualMinutes).sum = if range = {} then undatedMinutes b machine else 0 := by
      obtain ⟨start, stop⟩ := range
      cases start <;> cases stop <;> simp [undated, undatedMinutes]
    rw [filter_false, map_nil, sum_nil] at hentries
    unfold unroundedTotal
    omega

/-- Half an hour on one machine for a run of the other, and an old run without a timestamp. -/
def fleet : UsageBook where
  entries := [{ machineId := 1, hours := 75, serviceRequestId := some 1, createdAt := 5 }]
  runs := ⟨[{ id := 1, makerspaceId := 1, status := .completed, assignedMachineId := some 2,
              actualMinutes := 8, completedAt := some 5 },
            { id := 2, makerspaceId := 1, status := .completed, assignedMachineId := some 1,
              actualMinutes := 600 }], by decide⟩

/-- The linked run is counted on both machines, and the parts of the first do not add up. -/
theorem fleet_totals :
    (∃ entry ∈ countedEntries fleet { id := 1, makerspaceId := 1, machineTypeId := 1 } none,
      entry.serviceRequestId = some 1) ∧
    (∃ run ∈ countedRuns fleet { id := 2, makerspaceId := 1, machineTypeId := 1 } none,
      run.id = 1) ∧
    unroundedTotal fleet { id := 1, makerspaceId := 1, machineTypeId := 1 } (some {}) ≠
      unroundedTotal fleet { id := 1, makerspaceId := 1, machineTypeId := 1 }
          (some { stop := some 10 })
        + unroundedTotal fleet { id := 1, makerspaceId := 1, machineTypeId := 1 }
          (some { start := some 10 }) := by
  decide

end Machines
end SpaceWorks
