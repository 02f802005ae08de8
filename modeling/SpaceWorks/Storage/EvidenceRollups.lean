import Mathlib.Algebra.Ring.Nat
import Mathlib.Data.List.MinMax
import SpaceWorks.Library.Runs

/-!
# The rolled-up evidence report

The rollups of `operations/report_rollups.py` and the report of `evidence/reports.py`, for one
makerspace by days in UTC.  Through the cursor's day rollups are read instead of the evidence, also
when a backfill has left out earlier days.
-/

namespace SpaceWorks
namespace EvidenceRollups

open TransactionalSystem List

section Rollups

inductive EvidenceType
  | issue
  | return_
  deriving DecidableEq

/-- A day and an evidence type. -/
abbrev Bucket := Nat × EvidenceType

structure EvidencePhoto where
  id : Nat
  evidenceType : EvidenceType
  createdAt : Nat
  sizeBytes : Option Nat
  attached : Bool := false
  expired : Bool := false

def EvidencePhoto.bucket (photo : EvidencePhoto) : Bucket :=
  (photo.createdAt / 86400, photo.evidenceType)

inductive Metric
  | createdCount
  | attachedCount
  | unattachedCount
  | objectLiveCount
  | objectExpiredCount
  | metadataRetainedCount
  | bytes
  deriving DecidableEq

abbrev Key := Bucket × Metric

structure ReportMetricRollup where
  key : Key
  value : Nat
  sampleCount : Nat
  revision : Nat
  checksum : String

structure State where
  clock : Nat := 0
  evidence : List EvidencePhoto := []
  rollups : List ReportMetricRollup := []
  rolledThrough : Option Nat := none

def State.today (s : State) : Nat := s.clock / 86400

def State.cursor (s : State) : Nat := s.rolledThrough.getD 0

def photosOf (evidence : List EvidencePhoto) (bucket : Bucket) : List EvidencePhoto :=
  evidence.filter (·.bucket = bucket)

/-- The metrics of the photos of one bucket. -/
def facts (photos : List EvidencePhoto) : Metric → Nat
  | .createdCount => photos.length
  | .attachedCount => photos.countP EvidencePhoto.attached
  | .unattachedCount => photos.length - photos.countP EvidencePhoto.attached
  | .objectLiveCount => photos.length - photos.countP EvidencePhoto.expired
  | .objectExpiredCount => photos.countP EvidencePhoto.expired
  | .metadataRetainedCount => photos.length
  | .bytes => (photos.map fun photo => photo.sizeBytes.getD 0).sum

/-- The rollup of a key with the highest revision. -/
def latest (rollups : List ReportMetricRollup) (key : Key) : Option ReportMetricRollup :=
  (rollups.filter (·.key = key)).foldl (fun best row =>
    if best.all (·.revision < row.revision) then some row else best) none

variable (checksum : Key → Nat → Nat → String) (evidence : List EvidencePhoto)
variable (rollups : List ReportMetricRollup) (key : Key)

/-- The row that `_append_revision` creates. -/
def nextRevision (value samples : Nat) : ReportMetricRollup where
  key := key
  value := value
  sampleCount := samples
  revision := (latest rollups key).elim 1 (·.revision + 1)
  checksum := checksum key value samples

def appendRevision (value samples : Nat) : List ReportMetricRollup :=
  if (latest rollups key).any (·.checksum = checksum key value samples) then rollups
  else rollups ++ [nextRevision checksum rollups key value samples]

def finalizeMetric : List ReportMetricRollup :=
  let photos := photosOf evidence key.1
  if photos = [] then rollups
  else appendRevision checksum rollups key (facts photos key.2) photos.length

/-- The keys of the buckets of a run, in their order. -/
def keysOf (start through : Nat) : List Key :=
  (range' start (through - start)).flatMap fun day =>
    [EvidenceType.issue, .return_].flatMap fun evidenceType =>
      [Metric.createdCount, .attachedCount, .unattachedCount, .objectLiveCount,
        .objectExpiredCount, .metadataRetainedCount, .bytes].map fun metric =>
          ((day, evidenceType), metric)

def rollupStart (s : State) (through : Nat) (requested : Option Nat) : Nat :=
  match requested with
  | some requested => min requested through
  | none =>
    match (s.evidence.map (·.bucket.1)).min? with
    | none => through
    | some earliest =>
      match s.rolledThrough with
      | none => earliest
      | some rolledThrough => max earliest (min (rolledThrough - 7) through)

def finalizeEvidenceRollups (s : State) (through : Nat) (startAt : Option Nat) : State :=
  { s with
    rollups := (keysOf (rollupStart s through startAt) through).foldl
      (finalizeMetric checksum s.evidence) s.rollups
    rolledThrough := if s.rolledThrough.all (· < through) then some through
      else s.rolledThrough }

inductive Operation
  | wait (seconds : Nat)
  | upload (id : Nat) (evidenceType : EvidenceType) (sizeBytes : Option Nat)
  | attach (id : Nat)
  | expire (id : Nat)
  | finalize (through : Nat) (startAt : Option Nat)

def step (s : State) : Operation → Except String State
  | .wait seconds => .ok { s with clock := s.clock + seconds }
  | .upload id evidenceType sizeBytes => .ok { s with
    evidence := s.evidence ++ [{ id, evidenceType, createdAt := s.clock, sizeBytes }] }
  | .attach id => .ok { s with
    evidence := s.evidence.map fun photo =>
      if photo.id = id then { photo with attached := true } else photo }
  | .expire id => .ok { s with
    evidence := s.evidence.map fun photo =>
      if photo.id = id then { photo with expired := true } else photo }
  | .finalize through startAt => .ok (finalizeEvidenceRollups checksum s through startAt)

end Rollups

section Report

structure DateRange where
  start : Option Nat := none
  stop : Option Nat := none

def DateRange.contains (range : DateRange) (day : Nat) : Bool :=
  range.start.all (· ≤ day) ∧ range.stop.all (day < ·)

variable (s : State) (range : DateRange) (bucket : Bucket)

def rolledRows (rolledThrough : Nat) : List ReportMetricRollup :=
  s.rollups.filter fun row => row.key.1.1 < rolledThrough ∧ range.contains row.key.1.1

/-- `terminal_expiry_counts` over the rolled days. -/
def expiredCount (rolledThrough : Nat) : Nat :=
  let starts := (rolledRows s range rolledThrough).map (·.key.1.1)
  let covered := fun day => starts.min?.getD 0 ≤ day ∧
    day < min rolledThrough (starts.max?.getD 0 + 1) ∧ range.contains day
  (photosOf (s.evidence.filter fun photo => covered photo.bucket.1) bucket).countP
    EvidencePhoto.expired

def rolledBucket : Option (Metric → Nat) :=
  s.rolledThrough.bind fun rolledThrough =>
    let rows := rolledRows s range rolledThrough
    let value := fun metric => (latest rows (bucket, metric)).elim 0 (·.value)
    let expired := expiredCount s range bucket rolledThrough
    if rows.any (·.key.1 = bucket) then
      some fun
        | .objectExpiredCount => expired
        | .objectLiveCount => value .createdCount - expired
        | metric => value metric
    else none

def liveBucket (liveStart : Option Nat) : Option (Metric → Nat) :=
  let photos := photosOf (s.evidence.filter fun photo =>
    liveStart.all (· ≤ photo.bucket.1) ∧ range.contains photo.bucket.1) bucket
  if photos = [] then none else some (facts photos)

/-- A record of `build_evidence_compliance`, as `_merge` adds it up. -/
def evidenceCompliance : Option (Metric → Nat) :=
  match rolledBucket s range bucket, liveBucket s range bucket s.rolledThrough with
  | none, live => live
  | rolled, none => rolled
  | some rolled, some live => some fun metric => rolled metric + live metric

end Report

section Revisions

variable {checksum : Key → Nat → Nat → String} {evidence : List EvidencePhoto}
variable {rollups : List ReportMetricRollup} {key : Key}

theorem latest_snoc (row : ReportMetricRollup) :
    latest (rollups ++ [row]) key = if row.key = key ∧
      (latest rollups key).all (·.revision < row.revision) then some row
      else latest rollups key := by
  by_cases hkey : row.key = key <;> simp [latest, filter_append, foldl_append, hkey]

theorem latest_nextRevision (value samples : Nat) :
    latest (rollups ++ [nextRevision checksum rollups key value samples]) key =
      some (nextRevision checksum rollups key value samples) := by
  rw [latest_snoc, if_pos]
  cases hlatest : latest rollups key <;> simp [nextRevision, hlatest]

theorem latest_mem {row : ReportMetricRollup} (h : latest rollups key = some row) :
    row ∈ rollups ∧ row.key = key := by
  induction rollups using List.reverseRecOn with
  | nil => cases h
  | append_singleton rest last ih =>
    rw [latest_snoc] at h
    split at h
    · next hlast =>
        cases h
        exact ⟨mem_append_right _ (.head _), hlast.1⟩
    · exact ⟨mem_append_left _ (ih h).1, (ih h).2⟩

/-- The latest revision of a key is that of the present photos. -/
def Recorded (checksum : Key → Nat → Nat → String) (evidence : List EvidencePhoto)
    (rollups : List ReportMetricRollup) (key : Key) : Prop :=
  let photos := photosOf evidence key.1
  (latest rollups key).any (·.checksum = checksum key (facts photos key.2) photos.length)

/-- The latest revision has the value that the photos give. -/
def Valued (evidence : List EvidencePhoto) (rollups : List ReportMetricRollup) (key : Key) : Prop :=
  ∀ row ∈ latest rollups key, row.value = facts (photosOf evidence key.1) key.2

variable (checksum evidence rollups key) in
theorem finalizeMetric_cases :
    let photos := photosOf evidence key.1
    finalizeMetric checksum evidence rollups key = rollups ∧
        (photos ≠ [] → Recorded checksum evidence rollups key) ∨
      photos ≠ [] ∧ ¬ Recorded checksum evidence rollups key ∧
        finalizeMetric checksum evidence rollups key =
          rollups ++ [nextRevision checksum rollups key (facts photos key.2) photos.length] := by
  unfold finalizeMetric appendRevision
  by_cases hphotos : photosOf evidence key.1 = []
  · exact .inl ⟨if_pos hphotos, fun hne => absurd hphotos hne⟩
  · rw [if_neg hphotos]
    split
    · next hrecorded => exact .inl ⟨rfl, fun _ => hrecorded⟩
    · next hnot => exact .inr ⟨hphotos, hnot, rfl⟩

theorem recorded_finalizeMetric (hphotos : photosOf evidence key.1 ≠ []) :
    Recorded checksum evidence (finalizeMetric checksum evidence rollups key) key := by
  rcases finalizeMetric_cases checksum evidence rollups key with ⟨hsame, h⟩ | ⟨-, -, hnew⟩
  · rw [hsame]
    exact h hphotos
  · rw [Recorded, hnew, latest_nextRevision]
    simp [nextRevision]

variable (checksum evidence rollups key) in
/-- A loop over keys keeps a latest revision or makes it current. -/
theorem latest_foldl_finalizeMetric (keys : List Key) :
    let rollups' := keys.foldl (finalizeMetric checksum evidence) rollups
    latest rollups' key = latest rollups key ∨
      Recorded checksum evidence rollups' key ∧ Valued evidence rollups' key := by
  refine foldlRecOn (motive := fun rollups' => latest rollups' key = latest rollups key ∨
    Recorded checksum evidence rollups' key ∧ Valued evidence rollups' key) keys _ (.inl rfl)
      fun before h other _ => ?_
  rcases finalizeMetric_cases checksum evidence before other with ⟨hsame, -⟩ | ⟨-, -, hnew⟩
  · rwa [hsame]
  · by_cases hkey : other = key
    · subst hkey
      have hlatest := (congrArg (latest · other) hnew).trans (latest_nextRevision _ _)
      exact .inr
        ⟨by simp [Recorded, hlatest, nextRevision], by simp [Valued, hlatest, nextRevision]⟩
    · rwa [Recorded, Valued, hnew, latest_snoc, if_neg fun h => hkey h.1]

theorem foldl_finalizeMetric_records {keys : List Key} (hkey : key ∈ keys)
    (hphotos : photosOf evidence key.1 ≠ []) :
    Recorded checksum evidence (keys.foldl (finalizeMetric checksum evidence) rollups) key := by
  obtain ⟨before, after, rfl⟩ := append_of_mem hkey
  rw [foldl_append, foldl_cons]
  rcases latest_foldl_finalizeMetric checksum evidence _ key after with hsame | hnew
  · rw [Recorded, hsame]
    exact recorded_finalizeMetric hphotos
  · exact hnew.1

theorem foldl_finalizeMetric_settled {keys : List Key} (h : ∀ key ∈ keys,
    photosOf evidence key.1 ≠ [] → Recorded checksum evidence rollups key) :
    keys.foldl (finalizeMetric checksum evidence) rollups = rollups := by
  refine foldlRecOn (motive := (· = rollups)) keys _ rfl ?_
  rintro _ rfl key hkey
  rcases finalizeMetric_cases checksum evidence _ key with ⟨hsame, -⟩ | ⟨hphotos, hnot, -⟩
  · exact hsame
  · exact absurd (h key hkey hphotos) hnot

theorem mem_keysOf {start through : Nat} :
    key ∈ keysOf start through ↔ start ≤ key.1.1 ∧ key.1.1 < through := by
  have hrange : start ≤ key.1.1 ∧ key.1.1 < start + (through - start) ↔
      start ≤ key.1.1 ∧ key.1.1 < through := by omega
  rw [← hrange, ← mem_range'_1]
  obtain ⟨⟨_, evidenceType⟩, metric⟩ := key
  cases evidenceType <;> cases metric <;> simp [keysOf]

end Revisions

section Invariant

variable {checksum : Key → Nat → Nat → String} {s t : State}

/-- Rolled days are over, and recorded as their photos give. -/
structure Inv (s : State) : Prop where
  through : s.cursor ≤ s.today
  rows : ∀ row ∈ s.rollups, row.key.1.1 < s.today ∧ photosOf s.evidence row.key.1 ≠ []
  valued : ∀ key : Key, key.2 = .createdCount ∨ key.2 = .bytes → Valued s.evidence s.rollups key
  rolled : ∀ key : Key, key.1.1 < s.cursor → photosOf s.evidence key.1 ≠ [] →
    ∃ row, latest s.rollups key = some row

/-- A rollup leaves no day with evidence behind, nor takes one early. -/
def Gapless (s : State) : Operation → Prop
  | .finalize through startAt => through ≤ s.today ∧ ∀ photo ∈ s.evidence,
      s.cursor ≤ photo.bucket.1 → photo.bucket.1 < through →
        rollupStart s through startAt ≤ photo.bucket.1
  | _ => True

/-- A scheduled rollup or the fence's leaves no day behind. -/
theorem gapless_scheduled {through : Nat} (h : through ≤ s.today) :
    Gapless s (.finalize through none) := by
  refine ⟨h, fun photo hphoto hcursor _ => ?_⟩
  rw [State.cursor] at hcursor
  simp only [rollupStart]
  cases hmin : (s.evidence.map (·.bucket.1)).min? with
  | none => simp [map_eq_nil_iff.mp (min?_eq_none_iff.mp hmin)] at hphoto
  | some =>
    have hearliest := (min?_eq_some_iff.mp hmin).2 _ (mem_map_of_mem hphoto)
    cases hr : s.rolledThrough with
    | none => exact hearliest
    | some rolledThrough =>
      rw [hr, Option.getD_some] at hcursor
      exact max_le hearliest (by omega)

theorem inv_mark {f : EvidencePhoto → EvidencePhoto} (inv : Inv s)
    (hf : ∀ photo, (f photo).bucket = photo.bucket ∧ (f photo).sizeBytes = photo.sizeBytes) :
    Inv { s with evidence := s.evidence.map f } := by
  have hphotos : ∀ bucket,
      photosOf (s.evidence.map f) bucket = (photosOf s.evidence bucket).map f := by
    intro bucket
    rw [photosOf, filter_map]
    exact congrArg (map f) (filter_congr fun photo _ => by rw [Function.comp_apply, (hf photo).1])
  refine ⟨inv.through, fun row hrow => ?_, fun key hkey row hrow => ?_, fun key hlt hsome => ?_⟩
  · obtain ⟨hday, hsome⟩ := inv.rows row hrow
    exact ⟨hday, by simpa [hphotos] using hsome⟩
  · rw [inv.valued key hkey row hrow, hphotos]
    rcases hkey with hkey | hkey <;> simp [hkey, facts, Function.comp_def, hf]
  · exact inv.rolled key hlt (by simpa [hphotos] using hsome)

theorem inv_upload {photo : EvidencePhoto} (inv : Inv s) (htoday : photo.bucket.1 = s.today) :
    Inv { s with evidence := s.evidence ++ [photo] } := by
  -- a photo of today is in no bucket that has a rollup
  have hphotos : ∀ bucket : Bucket, bucket.1 < s.today →
      photosOf (s.evidence ++ [photo]) bucket = photosOf s.evidence bucket := by
    intro bucket hlt
    have hne : photo.bucket ≠ bucket := fun heq => hlt.ne (heq ▸ htoday)
    simp [photosOf, hne]
  refine ⟨inv.through, fun row hrow => ?_, fun key hkey row hrow => ?_, fun key hlt hsome => ?_⟩
  · obtain ⟨hday, hsome⟩ := inv.rows row hrow
    exact ⟨hday, (hphotos _ hday).symm ▸ hsome⟩
  · obtain ⟨hmem, rfl⟩ := latest_mem hrow
    rw [inv.valued _ hkey row hrow, hphotos _ (inv.rows row hmem).1]
  · exact inv.rolled key hlt (hphotos _ (hlt.trans_le inv.through) ▸ hsome)

theorem cursor_finalizeEvidenceRollups (through : Nat) (startAt : Option Nat) :
    (finalizeEvidenceRollups checksum s through startAt).cursor = max s.cursor through := by
  unfold finalizeEvidenceRollups State.cursor
  cases s.rolledThrough with
  | none => simp
  | some rolledThrough => by_cases hlt : rolledThrough < through <;> simp [hlt] <;> omega

theorem inv_finalize {through : Nat} {startAt : Option Nat} (inv : Inv s)
    (hgapless : Gapless s (.finalize through startAt)) :
    Inv (finalizeEvidenceRollups checksum s through startAt) := by
  obtain ⟨htoday, hgapless⟩ := hgapless
  refine ⟨?_, ?_, fun key hkey => ?_, fun key hday hphotos => ?_⟩
  · rw [cursor_finalizeEvidenceRollups]
    exact max_le inv.through htoday
  · refine foldlRecOn (motive := fun rollups : List ReportMetricRollup => ∀ row ∈ rollups,
      row.key.1.1 < s.today ∧ photosOf s.evidence row.key.1 ≠ []) _ _ inv.rows ?_
    intro rollups hrows key hkey row hrow
    rcases finalizeMetric_cases checksum s.evidence rollups key with
      ⟨hsame, -⟩ | ⟨hphotos, -, hnew⟩
    · exact hrows row (hsame ▸ hrow)
    · rcases mem_append.mp (hnew ▸ hrow) with hrow | hrow
      · exact hrows row hrow
      · cases mem_singleton.mp hrow
        exact ⟨(mem_keysOf.mp hkey).2.trans_le htoday, hphotos⟩
  · rcases latest_foldl_finalizeMetric checksum s.evidence s.rollups key _ with hsame | hnew
    · rw [Valued, finalizeEvidenceRollups, hsame]
      exact inv.valued key hkey
    · exact hnew.2
  · by_cases hold : key.1.1 < s.cursor
    · rcases latest_foldl_finalizeMetric checksum s.evidence s.rollups key _ with hsame | hnew
      · rw [finalizeEvidenceRollups, hsame]
        exact inv.rolled key hold hphotos
      · exact Option.isSome_iff_exists.mp (Option.isSome_of_any hnew.1)
    · rw [cursor_finalizeEvidenceRollups, lt_max_iff] at hday
      have hthrough := hday.resolve_left hold
      obtain ⟨photo, hphoto⟩ := exists_mem_of_ne_nil _ hphotos
      obtain ⟨hmem, hbucket⟩ := mem_filter.mp hphoto
      have hstart := hgapless photo hmem
      rw [of_decide_eq_true hbucket] at hstart
      have hkey := mem_keysOf.mpr ⟨hstart (Nat.le_of_not_lt hold) hthrough, hthrough⟩
      exact Option.isSome_iff_exists.mp
        (Option.isSome_of_any (foldl_finalizeMetric_records hkey hphotos))

theorem inv_step {operation : Operation} (inv : Inv s) (hgapless : Gapless s operation)
    (h : step checksum s operation = .ok t) : Inv t := by
  cases operation with
  | wait seconds =>
    cases h
    have hclock : s.today ≤ (s.clock + seconds) / 86400 :=
      Nat.div_le_div_right (Nat.le_add_right ..)
    exact { inv with
      through := inv.through.trans hclock
      rows := fun row hrow => (inv.rows row hrow).imp_left hclock.trans_lt' }
  | upload =>
    cases h
    exact inv_upload inv rfl
  | attach =>
    cases h
    exact inv_mark inv fun photo => by split <;> exact ⟨rfl, rfl⟩
  | expire =>
    cases h
    exact inv_mark inv fun photo => by split <;> exact ⟨rfl, rfl⟩
  | finalize =>
    cases h
    exact inv_finalize inv hgapless

end Invariant

section Results

/-- The metrics of a report that later attachments do not change. -/
def derived : List Metric := [.createdCount, .bytes, .objectExpiredCount, .objectLiveCount]

variable {checksum : Key → Nat → Nat → String} {s : State} {range : DateRange} {bucket : Bucket}
variable {rolledThrough : Nat}

theorem photosOf_filter (p : Nat → Bool) :
    photosOf (s.evidence.filter fun photo => p photo.bucket.1) bucket =
      if p bucket.1 then photosOf s.evidence bucket else [] := by
  unfold photosOf
  rw [filter_filter]
  split
  · next hp =>
      exact filter_congr fun photo _ => by
        by_cases hbucket : photo.bucket = bucket <;> simp [hbucket, hp]
  · next hp =>
      refine filter_eq_nil_iff.mpr fun photo _ h => ?_
      simp only [Bool.and_eq_true, decide_eq_true_eq] at h
      exact hp (h.1 ▸ h.2)

theorem liveBucket_eq (liveStart : Option Nat) :
    liveBucket s range bucket liveStart =
      if liveStart.getD 0 ≤ bucket.1 ∧ range.contains bucket.1 ∧ photosOf s.evidence bucket ≠ []
      then some (facts (photosOf s.evidence bucket)) else none := by
  unfold liveBucket
  dsimp only
  rw [photosOf_filter fun day => decide (liveStart.all (· ≤ day) ∧ range.contains day)]
  cases liveStart <;> grind

theorem latest_filter {rollups : List ReportMetricRollup} {key : Key}
    {p : ReportMetricRollup → Bool} (h : ∀ row ∈ rollups, row.key = key → p row = true) :
    latest (rollups.filter p) key = latest rollups key := by
  unfold latest
  rw [filter_filter, filter_congr fun row hrow => ?_]
  by_cases hkey : row.key = key
  · simp [hkey, h row hrow hkey]
  · simp [hkey]

theorem any_rolledRows (inv : Inv s) (hthrough : s.rolledThrough = some rolledThrough) :
    (rolledRows s range rolledThrough).any (·.key.1 = bucket) = true ↔
      bucket.1 < rolledThrough ∧ range.contains bucket.1 ∧ photosOf s.evidence bucket ≠ [] := by
  simp only [any_eq_true, rolledRows, mem_filter, decide_eq_true_eq]
  constructor
  · rintro ⟨row, ⟨hrow, hlt, hcontains⟩, rfl⟩
    exact ⟨hlt, hcontains, (inv.rows row hrow).2⟩
  · rintro ⟨hlt, hcontains, hphotos⟩
    obtain ⟨row, hrow⟩ := inv.rolled (bucket, .createdCount) (by simpa [State.cursor, hthrough])
      hphotos
    obtain ⟨hmem, hkey⟩ := latest_mem hrow
    exact ⟨row, ⟨hmem, by simp [hkey, hlt, hcontains]⟩, by simp [hkey]⟩

theorem expiredCount_eq (hlt : bucket.1 < rolledThrough) (hcontains : range.contains bucket.1)
    (hany : (rolledRows s range rolledThrough).any (·.key.1 = bucket) = true) :
    expiredCount s range bucket rolledThrough =
      (photosOf s.evidence bucket).countP EvidencePhoto.expired := by
  obtain ⟨row, hrow, hbucket⟩ := any_eq_true.mp hany
  have hstart : bucket.1 ∈ (rolledRows s range rolledThrough).map (·.key.1.1) :=
    mem_map.mpr ⟨row, hrow, congrArg Prod.fst (of_decide_eq_true hbucket)⟩
  unfold expiredCount
  dsimp only
  rw [photosOf_filter fun day => decide (_ ≤ day ∧ day < _ ∧ range.contains day), if_pos]
  exact decide_eq_true ⟨min?_getD_le_of_mem hstart,
    lt_min hlt (Nat.lt_succ_of_le (le_max?_getD_of_mem hstart)), hcontains⟩

/-- Rolled buckets are of the days with photos before the cursor, and agree. -/
theorem rolledBucket_eq (inv : Inv s) :
    if bucket.1 < s.cursor ∧ range.contains bucket.1 ∧ photosOf s.evidence bucket ≠ [] then
      ∃ rolled, rolledBucket s range bucket = some rolled ∧
        ∀ metric ∈ derived, rolled metric = facts (photosOf s.evidence bucket) metric
    else rolledBucket s range bucket = none := by
  unfold rolledBucket
  cases hthrough : s.rolledThrough with
  | none => simp [State.cursor, hthrough]
  | some rolledThrough =>
    rw [Option.bind_some, State.cursor, hthrough, Option.getD_some]
    split
    · next hbucket =>
        have hany := (any_rolledRows inv hthrough).mpr hbucket
        obtain ⟨hlt, hcontains, hphotos⟩ := hbucket
        have hvalue : ∀ metric, metric = .createdCount ∨ metric = .bytes →
            (latest (rolledRows s range rolledThrough) (bucket, metric)).elim 0 (·.value) =
              facts (photosOf s.evidence bucket) metric := by
          intro metric hmetric
          obtain ⟨row, hrow⟩ := inv.rolled (bucket, metric) (by simpa [State.cursor, hthrough])
            hphotos
          rw [rolledRows, latest_filter fun row _ hkey => by simp [hkey, hlt, hcontains], hrow]
          exact inv.valued _ hmetric row hrow
        refine ⟨_, if_pos hany, fun metric hmetric => ?_⟩
        simp only [derived, mem_cons, not_mem_nil, or_false] at hmetric
        rcases hmetric with rfl | rfl | rfl | rfl
        · exact hvalue _ (.inl rfl)
        · exact hvalue _ (.inr rfl)
        · exact expiredCount_eq hlt hcontains hany
        · exact congrArg₂ (· - ·) (hvalue _ (.inl rfl)) (expiredCount_eq hlt hcontains hany)
    · next hbucket => exact if_neg fun hany => hbucket ((any_rolledRows inv hthrough).mp hany)

theorem evidenceCompliance_eq (inv : Inv s) {metric : Metric} (hmetric : metric ∈ derived) :
    (evidenceCompliance s range bucket).map (· metric) =
      (liveBucket s range bucket none).map (· metric) := by
  have hrolled : if _ then _ else rolledBucket s range bucket = none := rolledBucket_eq inv
  unfold evidenceCompliance
  rw [liveBucket_eq, liveBucket_eq, ← State.cursor]
  split at hrolled
  · next hbucket =>
      obtain ⟨rolled, heq, hfacts⟩ := hrolled
      rw [heq, if_neg fun h => h.1.not_gt hbucket.1, if_pos ⟨Nat.zero_le _, hbucket.2⟩]
      simp [hfacts metric hmetric]
  · next hbucket =>
      rw [hrolled]
      dsimp only
      by_cases hday : bucket.1 < s.cursor
      · rw [if_neg fun h => hbucket ⟨hday, h.2⟩, if_neg fun h => hbucket ⟨hday, h.2⟩]
      · simp [Nat.le_of_not_lt hday]

theorem finalizeEvidenceRollups_again (s : State) (through : Nat) (startAt : Option Nat) :
    let t := finalizeEvidenceRollups checksum s through startAt
    (finalizeEvidenceRollups checksum t through startAt).rollups = t.rollups := by
  intro t
  refine foldl_finalizeMetric_settled fun key hkey hphotos => ?_
  -- the second run starts no earlier, as its cursor is no earlier
  have hstart : rollupStart s through startAt ≤ rollupStart t through startAt := by
    cases startAt with
    | some => exact le_rfl
    | none =>
      simp only [rollupStart, t, finalizeEvidenceRollups]
      cases (s.evidence.map (·.bucket.1)).min? with
      | none => exact le_rfl
      | some =>
        cases s.rolledThrough with
        | none => exact le_max_left _ _
        | some rolledThrough =>
          by_cases hlt : rolledThrough < through
          · simp only [Option.all_some, hlt, decide_true, if_true]
            omega
          · simp [hlt]
  obtain ⟨hlow, hhigh⟩ := mem_keysOf.mp hkey
  exact foldl_finalizeMetric_records (mem_keysOf.mpr ⟨hstart.trans hlow, hhigh⟩) hphotos

/-- The report is that of the evidence, days have rollups, and repeating appends nothing. -/
structure Faithful (checksum : Key → Nat → Nat → String) (s : State) : Prop where
  report : ∀ range bucket, ∀ metric ∈ derived,
    (evidenceCompliance s range bucket).map (· metric) =
      (liveBucket s range bucket none).map (· metric)
  rolled : ∀ photo ∈ s.evidence, photo.bucket.1 < s.cursor →
    ∃ row ∈ s.rollups, row.key.1 = photo.bucket
  again : ∀ through startAt, let t := finalizeEvidenceRollups checksum s through startAt
    (finalizeEvidenceRollups checksum t through startAt).rollups = t.rollups

/-- With rollups by today that start at the first open day with evidence, the report is faithful. -/
theorem report_of_run (checksum : Key → Nat → Nat → String) (operations : List Operation)
    (h : Throughout (step checksum) Gapless {} operations) :
    Faithful checksum (run (step checksum) {} operations) := by
  have inv : Inv (run (step checksum) {} operations) :=
    run_preserves_throughout inv_step
      ⟨by simp [State.cursor], by simp, by simp [Valued, latest], by simp [State.cursor]⟩ h
  refine ⟨fun range bucket metric hmetric => evidenceCompliance_eq inv hmetric,
    fun photo hphoto hday => ?_, finalizeEvidenceRollups_again _⟩
  obtain ⟨row, hrow⟩ := inv.rolled (photo.bucket, .createdCount) hday
    (ne_nil_of_mem (mem_filter.mpr ⟨hphoto, decide_eq_true rfl⟩))
  obtain ⟨hmem, hkey⟩ := latest_mem hrow
  exact ⟨row, hmem, congrArg Prod.fst hkey⟩

/-- A photo, ten days, and a backfill of the second five days. -/
def lateBackfill : List Operation :=
  [.upload 1 .issue (some 100), .wait 864000, .finalize 10 (some 5)]

def plainChecksum (_ : Key) (value samples : Nat) : String := toString (value, samples)

theorem late_backfill_loses_photo :
    ¬ Faithful plainChecksum (run (step plainChecksum) {} lateBackfill) := by
  intro h
  exact absurd (h.report {} (0, .issue) .createdCount (by simp [derived])) (by decide)

theorem report_of_earlyBackfill :
    Faithful plainChecksum (run (step plainChecksum) {}
      [.upload 1 .issue (some 100), .wait 864000, .finalize 10 (some 0)]) :=
  report_of_run plainChecksum _
    (by simp [Throughout, Gapless, step, settle, rollupStart, State.today])

end Results

end EvidenceRollups
end SpaceWorks
