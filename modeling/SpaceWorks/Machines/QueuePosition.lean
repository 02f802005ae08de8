import Mathlib.Data.List.Dedup
import SpaceWorks.Library.Ranking
import SpaceWorks.Machines.Model

/-!
# Positions in the waiting queue

`service_queue_position.py`: `queue_positions_for` reads each scope by a query, `queue_counts_for`
reads all at once, groups the rows and counts.
-/

namespace SpaceWorks
namespace Machines

open Ranking Table List

section Model

structure QueueEntry where
  id : Nat
  status : RequestStatus
  bucketId : Option Nat := none
  queueId : Option Nat := none
  createdAt : Int
  bucket_xor_queue : bucketId.isSome = !queueId.isSome := by decide

instance keyedQueueEntry : Keyed QueueEntry Nat := ⟨QueueEntry.id⟩

/-- A key of `_scope_key`. -/
inductive Scope
  | bucket (id : Nat)
  | queue (id : Option Nat)
  deriving DecidableEq

namespace QueueEntry

/-- `row.status in WAITING_STATUSES`. -/
def waiting (row : QueueEntry) : Bool :=
  row.status = .pending || row.status = .accepted

def scopeKey (row : QueueEntry) : Scope :=
  match row.bucketId with
  | some bucketId => .bucket bucketId
  | none => .queue row.queueId

def priority (row : QueueEntry) : Nat :=
  if row.status = .accepted then 0 else 1

/-- `order_by(_priority(), "created_at", "id")`. -/
def precedes (row other : QueueEntry) : Prop :=
  row.priority < other.priority ∨
    (row.priority = other.priority ∧
      (row.createdAt < other.createdAt ∨ (row.createdAt = other.createdAt ∧ row.id ≤ other.id)))

instance decidablePrecedes : DecidableRel precedes := fun _ _ =>
  inferInstanceAs (Decidable (_ ∨ _))

/-- The filter `{field}_id = value` of a scope. -/
def inScope (row : QueueEntry) : Scope → Bool
  | .bucket bucketId => row.bucketId = some bucketId
  | .queue queueId => row.queueId = queueId

/-- `queue_id in queue_ids or bucket_id in bucket_ids`. -/
def inScopes (row : QueueEntry) (keys : List Scope) : Bool :=
  (row.queueId.any fun queueId => .queue (some queueId) ∈ keys)
    || row.bucketId.any fun bucketId => .bucket bucketId ∈ keys

end QueueEntry

variable (t : Table QueueEntry)

def targetsOf (requests : List QueueEntry) : List QueueEntry :=
  requests.filter QueueEntry.waiting

def scopeKeys (rows : List QueueEntry) : List Scope :=
  (rows.map QueueEntry.scopeKey).dedup

def waitingForScope (key : Scope) : List QueueEntry :=
  (t.rows.filter fun row => row.inScope key && row.waiting).insertionSort QueueEntry.precedes

/-- `_waiting_rows`, before it groups. -/
def waitingRows (keys : List Scope) : List QueueEntry :=
  (t.rows.filter fun row => row.waiting && row.inScopes keys).insertionSort QueueEntry.precedes

/-- One group of `_waiting_rows`, empty without rows. -/
def rankedByScope (keys : List Scope) (key : Scope) : List QueueEntry :=
  (waitingRows t keys).filter fun row => row.scopeKey = key

/-- What `queue_positions_for` fills, scope by scope. -/
def positionsOver (keys : List Scope) : List (Nat × Nat) :=
  keys.flatMap fun key => enumerateFrom QueueEntry.id 1 (waitingForScope t key)

/-- `queue_positions_for`: an id that no scope holds is a `KeyError`. -/
def queuePositionsFor (requests : List QueueEntry) : Option (List (Nat × Nat)) :=
  let targets := targetsOf requests
  targets.mapM fun row =>
    (findLast (positionsOver t (scopeKeys targets)) row.id).map fun position =>
      (row.id, position)

structure QueueCounts where
  position : Nat
  approvedAhead : Nat
  awaitingReviewAhead : Nat

/-- The rows up to the request itself, by status. -/
def countAhead (id : Nat) : List QueueEntry → Nat × Nat
  | [] => (0, 0)
  | candidate :: ranked =>
    if candidate.id = id then (0, 0)
    else
      let (accepted, pending) := countAhead id ranked
      if candidate.status = .accepted then (accepted + 1, pending) else (accepted, pending + 1)

def countsIn (ranked : List QueueEntry) (row : QueueEntry) : QueueCounts :=
  let (accepted, pending) := countAhead row.id ranked
  { position := accepted + pending + 1
    approvedAhead := accepted
    awaitingReviewAhead := if row.status = .pending then pending else 0 }

def queueCountsFor (requests : List QueueEntry) : List (Nat × QueueCounts) :=
  let targets := targetsOf requests
  targets.map fun row =>
    (row.id, countsIn (rankedByScope t (scopeKeys targets) row.scopeKey) row)

end Model

section

instance transPrecedes : IsTrans QueueEntry QueueEntry.precedes where
  trans := by
    intro a b c
    simp only [QueueEntry.precedes]
    omega

instance totalPrecedes : Std.Total QueueEntry.precedes where
  total := by
    intro a b
    simp only [QueueEntry.precedes]
    omega

theorem id_eq_of_precedes
    {row other : QueueEntry} (h : row.precedes other) (h' : other.precedes row) :
    row.id = other.id := by
  simp only [QueueEntry.precedes] at h h'
  omega

variable {t : Table QueueEntry}

theorem eq_of_precedes {row other : QueueEntry} (hrow : row ∈ t.rows) (hother : other ∈ t.rows)
    (h : row.precedes other) (h' : other.precedes row) :
    row = other :=
  eq_of_key_eq hrow hother (id_eq_of_precedes h h')

theorem inScope_scopeKey_iff (row other : QueueEntry) :
    row.inScope other.scopeKey = true ↔ row.scopeKey = other.scopeKey := by
  have hrow := row.bucket_xor_queue
  have hother := other.bucket_xor_queue
  unfold QueueEntry.scopeKey
  cases hb : row.bucketId <;> cases hb' : other.bucketId <;> cases hq : row.queueId <;>
    cases hq' : other.queueId <;> simp_all [QueueEntry.inScope]

theorem inScopes_iff (row : QueueEntry) (keys : List Scope) :
    row.inScopes keys = true ↔ row.scopeKey ∈ keys := by
  have hrow := row.bucket_xor_queue
  unfold QueueEntry.scopeKey QueueEntry.inScopes
  cases hb : row.bucketId <;> cases hq : row.queueId <;> simp_all

/-- The grouped query ranks as that of one scope. -/
theorem rankedByScope_eq {keys : List Scope} {row : QueueEntry} (hkey : row.scopeKey ∈ keys) :
    rankedByScope t keys row.scopeKey = waitingForScope t row.scopeKey := by
  unfold rankedByScope waitingRows waitingForScope
  rw [insertionSort_filter, filter_filter]
  · congr 1
    refine filter_congr fun other _ => ?_
    have hscope := inScope_scopeKey_iff other row
    have hcovered := inScopes_iff other keys
    by_cases hsame : other.scopeKey = row.scopeKey
    · simp [hsame, hscope.mpr hsame, hcovered.mpr (hsame ▸ hkey)]
    · simp [hsame, mt hscope.mp hsame]
  · intro a ha b hb
    exact eq_of_precedes (mem_filter.mp ha).1 (mem_filter.mp hb).1

theorem mem_waitingForScope {row other : QueueEntry} :
    row ∈ waitingForScope t other.scopeKey ↔
      row ∈ t ∧ row.waiting = true ∧ row.scopeKey = other.scopeKey := by
  rw [waitingForScope, mem_insertionSort, mem_filter, Bool.and_eq_true, inScope_scopeKey_iff]
  exact ⟨fun ⟨hmem, hscope, hwaits⟩ => ⟨hmem, hwaits, hscope⟩,
    fun ⟨hmem, hwaits, hscope⟩ => ⟨hmem, hscope, hwaits⟩⟩

theorem nodup_waitingForScope (t : Table QueueEntry) (key : Scope) :
    ((waitingForScope t key).map QueueEntry.id).Nodup := by
  have hrows : ((t.rows.filter fun row => row.inScope key && row.waiting).map
      QueueEntry.id).Nodup :=
    t.nodup.sublist (filter_sublist.map QueueEntry.id)
  exact (((perm_insertionSort QueueEntry.precedes _).map QueueEntry.id).nodup_iff).mpr hrows

theorem sorted_waitingForScope (t : Table QueueEntry) (key : Scope) :
    (waitingForScope t key).Pairwise QueueEntry.precedes :=
  pairwise_insertionSort QueueEntry.precedes _

variable {requests : List QueueEntry} {rows : List QueueEntry} {row other : QueueEntry}

def rankOf (t : Table QueueEntry) (row : QueueEntry) : Nat :=
  place QueueEntry.id (waitingForScope t row.scopeKey) row.id

theorem countAhead_eq (id : Nat) (ranked : List QueueEntry) :
    countAhead id ranked =
      ((ahead QueueEntry.id ranked id).countP fun row => row.status = .accepted,
        (ahead QueueEntry.id ranked id).countP fun row => ¬ row.status = .accepted) := by
  induction ranked with
  | nil => rfl
  | cons candidate _ ih =>
    rw [countAhead]
    by_cases hid : candidate.id = id
    · subst hid
      rw [if_pos rfl, ahead_cons_self]
      rfl
    · rw [if_neg hid, ahead_cons_of_ne hid, ih]
      by_cases hstatus : candidate.status = .accepted <;> simp [hstatus]

theorem countsIn_position (ranked : List QueueEntry) (row : QueueEntry) :
    (countsIn ranked row).position = place QueueEntry.id ranked row.id := by
  have hsplit := length_eq_countP_add_countP
    (fun other : QueueEntry => decide (other.status = .accepted))
    (l := ahead QueueEntry.id ranked row.id)
  simp only [countsIn, countAhead_eq, place, hsplit]
  simp

theorem mem_scopeKeys {key : Scope} :
    key ∈ scopeKeys rows ↔ ∃ row ∈ rows, row.scopeKey = key := by
  rw [scopeKeys, mem_dedup, mem_map]

theorem mem_targetsOf :
    row ∈ targetsOf requests ↔ row ∈ requests ∧ row.waiting = true :=
  mem_filter

theorem findLast_positionsOver (hrow : row ∈ rows) (hmem : row ∈ t) (hwaits : row.waiting = true) :
    findLast (positionsOver t (scopeKeys rows)) row.id = some (rankOf t row) := by
  have hentries : ∀ key, enumerateFrom QueueEntry.id 1 (waitingForScope t key) =
      (waitingForScope t key).map fun other =>
        (other.id, 0 + place QueueEntry.id (waitingForScope t key) other.id) := fun key =>
    enumerateFrom_eq_map 0 (nodup_waitingForScope t key)
  refine findLast_eq_some ?_ ?_
  · refine mem_flatMap.mpr ⟨row.scopeKey, mem_scopeKeys.mpr ⟨row, hrow, rfl⟩, ?_⟩
    rw [hentries, mem_map]
    exact ⟨row, mem_waitingForScope.mpr ⟨hmem, hwaits, rfl⟩, by simp [rankOf]⟩
  · intro position hposition
    obtain ⟨_, hkey, hin⟩ := mem_flatMap.mp hposition
    obtain ⟨_, -, rfl⟩ := mem_scopeKeys.mp hkey
    rw [hentries, mem_map] at hin
    obtain ⟨found, hfound, heq⟩ := hin
    obtain ⟨hfoundMem, -, hscope⟩ := mem_waitingForScope.mp hfound
    obtain rfl : found = row := eq_of_key_eq hfoundMem hmem (congrArg Prod.fst heq)
    have hplace := congrArg Prod.snd heq
    simp only [Nat.zero_add] at hplace
    rw [← hplace, rankOf, hscope]

theorem queuePositionsFor_eq (hrequests : ∀ row ∈ requests, row ∈ t) :
    queuePositionsFor t requests =
      some ((targetsOf requests).map fun row => (row.id, rankOf t row)) := by
  have hfound : ∀ row ∈ targetsOf requests,
      (findLast (positionsOver t (scopeKeys (targetsOf requests))) row.id).map
        (fun position => (row.id, position)) = some (row.id, rankOf t row) := by
    intro row hrow
    obtain ⟨hin, hwaits⟩ := mem_targetsOf.mp hrow
    rw [findLast_positionsOver hrow (hrequests row hin) hwaits, Option.map_some]
  show (targetsOf requests).mapM _ = _
  generalize hkeys : scopeKeys (targetsOf requests) = keys at hfound
  generalize targetsOf requests = rows at hfound
  induction rows with
  | nil => rfl
  | cons row _ ih =>
    rw [mapM_cons, hfound row mem_cons_self,
      ih fun other hother => hfound other (mem_cons_of_mem row hother)]
    rfl

theorem queueCountsFor_eq (t : Table QueueEntry) (requests : List QueueEntry) :
    queueCountsFor t requests =
      (targetsOf requests).map fun row =>
        (row.id, countsIn (waitingForScope t row.scopeKey) row) := by
  refine map_congr_left fun row hrow => ?_
  rw [rankedByScope_eq (mem_scopeKeys.mpr ⟨row, hrow, rfl⟩)]

def scopeRows (t : Table QueueEntry) (key : Scope) : List QueueEntry :=
  t.rows.filter fun row => row.waiting && decide (row.scopeKey = key)

theorem map_rankOf_perm (t : Table QueueEntry) (key : Scope) :
    ((scopeRows t key).map (rankOf t)).Perm (List.range' 1 (scopeRows t key).length) := by
  cases hrows : scopeRows t key with
  | nil => rfl
  | cons first =>
    have hfirst : first ∈ scopeRows t key := by simp [hrows]
    obtain rfl : first.scopeKey = key := by
      simpa using (Bool.and_eq_true_iff.mp (mem_filter.mp hfirst).2).2
    rw [← hrows]
    have hsame : t.rows.filter (fun row => row.inScope first.scopeKey && row.waiting) =
        scopeRows t first.scopeKey := by
      refine filter_congr fun row _ => ?_
      have hscope := inScope_scopeKey_iff row first
      by_cases heq : row.scopeKey = first.scopeKey
      · simp [heq, hscope.mpr heq]
      · simp [heq, mt hscope.mp heq]
    have hperm : (scopeRows t first.scopeKey).Perm (waitingForScope t first.scopeKey) := by
      rw [← hsame]
      exact (perm_insertionSort QueueEntry.precedes _).symm
    have hranks : (waitingForScope t first.scopeKey).map (rankOf t) =
        List.range' 1 (waitingForScope t first.scopeKey).length := by
      rw [← map_place (nodup_waitingForScope t first.scopeKey)]
      refine map_congr_left fun row hrow => ?_
      rw [rankOf, (mem_waitingForScope.mp hrow).2.2]
    rw [hperm.length_eq, ← hranks]
    exact hperm.map (rankOf t)

/-- Accepted before pending, then by creation, then by id. -/
def QueueEntry.Before (row other : QueueEntry) : Prop :=
  (row.status = .accepted ∧ other.status = .pending) ∨
    (row.status = other.status ∧
      (row.createdAt < other.createdAt ∨ (row.createdAt = other.createdAt ∧ row.id < other.id)))

theorem waiting_iff :
    row.waiting = true ↔ row.status = .pending ∨ row.status = .accepted := by
  simp [QueueEntry.waiting]

theorem before_iff (hrow : row.waiting = true) (hother : other.waiting = true)
    (hne : row.id ≠ other.id) :
    row.Before other ↔ row.precedes other := by
  rcases waiting_iff.mp hrow with hr | hr <;> rcases waiting_iff.mp hother with ho | ho <;>
    simp only [QueueEntry.Before, QueueEntry.precedes, QueueEntry.priority, hr, ho] <;>
    simp <;> omega

theorem not_before_self (row : QueueEntry) : ¬ row.Before row := by
  rintro (⟨haccepted, hpending⟩ | ⟨-, hlt | ⟨-, hlt⟩⟩)
  · rw [haccepted] at hpending
    cases hpending
  · exact lt_irrefl _ hlt
  · exact lt_irrefl _ hlt

theorem rankOf_lt_iff (hrow : row ∈ t) (hother : other ∈ t)
    (hwaits : row.waiting = true) (hwaits' : other.waiting = true)
    (hscope : row.scopeKey = other.scopeKey) :
    rankOf t row < rankOf t other ↔ row.Before other := by
  have hranked : rankOf t row < rankOf t other ↔ row.precedes other ∧ row.id ≠ other.id := by
    rw [rankOf, rankOf, hscope]
    refine place_lt_iff (sorted_waitingForScope t _) (nodup_waitingForScope t _)
      (fun _ _ _ _ h h' => id_eq_of_precedes h h') ?_ ?_
    · exact mem_waitingForScope.mpr ⟨hrow, hwaits, hscope⟩
    · exact mem_waitingForScope.mpr ⟨hother, hwaits', rfl⟩
  by_cases hid : row.id = other.id
  · obtain rfl : row = other := eq_of_key_eq hrow hother hid
    exact iff_of_false (lt_irrefl _) (not_before_self row)
  · rw [hranked, before_iff hwaits hwaits' hid]
    exact and_iff_left hid

/-- The two counts and the request itself make up the position. -/
theorem countsIn_adds_up (hrow : row ∈ t) (hwaits : row.waiting = true) :
    (countsIn (waitingForScope t row.scopeKey) row).position =
      (countsIn (waitingForScope t row.scopeKey) row).approvedAhead +
        (countsIn (waitingForScope t row.scopeKey) row).awaitingReviewAhead + 1 := by
  rcases waiting_iff.mp hwaits with hpending | haccepted
  · simp [countsIn, hpending]
  · have hnone : (countAhead row.id (waitingForScope t row.scopeKey)).2 = 0 := by
      rw [countAhead_eq, countP_eq_zero]
      intro other hother
      have hmem : row ∈ waitingForScope t row.scopeKey :=
        mem_waitingForScope.mpr ⟨hrow, hwaits, rfl⟩
      have hbefore := rel_of_mem_ahead (sorted_waitingForScope t row.scopeKey) hmem hother
      by_contra hstatus
      have hlate : ¬ other.status = .accepted := by simpa using hstatus
      simp only [QueueEntry.precedes, QueueEntry.priority, haccepted, if_neg hlate, if_true]
        at hbefore
      omega
    simp [countsIn, haccepted, hnone]

theorem findLast_positions (hrequests : ∀ row ∈ requests, row ∈ t)
    (hrow : row ∈ requests) (hwaits : row.waiting = true) :
    findLast ((targetsOf requests).map fun row => (row.id, rankOf t row)) row.id =
      some (rankOf t row) := by
  refine findLast_eq_some ?_ ?_
  · exact mem_map.mpr ⟨row, mem_targetsOf.mpr ⟨hrow, hwaits⟩, rfl⟩
  · intro position hposition
    obtain ⟨found, hfound, heq⟩ := mem_map.mp hposition
    obtain rfl : found = row := eq_of_key_eq
      (hrequests found (mem_targetsOf.mp hfound).1) (hrequests row hrow) (congrArg Prod.fst heq)
    exact (congrArg Prod.snd heq).symm

end

/-- **Queue positions and counts.** Both projections agree, the positions of a whole scope permute 1
to their number, accepted before pending and then by creation and id, and counts add up to them. -/
theorem queuePositions_agree (t : Table QueueEntry) {requests : List QueueEntry}
    (hrequests : ∀ row ∈ requests, row ∈ t) :
    ∃ positions, queuePositionsFor t requests = some positions ∧
      positions = (queueCountsFor t requests).map (fun entry => (entry.1, entry.2.position)) ∧
      (∀ key, (∀ row ∈ scopeRows t key, row ∈ requests) →
        ((scopeRows t key).filterMap fun row => findLast positions row.id).Perm
          (List.range' 1 (scopeRows t key).length)) ∧
      (∀ row ∈ requests, ∀ other ∈ requests, row.waiting = true → other.waiting = true →
        row.scopeKey = other.scopeKey →
          ∃ p q, findLast positions row.id = some p ∧ findLast positions other.id = some q ∧
            (p < q ↔ row.Before other)) ∧
      ∀ entry ∈ queueCountsFor t requests,
        entry.2.position = entry.2.approvedAhead + entry.2.awaitingReviewAhead + 1 := by
  refine ⟨_, queuePositionsFor_eq hrequests, ?_, ?_, ?_, ?_⟩
  · rw [queueCountsFor_eq, map_map]
    refine map_congr_left fun row _ => ?_
    simp [countsIn_position, rankOf]
  · intro key hasked
    have hpositions : (scopeRows t key).filterMap (fun row =>
        findLast ((targetsOf requests).map fun row => (row.id, rankOf t row)) row.id) =
          (scopeRows t key).map (rankOf t) := by
      refine (filterMap_congr (g := some ∘ rankOf t) fun row hrow => ?_).trans
        (congrFun filterMap_eq_map _)
      have hwaits := (Bool.and_eq_true_iff.mp (mem_filter.mp hrow).2).1
      exact findLast_positions hrequests (hasked row hrow) hwaits
    rw [hpositions]
    exact map_rankOf_perm t key
  · intro row hrow other hother hwaits hwaits' hscope
    exact ⟨_, _, findLast_positions hrequests hrow hwaits,
      findLast_positions hrequests hother hwaits',
      rankOf_lt_iff (hrequests row hrow) (hrequests other hother) hwaits hwaits' hscope⟩
  · intro entry hentry
    rw [queueCountsFor_eq] at hentry
    obtain ⟨row, hrow, rfl⟩ := mem_map.mp hentry
    obtain ⟨hin, hwaits⟩ := mem_targetsOf.mp hrow
    exact countsIn_adds_up (hrequests row hin) hwaits

def waitingJobs : Table QueueEntry :=
  ⟨[{ id := 1, status := .pending, queueId := some 1, createdAt := 10 },
    { id := 2, status := .accepted, queueId := some 1, createdAt := 20 },
    { id := 3, status := .pending, bucketId := some 1, createdAt := 5 },
    { id := 4, status := .inProgress, bucketId := some 1, createdAt := 1 }], by decide⟩

theorem queuePositions_agree_of_waitingJobs :
    (∀ row ∈ waitingJobs.rows, row ∈ waitingJobs) ∧
    ∃ positions, queuePositionsFor waitingJobs waitingJobs.rows = some positions ∧
      positions = (queueCountsFor waitingJobs waitingJobs.rows).map
        (fun entry => (entry.1, entry.2.position)) ∧
      (∀ key, (∀ row ∈ scopeRows waitingJobs key, row ∈ waitingJobs.rows) →
        ((scopeRows waitingJobs key).filterMap fun row => findLast positions row.id).Perm
          (List.range' 1 (scopeRows waitingJobs key).length)) ∧
      (∀ row ∈ waitingJobs.rows, ∀ other ∈ waitingJobs.rows, row.waiting = true →
        other.waiting = true → row.scopeKey = other.scopeKey →
          ∃ p q, findLast positions row.id = some p ∧ findLast positions other.id = some q ∧
            (p < q ↔ row.Before other)) ∧
      ∀ entry ∈ queueCountsFor waitingJobs waitingJobs.rows,
        entry.2.position = entry.2.approvedAhead + entry.2.awaitingReviewAhead + 1 :=
  ⟨fun _ hrow => hrow, queuePositions_agree waitingJobs fun _ hrow => hrow⟩

example : queuePositionsFor waitingJobs waitingJobs.rows = some [(1, 2), (2, 1), (3, 1)] := by
  decide

end Machines
end SpaceWorks
