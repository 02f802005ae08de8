import Mathlib.Data.List.Nodup
import SpaceWorks.Library.Checked
import SpaceWorks.Library.Runs

/-!
# Promotion of merge objects

`promote_objects` of `slice_merge_objects.py` over the buckets and the host journal, with a fault at
any step, and `rollback_promoted`.
-/

namespace SpaceWorks
namespace Promotion

open Checked TransactionalSystem Function List Option

structure StagedObject where
  bucketKind : String
  finalKey : String
  size : Nat
  sha256 : String
  metadata : List (String × String)
  contentType : String
  headers : List (String × String)

/-- An object under a final key; `byMerge`: a put of the merge created it. -/
structure StoredObject where
  size : Nat
  sha256 : String
  metadata : List (String × String)
  contentType : Option String
  headers : List (String × String)
  version : String
  byMerge : Bool
  deriving DecidableEq

abbrev Key := String × String

abbrev Buckets := Key → Option StoredObject

def StagedObject.key (item : StagedObject) : Key :=
  (item.bucketKind, item.finalKey)

/-- `response.get(name)`. -/
def StoredObject.get (stored : StoredObject) (name : String) : Option String :=
  if name = "ContentType" then stored.contentType else stored.headers.lookup name

/-- `_verify` with `metadata=True`. -/
def verify (stored : StoredObject) (expected : StagedObject) : Bool :=
  stored.size = expected.size && stored.sha256 = expected.sha256 &&
    stored.metadata = expected.metadata &&
    (expected.contentType = "" || stored.contentType = some expected.contentType) &&
    expected.headers.all fun header => stored.get header.1 = some header.2

def StagedObject.stored (item : StagedObject) (version : String) : StoredObject where
  size := item.size
  sha256 := item.sha256
  metadata := item.metadata
  contentType :=
    match item.headers.lookup "ContentType" with
    | some contentType => some contentType
    | none => if item.contentType = "" then none else some item.contentType
  headers := item.headers
  version := version
  byMerge := true

inductive Event where
  | promotionIntent (bucketKind finalKey sha256 : String)
  | promoted (bucketKind finalKey version : String)
  | rolledBack (bucketKind finalKey version : String)
  | dependencyWait
  deriving DecidableEq

structure World where
  buckets : Buckets
  journal : List Event

inductive Stage where
  | intent
  | put
  | verify
  | journal
  deriving DecidableEq

structure Fault where
  stage : Stage
  interrupted : Bool

/-- An item, a fault, the version of its put, and the fate of its rollback. -/
structure Turn where
  item : StagedObject
  fault : Option Fault
  version : String
  reverted : Bool

inductive Ending where
  | completed
  | interrupted
  | raised

def allowExisting (journal : List Event) (item : StagedObject) : Bool :=
  journal.contains (.promotionIntent item.bucketKind item.finalKey item.sha256)

def createFinal (buckets : Buckets) (item : StagedObject) (version : String)
    (allowExisting : Bool) : Option (Buckets × String) :=
  match buckets item.key with
  | none => some (update buckets item.key (some (item.stored version)), version)
  | some stored => if allowExisting && verify stored item then some (buckets, "") else none

def Fault.ending (fault : Fault) : Ending :=
  if fault.interrupted then .interrupted else .raised

def Turn.faultAt (turn : Turn) (stage : Stage) : Option Fault :=
  turn.fault.filter fun fault => fault.stage = stage

/-- The effects of a turn that comes to its end. -/
def journalled (journal : List Event) (item : StagedObject) (version : String) : List Event :=
  journal ++ [.promotionIntent item.bucketKind item.finalKey item.sha256] ++
    [.promoted item.bucketKind item.finalKey version]

/-- The loop of `promote_objects`, the last item first. -/
def promote : List Turn → World → List (Turn × String) → World × List (Turn × String) × Ending
  | [], world, promoted => (world, promoted, .completed)
  | turn :: turns, world, promoted =>
    let item := turn.item
    let intended := world.journal ++ [.promotionIntent item.bucketKind item.finalKey item.sha256]
    match turn.faultAt .intent with
    | some fault => (world, promoted, fault.ending)
    | none =>
    match turn.faultAt .put with
    | some fault => (⟨world.buckets, intended⟩, promoted, fault.ending)
    | none =>
    match createFinal world.buckets item turn.version (allowExisting world.journal item) with
    | none => (⟨world.buckets, intended⟩, promoted, .raised)
    | some (buckets, version) =>
    match turn.faultAt .verify with
    | some fault => (⟨buckets, intended⟩, promoted, fault.ending)
    | none =>
    if (buckets item.key).any (fun stored => verify stored item) = false then
      (⟨buckets, intended⟩, promoted, .raised)
    else
    match turn.faultAt .journal with
    | some fault => (⟨buckets, intended⟩, promoted, fault.ending)
    | none =>
      promote turns ⟨buckets, journalled world.journal item version⟩ ((turn, version) :: promoted)

def deleteObject (buckets : Buckets) (key : Key) (version : String) : Buckets :=
  if (buckets key).any fun stored => version = "" || stored.version = version then
    update buckets key none
  else buckets

def rollbackPromoted : List (Turn × String) → World → World
  | [], world => world
  | (turn, version) :: promoted, world =>
    rollbackPromoted promoted <|
      if turn.reverted then
        { buckets := deleteObject world.buckets turn.item.key version
          journal := world.journal ++
            [.rolledBack turn.item.bucketKind turn.item.finalKey version] }
      else world

def promoteObjects (world : World) (turns : List Turn) : World × Ending :=
  match promote turns world [] with
  | (world, promoted, .raised) => (rollbackPromoted promoted world, .raised)
  | (world, _, ending) => (world, ending)

/-- An attempt, or a wait that replaces the journal. -/
inductive Op where
  | promote (turns : List Turn)
  | dependencyWait

def step (world : World) : Op → Except String World
  | .promote turns => pure (promoteObjects world turns).1
  | .dependencyWait => pure { world with journal := [.dependencyWait] }

section

variable {turn : Turn} {turns : List Turn} {world : World} {promoted : List (Turn × String)}
  {buckets : Buckets} {item : StagedObject} {version : String}

theorem createFinal_eq_some {after : Buckets} {found : String}
    {allowed : Bool} :
    createFinal buckets item version allowed = some (after, found) ↔
      (buckets item.key = none ∧ after = update buckets item.key (some (item.stored version)) ∧
          found = version) ∨
        ∃ stored, buckets item.key = some stored ∧ allowed = true ∧ verify stored item = true ∧
          after = buckets ∧ found = "" := by
  unfold createFinal
  split
  next hfree =>
    rw [hfree, some.injEq, Prod.mk.injEq]
    constructor
    · rintro ⟨rfl, rfl⟩
      exact .inl ⟨rfl, rfl, rfl⟩
    · rintro (⟨-, rfl, rfl⟩ | ⟨_, hnone, -⟩)
      · exact ⟨rfl, rfl⟩
      · cases hnone
  next stored hstored =>
    rw [hstored]
    constructor
    · intro h
      split at h
      next haccept =>
        obtain ⟨rfl, rfl⟩ := Prod.mk.inj (some.inj h)
        rw [Bool.and_eq_true] at haccept
        exact .inr ⟨stored, rfl, haccept.1, haccept.2, rfl, rfl⟩
      next => cases h
    · rintro (⟨hnone, -⟩ | ⟨_, hsome, hallowed, hverify, rfl, rfl⟩)
      · cases hnone
      · cases hsome
        rw [hallowed, hverify]
        rfl

/-- What the loop does with a turn. -/
def outcome (world : World) (turn : Turn) : Option (Buckets × String) :=
  createFinal world.buckets turn.item turn.version (allowExisting world.journal turn.item)

theorem faultAt_eq_some {stage : Stage} {fault : Fault} (h : turn.faultAt stage = some fault) :
    turn.fault = some fault :=
  (filter_eq_some_iff.mp h).1

theorem promote_cons (turn : Turn) (turns : List Turn) (world : World)
    (promoted : List (Turn × String)) :
    (∃ ending buckets journal, ending ≠ .completed ∧
        (buckets = world.buckets ∨ ∃ version, outcome world turn = some (buckets, version)) ∧
        promote (turn :: turns) world promoted = (⟨buckets, journal⟩, promoted, ending) ∧
        (ending = .raised → (∃ fault, turn.fault = some fault ∧ fault.interrupted = false) ∨
          outcome world turn = none ∨ ∃ buckets version, outcome world turn = some (buckets, version) ∧
            (buckets turn.item.key).any (fun stored => verify stored turn.item) = false)) ∨
      ∃ buckets version, outcome world turn = some (buckets, version) ∧
        (buckets turn.item.key).any (fun stored => verify stored turn.item) = true ∧
        promote (turn :: turns) world promoted =
          promote turns ⟨buckets, journalled world.journal turn.item version⟩
            ((turn, version) :: promoted) := by
  have hending : ∀ fault : Fault, fault.ending ≠ .completed := by
    intro fault
    unfold Fault.ending
    split <;> nofun
  have hraised : ∀ {stage : Stage} {fault : Fault}, turn.faultAt stage = some fault →
      fault.ending = .raised → ∃ fault, turn.fault = some fault ∧ fault.interrupted = false := by
    intro stage fault hfault hended
    refine ⟨fault, faultAt_eq_some hfault, ?_⟩
    unfold Fault.ending at hended
    split at hended
    next => cases hended
    next hnot => simpa using hnot
  have hfaulted : ∀ {stage : Stage} {fault : Fault} {buckets : Buckets} {journal : List Event},
      turn.faultAt stage = some fault →
      (buckets = world.buckets ∨ ∃ version, outcome world turn = some (buckets, version)) →
      promote (turn :: turns) world promoted = (⟨buckets, journal⟩, promoted, fault.ending) →
      ∃ ending buckets journal, ending ≠ .completed ∧
        (buckets = world.buckets ∨ ∃ version, outcome world turn = some (buckets, version)) ∧
        promote (turn :: turns) world promoted = (⟨buckets, journal⟩, promoted, ending) ∧
        (ending = .raised → (∃ fault, turn.fault = some fault ∧ fault.interrupted = false) ∨
          outcome world turn = none ∨ ∃ buckets version, outcome world turn = some (buckets, version) ∧
            (buckets turn.item.key).any (fun stored => verify stored turn.item) = false) :=
    fun hfault hbuckets hstop =>
      ⟨_, _, _, hending _, hbuckets, hstop, fun h => .inl (hraised hfault h)⟩
  cases hintent : turn.faultAt .intent with
  | some =>
    exact .inl (hfaulted hintent (.inl rfl) (by simp only [promote, hintent]; rfl))
  | none =>
  cases hput : turn.faultAt .put with
  | some =>
    exact .inl (hfaulted hput (.inl rfl) (by simp only [promote, hintent, hput]; rfl))
  | none =>
  cases hcreate : outcome world turn with
  | none =>
    have hcreate' := hcreate
    unfold outcome at hcreate'
    exact .inl ⟨.raised, _, _, nofun, .inl rfl, by simp only [promote, hintent, hput, hcreate']; rfl,
      fun _ => .inr (.inl rfl)⟩
  | some created =>
  obtain ⟨buckets, version⟩ := created
  have hcreate' := hcreate
  unfold outcome at hcreate'
  rw [hcreate] at hfaulted
  cases hverify : turn.faultAt .verify with
  | some =>
    exact .inl (hfaulted hverify (.inr ⟨version, rfl⟩)
      (by simp only [promote, hintent, hput, hcreate', hverify]; rfl))
  | none =>
  by_cases hfails : (buckets turn.item.key).any (fun stored => verify stored turn.item) = false
  · exact .inl ⟨.raised, _, _, nofun, .inr ⟨version, rfl⟩,
      by simp only [promote, hintent, hput, hcreate', hverify, if_pos hfails]; rfl,
      fun _ => .inr (.inr ⟨buckets, version, rfl, hfails⟩)⟩
  cases hjournal : turn.faultAt .journal with
  | some =>
    exact .inl (hfaulted hjournal (.inr ⟨version, rfl⟩)
      (by simp only [promote, hintent, hput, hcreate', hverify, if_neg hfails, hjournal]; rfl))
  | none =>
    exact .inr ⟨buckets, version, rfl, by simpa using hfails,
      by simp [promote, hintent, hput, hcreate', hverify, if_neg hfails, hjournal]⟩

theorem outcome_kept
    (h : outcome world turn = some (buckets, version)) {key : Key} {stored : StoredObject}
    (hstored : world.buckets key = some stored) : buckets key = some stored := by
  rcases createFinal_eq_some.mp h with ⟨hfree, rfl, -⟩ | ⟨_, -, -, -, rfl, -⟩
  · rw [update_of_ne]
    · exact hstored
    · rintro rfl
      rw [hfree] at hstored
      cases hstored
  · exact hstored

/-- Nothing that stands under a key changes while objects are promoted. -/
theorem promote_kept {key : Key} {stored : StoredObject}
    (hstored : world.buckets key = some stored) :
    (promote turns world promoted).1.buckets key = some stored := by
  induction turns generalizing world promoted with
  | nil => exact hstored
  | cons turn turns ih =>
    rcases promote_cons turn turns world promoted with
      ⟨_, _, _, -, hbuckets, hstop, -⟩ | ⟨_, version, hsome, -, hnext⟩
    · rw [hstop]
      rcases hbuckets with rfl | ⟨_, hsome⟩
      · exact hstored
      · exact outcome_kept hsome hstored
    · rw [hnext]
      exact ih (outcome_kept hsome hstored)

/-- A completed loop leaves verified objects. -/
theorem promote_completed (h : (promote turns world promoted).2.2 = .completed) :
    ∀ turn ∈ turns, ∃ stored, (promote turns world promoted).1.buckets turn.item.key = some stored ∧
      verify stored turn.item = true := by
  induction turns generalizing world promoted with
  | nil => nofun
  | cons turn turns ih =>
    rcases promote_cons turn turns world promoted with
      ⟨_, _, _, hending, -, hstop, -⟩ | ⟨_, _, -, hverify, hnext⟩
    · rw [hstop] at h
      exact (hending h).elim
    · rw [hnext] at h ⊢
      rw [forall_mem_cons]
      refine ⟨?_, ih h⟩
      obtain ⟨stored, hstored, hverified⟩ := (Option.any_eq_true _ _).mp hverify
      exact ⟨stored, promote_kept hstored, hverified⟩

variable {start world : World}

/-- A turn would accept an object of others. -/
def AcceptsForeign (world : World) (turn : Turn) : Prop :=
  ∃ stored, world.buckets turn.item.key = some stored ∧ stored.byMerge = false ∧
    verify stored turn.item = true ∧ allowExisting world.journal turn.item = true

/-- The items have keys of their own, free or with accepted objects. -/
structure Undisturbed (world : World) (turns : List Turn) : Prop where
  faults : ∀ turn ∈ turns, ∀ fault, turn.fault = some fault → fault.interrupted = true
  keys : (turns.map fun turn => turn.item.key).Nodup
  fits : ∀ turn ∈ turns,
    (world.buckets turn.item.key = none ∧ verify (turn.item.stored turn.version) turn.item = true) ∨
      ∃ stored, world.buckets turn.item.key = some stored ∧ verify stored turn.item = true ∧
        allowExisting world.journal turn.item = true

/-- No accepted object of others can be rolled back. -/
def Harmless (world : World) : Op → Prop
  | .promote turns =>
    (∀ turn ∈ turns, AcceptsForeign world turn → turn.reverted = false) ∨ Undisturbed world turns
  | .dependencyWait => True

/-- Seen from the start of an attempt: no foreign object comes up or is journalled, and rollbacks
delete the merge's own. -/
structure During (start world : World) (promoted : List (Turn × String)) : Prop where
  foreign : ∀ key stored, world.buckets key = some stored → stored.byMerge = false →
    start.buckets key = some stored
  intents : ∀ item stored, world.buckets item.key = some stored → stored.byMerge = false →
    allowExisting world.journal item = true → allowExisting start.journal item = true
  own : ∀ entry ∈ promoted, entry.1.reverted = true → ∀ stored,
    world.buckets entry.1.item.key = some stored → stored.byMerge = true

theorem allowExisting_journalled {journal : List Event} {other : StagedObject} :
    allowExisting (journalled journal other version) item = true ↔
      allowExisting journal item = true ∨ item.key = other.key ∧ item.sha256 = other.sha256 := by
  simp [allowExisting, journalled, StagedObject.key, and_assoc]

theorem During.next (h : During start world promoted)
    (hharmless : AcceptsForeign start turn → turn.reverted = false)
    (hsome : outcome world turn = some (buckets, version)) :
    During start ⟨buckets, journalled world.journal turn.item version⟩
      ((turn, version) :: promoted) := by
  rcases createFinal_eq_some.mp hsome with ⟨_, rfl, rfl⟩ |
    ⟨stored, hstored, hallowed, hverify, rfl, rfl⟩
  · -- the put creates an object of the merge
    have hother : ∀ {key stored}, update world.buckets turn.item.key
        (some (turn.item.stored turn.version)) key = some stored → stored.byMerge = false →
        key ≠ turn.item.key ∧ world.buckets key = some stored := by
      intro key stored hstored hforeign
      by_cases hkey : key = turn.item.key
      · subst hkey
        rw [update_self] at hstored
        cases hstored
        cases hforeign
      · rw [update_of_ne hkey] at hstored
        exact ⟨hkey, hstored⟩
    refine ⟨fun key stored hstored hforeign => ?_, fun item stored hstored hforeign hallowed => ?_,
      ?_⟩
    · exact h.foreign key stored (hother hstored hforeign).2 hforeign
    · obtain ⟨hkey, hstored⟩ := hother hstored hforeign
      rcases allowExisting_journalled.mp hallowed with hold | ⟨hsame, -⟩
      · exact h.intents item stored hstored hforeign hold
      · exact (hkey hsame).elim
    · intro entry hmem hreverted stored hstored
      by_contra hforeign
      obtain ⟨hkey, hstored⟩ := hother hstored (by simpa using hforeign)
      rcases mem_cons.mp hmem with rfl | hmem
      · exact hkey rfl
      · exact hforeign (h.own entry hmem hreverted stored hstored)
  · -- the object under the key is accepted
    have haccepts : stored.byMerge = false → AcceptsForeign start turn := fun hforeign =>
      ⟨stored, h.foreign _ stored hstored hforeign, hforeign, hverify,
        h.intents turn.item stored hstored hforeign hallowed⟩
    refine ⟨h.foreign, fun item other hother hforeign hallowed' => ?_, ?_⟩
    · rcases allowExisting_journalled.mp hallowed' with hold | ⟨hkey, hsha⟩
      · exact h.intents item other hother hforeign hold
      · refine h.intents item other hother hforeign ?_
        have hsame : Event.promotionIntent item.bucketKind item.finalKey item.sha256 =
            .promotionIntent turn.item.bucketKind turn.item.finalKey turn.item.sha256 := by
          obtain ⟨hbucket, hfinal⟩ := Prod.mk.inj hkey
          rw [hbucket, hfinal, hsha]
        rw [allowExisting, hsame]
        exact hallowed
    · intro entry hmem hreverted other hother
      rcases mem_cons.mp hmem with rfl | hmem
      · by_contra hforeign
        have hsame := hstored.symm.trans hother
        cases hsame
        rw [hharmless (haccepts (by simpa using hforeign))] at hreverted
        cases hreverted
      · exact h.own entry hmem hreverted other hother

theorem promote_own (h : During start world promoted)
    (hharmless : ∀ turn ∈ turns, AcceptsForeign start turn → turn.reverted = false) :
    ∀ entry ∈ (promote turns world promoted).2.1, entry.1.reverted = true → ∀ stored,
      (promote turns world promoted).1.buckets entry.1.item.key = some stored →
      stored.byMerge = true := by
  induction turns generalizing world promoted with
  | nil => exact h.own
  | cons turn turns ih =>
    rw [forall_mem_cons] at hharmless
    rcases promote_cons turn turns world promoted with
      ⟨_, _, _, -, hbuckets, hstop, -⟩ | ⟨_, version, hsome, -, hnext⟩
    · rw [hstop]
      rcases hbuckets with rfl | ⟨_, hsome⟩
      · exact h.own
      · exact fun entry hmem =>
          (h.next hharmless.1 hsome).own entry (mem_cons_of_mem _ hmem)
    · rw [hnext]
      exact ih (h.next hharmless.1 hsome) hharmless.2

theorem rollback_kept (h : ∀ entry ∈ promoted, entry.1.reverted = true → ∀ stored,
      world.buckets entry.1.item.key = some stored → stored.byMerge = true)
    {key : Key} {stored : StoredObject} (hstored : world.buckets key = some stored)
    (hforeign : stored.byMerge = false) :
    (rollbackPromoted promoted world).buckets key = some stored := by
  induction promoted generalizing world with
  | nil => exact hstored
  | cons entry _ ih =>
    obtain ⟨turn, version⟩ := entry
    rw [forall_mem_cons] at h
    rw [rollbackPromoted]
    split
    next hreverted =>
      have hdelete : ∀ other object,
          deleteObject world.buckets turn.item.key version other = some object →
          world.buckets other = some object := by
        intro other object hobject
        unfold deleteObject at hobject
        split at hobject
        next =>
          by_cases hother : other = turn.item.key
          · subst hother
            rw [update_self] at hobject
            cases hobject
          · rwa [update_of_ne hother] at hobject
        next => exact hobject
      refine ih (fun entry hmem hentry object hobject =>
        h.2 entry hmem hentry object (hdelete _ object hobject)) ?_
      have hkey : key ≠ turn.item.key := by
        rintro rfl
        have hown := h.1 hreverted stored hstored
        rw [hforeign] at hown
        cases hown
      show deleteObject world.buckets turn.item.key version key = some stored
      unfold deleteObject
      split
      next => rwa [update_of_ne hkey]
      next => exact hstored
    next => exact ih h.2 hstored

theorem promote_undisturbed (h : Undisturbed world turns) :
    (promote turns world promoted).2.2 ≠ .raised := by
  induction turns generalizing world promoted with
  | nil => nofun
  | cons turn turns ih =>
    obtain ⟨hfaults, hkeys, hfits⟩ := h
    rw [forall_mem_cons] at hfaults hfits
    rw [map_cons, nodup_cons] at hkeys
    have hsome : ∃ buckets version, outcome world turn = some (buckets, version) ∧
        (buckets turn.item.key).any (fun stored => verify stored turn.item) = true := by
      rcases hfits.1 with ⟨hfree, hverify⟩ | ⟨stored, hstored, hverify, hallowed⟩
      · refine ⟨_, _, createFinal_eq_some.mpr (.inl ⟨hfree, rfl, rfl⟩), ?_⟩
        rw [update_self]
        exact hverify
      · refine ⟨_, _, createFinal_eq_some.mpr
          (.inr ⟨stored, hstored, hallowed, hverify, rfl, rfl⟩), ?_⟩
        rw [hstored]
        exact hverify
    obtain ⟨buckets, _, hsome, hverify⟩ := hsome
    rcases promote_cons turn turns world promoted with
      ⟨_, _, _, -, -, hstop, hraised⟩ | ⟨_, _, hsome', -, hnext⟩
    · rw [hstop]
      intro hended
      rcases hraised hended with ⟨fault, hfault, hnot⟩ | hnone | ⟨_, _, hother, hfails⟩
      · rw [hfaults.1 fault hfault] at hnot
        cases hnot
      · rw [hsome] at hnone
        cases hnone
      · rw [hsome] at hother
        cases hother
        rw [hverify] at hfails
        cases hfails
    · rw [hsome] at hsome'
      cases hsome'
      rw [hnext]
      refine ih ⟨hfaults.2, hkeys.2, fun other hmem => ?_⟩
      have hkey : other.item.key ≠ turn.item.key := fun heq =>
        hkeys.1 (mem_map.mpr ⟨other, hmem, heq⟩)
      have hsame : buckets other.item.key = world.buckets other.item.key := by
        rcases createFinal_eq_some.mp hsome with ⟨-, rfl, -⟩ | ⟨_, -, -, -, rfl, -⟩
        · rw [update_of_ne hkey]
        · rfl
      rcases hfits.2 other hmem with ⟨hfree, hverifies⟩ | ⟨stored, hstored, hverifies, hallowed⟩
      · exact .inl ⟨hsame.trans hfree, hverifies⟩
      · exact .inr ⟨stored, hsame.trans hstored, hverifies,
          allowExisting_journalled.mpr (.inl hallowed)⟩

theorem promoteObjects_kept (h : Harmless world (.promote turns)) {key : Key}
    {stored : StoredObject} (hstored : world.buckets key = some stored)
    (hforeign : stored.byMerge = false) :
    (promoteObjects world turns).1.buckets key = some stored := by
  have hkept : (promote turns world []).1.buckets key = some stored := promote_kept hstored
  unfold promoteObjects
  split
  next after promoted hraised =>
    rw [hraised] at hkept
    rcases h with hharmless | hundisturbed
    · have hstart : During world world [] :=
        ⟨fun _ _ h _ => h, fun _ _ _ _ h => h, fun _ h => absurd h not_mem_nil⟩
      have hown := promote_own hstart hharmless
      rw [hraised] at hown
      exact rollback_kept hown hkept hforeign
    · have hnot : (promote turns world []).2.2 ≠ .raised := promote_undisturbed hundisturbed
      rw [hraised] at hnot
      exact (hnot rfl).elim
  next after promoted ending hnot hended =>
    rw [hended] at hkept
    exact hkept

theorem promoteObjects_completed (h : (promoteObjects world turns).2 = .completed) :
    ∀ turn ∈ turns, ∃ stored, (promoteObjects world turns).1.buckets turn.item.key = some stored ∧
      verify stored turn.item = true := by
  unfold promoteObjects at h ⊢
  split at h
  next => cases h
  next after promoted ending hnot hended =>
    have hcompleted : (promote turns world []).2.2 = .completed := by rw [hended]; exact h
    have hstored := promote_completed hcompleted
    rw [hended] at hstored
    exact hstored

/-- Harmless attempts leave foreign objects alone, and a completed one leaves the slice's objects.
-/
theorem promotion_fill_only (world : World) (ops : List Op)
    (h : Throughout step Harmless world ops) :
    (∀ key stored, world.buckets key = some stored → stored.byMerge = false →
        (run step world ops).buckets key = some stored) ∧
      ∀ earlier turns later, ops = earlier ++ .promote turns :: later →
        (promoteObjects (run step world earlier) turns).2 = .completed →
        ∀ turn ∈ turns, ∃ stored,
          (promoteObjects (run step world earlier) turns).1.buckets turn.item.key = some stored ∧
            verify stored turn.item = true := by
  refine ⟨fun key stored hstored hforeign => ?_, fun _ _ _ _ => promoteObjects_completed⟩
  refine run_preserves_throughout (I := fun world => world.buckets key = some stored) ?_ hstored h
  intro world op after hstored hharmless hstep
  cases op with
  | promote =>
    obtain rfl := pure_ok.mp hstep
    exact promoteObjects_kept hharmless hstored hforeign
  | dependencyWait =>
    obtain rfl := pure_ok.mp hstep
    exact hstored

end

def photo (name sha256 : String) : StagedObject :=
  ⟨"private", name, 3, sha256, [], "image/png", []⟩

def plainTurn (item : StagedObject) : Turn :=
  ⟨item, none, "", true⟩

/-- The second photo is there; under the third key stands another. -/
def occupiedBuckets : Buckets := fun key =>
  if key = ("private", "second.png") then
    some { (photo "second.png" "b2").stored "" with byMerge := false }
  else if key = ("private", "third.png") then
    some { (photo "third.png" "ff").stored "" with byMerge := false }
  else none

def threePhotos : List Turn :=
  [plainTurn (photo "first.png" "a1"), plainTurn (photo "second.png" "b2"),
    plainTurn (photo "third.png" "c3")]

theorem first_attempt_fill_only :
    Throughout step Harmless ⟨occupiedBuckets, []⟩ [.promote threePhotos] ∧
      ∀ key stored, occupiedBuckets key = some stored → stored.byMerge = false →
        (run step ⟨occupiedBuckets, []⟩ [.promote threePhotos]).buckets key = some stored := by
  have hharmless : Throughout step Harmless ⟨occupiedBuckets, []⟩ [.promote threePhotos] := by
    refine ⟨.inl ?_, trivial⟩
    rintro _ - ⟨_, -, -, -, hallowed⟩
    cases hallowed
  exact ⟨hharmless, (promotion_fill_only ⟨occupiedBuckets, []⟩ [.promote threePhotos] hharmless).1⟩

theorem accepted_photo_is_deleted :
    (occupiedBuckets ("private", "second.png")).map (fun stored => stored.byMerge) = some false ∧
      (run step ⟨occupiedBuckets, []⟩ [.promote threePhotos]).buckets ("private", "second.png") =
        occupiedBuckets ("private", "second.png") ∧
      (run step ⟨occupiedBuckets, []⟩ [.promote threePhotos, .promote threePhotos]).buckets
        ("private", "second.png") = none := by
  decide

end Promotion
end SpaceWorks
