import SpaceWorks.Host.RunLedger

/-!
# The journalled pointer cutover

`journalled_cutover` and `rollback_cutover` of `compound_restore_cutover.py`, with
`compound_restore_pointer.py`, `host_pointer.py` and `compound_restore_ledger.py`.  A pointer file
is checked and replaced in two steps, an external store swaps in one.
-/

namespace SpaceWorks
namespace Cutovers

open Checked

structure PointerRecord where
  databaseUrl : String
  generation : Nat
  deriving DecidableEq

/-- `VersionedPointer`; nothing reads the version of a file. -/
structure VersionedPointer where
  record : PointerRecord
  storeVersion : String
  deriving DecidableEq

inductive Adapter where
  | file
  | external

def validatePointer (record : PointerRecord) : Except String Unit := do
  require (record.databaseUrl ≠ "") "Database pointer URL is missing."
  require (1 ≤ record.generation) "Database pointer generation must be positive."

/-- `pointer_text`, as far as it refuses. -/
def pointerText (record : PointerRecord) : Except String Unit := do
  validatePointer record
  require ((record.databaseUrl.toList.any fun c => c == '\n' || c == '\r' || c == '\'') = false)
    "Database pointer URL cannot be safely encoded."

section Details

structure DurableKey where
  endpoint : String
  databaseName : String
  databaseUuid : String
  databaseOid : Int
  tlsIdentity : String
  deriving DecidableEq

structure OwnershipProof where
  identity : DurableKey
  createdByThisRun : Bool
  ownerMarker : String
  empty : Bool
  nonRoutable : Bool
  deriving DecidableEq

structure ObjectEffect where
  bucket : String
  key : String
  digest : String
  outcome : String
  deriving DecidableEq

/-- What a cutover journals, with values `γ`. -/
structure Detail (γ : Type) where
  oldStoreVersion : Option String
  oldDatabaseUrl : String
  newDatabaseUrl : String
  oldGeneration : Nat
  newGeneration : Nat
  newDatabaseIdentity : DurableKey
  siblingOwnershipProof : OwnershipProof
  grantState : List (String × γ)
  objectEffects : List ObjectEffect
  deriving DecidableEq

structure RollbackDetail (γ : Type) where
  oldDatabaseUrl : String
  newDatabaseUrl : String
  siblingOwnershipProof : OwnershipProof
  objectEffects : List ObjectEffect
  candidateRetained : Bool
  reversedObjectEffects : Option (List γ)
  deriving DecidableEq

variable {γ : Type}

def Detail.oldRecord (detail : Detail γ) : PointerRecord :=
  ⟨detail.oldDatabaseUrl, detail.oldGeneration⟩

def Detail.newRecord (detail : Detail γ) : PointerRecord :=
  ⟨detail.newDatabaseUrl, detail.newGeneration⟩

def ObjectEffect.Complete (item : ObjectEffect) : Prop :=
  (item.outcome = "created_by_this_run" ∨ item.outcome = "accepted_existing") ∧
    item.bucket ≠ "" ∧ item.key ≠ "" ∧
    item.digest.length = 64 ∧
    (item.digest.toList.all fun c => "0123456789abcdef".toList.contains c) = true ∧
    item.key.startsWith "/" = false ∧ ".." ∉ item.key.splitOn "/"

instance (item : ObjectEffect) : Decidable item.Complete := by
  unfold ObjectEffect.Complete
  infer_instance

/-- `validate_object_effects`, of the effects after those in `seen`. -/
def validateObjectEffects (seen : List (String × String)) : List ObjectEffect → Except String Unit
  | [] => .ok ()
  | item :: effects => do
    require (item.Complete ∧ (item.bucket, item.key) ∉ seen)
      "The main-object effect plan is incomplete or duplicated."
    validateObjectEffects ((item.bucket, item.key) :: seen) effects

def JournalSafe (url : String) : Prop :=
  (url.toList.any fun c => c == '\n' || c == '\r' || c == '\x00') = false

instance (url : String) : Decidable (JournalSafe url) := by
  unfold JournalSafe
  infer_instance

def validateJournalDetail (detail : Detail γ) : Except String Unit := do
  require (detail.oldDatabaseUrl ≠ "" ∧ detail.newDatabaseUrl ≠ "")
    "The compound cutover URLs are missing."
  require (JournalSafe detail.oldDatabaseUrl ∧ JournalSafe detail.newDatabaseUrl)
    "A compound cutover URL is not journal-safe."
  require (1 ≤ detail.oldGeneration ∧ detail.newGeneration = detail.oldGeneration + 1)
    "The compound cutover generation is invalid or non-monotonic."
  require (detail.siblingOwnershipProof.identity = detail.newDatabaseIdentity ∧
      detail.grantState.isEmpty = false)
    "The compound ownership or grant journal is incomplete."
  validateObjectEffects [] detail.objectEffects

theorem newGeneration_of_validate {detail : Detail γ} (h : validateJournalDetail detail = .ok ()) :
    detail.newGeneration = detail.oldGeneration + 1 := by
  simp only [validateJournalDetail, bind_ok, require_ok] at h
  obtain ⟨_, _, _, _, _, ⟨_, hnew⟩, _⟩ := h
  exact hnew

end Details

section Journals

/-- A row of the run ledger, of one phase. -/
structure Row (δ : Type) where
  state : Host.State
  attempt : Nat
  detail : δ
  deriving DecidableEq

variable {δ : Type}

def doneDetail (rows : List (Row δ)) : Option δ :=
  ((rows.filter fun row => row.state = .done).getLast?).map Row.detail

def incomplete (rows : List (Row δ)) : Option (Row δ) :=
  let completed := (rows.filter fun row => row.state = .done).map Row.attempt
  (rows.filter fun row => row.state = .begun && row.attempt ∉ completed).getLast?

def begin (rows : List (Row δ)) (detail : δ) : Except String (Row δ × List (Row δ)) := do
  require (∀ row ∈ rows, row.state ≠ .done) "Completed run phase cannot be repeated."
  let row : Row δ := ⟨.begun, (rows.filter fun row => row.state = .begun).length + 1, detail⟩
  pure (row, rows ++ [row])

def finish [DecidableEq δ] (rows : List (Row δ)) (begun : Row δ) (detail : δ) :
    Except String (List (Row δ)) := do
  require (begun.state = .begun) "Only a begun effect can be completed."
  require ((rows.filter fun row => row.attempt = begun.attempt && row.state = .begun) = [begun])
    "Effect completion does not match its begun record."
  require (∀ row ∈ rows, row.attempt = begun.attempt → row.state ≠ .done)
    "Effect attempt is already complete."
  pure (rows ++ [⟨.done, begun.attempt, detail⟩])

def attemptOf (detail : δ) : Row δ := ⟨.begun, 1, detail⟩

def endOf (finished : δ) : Row δ := ⟨.done, 1, finished⟩

@[simp] theorem detail_attemptOf (detail : δ) : (attemptOf detail).detail = detail := rfl

/-- The journal of a phase: never begun, begun, or done. -/
inductive Journal : List (Row δ) → Prop
  | nil : Journal []
  | begun (detail : δ) : Journal [attemptOf detail]
  | done (detail finished : δ) : Journal [attemptOf detail, endOf finished]

@[simp] theorem doneDetail_nil : doneDetail ([] : List (Row δ)) = none := rfl

@[simp] theorem doneDetail_begun (detail : δ) : doneDetail [attemptOf detail] = none := rfl

@[simp] theorem doneDetail_done (detail finished : δ) :
    doneDetail [attemptOf detail, endOf finished] = some finished := rfl

@[simp] theorem incomplete_nil : incomplete ([] : List (Row δ)) = none := rfl

@[simp] theorem incomplete_begun (detail : δ) :
    incomplete [attemptOf detail] = some (attemptOf detail) := rfl

@[simp] theorem begin_nil (detail : δ) :
    begin [] detail = .ok (attemptOf detail, [attemptOf detail]) := rfl

@[simp] theorem finish_begun [DecidableEq δ] (detail finished : δ) :
    finish [attemptOf detail] (attemptOf detail) finished =
      .ok [attemptOf detail, endOf finished] := by
  simp [finish, attemptOf, endOf, require, pure, Except.pure, bind, Except.bind]

theorem Journal.eq_attemptOf {begun : Row δ} (h : Journal [begun]) :
    begun = attemptOf begun.detail := by
  cases h
  rfl

end Journals

section Processes

inductive Effect where
  | cutover
  | rollback
  deriving DecidableEq

inductive Writer where
  | run (effect : Effect)
  | other
  deriving DecidableEq

structure Change where
  writer : Writer
  before : VersionedPointer
  after : VersionedPointer
  deriving DecidableEq

/-- The pointer and ledger, with past pointers and changes, newest first. -/
structure Store (γ : Type) where
  current : VersionedPointer
  past : List VersionedPointer
  changes : List Change
  cutover : List (Row (Detail γ))
  rollback : List (Row (RollbackDetail γ))

/-- What the runs are given, with the adapters' answers. -/
structure Restore (γ : Type) where
  adapter : Adapter
  runtimeUrl : String
  identity : DurableKey
  ownershipProof : OwnershipProof
  grantState : List (String × γ)
  objectEffects : List ObjectEffect
  queryIdentity : DurableKey
  dropCandidate : Bool
  owns : OwnershipProof → Bool
  reverse : List ObjectEffect → List γ

variable {γ : Type}

namespace Store

def versions (store : Store γ) : List String :=
  (store.current :: store.past).map VersionedPointer.storeVersion

def write (store : Store γ) (writer : Writer) (pointer : VersionedPointer) : Store γ :=
  { store with
    current := pointer
    past := store.current :: store.past
    changes := ⟨writer, store.current, pointer⟩ :: store.changes }

def recordMatches (store : Store γ) (detail : Detail γ) : Prop :=
  store.current.record = detail.newRecord

/-- `record_matches` of a pointer that was rolled back. -/
def rolledBack (store : Store γ) (detail : Detail γ) : Prop :=
  store.current.record.databaseUrl = detail.oldDatabaseUrl ∧
    detail.newGeneration < store.current.record.generation

instance (store : Store γ) (detail : Detail γ) : Decidable (store.recordMatches detail) := by
  unfold recordMatches
  infer_instance

instance (store : Store γ) (detail : Detail γ) : Decidable (store.rolledBack detail) := by
  unfold rolledBack
  infer_instance

end Store

/-- A write that a compare-and-swap asks for. -/
structure Swap where
  record : PointerRecord
  expectedGeneration : Nat
  expectedVersion : Option String

def Detail.swap (detail : Detail γ) : Swap :=
  ⟨detail.newRecord, detail.oldGeneration, detail.oldStoreVersion⟩

def Detail.reversal (detail : Detail γ) (seen : VersionedPointer) : Swap :=
  ⟨⟨detail.oldDatabaseUrl, seen.record.generation + 1⟩, seen.record.generation,
    some seen.storeVersion⟩

def checkSwap (adapter : Adapter) (current : VersionedPointer) (swap : Swap) :
    Except String Unit :=
  match adapter with
  | .file => do
    validatePointer swap.record
    require (current.record.generation = swap.expectedGeneration)
      "Database pointer expected generation is stale."
    require (current.record.generation < swap.record.generation)
      "Database pointer generation must increase monotonically."
  | .external => do
    require (some current.storeVersion = swap.expectedVersion)
      "External pointer expected version is stale."
    validatePointer swap.record
    require (current.record.generation < swap.record.generation)
      "External pointer generation must increase monotonically."

/-- `os.replace` without a generation, or the store's swap. -/
def replacePointer (adapter : Adapter) (store : Store γ) (effect : Effect) (swap : Swap)
    (version : String) : Except String (Store γ) := do
  match adapter with
  | .file => pointerText swap.record
  | .external =>
    require (some store.current.storeVersion = swap.expectedVersion)
      "The pointer store refused the swap."
  pure (store.write (.run effect) ⟨swap.record, version⟩)

inductive Stage (γ : Type) where
  | idle
  | start (effect : Effect)
  | completed (detail : Detail γ)
  | acknowledge (detail : Detail γ)
  | capture
  | journal (detail : Detail γ)
  | resume (begun : Row (Detail γ))
  | swap (begun : Row (Detail γ))
  | replace (begun : Row (Detail γ))
  | confirm (begun : Row (Detail γ))
  | live (begun : Row (Detail γ))
  | finish (begun : Row (Detail γ))
  | journalRollback (cutover : Detail γ)
  | inspect (cutover : Detail γ) (begun : Row (RollbackDetail γ))
  | reverse (cutover : Detail γ) (begun : Row (RollbackDetail γ))
  | swapBack (cutover : Detail γ) (begun : Row (RollbackDetail γ)) (seen : VersionedPointer)
  | replaceBack (cutover : Detail γ) (begun : Row (RollbackDetail γ)) (seen : VersionedPointer)
  | verify (cutover : Detail γ) (begun : Row (RollbackDetail γ))
  | reverseObjects (cutover : Detail γ) (begun : Row (RollbackDetail γ))
  | finishRollback (begun : Row (RollbackDetail γ)) (reversed : List γ)
  | returned
  | refused (message : String)

def Stage.Over : Stage γ → Prop
  | .returned => True
  | .refused _ => True
  | _ => False

instance (stage : Stage γ) : Decidable stage.Over := by
  cases stage <;> unfold Stage.Over <;> infer_instance

def Stage.Replaces : Stage γ → Prop
  | .replace _ => True
  | .replaceBack _ _ _ => True
  | _ => False

instance (stage : Stage γ) : Decidable stage.Replaces := by
  cases stage <;> unfold Stage.Replaces <;> infer_instance

/-- Go on if `result` does not refuse. -/
def proceed (result : Except String Unit) (stage : Stage γ) : Stage γ :=
  match result with
  | .ok _ => stage
  | .error message => .refused message

variable (restore : Restore γ)

/-- `cutover_detail`, with the facts that `journalled_cutover` adds. -/
def cutoverDetail (current : VersionedPointer) : Detail γ where
  oldStoreVersion :=
    match restore.adapter with
    | .file => none
    | .external => some current.storeVersion
  oldDatabaseUrl := current.record.databaseUrl
  newDatabaseUrl := restore.runtimeUrl
  oldGeneration := current.record.generation
  newGeneration := current.record.generation + 1
  newDatabaseIdentity := restore.identity
  siblingOwnershipProof := restore.ownershipProof
  grantState := restore.grantState
  objectEffects := restore.objectEffects

def rollbackDetail (cutover : Detail γ) : RollbackDetail γ where
  oldDatabaseUrl := cutover.oldDatabaseUrl
  newDatabaseUrl := cutover.newDatabaseUrl
  siblingOwnershipProof := cutover.siblingOwnershipProof
  objectEffects := cutover.objectEffects
  candidateRetained := true
  reversedObjectEffects := none

def assertLiveCandidate (detail : Detail γ) : Except String Unit :=
  require (restore.queryIdentity = detail.newDatabaseIdentity)
    "The pointer target does not match the queried candidate identity."

def startCutover (store : Store γ) : Stage γ :=
  match doneDetail store.cutover, incomplete store.cutover with
  | some completed, _ => proceed (validateJournalDetail completed) (.completed completed)
  | none, some prior => proceed (validateJournalDetail prior.detail) (.resume prior)
  | none, none => .capture

/-- The checks of `rollback_cutover` on the completed cutover. -/
def admitRollback (cutover : Detail γ) : Except String Unit := do
  validateJournalDetail cutover
  require (restore.dropCandidate = true → restore.owns cutover.siblingOwnershipProof = true)
    "Rollback refuses to drop an unowned database."

def startRollback (store : Store γ) : Stage γ :=
  match doneDetail store.cutover with
  | none => .refused "No completed compound cutover exists to roll back."
  | some cutover =>
    proceed (admitRollback restore cutover)
      (match doneDetail store.rollback, incomplete store.rollback with
      | some _, _ => .returned
      | none, some prior => .inspect cutover prior
      | none, none => .journalRollback cutover)

/-- One access; `version` is for a swap. -/
def advance [DecidableEq γ] (version : String) (store : Store γ) : Stage γ → Store γ × Stage γ
  | .start .cutover => (store, startCutover store)
  | .completed detail =>
    (store, proceed (require (store.recordMatches detail)
      "Completed compound cutover pointer changed.") (.acknowledge detail))
  | .acknowledge detail => (store, proceed (assertLiveCandidate restore detail) .returned)
  | .capture =>
    let detail := cutoverDetail restore store.current
    (store, proceed (validateJournalDetail detail) (.journal detail))
  | .journal detail =>
    match begin store.cutover detail with
    | .error message => (store, .refused message)
    | .ok (begun, rows) => ({ store with cutover := rows }, .swap begun)
  | .resume begun =>
    (store, if store.recordMatches begun.detail then .live begun else .swap begun)
  | .swap begun =>
    (store, proceed (checkSwap restore.adapter store.current begun.detail.swap) (.replace begun))
  | .replace begun =>
    match replacePointer restore.adapter store .cutover begun.detail.swap version with
    | .error message => (store, .refused message)
    | .ok after => (after, .confirm begun)
  | .confirm begun =>
    (store, proceed (require (store.recordMatches begun.detail)
      "Compound pointer swap did not commit exactly.") (.live begun))
  | .live begun => (store, proceed (assertLiveCandidate restore begun.detail) (.finish begun))
  | .finish begun =>
    match finish store.cutover begun begun.detail with
    | .error message => (store, .refused message)
    | .ok rows => ({ store with cutover := rows }, .returned)
  | .start .rollback => (store, startRollback restore store)
  | .journalRollback cutover =>
    match begin store.rollback (rollbackDetail cutover) with
    | .error message => (store, .refused message)
    | .ok (begun, rows) => ({ store with rollback := rows }, .inspect cutover begun)
  | .inspect cutover begun =>
    (store, if store.rolledBack cutover then .verify cutover begun else .reverse cutover begun)
  | .reverse cutover begun =>
    (store, proceed (require (store.recordMatches cutover)
      (match restore.adapter with
      | .file => "The file pointer changed before compound rollback."
      | .external => "The external pointer changed before compound rollback."))
      (.swapBack cutover begun store.current))
  | .swapBack cutover begun seen =>
    (store, proceed (checkSwap restore.adapter store.current (cutover.reversal seen))
      (.replaceBack cutover begun seen))
  | .replaceBack cutover begun seen =>
    match replacePointer restore.adapter store .rollback (cutover.reversal seen) version with
    | .error message => (store, .refused message)
    | .ok after => (after, .verify cutover begun)
  | .verify cutover begun =>
    (store, proceed (require (store.rolledBack cutover)
      "Rollback pointer reversal did not commit exactly.") (.reverseObjects cutover begun))
  | .reverseObjects cutover begun =>
    (store, .finishRollback begun (restore.reverse
      (cutover.objectEffects.filter fun item => item.outcome = "created_by_this_run")))
  | .finishRollback begun reversed =>
    match finish store.rollback begun
        { begun.detail with reversedObjectEffects := some reversed } with
    | .error message => (store, .refused message)
    | .ok rows => ({ store with rollback := rows }, .returned)
  | stage => (store, stage)

end Processes

section Worlds

structure World (γ : Type) where
  store : Store γ
  stage : Stage γ

/-- A run starts, goes on, or stops; or another writer moves the pointer. -/
inductive Event where
  | start (effect : Effect)
  | step (version : String)
  | stop
  | move (pointer : VersionedPointer)

variable {γ : Type}

/-- A higher generation under an unused version. -/
def Store.Accepts (store : Store γ) (pointer : VersionedPointer) : Prop :=
  store.current.record.generation < pointer.record.generation ∧
    pointer.storeVersion ∉ store.versions

instance (store : Store γ) (pointer : VersionedPointer) : Decidable (store.Accepts pointer) := by
  unfold Store.Accepts
  infer_instance

/-- What an event does, where it can happen. -/
def next [DecidableEq γ] (restore : Restore γ) (world : World γ) : Event → Option (World γ)
  | .start effect =>
    match world.stage with
    | .idle => some { world with stage := .start effect }
    | _ => none
  | .step version =>
    if world.stage.Replaces → version ∉ world.store.versions then
      let (store, stage) := advance restore version world.store world.stage
      some ⟨store, stage⟩
    else none
  | .stop => some { world with stage := .idle }
  | .move pointer =>
    if world.store.Accepts pointer then
      some { world with store := world.store.write .other pointer }
    else none

def run [DecidableEq γ] (restore : Restore γ) (world : World γ) (events : List Event) :
    Option (World γ) :=
  events.foldlM (next restore) world

/-- No rows of the two phases, at `pointer`. -/
def Store.fresh (pointer : VersionedPointer) : Store γ where
  current := pointer
  past := []
  changes := []
  cutover := []
  rollback := []

end Worlds

end Cutovers
end SpaceWorks
