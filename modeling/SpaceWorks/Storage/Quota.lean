import SpaceWorks.Library.Checked
import SpaceWorks.Library.Ledger
import SpaceWorks.Library.Runs
import SpaceWorks.Library.Table

/-!
# Storage quota

The counter (`limits_usage.py`) and those who debit and refund it: evidence
(`evidence/finalization.py`, `evidence/services_retention.py`), documents
(`document_storage_quota.py`) and imports (`object_promotion.py`, `object_import.py`).  A step is
one transaction; a rollback of an import takes three.
-/

namespace SpaceWorks
namespace Quota

open Checked TransactionalSystem Ledgers

inductive Account
  | evidence (evidenceId : Nat)
  | document (chargeEvent : Nat)
  | importObject (id : Nat)
  deriving DecidableEq

/-- A photo's finalization, with makerspace and retention. -/
structure EvidenceUploadFinalization where
  evidenceId : Nat
  makerspaceId : Nat
  finalized : Bool := false
  sizeBytes : Nat := 0
  quotaCharged : Bool := false
  updatedAt : Nat := 0
  expired : Bool := false
  expiryToken : Option Nat := none

structure EvidenceCharged where
  makerspaceId : Nat
  evidenceId : Nat
  bytes : Nat
  journalVersion : Nat
  databaseId : Option Nat

inductive DocumentType
  | warrantyDocument
  | toBuyReceipt
  deriving DecidableEq

structure ChargeMeta where
  bytes : Nat
  databaseId : Nat
  storageOrigin : Nat
  objectKey : Nat
  rowCreatedAt : Nat

/-- A document's event, with proof when debited. -/
structure DocumentAdded where
  eventUuid : Nat
  makerspaceId : Nat
  targetType : DocumentType
  targetId : Nat
  metadata : Option ChargeMeta

structure ChargeProof where
  makerspaceId : Nat
  targetType : DocumentType
  targetId : Nat
  objectKey : Nat
  rowCreatedAt : Nat
  sizeBytes : Nat
  databaseId : Nat
  storageOrigin : Nat
  chargeEvent : Nat
  deriving DecidableEq

inductive ImportState
  | staged
  | promoted
  | verified
  | failed
  | rolledBack
  deriving DecidableEq

structure TenantImportObject where
  id : Nat
  makerspaceId : Nat
  size : Nat
  state : ImportState := .staged
  claimedAt : Option Nat := none
  quotaCharged : Bool := false

instance : Keyed EvidenceUploadFinalization Nat := ⟨EvidenceUploadFinalization.evidenceId⟩
instance : Keyed DocumentAdded Nat := ⟨DocumentAdded.eventUuid⟩
instance : Keyed TenantImportObject Nat := ⟨TenantImportObject.id⟩

/-- A rollback at one object, as read, refunded or not. -/
structure Rollback where
  worker : Nat
  row : TenantImportObject
  refunded : Bool := false

instance : Keyed Rollback Nat := ⟨Rollback.worker⟩

@[simp] theorem key_rollback (rollback : Rollback) : key rollback = rollback.worker := rfl

structure Books where
  now : Nat
  used : Nat → Nat
  limit : Nat → Option Nat
  evidence : Table EvidenceUploadFinalization
  evidenceCharged : List EvidenceCharged
  documentsAdded : Table DocumentAdded
  /-- The `charge_event_uuid` of the release events. -/
  released : List Nat
  imports : Table TenantImportObject
  rollbacks : Table Rollback
  ledger : Ledger Account

structure Settings where
  selfHost : Bool
  databaseId : Option Nat
  storageOrigin : Option Nat
  promotionLease : Nat

inductive Refusal
  | limitReached
  | notFound
  | invalidEvidenceSize
  | proofUnavailable
  | promotionInProgress
  | claimLost
  | integrity

variable (settings : Settings)

def Books.debit (s : Books) (makerspaceId size : Nat) (account : Account) : Books :=
  { s with
    used := Function.update s.used makerspaceId (s.used makerspaceId + size)
    ledger := s.ledger.debit { account := account, purse := makerspaceId, amount := size } }

def Books.addStorage (s : Books) (makerspaceId size : Nat) (account : Account) :
    Except Refusal (Books × Bool) :=
  if settings.selfHost || size = 0 then .ok (s, false)
  else
    match s.limit makerspaceId with
    | none => .ok (s, false)
    | some limit =>
      if limit < s.used makerspaceId + size then .error .limitReached
      else .ok (s.debit makerspaceId size account, true)

def Books.freeStorage (s : Books) (makerspaceId size : Nat) (account : Account) : Books :=
  if settings.selfHost || size = 0 then s
  else
    { s with
      used := Function.update s.used makerspaceId (s.used makerspaceId - size)
      ledger := s.ledger.refund { account := account, purse := makerspaceId, amount := size } }

def EvidenceUploadFinalization.finalizedSizeBytes (state : EvidenceUploadFinalization) : Nat :=
  if state.finalized then state.sizeBytes else 0

/-- `charge_storage_once`. -/
def Books.chargeEvidence (s : Books) (evidenceId size : Nat) : Except Refusal Books := do
  let state ← orRefuse (s.evidence.get? evidenceId) .notFound
  let validatedSize := state.finalizedSizeBytes
  require (validatedSize ≠ 0 ∧ size = validatedSize) .invalidEvidenceSize
  if state.quotaCharged then
    pure s
  else do
    let added ← s.addStorage settings state.makerspaceId validatedSize (.evidence evidenceId)
    if added.2 then
      let charged := { state with quotaCharged := true, updatedAt := s.now }
      let event : EvidenceCharged :=
        { makerspaceId := state.makerspaceId
          evidenceId := evidenceId
          bytes := validatedSize
          journalVersion := s.now
          databaseId := settings.databaseId }
      pure { added.1 with
        evidence := added.1.evidence.put charged
        evidenceCharged := event :: added.1.evidenceCharged }
    else
      pure added.1

def Books.provenChargeBytes (s : Books) (state : EvidenceUploadFinalization) : Nat :=
  let size := state.finalizedSizeBytes
  if size = 0 || !state.quotaCharged || settings.databaseId.isNone then 0
  else if s.evidenceCharged.any fun event =>
      event.makerspaceId = state.makerspaceId && event.evidenceId = state.evidenceId &&
        event.bytes = size && event.journalVersion = state.updatedAt &&
        event.databaseId = settings.databaseId then
    size
  else 0

/-- `_claim` of the retention sweep. -/
def Books.claimExpiry (s : Books) (evidenceId token : Nat) : Except Refusal Books := do
  let state ← orRefuse ((s.evidence.get? evidenceId).filter fun state => !state.expired) .notFound
  pure { s with evidence := s.evidence.put { state with expiryToken := some token } }

/-- `_complete` of the retention sweep. -/
def Books.completeExpiry (s : Books) (evidenceId token : Nat) : Except Refusal Books := do
  let state ← orRefuse ((s.evidence.get? evidenceId).filter fun state =>
    !state.expired && state.expiryToken = some token) .notFound
  let released := s.provenChargeBytes settings state
  let expired := { state with expired := true, expiryToken := none }
  let s := { s with evidence := s.evidence.put expired }
  if released ≠ 0 then
    pure (s.freeStorage settings state.makerspaceId released (.evidence evidenceId))
  else
    pure s

def Settings.context : Option (Nat × Nat) := do
  let databaseId ← settings.databaseId
  let origin ← settings.storageOrigin
  pure (databaseId, origin)

def Settings.chargeMetadata (objectKey size rowCreatedAt : Nat) : Except Refusal ChargeMeta :=
  match settings.context with
  | none => .error .proofUnavailable
  | some (databaseId, origin) => .ok {
      bytes := size
      databaseId := databaseId
      storageOrigin := origin
      objectKey := objectKey
      rowCreatedAt := rowCreatedAt }

/-- The metadata of an added event: proof of a debit, if there was one. -/
def Settings.addedMetadata (debited : Bool) (objectKey size rowCreatedAt : Nat) :
    Except Refusal (Option ChargeMeta) :=
  if debited then (settings.chargeMetadata objectKey size rowCreatedAt).map some else .ok none

theorem addedMetadata_debited {settings : Settings} {objectKey size rowCreatedAt : Nat}
    {metadata : Option ChargeMeta}
    (h : settings.addedMetadata true objectKey size rowCreatedAt = .ok metadata) :
    ∃ chargeMeta, metadata = some chargeMeta ∧ chargeMeta.bytes = size := by
  simp [Settings.addedMetadata, Settings.chargeMetadata] at h
  split at h
  · cases h
  · cases h
    exact ⟨_, rfl, rfl⟩

def Books.addDocument (s : Books) (eventUuid makerspaceId : Nat) (targetType : DocumentType)
    (targetId objectKey size rowCreatedAt : Nat) : Except Refusal Books := do
  let added ← s.addStorage settings makerspaceId size (.document eventUuid)
  let metadata ← settings.addedMetadata added.2 objectKey size rowCreatedAt
  let event : DocumentAdded :=
    { eventUuid := eventUuid
      makerspaceId := makerspaceId
      targetType := targetType
      targetId := targetId
      metadata := metadata }
  let documentsAdded ← added.1.documentsAdded.insertNew event .integrity
  pure { added.1 with documentsAdded := documentsAdded }

def Books.provenCharge (s : Books) (makerspaceId : Nat) (targetType : DocumentType)
    (targetId objectKey rowCreatedAt : Nat) : Option ChargeProof :=
  match settings.context with
  | none => none
  | some (databaseId, origin) =>
    match s.documentsAdded.rows.filter fun event =>
      event.makerspaceId = makerspaceId && event.targetType = targetType &&
        event.targetId = targetId && event.metadata.any (·.rowCreatedAt = rowCreatedAt) with
    | [event] =>
      match event.metadata with
      | none => none
      | some chargeMeta =>
        if chargeMeta.bytes ≠ 0 ∧ chargeMeta.databaseId = databaseId ∧
            chargeMeta.storageOrigin = origin ∧ chargeMeta.objectKey = objectKey ∧
            event.eventUuid ∉ s.released then
          some {
            makerspaceId := makerspaceId
            targetType := targetType
            targetId := targetId
            objectKey := objectKey
            rowCreatedAt := rowCreatedAt
            sizeBytes := chargeMeta.bytes
            databaseId := databaseId
            storageOrigin := origin
            chargeEvent := event.eventUuid }
        else none
    | _ => none

/-- `release_charge_once`, with an earlier proof. -/
def Books.releaseCharge (s : Books) (proof : ChargeProof) : Books :=
  if settings.selfHost then s
  else if s.provenCharge settings proof.makerspaceId proof.targetType proof.targetId
      proof.objectKey proof.rowCreatedAt ≠ some proof ∨
      s.used proof.makerspaceId < proof.sizeBytes then
    s
  else
    let s := s.freeStorage settings proof.makerspaceId proof.sizeBytes (.document proof.chargeEvent)
    { s with released := proof.chargeEvent :: s.released }

/-- `_claim_staged_object`. -/
def Books.claimImport (s : Books) (id : Nat) : Except Refusal Books := do
  let row ← orRefuse ((s.imports.get? id).filter fun row =>
    row.state = .staged && row.claimedAt.all (· + settings.promotionLease ≤ s.now))
    .promotionInProgress
  pure { s with imports := s.imports.put { row with claimedAt := some s.now } }

def Books.renewClaim (s : Books) (id claimedAt : Nat) : Except Refusal Books := do
  let row ← orRefuse ((s.imports.get? id).filter fun row =>
    row.state = .staged && row.claimedAt = some claimedAt) .claimLost
  pure { s with imports := s.imports.put { row with claimedAt := some s.now } }

/-- `_mark_promoted_and_charge`. -/
def Books.promoteImport (s : Books) (id claimedAt : Nat) : Except Refusal Books := do
  let row ← orRefuse ((s.imports.get? id).filter fun row =>
    row.state = .staged && row.claimedAt = some claimedAt) .claimLost
  let added ← s.addStorage settings row.makerspaceId row.size (.importObject id)
  require (row.quotaCharged = false) .claimLost
  let promoted := { row with state := .promoted, quotaCharged := true }
  pure { added.1 with imports := added.1.imports.put promoted }

/-- The end of `_verify_promoted_object`. -/
def Books.verifyImport (s : Books) (id : Nat) : Except Refusal Books := do
  let row ← orRefuse ((s.imports.get? id).filter fun row => row.state = .promoted) .notFound
  pure { s with imports := s.imports.put { row with state := .verified } }

/-- `_fence_failed_promotion`. -/
def Books.failImport (s : Books) (id claimedAt : Nat) : Except Refusal Books := do
  let row ← orRefuse ((s.imports.get? id).filter fun row =>
    row.claimedAt = some claimedAt && (row.state = .staged || row.state = .promoted)) .claimLost
  let s := if row.quotaCharged then
      s.freeStorage settings row.makerspaceId row.size (.importObject id)
    else s
  let failed := { row with state := .failed, quotaCharged := false }
  pure { s with imports := s.imports.put failed }

/-- `rollback_import_objects` reads a row, -/
def Books.readRollback (s : Books) (worker id : Nat) : Except Refusal Books := do
  let row ← orRefuse ((s.imports.get? id).filter fun row => row.state ≠ .rolledBack) .notFound
  let rollback : Rollback := { worker := worker, row := row }
  let rollbacks ← s.rollbacks.insertNew rollback .integrity
  pure { s with rollbacks := rollbacks }

def Books.refundRollback (s : Books) (worker : Nat) : Except Refusal Books := do
  let rollback ← orRefuse ((s.rollbacks.get? worker).filter fun rollback => !rollback.refunded)
    .notFound
  let s := if rollback.row.quotaCharged then
      s.freeStorage settings rollback.row.makerspaceId rollback.row.size
        (.importObject rollback.row.id)
    else s
  pure { s with rollbacks := s.rollbacks.put { rollback with refunded := true } }

def TenantImportObject.rollBack (id : Nat) (row : TenantImportObject) : TenantImportObject :=
  if row.id = id then { row with state := .rolledBack, quotaCharged := false } else row

theorem rollBack_id (id : Nat) (row : TenantImportObject) : key (row.rollBack id) = key row := by
  unfold TenantImportObject.rollBack
  split <;> rfl

def Books.markRollback (s : Books) (worker : Nat) : Except Refusal Books := do
  let rollback ← orRefuse ((s.rollbacks.get? worker).filter fun rollback => rollback.refunded)
    .notFound
  pure { s with
    imports := s.imports.mapRows (·.rollBack rollback.row.id) (rollBack_id rollback.row.id)
    rollbacks := s.rollbacks.erase worker }

inductive Event
  | tick (now : Nat)
  | setLimit (makerspaceId : Nat) (limit : Option Nat)
  | uploadEvidence (evidenceId makerspaceId : Nat)
  | finalizeEvidence (evidenceId size : Nat)
  | chargeEvidence (evidenceId size : Nat)
  | claimExpiry (evidenceId token : Nat)
  | completeExpiry (evidenceId token : Nat)
  | addDocument (eventUuid makerspaceId : Nat) (targetType : DocumentType)
      (targetId objectKey size rowCreatedAt : Nat)
  | releaseDocument (proof : ChargeProof)
  | stageImport (id makerspaceId size : Nat)
  | claimImport (id : Nat)
  | renewClaim (id claimedAt : Nat)
  | promoteImport (id claimedAt : Nat)
  | verifyImport (id : Nat)
  | failImport (id claimedAt : Nat)
  | readRollback (worker id : Nat)
  | refundRollback (worker : Nat)
  | markRollback (worker : Nat)
  | crash (worker : Nat)

def Books.finalizeEvidence (s : Books) (evidenceId size : Nat) : Except Refusal Books := do
  let state ← orRefuse ((s.evidence.get? evidenceId).filter fun state => !state.finalized) .notFound
  let finalized := { state with finalized := true, sizeBytes := size, updatedAt := s.now }
  pure { s with evidence := s.evidence.put finalized }

def Books.uploadEvidence (s : Books) (evidenceId makerspaceId : Nat) : Except Refusal Books := do
  let state : EvidenceUploadFinalization :=
    { evidenceId := evidenceId, makerspaceId := makerspaceId }
  let evidence ← s.evidence.insertNew state .integrity
  pure { s with evidence := evidence }

def Books.stageImport (s : Books) (id makerspaceId size : Nat) : Except Refusal Books := do
  let row : TenantImportObject := { id := id, makerspaceId := makerspaceId, size := size }
  let imports ← s.imports.insertNew row .integrity
  pure { s with imports := imports }

def Books.step (s : Books) : Event → Except Refusal Books
  | .tick now => .ok { s with now := max s.now now }
  | .setLimit makerspaceId limit =>
    .ok { s with limit := Function.update s.limit makerspaceId limit }
  | .uploadEvidence evidenceId makerspaceId => s.uploadEvidence evidenceId makerspaceId
  | .finalizeEvidence evidenceId size => s.finalizeEvidence evidenceId size
  | .chargeEvidence evidenceId size => s.chargeEvidence settings evidenceId size
  | .claimExpiry evidenceId token => s.claimExpiry evidenceId token
  | .completeExpiry evidenceId token => s.completeExpiry settings evidenceId token
  | .addDocument eventUuid makerspaceId targetType targetId objectKey size rowCreatedAt =>
    s.addDocument settings eventUuid makerspaceId targetType targetId objectKey size rowCreatedAt
  | .releaseDocument proof => .ok (s.releaseCharge settings proof)
  | .stageImport id makerspaceId size => s.stageImport id makerspaceId size
  | .claimImport id => s.claimImport settings id
  | .renewClaim id claimedAt => s.renewClaim id claimedAt
  | .promoteImport id claimedAt => s.promoteImport settings id claimedAt
  | .verifyImport id => s.verifyImport id
  | .failImport id claimedAt => s.failImport settings id claimedAt
  | .readRollback worker id => s.readRollback worker id
  | .refundRollback worker => s.refundRollback settings worker
  | .markRollback worker => s.markRollback worker
  | .crash worker => .ok { s with rollbacks := s.rollbacks.erase worker }

/-- Nothing is stored, and the counters are zero. -/
def Books.initial (limit : Nat → Option Nat) : Books where
  now := 0
  used := fun _ => 0
  limit := limit
  evidence := ∅
  evidenceCharged := []
  documentsAdded := ∅
  released := []
  imports := ∅
  rollbacks := ∅
  ledger := {}

end Quota
end SpaceWorks
