import SpaceWorks.Library.Table
import SpaceWorks.Migration.Source

/-!
# Deployments that hand a makerspace over

The two sides of a migration (`apps/tenant_migration/cutover.py`, `target_cutover.py`,
`receipts.py`, `pairing.py`), each with its own database.  Receipts travel in any way, and one that
is received was issued by its signer.
-/

namespace SpaceWorks
namespace Migration

open Checked

section

inductive Operation
  | sourceCutover
  | targetAbort
  deriving DecidableEq

inductive ConsumptionPurpose
  | activateTarget
  | reopenSource
  deriving DecidableEq

def Operation.purpose : Operation → ConsumptionPurpose
  | .sourceCutover => .activateTarget
  | .targetAbort => .reopenSource

/-- A signed receipt; its payload has all fields of its pairing. -/
structure Receipt (δ : Type) where
  receiptId : Nat
  operation : Operation
  pairing : Pairing δ
  signer : δ
  deriving DecidableEq

structure PersistedReceipt (δ : Type) where
  receipt : Receipt δ
  issuedHere : Bool

structure Consumption where
  receiptId : Nat
  purpose : ConsumptionPurpose

inductive ImportStatus
  | awaitingIdentity
  | ready
  | materializing
  | finalizing
  | completed
  | failed
  | abandoned
  deriving DecidableEq

/-- A row of `TenantImportJob`; scrubbing empties the names. -/
structure ImportJob (δ : Type) where
  id : Nat
  status : ImportStatus
  verificationReport : Bool := false
  sourceArchiveDigest : Nat
  sourceMakerspaceId : Option Nat
  sourceDeploymentId : Option δ
  targetMakerspaceId : Option Nat := none

variable {δ : Type}

instance : Keyed (Makerspace δ) Nat := ⟨Makerspace.id⟩
instance : Keyed (Pairing δ) Nat := ⟨Pairing.migrationId⟩
instance : Keyed (ImportJob δ) Nat := ⟨ImportJob.id⟩
instance : Keyed Consumption Nat := ⟨Consumption.receiptId⟩
instance : Keyed (PersistedReceipt δ) (Nat × Operation) :=
  ⟨fun row => (row.receipt.pairing.migrationId, row.receipt.operation)⟩

@[simp] theorem key_makerspace (space : Makerspace δ) : key space = space.id := rfl
@[simp] theorem key_receipt (row : PersistedReceipt δ) :
    key row = (row.receipt.pairing.migrationId, row.receipt.operation) := rfl

/-- The database of one deployment; makerspaces get ascending ids. -/
structure Deployment (δ : Type) where
  settings : Settings
  now : Nat
  nextSpace : Nat
  spaces : Table (Makerspace δ)
  pairings : Table (Pairing δ)
  receipts : Table (PersistedReceipt δ)
  consumptions : Table Consumption
  jobs : Table (ImportJob δ)

variable [DecidableEq δ]

/-- The signer of an operation's receipts (`_signer_fields`). -/
def Pairing.signer (pairing : Pairing δ) : Operation → δ
  | .sourceCutover => pairing.source
  | .targetAbort => pairing.target

def Deployment.approvePairing (self : δ) (d : Deployment δ) (pairing : Pairing δ) :
    Except Refusal (Deployment δ) := do
  require (pairing.source ≠ pairing.target)
    (.pairing "Source and target must be different deployments.")
  require (self = pairing.source ∨ self = pairing.target)
    (.pairing "This deployment is not one of the proposed pairing peers.")
  match d.pairings.get? pairing.migrationId with
  | some row => do
    require (row = pairing) (.pairing "This migration is already pinned to different peers.")
    pure d
  | none => do
    let pairings ← d.pairings.insertNew pairing (.integrity "migration_id")
    pure { d with pairings := pairings }

def Deployment.issueLocalReceipt (self : δ) (d : Deployment δ) (pairing : Pairing δ)
    (operation : Operation) (receiptId : Nat) : Except Refusal (Deployment δ × Receipt δ) :=
  match d.receipts.get? (pairing.migrationId, operation) with
  | some existing => do
    require (existing.issuedHere = true)
      (.receipt "The receipt operation is already occupied by a peer receipt.")
    pure (d, existing.receipt)
  | none => do
    require (self = pairing.signer operation)
      (.pairing "This deployment is not the pinned signer for this receipt.")
    let receipt : Receipt δ :=
      { receiptId := receiptId, operation := operation, pairing := pairing, signer := self }
    let receipts ← d.receipts.insertNew { receipt := receipt, issuedHere := true }
      (.integrity "uniq_treceipt_pairing_operation")
    pure ({ d with receipts := receipts }, receipt)

def Deployment.verifyPeerReceipt (d : Deployment δ) (pairing : Pairing δ) (envelope : Receipt δ)
    (operation : Operation) : Except Refusal (Deployment δ × Receipt δ) := do
  require (envelope.signer = pairing.signer operation)
    (.receipt "The receipt signer is not the pinned peer.")
  require (envelope.operation = operation ∧ envelope.pairing = pairing)
    (.receipt "The receipt does not match the pinned pairing.")
  match d.receipts.get? (pairing.migrationId, operation) with
  | some existing => do
    require (existing.receipt = envelope)
      (.receipt "A different receipt is already persisted for this operation.")
    pure (d, existing.receipt)
  | none => do
    let receipts ← d.receipts.insertNew { receipt := envelope, issuedHere := false }
      (.receipt "A different receipt is already persisted for this operation.")
    pure ({ d with receipts := receipts }, envelope)

def Deployment.consumeOnce (d : Deployment δ) (receipt : Receipt δ)
    (purpose : ConsumptionPurpose) : Except Refusal (Deployment δ) := do
  let consumptions ← d.consumptions.insertNew { receiptId := receipt.receiptId, purpose := purpose }
    (.replay "The signed receipt has already been consumed.")
  pure { d with consumptions := consumptions }

def Deployment.retireSource (self : δ) (d : Deployment δ) (migrationId spaceId receiptId : Nat) :
    Except Refusal (Deployment δ × Receipt δ) := do
  let pairing ← orRefuse (d.pairings.get? migrationId) (.doesNotExist "MigrationPairing")
  let space ← orRefuse (d.spaces.get? spaceId) (.doesNotExist "Makerspace")
  let retired ← space.retire pairing d.now
  if space.handoff.any (·.pairing = pairing) then do
    let row ← orRefuse (d.receipts.get? (migrationId, .sourceCutover))
      (.doesNotExist "MigrationReceipt")
    pure (d, row.receipt)
  else do
    let issued ← d.issueLocalReceipt self pairing .sourceCutover receiptId
    pure ({ issued.1 with spaces := issued.1.spaces.put retired }, issued.2)

def Deployment.reopenSource (d : Deployment δ) (migrationId spaceId : Nat)
    (envelope : Receipt δ) : Except Refusal (Deployment δ × Receipt δ) := do
  let pairing ← orRefuse (d.pairings.get? migrationId) (.doesNotExist "MigrationPairing")
  let space ← orRefuse (d.spaces.get? spaceId) (.doesNotExist "Makerspace")
  require (space.id = pairing.sourceTenantId)
    (.transition "The pairing names a different source tenant.")
  require (space.purgeStarted = false)
    (.transition "Purge has started; source reopening is forbidden.")
  let verified ← d.verifyPeerReceipt pairing envelope .targetAbort
  match verified.1.consumptions.get? verified.2.receiptId with
  | some consumed => do
    require (consumed.purpose = .reopenSource)
      (.replay "The receipt was consumed for a different transition.")
    pure verified
  | none => do
    let reopened ← space.reopen pairing
    let consumed ← verified.1.consumeOnce verified.2 .reopenSource
    pure ({ consumed with spaces := consumed.spaces.put reopened }, verified.2)

/-- `_require_matching_job`. -/
def Pairing.Matches (pairing : Pairing δ) (job : ImportJob δ) : Prop :=
  job.id = pairing.migrationId ∧ job.targetMakerspaceId ≠ none ∧
    job.sourceArchiveDigest = pairing.archiveDigest ∧
    job.sourceMakerspaceId = some pairing.sourceTenantId ∧
    job.sourceDeploymentId = some pairing.source

instance (pairing : Pairing δ) (job : ImportJob δ) : Decidable (pairing.Matches job) :=
  inferInstanceAs (Decidable (_ ∧ _ ∧ _ ∧ _ ∧ _))

def Deployment.validatedTargetJob (d : Deployment δ) (pairing : Pairing δ) (jobId : Nat) :
    Except Refusal (ImportJob δ × Makerspace δ) := do
  let job ← orRefuse (d.jobs.get? jobId) (.doesNotExist "TenantImportJob")
  require (pairing.Matches job) (.transition "The import job does not match the pairing.")
  let target ← orRefuse (job.targetMakerspaceId.bind d.spaces.get?) (.doesNotExist "Makerspace")
  pure (job, target)

/-- `_activate_target_transaction`; `ready` is for recipients, encryption and objects. -/
def Deployment.activateTarget (d : Deployment δ) (migrationId jobId : Nat)
    (envelope : Receipt δ) (ready : Bool) : Except Refusal (Deployment δ × Receipt δ) := do
  let pairing ← orRefuse (d.pairings.get? migrationId) (.doesNotExist "MigrationPairing")
  let validated ← d.validatedTargetJob pairing jobId
  require (validated.1.status = .completed ∧ validated.1.verificationReport = true)
    (.transition "Target activation requires a completed, verified import.")
  let verified ← d.verifyPeerReceipt pairing envelope .sourceCutover
  match verified.1.consumptions.get? verified.2.receiptId with
  | some consumed => do
    require (consumed.purpose = .activateTarget)
      (.replay "The receipt was consumed for a different transition.")
    require (validated.2.lifecycle = .active)
      (.transition "The activation receipt was consumed without an active target.")
    pure verified
  | none => do
    require (ready = true) (.transition "The target is not ready.")
    require (validated.2.lifecycle = .importing)
      (.transition "Target activation requires the IMPORTING lifecycle state.")
    let consumed ← verified.1.consumeOnce verified.2 .activateTarget
    pure ({ consumed with
      spaces := consumed.spaces.put { validated.2 with lifecycle := .active } }, verified.2)

def Deployment.abortTarget (self : δ) (d : Deployment δ) (migrationId jobId receiptId : Nat) :
    Except Refusal (Deployment δ × Receipt δ) := do
  let pairing ← orRefuse (d.pairings.get? migrationId) (.doesNotExist "MigrationPairing")
  let validated ← d.validatedTargetJob pairing jobId
  match (d.receipts.get? (migrationId, .targetAbort)).filter (·.issuedHere) with
  | some existing => do
    require (validated.2.lifecycle = .aborted)
      (.transition "The abort receipt exists without an aborted target.")
    pure (d, existing.receipt)
  | none => do
    require (validated.2.lifecycle = .importing)
      (.transition "Target abort requires the IMPORTING lifecycle state.")
    let issued ← d.issueLocalReceipt self pairing .targetAbort receiptId
    pure ({ issued.1 with
      spaces := issued.1.spaces.put { validated.2 with lifecycle := .aborted } }, issued.2)

end

section Worlds

variable {δ : Type} [DecidableEq δ]

/-- A transition of the gate of one makerspace other than its cutover. -/
inductive GateChange (settings : Settings) (now : Nat) (gate : Gate) : Gate → Prop
  | claim {gate' : Gate} (ownerId : Nat) (fencingToken : Option Nat) (purpose : Purpose)
      (h : gate.claim settings ownerId fencingToken purpose now = .ok gate') :
      GateChange settings now gate gate'
  | heartbeat {gate' : Gate} (lease : GateLease)
      (h : gate.heartbeat settings lease now = .ok gate') :
      GateChange settings now gate gate'
  | quiesce {gate' : Gate} (lease : GateLease)
      (h : gate.quiesce lease now = .ok gate') :
      GateChange settings now gate gate'
  | release {gate' : Gate} (lease : GateLease)
      (h : gate.releaseAfterCopyCapture lease now = .ok gate') :
      GateChange settings now gate gate'
  | recover {gate' : Gate}
      (h : gate.recoverExpired now = .ok gate') :
      GateChange settings now gate gate'

inductive SpaceChange (settings : Settings) (now : Nat) (space : Makerspace δ) :
    Makerspace δ → Prop
  | gate {gate : Gate} (h : GateChange settings now space.gate gate) :
      SpaceChange settings now space { space with gate := gate }
  | archive {space' : Makerspace δ} (h : space.archiveLocked = .ok space') :
      SpaceChange settings now space space'
  | unarchive {space' : Makerspace δ} (h : space.unarchive = .ok space') :
      SpaceChange settings now space space'
  | visibility (enabled : Bool) :
      SpaceChange settings now space { space with superadminAccessEnabled := enabled }
  | startPurge : SpaceChange settings now space { space with purgeStarted := true }

/-- A transaction without a receipt; a job keeps its target. -/
inductive Change (self : δ) (d : Deployment δ) : Deployment δ → Prop
  | tick (now : Nat) (hlater : d.now ≤ now) : Change self d { d with now := now }
  | approvePairing {d' : Deployment δ} (pairing : Pairing δ)
      (h : d.approvePairing self pairing = .ok d') :
      Change self d d'
  | space (space : Makerspace δ) {space' : Makerspace δ}
      (hspace : d.spaces.get? space.id = some space)
      (h : SpaceChange d.settings d.now space space') :
      Change self d { d with spaces := d.spaces.put space' }
  | createSpace {spaces : Table (Makerspace δ)}
      (h : d.spaces.insertNew { id := d.nextSpace } (Refusal.integrity "id") = .ok spaces) :
      Change self d { d with spaces := spaces, nextSpace := d.nextSpace + 1 }
  | materialize (job : ImportJob δ) {spaces : Table (Makerspace δ)}
      (hjob : d.jobs.get? job.id = some job) (htarget : job.targetMakerspaceId = none)
      (h : d.spaces.insertNew { id := d.nextSpace, lifecycle := .importing }
        (Refusal.integrity "id") = .ok spaces) :
      Change self d { d with
        spaces := spaces
        nextSpace := d.nextSpace + 1
        jobs := d.jobs.put { job with
          targetMakerspaceId := some d.nextSpace, status := .materializing } }
  | updateJob (job job' : ImportJob δ) (hjob : d.jobs.get? job.id = some job)
      (hid : job'.id = job.id) (htarget : job'.targetMakerspaceId = job.targetMakerspaceId) :
      Change self d { d with jobs := d.jobs.put job' }
  | deleteJob {job : ImportJob δ} (hjob : d.jobs.get? job.id = some job)
      (htarget : job.targetMakerspaceId = none) :
      Change self d { d with jobs := d.jobs.erase job.id }
  | purge {space : Makerspace δ} (hspace : d.spaces.get? space.id = some space)
      (hstarted : space.purgeStarted = true) :
      Change self d { d with
        spaces := d.spaces.erase space.id
        jobs := d.jobs.restrict (·.targetMakerspaceId ≠ some space.id) }

/-- Deployments and issued receipts, with unique ids. -/
structure World (δ : Type) where
  deployment : δ → Deployment δ
  issued : List (Receipt δ) := []
  nextReceipt : Nat := 0
  nextJob : Nat := 0

def World.set (w : World δ) (self : δ) (d : Deployment δ) : World δ :=
  { w with deployment := Function.update w.deployment self d }

/-- One transaction; any issued receipt may come, at any time. -/
inductive Step : World δ → World δ → Prop
  | change {w : World δ} {d : Deployment δ} (self : δ)
      (h : Change self (w.deployment self) d) :
      Step w (w.set self d)
  | createJob {w : World δ} {jobs : Table (ImportJob δ)} (self : δ) (job : ImportJob δ)
      (hid : job.id = w.nextJob) (htarget : job.targetMakerspaceId = none)
      (h : (w.deployment self).jobs.insertNew job (Refusal.integrity "id") = .ok jobs) :
      Step w ({ w with nextJob := w.nextJob + 1 }.set self { w.deployment self with jobs := jobs })
  | retireSource {w : World δ} {d : Deployment δ} {receipt : Receipt δ} (self : δ)
      (migrationId spaceId : Nat)
      (h : (w.deployment self).retireSource self migrationId spaceId w.nextReceipt =
        .ok (d, receipt)) :
      Step w ({ w with issued := w.issued.insert receipt, nextReceipt := w.nextReceipt + 1 }.set
        self d)
  | reopenSource {w : World δ} {d : Deployment δ} {receipt : Receipt δ} (self : δ)
      (migrationId spaceId : Nat) (envelope : Receipt δ) (hissued : envelope ∈ w.issued)
      (h : (w.deployment self).reopenSource migrationId spaceId envelope = .ok (d, receipt)) :
      Step w (w.set self d)
  | activateTarget {w : World δ} {d : Deployment δ} {receipt : Receipt δ} (self : δ)
      (migrationId jobId : Nat) (ready : Bool) (envelope : Receipt δ)
      (hissued : envelope ∈ w.issued)
      (h : (w.deployment self).activateTarget migrationId jobId envelope ready =
        .ok (d, receipt)) :
      Step w (w.set self d)
  | abortTarget {w : World δ} {d : Deployment δ} {receipt : Receipt δ} (self : δ)
      (migrationId jobId : Nat)
      (h : (w.deployment self).abortTarget self migrationId jobId w.nextReceipt =
        .ok (d, receipt)) :
      Step w ({ w with issued := w.issued.insert receipt, nextReceipt := w.nextReceipt + 1 }.set
        self d)

def Run : World δ → World δ → Prop :=
  Relation.ReflTransGen Step

structure Start (w : World δ) : Prop where
  issued : w.issued = []
  pairings : ∀ self, (w.deployment self).pairings = ∅
  receipts : ∀ self, (w.deployment self).receipts = ∅
  consumptions : ∀ self, (w.deployment self).consumptions = ∅
  jobs : ∀ self, (w.deployment self).jobs = ∅
  spaces : ∀ self, ∀ space ∈ (w.deployment self).spaces,
    space.handoff = none ∧ space.id < (w.deployment self).nextSpace

end Worlds

end Migration
end SpaceWorks
