import SpaceWorks.Library.Table
import SpaceWorks.Audit.Anchors

/-!
# Signing keys, batches and key rotations of one scope

`signing.py`, `batches.py` and `rotation_lifecycle.py`, under the advisory lock of the scope.  A
call to the anchor store and the transaction around it are two operations where the source can stop
between them.
-/

namespace SpaceWorks
namespace Audit

open Checked

inductive RotationState
  | prepared
  | published
  | finalized
  | aborted
  deriving DecidableEq

/-- The trigger `audit_rotation_event_state_order`. -/
def RotationState.follows : Option RotationState → RotationState → Bool
  | none, .prepared => true
  | some .prepared, .published => true
  | some .prepared, .aborted => true
  | some .published, .finalized => true
  | _, _ => false

structure SignedActivation where
  payload : ActivationPayload
  signature : Signature AnchorPayload
  deriving DecidableEq

/-- The activation is that of version 1; `wrapped` tells of a live wrapped private key. -/
structure AuditSigningKey where
  fingerprint : Fingerprint
  version : Nat
  validFromSeq : Nat
  validToSeq : Option Nat
  isActive : Bool
  activation : Option SignedActivation
  activatedAt : Option Instant
  wrapped : Bool
  pendingRotation : Option Uuid
  deriving DecidableEq

instance : Keyed AuditSigningKey Fingerprint := ⟨AuditSigningKey.fingerprint⟩

/-- The immutable row and the states of its events, oldest first. -/
structure AuditSigningKeyRotation where
  payload : RotationPayload
  oldSignature : Signature RotationPayload
  newSignature : Signature RotationPayload
  states : List RotationState
  deriving DecidableEq

instance : Keyed AuditSigningKeyRotation Uuid := ⟨fun rotation => rotation.payload.rotationId⟩

structure AuditBatchLeaf where
  auditLogId : Nat
  leafPosition : Nat
  deriving DecidableEq

structure AuditBatch where
  batchSeq : Nat
  leafCount : Nat
  merkleRoot : Digest
  prevBatchRoot : Option Digest
  createdAt : Instant
  signature : Signature AnchorPayload
  signerFingerprint : Fingerprint
  leaves : List AuditBatchLeaf
  deriving DecidableEq

structure AuditMacKey where
  secret : MacSecret
  attestedFromId : Nat
  attestedFromMac : Option Digest

/-- The rows of one scope, its batches newest first, and its anchors. -/
structure Ledger where
  scope : Scope
  macKey : Option AuditMacKey
  keys : Table AuditSigningKey
  rotations : Table AuditSigningKeyRotation
  batches : List AuditBatch
  anchors : AnchorStore

inductive AuditError
  | macKeyUnavailable
  | cutoverTampered
  | keyUnavailable
  | integrity
  | genesisDiffers
  | notActive
  | pending
  | outsideInterval
  | format
  | expectations
  | notSealedYet
  | claimChanged
  | notAnchored
  | headChanged
  | wrongState
  | diverged
  | inconsistent
  | anchor (error : AnchorError)

variable (H : Hashes)

def Ledger.activeKey (ledger : Ledger) : Option AuditSigningKey :=
  ledger.keys.rows.find? (·.isActive)

def AuditSigningKey.hasMaterial (key : AuditSigningKey) : Bool :=
  key.wrapped && key.activation.all (·.payload.signerFingerprint = key.fingerprint)

def AuditSigningKey.authorizes (key : AuditSigningKey) (batchSeq : Nat) : Bool :=
  key.validFromSeq ≤ batchSeq && key.validToSeq.all (batchSeq ≤ ·)

def Ledger.head (ledger : Ledger) : Nat × Digest :=
  match ledger.batches.head? with
  | none => (0, emptyHeadRoot)
  | some batch => (batch.batchSeq, batch.merkleRoot)

/-- `attested_from_id`; none when the scope was never attested. -/
def Ledger.cutover (ledger : Ledger) : Except AuditError (Option (Nat × Digest)) :=
  match ledger.macKey with
  | none => .ok none
  | some row =>
    match row.attestedFromMac with
    | none => .error .cutoverTampered
    | some stored => do
      require (stored = cutoverMac H row.secret ledger.scope row.attestedFromId) .cutoverTampered
      pure (some (row.attestedFromId, stored))

def visibleRows (log : List AuditLog) (scope : Scope) : List AuditLog :=
  log.filter (·.content.makerspaceId = scope)

def AuditSigningKey.activationEnvelope (key : AuditSigningKey) : Option AnchorEnvelope :=
  key.activation.map fun activation =>
    { payload := .activation activation.payload
      signature := activation.signature
      publicKey := key.fingerprint }

def signActivation (payload : ActivationPayload) (fingerprint : Fingerprint) :
    SignedActivation where
  payload := payload
  signature := { signer := fingerprint, message := .activation payload }

def Ledger.provision (log : List AuditLog) (fingerprint : Fingerprint) (now : Instant)
    (ledger : Ledger) : Except AuditError Ledger :=
  match ledger.activeKey with
  | some existing => do
    require existing.hasMaterial .keyUnavailable
    pure ledger
  | none => do
    let cutover ← ledger.cutover H
    let (cutoverId, cutoverMac) ← orRefuse cutover .macKeyUnavailable
    require (∀ key ∈ ledger.keys.rows, key.version ≠ 1) .integrity
    let payload : ActivationPayload :=
      { scope := ledger.scope
        cutoverId := cutoverId
        cutoverMac := cutoverMac
        genesisRows := (visibleRows log ledger.scope).map (genesisEntry H)
        signerFingerprint := fingerprint
        createdAt := now }
    let keys ← ledger.keys.insertNew
      { fingerprint := fingerprint
        version := 1
        validFromSeq := 0
        validToSeq := none
        isActive := true
        activation := some (signActivation payload fingerprint)
        activatedAt := none
        wrapped := true
        pendingRotation := none } .integrity
    pure { ledger with keys := keys }

/-- The activated rows are as they were, and all others have a MAC. -/
def genesisHolds (log : List AuditLog) (scope : Scope) (genesis : List GenesisEntry) : Prop :=
  (genesis.map (·.auditLogId)).Nodup ∧
    (∀ entry ∈ genesis, ∃ row ∈ visibleRows log scope, genesisEntry H row = entry) ∧
    ∀ row ∈ visibleRows log scope, row.rowMac = none → ∃ entry ∈ genesis, entry.auditLogId = row.pk

instance (log : List AuditLog) (scope : Scope) (genesis : List GenesisEntry) :
    Decidable (genesisHolds H log scope genesis) :=
  inferInstanceAs (Decidable (_ ∧ _ ∧ _))

/-- The part of `activate_scope` up to the answer of the store. -/
def Ledger.anchorActivation (log : List AuditLog) (ledger : Ledger) :
    Except AuditError Ledger := do
  let key ← orRefuse ledger.activeKey .keyUnavailable
  require key.hasMaterial .keyUnavailable
  require (key.version = 1) .notActive
  let activation ← orRefuse key.activation .keyUnavailable
  let macKey ← orRefuse ledger.macKey .genesisDiffers
  require (activation.payload.cutoverId = macKey.attestedFromId ∧
    some activation.payload.cutoverMac = macKey.attestedFromMac) .genesisDiffers
  require (genesisHolds H log ledger.scope activation.payload.genesisRows) .genesisDiffers
  require (activation.signature.verifies (.activation activation.payload) key.fingerprint)
    .inconsistent
  let envelope ← orRefuse key.activationEnvelope .keyUnavailable
  let anchors ← (ledger.anchors.publish envelope).mapError .anchor
  pure { ledger with anchors := anchors }

def Ledger.activate (log : List AuditLog) (fingerprint : Fingerprint) (now : Instant)
    (ledger : Ledger) : Except AuditError Ledger := do
  let ledger ← ledger.provision H log fingerprint now
  let key ← orRefuse ledger.activeKey .keyUnavailable
  if 1 < key.version then
    require (key.activatedAt ≠ none) .notActive
    pure ledger
  else
    let ledger ← ledger.anchorActivation H log
    let activated := { key with activatedAt := some (key.activatedAt.getD now) }
    pure { ledger with keys := ledger.keys.put activated }

def Ledger.leafIds (ledger : Ledger) : List Nat :=
  ledger.batches.flatMap fun batch => batch.leaves.map (·.auditLogId)

/-- The unbatched rows with a MAC and a UUID, by id. -/
def Ledger.unbatched (log : List AuditLog) (ledger : Ledger) : List AuditLog :=
  (visibleRows log ledger.scope).filter fun row =>
    row.member.isSome && row.pk ∉ ledger.leafIds

def batchPayload (scope : Scope) (key : AuditSigningKey) (batchSeq : Nat)
    (leaves : List Member) (root : Digest) (prevRoot : Option Digest) (createdAt : Instant)
    (signerFingerprint : Fingerprint) : BatchPayload where
  scope := scope
  batchSeq := batchSeq
  leafCount := leaves.length
  leaves := leaves
  merkleRoot := root
  prevBatchRoot := prevRoot
  createdAt := createdAt
  signerFingerprint := signerFingerprint
  anchorProtocolVersion := if 1 < key.version then some anchorProtocolVersion else none

def Ledger.sealScope (log : List AuditLog) (signingKey : AuditSigningKey) (now : Instant)
    (ledger : Ledger) : Except AuditError Ledger := do
  require (signingKey.activatedAt ≠ none ∧ signingKey.isActive) .notActive
  let active ← orRefuse ledger.activeKey .keyUnavailable
  require (active.fingerprint = signingKey.fingerprint) .notActive
  require (active.pendingRotation = none) .pending
  let rows := ledger.unbatched log
  match merkleRoot H ((rows.filterMap (·.member)).map (leafHash H)) with
  | none => pure ledger
  | some root => do
    let previous := ledger.batches.head?
    let batchSeq := match previous with
      | some batch => batch.batchSeq + 1
      | none => 1
    require (active.authorizes batchSeq) .outsideInterval
    require active.hasMaterial .keyUnavailable
    let prevRoot := previous.map (·.merkleRoot)
    let payload := batchPayload ledger.scope active batchSeq (rows.filterMap (·.member))
      root prevRoot now active.fingerprint
    let batch : AuditBatch :=
      { batchSeq := batchSeq
        leafCount := rows.length
        merkleRoot := root
        prevBatchRoot := prevRoot
        createdAt := now
        signature := { signer := active.fingerprint, message := .batch payload }
        signerFingerprint := active.fingerprint
        leaves := rows.zipIdx.map fun leaf => ⟨leaf.1.pk, leaf.2⟩ }
    pure { ledger with batches := batch :: ledger.batches }

def orderedRows (log : List AuditLog) (batch : AuditBatch) : Option (List AuditLog) :=
  batch.leaves.mapM fun leaf => log.find? (·.pk = leaf.auditLogId)

def Ledger.batchEnvelope (log : List AuditLog) (ledger : Ledger) (batch : AuditBatch) :
    Except AuditError AnchorEnvelope := do
  let key ← orRefuse (ledger.keys.get? batch.signerFingerprint) .keyUnavailable
  let rows ← orRefuse (orderedRows log batch) .format
  let leaves ← orRefuse (rows.mapM (·.member)) .format
  let payload := batchPayload ledger.scope key batch.batchSeq leaves batch.merkleRoot
    batch.prevBatchRoot batch.createdAt batch.signerFingerprint
  require (key.authorizes batch.batchSeq) .outsideInterval
  require (batch.signature.verifies (.batch payload) key.fingerprint) .inconsistent
  pure { payload := .batch payload, signature := batch.signature, publicKey := key.fingerprint }

/-- One batch of `synchronize_anchors`, or a publication. -/
def Ledger.anchorBatch (log : List AuditLog) (batch : AuditBatch) (ledger : Ledger) :
    Except AuditError Ledger := do
  require (batch ∈ ledger.batches) .integrity
  let envelope ← ledger.batchEnvelope log batch
  let anchors ← (ledger.anchors.publish envelope).mapError .anchor
  pure { ledger with anchors := anchors }

def AuditSigningKeyRotation.latestState (rotation : AuditSigningKeyRotation) :
    Option RotationState :=
  rotation.states.getLast?

def AuditSigningKeyRotation.envelope (rotation : AuditSigningKeyRotation) :
    RotationEnvelope where
  payload := rotation.payload
  oldSignature := rotation.oldSignature
  newSignature := rotation.newSignature

def AuditSigningKeyRotation.addState (rotation : AuditSigningKeyRotation)
    (state : RotationState) : Except AuditError AuditSigningKeyRotation := do
  require (RotationState.follows rotation.latestState state) .wrongState
  pure { rotation with states := rotation.states ++ [state] }

/-- The bindings that `validate_rotation` checks. -/
def AuditSigningKeyRotation.Binds (rotation : AuditSigningKeyRotation) (scope : Scope)
    (oldKey newKey : AuditSigningKey) : Prop :=
  rotation.payload.scope = scope ∧ rotation.payload.oldVersion = oldKey.version ∧
    rotation.payload.newVersion = newKey.version ∧
    oldKey.version < newKey.version ∧
    newKey.validFromSeq = rotation.payload.lastOldBatchSeq + 1 ∧
    rotation.oldSignature.verifies rotation.payload oldKey.fingerprint ∧
    rotation.newSignature.verifies rotation.payload newKey.fingerprint

instance (rotation : AuditSigningKeyRotation) (scope : Scope)
    (oldKey newKey : AuditSigningKey) : Decidable (rotation.Binds scope oldKey newKey) :=
  inferInstanceAs (Decidable (_ ∧ _))

def Ledger.validateRotation (ledger : Ledger) (rotation : AuditSigningKeyRotation) :
    Except AuditError RotationEnvelope := do
  let oldKey ← orRefuse (ledger.keys.get? rotation.payload.oldFingerprint) .inconsistent
  let newKey ← orRefuse (ledger.keys.get? rotation.payload.newFingerprint) .inconsistent
  require (rotation.Binds ledger.scope oldKey newKey) .inconsistent
  pure rotation.envelope

/-- The highest version of a key of the scope. -/
def Ledger.lastVersion (ledger : Ledger) : Nat :=
  (ledger.keys.rows.map (·.version)).foldl max 0

def Ledger.prepareRotation (expectedFingerprint : Fingerprint) (expectedHead : Nat × Digest)
    (fingerprint : Fingerprint) (rotationId : Uuid) (now : Instant) (ledger : Ledger) :
    Except AuditError Ledger := do
  let oldKey ← orRefuse ledger.activeKey .keyUnavailable
  require (oldKey.fingerprint = expectedFingerprint ∧ ledger.head = expectedHead) .expectations
  require (¬ (1 < oldKey.version ∧ ledger.head.1 < oldKey.validFromSeq)) .notSealedYet
  if oldKey.pendingRotation ≠ none then
    pure ledger
  else
    let newKey : AuditSigningKey :=
      { fingerprint := fingerprint
        version := ledger.lastVersion + 1
        validFromSeq := ledger.head.1 + 1
        validToSeq := none
        isActive := false
        activation := none
        activatedAt := none
        wrapped := true
        pendingRotation := none }
    let payload : RotationPayload :=
      { scope := ledger.scope
        rotationId := rotationId
        oldFingerprint := oldKey.fingerprint
        newFingerprint := fingerprint
        oldVersion := oldKey.version
        newVersion := newKey.version
        lastOldBatchSeq := ledger.head.1
        lastOldBatchRoot := ledger.head.2
        createdAt := now }
    let keys ← ledger.keys.insertNew newKey .integrity
    require oldKey.hasMaterial .keyUnavailable
    let rotations ← ledger.rotations.insertNew
      { payload := payload
        oldSignature := { signer := oldKey.fingerprint, message := payload }
        newSignature := { signer := fingerprint, message := payload }
        states := [.prepared] } .integrity
    pure { ledger with
      keys := keys.put { oldKey with pendingRotation := some rotationId }
      rotations := rotations }

def Ledger.anchorRotation (rotation : AuditSigningKeyRotation) (ledger : Ledger) :
    Except AuditError Ledger := do
  let envelope ← ledger.validateRotation rotation
  let current ← orRefuse (ledger.keys.get? rotation.payload.oldFingerprint) .claimChanged
  require (current.pendingRotation = some rotation.payload.rotationId) .claimChanged
  let anchors ← (ledger.anchors.publishRotation envelope).mapError .anchor
  pure { ledger with anchors := anchors }

def Ledger.publishRotation (rotationId : Uuid) (ledger : Ledger) :
    Except AuditError Ledger := do
  let rotation ← orRefuse (ledger.rotations.get? rotationId) .integrity
  let ledger ← ledger.anchorRotation rotation
  if .published ∈ rotation.states then
    pure ledger
  else
    let rotation ← rotation.addState .published
    pure { ledger with rotations := ledger.rotations.put rotation }

/-- `publish_rotation` that stops after the answer of the store. -/
def Ledger.publishRotationOnly (rotationId : Uuid) (ledger : Ledger) :
    Except AuditError Ledger := do
  let rotation ← orRefuse (ledger.rotations.get? rotationId) .integrity
  ledger.anchorRotation rotation

def Ledger.finalizeRotation (rotationId : Uuid) (now : Instant) (ledger : Ledger) :
    Except AuditError Ledger := do
  let rotation ← orRefuse (ledger.rotations.get? rotationId) .integrity
  let envelope ← ledger.validateRotation rotation
  let payload := rotation.payload
  require (ledger.anchors.fetchRotation payload.oldFingerprint payload.newFingerprint
    payload.lastOldBatchSeq = some envelope) .notAnchored
  let oldKey ← orRefuse ledger.activeKey .keyUnavailable
  require (oldKey.fingerprint = payload.oldFingerprint ∧
    oldKey.pendingRotation = some payload.rotationId) .claimChanged
  require (ledger.head = (payload.lastOldBatchSeq, payload.lastOldBatchRoot)) .headChanged
  require (rotation.latestState = some .published) .wrongState
  -- the constraint `ck_audit_signing_key_valid_interval`
  require (oldKey.validFromSeq ≤ ledger.head.1) .integrity
  let newKey ← orRefuse (ledger.keys.get? payload.newFingerprint) .integrity
  let retired := { oldKey with
    validToSeq := some ledger.head.1
    isActive := false
    pendingRotation := none
    wrapped := false }
  let rotation ← rotation.addState .finalized
  pure { ledger with
    keys := (ledger.keys.put retired).put { newKey with isActive := true, activatedAt := some now }
    rotations := ledger.rotations.put rotation }

def Ledger.abortRotation (rotationId : Uuid) (ledger : Ledger) :
    Except AuditError Ledger := do
  let rotation ← orRefuse (ledger.rotations.get? rotationId) .integrity
  let _ ← ledger.validateRotation rotation
  let payload := rotation.payload
  let oldKey ← orRefuse (ledger.keys.get? payload.oldFingerprint) .integrity
  require (rotation.latestState = some .prepared) .wrongState
  let head ← ledger.anchors.scopeHead.mapError .anchor
  require (head = some (ScopeHead.mk payload.lastOldBatchSeq payload.oldFingerprint
    payload.lastOldBatchRoot)) .diverged
  require (oldKey.isActive ∧ oldKey.pendingRotation = some payload.rotationId) .claimChanged
  let newKey ← orRefuse (ledger.keys.get? payload.newFingerprint) .integrity
  let rotation ← rotation.addState .aborted
  pure { ledger with
    keys := (ledger.keys.put { newKey with wrapped := false }).put
      { oldKey with pendingRotation := none }
    rotations := ledger.rotations.put rotation }

end Audit
end SpaceWorks
