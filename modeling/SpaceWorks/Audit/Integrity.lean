import Mathlib.Data.List.Sort
import SpaceWorks.Audit.Deployment

/-!
# Verification of the whole log

`verify_audit_integrity` (`integrity_*.py`, `batch_verification.py`, `verification.py`) over the
database and the anchor store.  The result is the class of a failure.
-/

namespace SpaceWorks
namespace Audit

open Checked

inductive AuditFailureClass
  | activationMissing
  | cutoverMembership
  | rowMacMismatch
  | rowMacMissing
  | keyUnavailable
  | leafMembership
  | merkleRoot
  | signature
  | chainContinuity
  | anchorMissing
  | anchorConflict
  | anchorUnavailable
  | batchMissing
  | keyInterval
  | rotationChain
  deriving DecidableEq

inductive AuditMacStatus
  | attested
  | unattested
  | macMissing
  | mismatch
  | keyUnavailable
  deriving DecidableEq

/-- The ids of the makerspaces, and `audit_mac_configured`. -/
structure Site where
  makerspaces : List Nat
  macConfigured : Bool

def Site.scopes (site : Site) : List Scope :=
  none :: site.makerspaces.map some

variable (H : Hashes) (site : Site) (d : Deployment)

def classifyAuditRow (row : AuditLog) : AuditMacStatus :=
  let ledger := d.ledger row.content.makerspaceId
  match row.rowMac with
  | none =>
    match ledger.macKey with
    | none => if site.macConfigured then .keyUnavailable else .unattested
    | some _ =>
      if site.macConfigured = false then
        .keyUnavailable
      else
        match ledger.cutover H with
        | .error _ => .mismatch
        | .ok none => .keyUnavailable
        | .ok (some (cutover, _)) => if cutover < row.pk then .macMissing else .unattested
  | some rowMac =>
    if row.content.eventUuid = none then
      .mismatch
    else if site.macConfigured = false then
      .keyUnavailable
    else
      match ledger.macKey with
      | none => .keyUnavailable
      | some key =>
        if calculateRowMac H key.secret row.content = some rowMac then .attested
        else .mismatch

def Deployment.batched (pk : Nat) : Bool :=
  site.scopes.any fun scope => (d.ledger scope).leafIds.contains pk

def verifyRow (row : AuditLog) : Except AuditFailureClass Unit :=
  let status := classifyAuditRow H site d row
  let status :=
    if d.batched site row.pk ∧ (status = .unattested ∨ status = .macMissing) then .mismatch
    else status
  match status with
  | .mismatch => .error .rowMacMismatch
  | .macMissing => .error .rowMacMissing
  | .keyUnavailable => .error .keyUnavailable
  | .attested | .unattested => .ok ()

def verifyRows : Except AuditFailureClass Unit :=
  forM d.log (verifyRow H site d)

/-- The manifest names rows as they are, one without a MAC. -/
def verifyGenesisMembership (scope : Scope) (genesis : List GenesisEntry) :
    Except AuditFailureClass Unit :=
  require (genesisHolds H d.log scope genesis) .cutoverMembership

section

def verifyScopeRegistry : Except AuditFailureClass Unit := do
  require (site.macConfigured → ∀ scope ∈ site.scopes, (d.ledger scope).macKey ≠ none)
    .keyUnavailable
  require (∀ scope ∈ site.scopes, (d.ledger scope).macKey ≠ none →
    (d.ledger scope).keys.rows ≠ []) .activationMissing

variable (ledger : Ledger)

def verifyActivation (key : AuditSigningKey) : Except AuditFailureClass Unit := do
  require (key.activatedAt ≠ none) .activationMissing
  let activation ← orRefuse key.activation .signature
  require (activation.signature.verifies (.activation activation.payload) key.fingerprint)
    .signature
  let macKey ← orRefuse ledger.macKey .cutoverMembership
  require (activation.payload.cutoverId = macKey.attestedFromId ∧
    some activation.payload.cutoverMac = macKey.attestedFromMac) .cutoverMembership
  let external ← orRefuse (ledger.anchors.fetch key.fingerprint 0) .anchorMissing
  require (some external = key.activationEnvelope) .anchorConflict
  verifyGenesisMembership H d ledger.scope activation.payload.genesisRows

def Ledger.abortedCandidate (key : AuditSigningKey) : Bool :=
  ledger.rotations.rows.any fun rotation =>
    rotation.payload.newFingerprint = key.fingerprint && rotation.states.contains .aborted

/-- The keys by version, without aborted candidates. -/
def Ledger.generations : List AuditSigningKey :=
  (ledger.keys.rows.filter fun key => !ledger.abortedCandidate key).insertionSort
    fun key other => key.version ≤ other.version

def Ledger.finalizedRotations : List AuditSigningKeyRotation :=
  (ledger.rotations.rows.filter fun rotation => rotation.states.contains .finalized).insertionSort
    fun rotation other => rotation.payload.oldVersion ≤ other.payload.oldVersion

def Ledger.rootAt (sequence : Nat) : Option Digest :=
  if sequence = 0 then some emptyHeadRoot
  else (ledger.batches.find? (·.batchSeq = sequence)).map (·.merkleRoot)

def verifyTransition (rotation : AuditSigningKeyRotation) (oldKey newKey : AuditSigningKey) :
    Except AuditFailureClass Unit := do
  let payload := rotation.payload
  require (payload.oldFingerprint = oldKey.fingerprint ∧
    payload.newFingerprint = newKey.fingerprint ∧ oldKey.version < newKey.version ∧
        oldKey.validToSeq = some payload.lastOldBatchSeq ∧
          newKey.validFromSeq = payload.lastOldBatchSeq + 1) .rotationChain
  require (rotation.states = [.prepared, .published, .finalized]) .rotationChain
  require (ledger.rootAt payload.lastOldBatchSeq = some payload.lastOldBatchRoot) .rotationChain
  let envelope ← (ledger.validateRotation rotation).mapError fun _ => .rotationChain
  require (ledger.anchors.fetchRotation payload.oldFingerprint payload.newFingerprint
    payload.lastOldBatchSeq = some envelope) .rotationChain

def verifyTransitions : List AuditSigningKeyRotation → List AuditSigningKey →
    Except AuditFailureClass Unit
  | [], [_] => .ok ()
  | rotation :: rotations, oldKey :: newKey :: keys => do
    verifyTransition ledger rotation oldKey newKey
    verifyTransitions rotations (newKey :: keys)
  | _, _ => .error .rotationChain

def verifyRotationChain (keys : List AuditSigningKey) : Except AuditFailureClass Unit := do
  let genesis ← orRefuse keys.head? .rotationChain
  require (genesis.version = 1 ∧ genesis.validFromSeq = 0) .rotationChain
  let last ← orRefuse keys.getLast? .rotationChain
  require (keys.filter (·.isActive) = [last] ∧ last.validToSeq = none) .rotationChain
  require (∀ key ∈ keys.dropLast, key.validToSeq ≠ none ∧ key.wrapped = false) .rotationChain
  verifyTransitions ledger ledger.finalizedRotations keys

def verifyBatchLocal (key : AuditSigningKey) (batch : AuditBatch) :
    Except AuditFailureClass Unit := do
  require (batch.leaves.map (·.leafPosition) = List.range batch.leaves.length ∧
    batch.leaves.length = batch.leafCount) .leafMembership
  let rows ← orRefuse (orderedRows d.log batch) .leafMembership
  require (∀ row ∈ rows, row.content.makerspaceId = ledger.scope) .leafMembership
  let leaves ← orRefuse (rows.mapM (·.member)) .leafMembership
  require (merkleRoot H (leaves.map (leafHash H)) = some batch.merkleRoot) .merkleRoot
  require (key.authorizes batch.batchSeq) .keyInterval
  require (batch.signature.verifies (.batch (batchPayload ledger.scope key batch.batchSeq leaves
    batch.merkleRoot batch.prevBatchRoot batch.createdAt batch.signerFingerprint))
    key.fingerprint) .signature

/-- One turn of `_verify_batches`, after the root before. -/
def verifyBatch (keys : List AuditSigningKey) (expectedSeq : Nat) (previousRoot : Option Digest)
    (batch : AuditBatch) : Except AuditFailureClass Unit := do
  require (batch.batchSeq = expectedSeq ∧ batch.prevBatchRoot = previousRoot) .chainContinuity
  let key ← orRefuse (keys.find? (·.fingerprint = batch.signerFingerprint)) .keyInterval
  verifyBatchLocal H d ledger key batch
  let envelope ← (ledger.batchEnvelope d.log batch).mapError fun _ => .signature
  let external ← orRefuse (ledger.anchors.fetch batch.signerFingerprint batch.batchSeq)
    .anchorMissing
  require (external = envelope) .anchorConflict

def verifyBatchLoop (keys : List AuditSigningKey) : List AuditBatch → Except AuditFailureClass Unit
  | [] => .ok ()
  | batch :: batches => do
    verifyBatchLoop keys batches
    verifyBatch H d ledger keys (batches.length + 1) (batches.head?.map (·.merkleRoot)) batch

def verifyBatches : Except AuditFailureClass Unit := do
  verifyBatchLoop H d ledger ledger.generations ledger.batches
  let activeKey ← orRefuse (ledger.generations.find? (·.isActive)) .keyInterval
  let localSeq := ledger.batches.length
  require (ledger.anchors.fetch activeKey.fingerprint (localSeq + 1) = none) .batchMissing
  let localRoot := (ledger.batches.head?.map (·.merkleRoot)).getD emptyHeadRoot
  let head ← ledger.anchors.scopeHead.mapError fun _ => .anchorUnavailable
  require (head = some (ScopeHead.mk localSeq activeKey.fingerprint localRoot)) .batchMissing

end

def verifyScope (scope : Scope) : Except AuditFailureClass Unit := do
  let ledger := d.ledger scope
  let genesis ← orRefuse ledger.generations.head? .rotationChain
  verifyActivation H d ledger genesis
  verifyRotationChain ledger ledger.generations
  verifyBatches H d ledger

def Deployment.visited : List Scope :=
  site.scopes.filter fun scope => (d.ledger scope).keys.rows ≠ []

def verifyAuditIntegrity : Except AuditFailureClass Unit := do
  verifyRows H site d
  verifyScopeRegistry site d
  forM (d.visited site) (verifyScope H d)

end Audit
end SpaceWorks
