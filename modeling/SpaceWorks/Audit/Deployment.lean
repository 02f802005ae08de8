import SpaceWorks.Library.Runs
import SpaceWorks.Audit.Signing

/-!
# A deployment with its audit log

The log of all scopes, their ledgers, and the requests that change them: audit writes
(`services.py`), MAC keys (`keys.py`), attestation cycles and key rotations.
-/

namespace SpaceWorks
namespace Audit

open Checked TransactionalSystem

structure Deployment where
  log : List AuditLog
  nextPk : Nat
  ledger : Scope → Ledger

def Ledger.initial (scope : Scope) : Ledger where
  scope := scope
  macKey := none
  keys := ∅
  rotations := ∅
  batches := []
  anchors := { objects := [], transitions := [] }

def Deployment.initial : Deployment where
  log := []
  nextPk := 1
  ledger := Ledger.initial

/-- The requests about one scope; `anchorActivation` and `anchorRotation` stop after the store's
answer. -/
inductive ScopeRequest
  | provisionMacKey (secret : MacSecret)
  | provision (fingerprint : Fingerprint) (now : Instant)
  | anchorActivation
  | activate (fingerprint : Fingerprint) (now : Instant)
  | sealScope (signingKey : AuditSigningKey) (now : Instant)
  | anchorBatch (batch : AuditBatch)
  | prepareRotation (expectedFingerprint : Fingerprint) (expectedHead : Nat × Digest)
      (fingerprint : Fingerprint) (rotationId : Uuid) (now : Instant)
  | anchorRotation (rotationId : Uuid)
  | publishRotation (rotationId : Uuid)
  | finalizeRotation (rotationId : Uuid) (now : Instant)
  | abortRotation (rotationId : Uuid)

/-- `record` is an audit write; `keyAvailable` tells whether the MAC key can be unwrapped. -/
inductive Request
  | record (content : RowContent) (keyAvailable : Bool)
  | scope (scope : Scope) (request : ScopeRequest)

variable (H : Hashes)

def Ledger.provisionMacKey (log : List AuditLog) (secret : MacSecret) (ledger : Ledger) :
    Except AuditError Ledger :=
  match ledger.macKey with
  | some _ => .ok ledger
  | none =>
    let attestedFromId := ((visibleRows log ledger.scope).map (·.pk)).foldl max 0
    let macKey : AuditMacKey :=
      { secret := secret
        attestedFromId := attestedFromId
        attestedFromMac := some (cutoverMac H secret ledger.scope attestedFromId) }
    .ok { ledger with macKey := some macKey }

def Ledger.step (log : List AuditLog) (ledger : Ledger) :
    ScopeRequest → Except AuditError Ledger
  | .provisionMacKey secret => ledger.provisionMacKey H log secret
  | .provision fingerprint now => ledger.provision H log fingerprint now
  | .anchorActivation => ledger.anchorActivation H log
  | .activate fingerprint now => ledger.activate H log fingerprint now
  | .sealScope signingKey now => ledger.sealScope H log signingKey now
  | .anchorBatch batch => ledger.anchorBatch log batch
  | .prepareRotation expectedFingerprint expectedHead fingerprint rotationId now =>
    ledger.prepareRotation expectedFingerprint expectedHead fingerprint rotationId now
  | .anchorRotation rotationId => ledger.publishRotationOnly rotationId
  | .publishRotation rotationId => ledger.publishRotation rotationId
  | .finalizeRotation rotationId now => ledger.finalizeRotation rotationId now
  | .abortRotation rotationId => ledger.abortRotation rotationId

/-- The row MAC of `record`, none without the key. -/
def Deployment.rowMac (d : Deployment) (content : RowContent) (keyAvailable : Bool) :
    Option Digest :=
  if keyAvailable then
    (d.ledger content.makerspaceId).macKey.bind fun key =>
      calculateRowMac H key.secret content
  else
    none

/-- `record`: canonical metadata, and a UUID. -/
def Deployment.record (d : Deployment) (content : RowContent) (keyAvailable : Bool) :
    Except AuditError Deployment := do
  require (content.metadata.canonical ∧ content.eventUuid.isSome) .format
  let row : AuditLog :=
    { pk := d.nextPk, content := content, rowMac := d.rowMac H content keyAvailable }
  pure { d with log := d.log ++ [row], nextPk := d.nextPk + 1 }

def Deployment.step (d : Deployment) : Request → Except AuditError Deployment
  | .record content keyAvailable => d.record H content keyAvailable
  | .scope scope request => do
    let ledger ← (d.ledger scope).step H d.log request
    pure { d with ledger := Function.update d.ledger scope ledger }

def Deployment.after (requests : List Request) : Deployment :=
  run (Deployment.step H) .initial requests

section Scopes

variable {H}

theorem Deployment.ledger_preserves {I : Ledger → Prop}
    (hinitial : ∀ scope, I (Ledger.initial scope))
    (hstep : ∀ {log ledger request ledger'}, I ledger →
      Ledger.step H log ledger request = .ok ledger' → I ledger')
    (requests : List Request) (scope : Scope) :
    I ((Deployment.after H requests).ledger scope) := by
  have hkept : Preserves (Deployment.step H) fun d => ∀ scope, I (d.ledger scope) := by
    intro d request d' hd h scope
    cases request with
    | record =>
      simp [Deployment.step, Deployment.record] at h
      obtain ⟨-, -, rfl⟩ := h
      exact hd scope
    | scope other =>
      simp [Deployment.step] at h
      obtain ⟨_, hledger, rfl⟩ := h
      by_cases hscope : scope = other
      · subst hscope
        simpa using hstep (hd scope) hledger
      · simpa [hscope] using hd scope
  exact run_preserves hkept hinitial requests scope

/-- A relation of ledgers that no request of the scope breaks holds across runs. -/
theorem Deployment.ledger_relates {R : Ledger → Ledger → Prop} (hrefl : ∀ ledger, R ledger ledger)
    (htrans : ∀ {a b c}, R a b → R b c → R a c) (hstep : ∀ {log ledger request ledger'},
      Ledger.step H log ledger request = .ok ledger' → R ledger ledger')
    (d : Deployment) (requests : List Request) (scope : Scope) :
    R (d.ledger scope) ((run (Deployment.step H) d requests).ledger scope) := by
  refine run_relates (R := fun d d' => R (d.ledger scope) (d'.ledger scope))
    (fun d => hrefl _) htrans ?_ d requests
  intro d request d' h
  cases request with
  | record =>
    simp [Deployment.step, Deployment.record] at h
    obtain ⟨-, -, rfl⟩ := h
    exact hrefl _
  | scope other =>
    simp [Deployment.step] at h
    obtain ⟨_, hledger, rfl⟩ := h
    by_cases hscope : scope = other
    · subst hscope
      simpa using hstep hledger
    · simpa [hscope] using hrefl _

end Scopes

end Audit
end SpaceWorks
