import Mathlib.Algebra.Group.Int.Defs
import Mathlib.Data.List.Basic
/-!
# Formats of the audit log

Rows, row MACs, Merkle roots and signed payloads (`canonical.py`, `batch_format.py`, `signing.py`).
SHA-256 and HMAC are parameters; each domain prefix is a constructor.  A key is its fingerprint, a
signature its signer and what it signs.
-/

namespace SpaceWorks
namespace Audit

/-- The id of a makerspace, or none for the global scope. -/
abbrev Scope := Option Nat

/-- 32 bytes, read as a number. -/
abbrev Digest := Nat

abbrev Fingerprint := Nat
abbrev Uuid := Nat
abbrev Instant := Nat
abbrev MacSecret := Nat

/-- A stored JSONB value, with sorted entries. -/
inductive Json
  | null
  | bool (value : Bool)
  | int (value : Int)
  | float (text : String)
  | str (value : String)
  | list (items : List Json)
  | dict (entries : List (String × Json))

def minInteger : Int := -(2 ^ 63)
def maxInteger : Int := 2 ^ 63 - 1

mutual

/-- `canonicalize_meta` leaves the value as it is. -/
def Json.canonical : Json → Bool
  | .null | .bool _ | .str _ => true
  | .int value => minInteger ≤ value && value ≤ maxInteger
  | .float _ => false
  | .list items => canonicalItems items
  | .dict entries => canonicalEntries entries

def canonicalItems : List Json → Bool
  | [] => true
  | item :: items => item.canonical && canonicalItems items

def canonicalEntries : List (String × Json) → Bool
  | [] => true
  | (_, item) :: entries => item.canonical && canonicalEntries entries

end

/-- What the MAC of a row covers, except its primary key. -/
structure RowContent where
  makerspaceId : Scope
  eventUuid : Option Uuid
  actorId : Option Nat
  action : String
  targetType : String
  targetId : String
  metadata : Json
  createdAt : Instant

structure AuditLog where
  pk : Nat
  content : RowContent
  rowMac : Option Digest

section Hashing

inductive Preimage
  | leaf (auditLogId : Nat) (eventUuid : Uuid) (rowMac : Digest)
  | node (left right : Digest)
  | genesisRow (content : RowContent)

inductive MacMessage
  | row (content : RowContent)
  | cutover (scope : Scope) (value : Nat)

structure Hashes where
  sha256 : Preimage → Digest
  hmac : MacSecret → MacMessage → Digest

variable (H : Hashes)

/-- `calculate_row_mac`; none for bad metadata. -/
def calculateRowMac (secret : MacSecret) (content : RowContent) : Option Digest :=
  if content.metadata.canonical then some (H.hmac secret (.row content)) else none

def cutoverMac (secret : MacSecret) (scope : Scope) (value : Nat) : Digest :=
  H.hmac secret (.cutover scope value)

structure Member where
  auditLogId : Nat
  eventUuid : Uuid
  rowMac : Digest
  deriving DecidableEq

/-- A row without a UUID or a MAC is no leaf (`AuditBatchFormatError`). -/
def AuditLog.member (row : AuditLog) : Option Member :=
  match row.content.eventUuid, row.rowMac with
  | some eventUuid, some rowMac =>
    some { auditLogId := row.pk, eventUuid := eventUuid, rowMac := rowMac }
  | _, _ => none

def leafHash (member : Member) : Digest :=
  H.sha256 (.leaf member.auditLogId member.eventUuid member.rowMac)

def nextLevel : List Digest → List Digest
  | left :: right :: level => H.sha256 (.node left right) :: nextLevel level
  | level => level

theorem nextLevel_length_le (level : List Digest) :
    (nextLevel H level).length ≤ level.length := by
  induction level using nextLevel.induct with
  | case1 =>
    simp only [nextLevel, List.length_cons]
    omega
  | case2 =>
    simp [nextLevel]

def merkleRoot : List Digest → Option Digest
  | [] => none
  | [root] => some root
  | left :: right :: level =>
    merkleRoot (H.sha256 (.node left right) :: nextLevel H level)
  termination_by level => level.length
  decreasing_by
    have hshorter := nextLevel_length_le H level
    simp only [List.length_cons]
    omega

structure GenesisEntry where
  auditLogId : Nat
  eventUuid : Option Uuid
  rowMac : Option Digest
  contentSha256 : Digest
  deriving DecidableEq

def genesisEntry (row : AuditLog) : GenesisEntry where
  auditLogId := row.pk
  eventUuid := row.content.eventUuid
  rowMac := row.rowMac
  contentSha256 := H.sha256 (.genesisRow row.content)

end Hashing

def anchorProtocolVersion : Nat := 2

def emptyHeadRoot : Digest := 0

structure Signature (α : Type) where
  signer : Fingerprint
  message : α
  deriving DecidableEq

/-- `verify_bytes`. -/
def Signature.verifies {α : Type} [DecidableEq α] (signature : Signature α) (message : α)
    (publicKey : Fingerprint) : Bool :=
  signature = { signer := publicKey, message := message }

structure ActivationPayload where
  scope : Scope
  cutoverId : Nat
  cutoverMac : Digest
  genesisRows : List GenesisEntry
  signerFingerprint : Fingerprint
  createdAt : Instant
  deriving DecidableEq

structure BatchPayload where
  scope : Scope
  batchSeq : Nat
  leafCount : Nat
  leaves : List Member
  merkleRoot : Digest
  prevBatchRoot : Option Digest
  createdAt : Instant
  signerFingerprint : Fingerprint
  anchorProtocolVersion : Option Nat
  deriving DecidableEq

inductive AnchorPayload
  | activation (payload : ActivationPayload)
  | batch (payload : BatchPayload)
  deriving DecidableEq

structure AnchorEnvelope where
  payload : AnchorPayload
  signature : Signature AnchorPayload
  publicKey : Fingerprint
  deriving DecidableEq

def AnchorPayload.signerFingerprint : AnchorPayload → Fingerprint
  | .activation payload => payload.signerFingerprint
  | .batch payload => payload.signerFingerprint

def AnchorPayload.batchSeq : AnchorPayload → Nat
  | .activation _ => 0
  | .batch payload => payload.batchSeq

def AnchorPayload.root : AnchorPayload → Digest
  | .activation _ => emptyHeadRoot
  | .batch payload => payload.merkleRoot

def AnchorPayload.protocol : AnchorPayload → Nat
  | .activation _ => 1
  | .batch payload => payload.anchorProtocolVersion.getD 1

def AnchorEnvelope.signer (envelope : AnchorEnvelope) : Fingerprint :=
  envelope.payload.signerFingerprint

def AnchorEnvelope.seq (envelope : AnchorEnvelope) : Nat :=
  envelope.payload.batchSeq

structure RotationPayload where
  scope : Scope
  rotationId : Uuid
  oldFingerprint : Fingerprint
  newFingerprint : Fingerprint
  oldVersion : Nat
  newVersion : Nat
  lastOldBatchSeq : Nat
  lastOldBatchRoot : Digest
  createdAt : Instant
  deriving DecidableEq

structure RotationEnvelope where
  payload : RotationPayload
  oldSignature : Signature RotationPayload
  newSignature : Signature RotationPayload
  deriving DecidableEq

end Audit
end SpaceWorks
