import SpaceWorks.Library.Checked
import SpaceWorks.Library.IsoTime
import SpaceWorks.Library.PyValue

/-!
# Launch capabilities

The records, requests and markers of `host_capability_types.py` and their comparison.  `uuid.UUID`
and `datetime.fromisoformat` are given by a `Formats`, SHA-256 by a function.
-/

namespace SpaceWorks
namespace Launch

open Checked Python List

/-- `uuid` is `str(uuid.UUID(text))`, and other readings of texts. -/
structure Formats where
  reader : IsoReader
  uuid : String → Option String
  uuid_uuid : ∀ {text canonical}, uuid text = some canonical → uuid canonical = some canonical

/-- `^[0-9a-f]{64}$`, of a whole text. -/
def isSha256 (text : String) : Bool :=
  text.toList.length = 64 && text.toList.all fun c => ('0' ≤ c && c ≤ '9') || ('a' ≤ c && c ≤ 'f')

def maxOid : Int := 4294967295

def maxSystemIdentifier : Nat := 18446744073709551615

def isSystemIdentifier (text : String) : Bool :=
  text.toList ≠ [] && text.toList.all Char.isDigit && 0 < numeral text.toList &&
    numeral text.toList ≤ maxSystemIdentifier

def timestamp (formats : Formats) : Value → Except String Moment
  | .str text =>
    match formats.reader.read text with
    | .malformed => .error "Capability timestamp is invalid."
    | .naive => .error "Capability timestamp lacks a timezone."
    | .aware time => .ok time
  | _ => .error "Capability timestamp is invalid."

theorem timestamp_isoText (formats : Formats) (time : Moment) :
    timestamp formats (.str (isoText time)) = .ok time := by
  simp [timestamp, formats.reader.read_isoText]

/-- The entries of a dict with exactly these keys. -/
def shaped (value : Value) (keys : List String) (refusal : String) :
    Except String (List (String × Value)) :=
  match value with
  | .dict entries =>
    if (∀ key ∈ keys, (entries.lookup key).isSome) ∧ ∀ entry ∈ entries, entry.1 ∈ keys then
      .ok entries
    else .error refusal
  | _ => .error refusal

def field (entries : List (String × Value)) (key : String) : Value :=
  (entries.lookup key).getD .null

def asText (value : Value) (refusal : String) : Except String String :=
  match value with
  | .str text => .ok text
  | _ => .error refusal

def asInt (value : Value) (refusal : String) : Except String Int :=
  match value with
  | .int n => .ok n
  | _ => .error refusal

@[simp] theorem asText_ok {value : Value} {refusal text : String} :
    asText value refusal = .ok text ↔ value = .str text := by
  unfold asText
  split <;> simp_all

@[simp] theorem asInt_ok {value : Value} {refusal : String} {n : Int} :
    asInt value refusal = .ok n ↔ value = .int n := by
  unfold asInt
  split <;> simp_all

def asUuid (formats : Formats) (value : Value) (refusal : String) : Except String String := do
  let text ← asText value refusal
  orRefuse (formats.uuid text) refusal

structure Endpoint where
  host : String
  port : Int
  database : String
  tlsIdentity : String
  deriving DecidableEq

structure ServerIdentity where
  endpoint : Endpoint
  databaseUuid : String
  systemIdentifier : Option String
  deriving DecidableEq

structure Common where
  restoreId : String
  siblingDatabaseName : String
  siblingDatabaseOid : Int
  serverIdentity : ServerIdentity
  artifactSha256 : String
  captureId : String

structure CapabilityRecord extends Common where
  nonce : String
  allowedRole : String
  expiresAt : String
  markerBinding : String

structure ConsumeRequest extends Common where
  role : String

def Endpoint.payload (endpoint : Endpoint) : Value :=
  .dict [("host", .str endpoint.host), ("port", .int endpoint.port),
    ("database", .str endpoint.database), ("tls_identity", .str endpoint.tlsIdentity)]

def ServerIdentity.payload (server : ServerIdentity) : Value :=
  .dict [("endpoint", server.endpoint.payload), ("database_uuid", .str server.databaseUuid),
    ("system_identifier", (server.systemIdentifier.map Value.str).getD .null)]

def CapabilityRecord.payload (record : CapabilityRecord) : Value :=
  .dict [("restore_id", .str record.restoreId),
    ("sibling_database_name", .str record.siblingDatabaseName),
    ("sibling_database_oid", .int record.siblingDatabaseOid),
    ("server_identity", record.serverIdentity.payload),
    ("artifact_sha256", .str record.artifactSha256), ("capture_id", .str record.captureId),
    ("nonce", .str record.nonce), ("allowed_role", .str record.allowedRole),
    ("expires_at", .str record.expiresAt), ("marker_binding", .str record.markerBinding)]

def allowedRoles : List String := ["backend", "worker", "beat", "cron", "migrate", "management"]

/-- A role under a key that the dict may have. -/
def checkRole (entries : List (String × Value)) (key : String) (allowed : List String)
    (refusal : String) : Except String Unit :=
  match entries.lookup key with
  | some value => do
    let role ← asText value refusal
    require (role ∈ allowed) refusal
  | none => pure ()

def validateEndpoint (value : Value) (siblingDatabaseName : String) : Except String Endpoint := do
  let entries ← shaped value ["host", "port", "database", "tls_identity"]
    "Capability database endpoint is invalid."
  let incomplete := "Capability database endpoint is incomplete."
  let host ← asText (field entries "host") incomplete
  let database ← asText (field entries "database") incomplete
  let tlsIdentity ← asText (field entries "tls_identity") incomplete
  require (host ≠ "" ∧ database ≠ "") incomplete
  require (database = siblingDatabaseName) "Capability endpoint names a different database."
  let port ← asInt (field entries "port") "Capability database endpoint port is invalid."
  require (0 < port ∧ port < 65536) "Capability database endpoint port is invalid."
  pure ⟨host, port, database, tlsIdentity⟩

def validateSystemIdentifier : Value → Except String (Option String)
  | .null => .ok none
  | value => do
    let text ← asText value "Capability system identifier is invalid."
    require (isSystemIdentifier text = true) "Capability system identifier is invalid."
    pure (some text)

def validateServer (formats : Formats) (value : Value) (siblingDatabaseName : String) :
    Except String ServerIdentity := do
  let entries ← shaped value ["endpoint", "database_uuid", "system_identifier"]
    "Capability server identity is invalid."
  let endpoint ← validateEndpoint (field entries "endpoint") siblingDatabaseName
  let databaseUuid ← asUuid formats (field entries "database_uuid")
    "Capability database UUID is invalid."
  let systemIdentifier ← validateSystemIdentifier (field entries "system_identifier")
  pure ⟨endpoint, databaseUuid, systemIdentifier⟩

def validateCommon (formats : Formats) (entries : List (String × Value)) :
    Except String Common := do
  let restoreId ← asUuid formats (field entries "restore_id") "Capability restore_id is invalid."
  let captureId ← asUuid formats (field entries "capture_id") "Capability capture_id is invalid."
  let artifactSha256 ← asText (field entries "artifact_sha256")
    "Capability artifact digest is invalid."
  require (isSha256 artifactSha256 = true) "Capability artifact digest is invalid."
  let oid ← asInt (field entries "sibling_database_oid")
    "Capability sibling_database_oid is invalid."
  require (0 < oid ∧ oid ≤ maxOid) "Capability sibling_database_oid is invalid."
  let name ← asText (field entries "sibling_database_name")
    "Capability sibling database name is invalid."
  require (name ≠ "") "Capability sibling database name is invalid."
  checkRole entries "role" ["backend"] "Consume request role is not backend."
  checkRole entries "allowed_role" allowedRoles "Capability allowed role is unknown."
  let server ← validateServer formats (field entries "server_identity") name
  pure ⟨restoreId, name, oid, server, artifactSha256, captureId⟩

def recordFields : List String :=
  ["restore_id", "sibling_database_name", "sibling_database_oid", "server_identity",
    "artifact_sha256", "capture_id", "nonce", "allowed_role", "expires_at", "marker_binding"]

def validateRecord (formats : Formats) (value : Value) : Except String CapabilityRecord := do
  let entries ← shaped value recordFields "Capability record has an invalid shape."
  let common ← validateCommon formats entries
  let nonce ← asText (field entries "nonce") "Capability nonce is invalid."
  require (isSha256 nonce = true) "Capability nonce is invalid."
  let binding ← asText (field entries "marker_binding") "Capability marker binding is invalid."
  require (isSha256 binding = true) "Capability marker binding is invalid."
  let _ ← timestamp formats (field entries "expires_at")
  let expiresAt ← asText (field entries "expires_at") "Capability timestamp is invalid."
  let allowedRole ← asText (field entries "allowed_role") "Capability allowed role is unknown."
  pure { common with nonce, allowedRole, expiresAt, markerBinding := binding }

def requestFields : List String :=
  ["role", "restore_id", "sibling_database_name", "sibling_database_oid", "server_identity",
    "artifact_sha256", "capture_id"]

def validateRequest (formats : Formats) (value : Value) : Except String ConsumeRequest := do
  let entries ← shaped value requestFields "Consume request has an invalid shape."
  let common ← validateCommon formats entries
  let role ← asText (field entries "role") "Consume request role is not backend."
  pure { common with role }

section Payloads

variable {formats : Formats} {refusal canonical name : String}

theorem asUuid_ok {value : Value} :
    asUuid formats value refusal = .ok canonical ↔
      ∃ text, value = .str text ∧ formats.uuid text = some canonical := by
  simp [asUuid]

theorem asUuid_canonical {value : Value}
    (h : asUuid formats value refusal = .ok canonical) (refusal' : String) :
    asUuid formats (.str canonical) refusal' = .ok canonical := by
  obtain ⟨_, -, huuid⟩ := asUuid_ok.mp h
  exact asUuid_ok.mpr ⟨canonical, rfl, formats.uuid_uuid huuid⟩

theorem validateEndpoint_payload {value : Value} {endpoint : Endpoint}
    (h : validateEndpoint value name = .ok endpoint) :
    validateEndpoint endpoint.payload name = .ok endpoint := by
  simp only [validateEndpoint, bind_ok, asText_ok, asInt_ok, require_ok, pure_ok, exists_const] at h
  obtain ⟨-, -, _, -, _, -, _, -, hpresent, rfl, _, -, hport, rfl⟩ := h
  simp [validateEndpoint, Endpoint.payload, shaped, field, lookup_cons, asText, asInt, hpresent,
    hport]

theorem validateSystemIdentifier_payload {value : Value} {identifier : Option String}
    (h : validateSystemIdentifier value = .ok identifier) :
    validateSystemIdentifier ((identifier.map Value.str).getD .null) = .ok identifier := by
  unfold validateSystemIdentifier at h
  split at h
  next =>
    cases h
    rfl
  next =>
    simp at h
    obtain ⟨_, -, htext, rfl⟩ := h
    simp [validateSystemIdentifier, asText, htext]

theorem validateServer_payload {value : Value} {server : ServerIdentity}
    (h : validateServer formats value name = .ok server) :
    validateServer formats server.payload name = .ok server := by
  simp [validateServer] at h
  obtain ⟨_, -, endpoint, hendpoint, uuid, huuid, identifier, hidentifier, rfl⟩ := h
  have hentries : shaped (ServerIdentity.payload ⟨endpoint, uuid, identifier⟩)
      ["endpoint", "database_uuid", "system_identifier"] "Capability server identity is invalid." =
      .ok [("endpoint", endpoint.payload), ("database_uuid", .str uuid),
        ("system_identifier", (identifier.map Value.str).getD .null)] := by
    simp [ServerIdentity.payload, shaped, lookup_cons]
  simp only [validateServer, bind_ok, pure_ok]
  exact ⟨_, hentries, endpoint, validateEndpoint_payload hendpoint, uuid,
    asUuid_canonical huuid _, identifier, validateSystemIdentifier_payload hidentifier, rfl⟩

theorem mem_of_checkRole {entries : List (String × Value)} {key role : String}
    {allowed : List String} (h : checkRole entries key allowed refusal = .ok ())
    (hrole : field entries key = .str role) : role ∈ allowed := by
  unfold checkRole at h
  unfold field at hrole
  cases hlookup : entries.lookup key with
  | none => simp [hlookup] at hrole
  | some =>
    rw [hlookup, Option.getD_some] at hrole
    simpa [hlookup, hrole, asText] using h

theorem validateRecord_payload {value : Value} {record : CapabilityRecord}
    (h : validateRecord formats value = .ok record) :
    validateRecord formats record.payload = .ok record := by
  simp only [validateRecord, validateCommon, bind_ok, pure_ok, asText_ok, asInt_ok,
    require_ok, exists_const] at h
  obtain ⟨_, -, _, ⟨restoreId, hrestore, captureId, hcapture, digest, -, hdigest, oid, -, hoid,
    name, -, hname, _, -, _, hrole, server, hserver, rfl⟩, nonce, -, hnonce, binding, -, hbinding,
    _, htime, expiresAt, hexpires, allowedRole, hallowed, rfl⟩ := h
  have hmem := mem_of_checkRole hrole hallowed
  rw [hexpires] at htime
  have hcommon : validateCommon formats [("restore_id", .str restoreId),
      ("sibling_database_name", .str name), ("sibling_database_oid", .int oid),
      ("server_identity", server.payload), ("artifact_sha256", .str digest),
      ("capture_id", .str captureId), ("nonce", .str nonce), ("allowed_role", .str allowedRole),
      ("expires_at", .str expiresAt), ("marker_binding", .str binding)] =
      .ok ⟨restoreId, name, oid, server, digest, captureId⟩ := by
    simp [validateCommon, field, lookup_cons, checkRole, asText, asInt, hdigest, hoid, hname, hmem,
      asUuid_canonical hrestore, asUuid_canonical hcapture, validateServer_payload hserver]
  simp [validateRecord, CapabilityRecord.payload, shaped, recordFields, hcommon, field, lookup_cons,
    asText, hnonce, hbinding, htime]

theorem reload_payload (record : CapabilityRecord) : record.payload.reload = record.payload := by
  obtain ⟨⟨_, _, _, ⟨_, _, identifier⟩, _, _⟩, _, _,
    _, _⟩ := record
  cases identifier <;>
    simp [CapabilityRecord.payload, ServerIdentity.payload, Endpoint.payload, Value.reload,
      Value.reloadEntries]

end Payloads

inductive MarkerState
  | normal
  | restoreBlocked
  | candidatePreparation
  | candidateHealth
  | quarantinedAfterCutover
  | acknowledgedNormal
  deriving DecidableEq

def MarkerState.value : MarkerState → String
  | .normal => "normal"
  | .restoreBlocked => "restore-blocked"
  | .candidatePreparation => "candidate-preparation"
  | .candidateHealth => "candidate-health"
  | .quarantinedAfterCutover => "quarantined-after-cutover"
  | .acknowledgedNormal => "acknowledged-normal"

inductive MarkerStage
  | intent
  | bound
  deriving DecidableEq

def MarkerStage.value : MarkerStage → String
  | .intent => "intent"
  | .bound => "bound"

structure DatabaseIdentity where
  name : String
  oid : Int
  serverIdentity : Value

structure OperationIdentity where
  restoreId : String
  artifactSha256 : String
  captureId : String
  pointerGeneration : Int

/-- The fields of `HostMarker` that launch capabilities are bound to. -/
structure HostMarker where
  stage : MarkerStage
  state : MarkerState
  database : Option DatabaseIdentity
  operation : Option OperationIdentity

def OperationIdentity.payload (operation : OperationIdentity) : Value :=
  .dict [("restore_id", .str operation.restoreId),
    ("artifact_sha256", .str operation.artifactSha256), ("capture_id", .str operation.captureId),
    ("pointer_generation", .int operation.pointerGeneration)]

def HostMarker.bindingPayload (marker : HostMarker) (database : DatabaseIdentity) : Value :=
  .dict [("stage", .str marker.stage.value), ("state", .str marker.state.value),
    ("database", .dict [("name", .str database.name), ("oid", .int database.oid),
      ("server_identity", database.serverIdentity)]),
    ("operation", (marker.operation.map OperationIdentity.payload).getD .null)]

def HostMarker.requireBoundDatabase (marker : HostMarker) : Option DatabaseIdentity :=
  if marker.stage = .bound then marker.database else none

/-- The comparisons of `assert_matches`; `digest` is over canonical JSON. -/
def comparisons (digest : Value → String) (record : CapabilityRecord) (request : ConsumeRequest)
    (marker : HostMarker) (database : DatabaseIdentity) (operation : OperationIdentity) :
    List (String × Bool) :=
  [("allowed role", record.allowedRole = request.role),
    ("restore ID", record.restoreId = operation.restoreId),
    ("sibling database name", record.siblingDatabaseName = database.name),
    ("sibling database OID", record.siblingDatabaseOid = database.oid),
    ("server identity", record.serverIdentity.payload.eq database.serverIdentity),
    ("outer artifact digest", record.artifactSha256 = operation.artifactSha256),
    ("capture ID", record.captureId = operation.captureId),
    ("restore ID", record.restoreId = request.restoreId),
    ("sibling database name", record.siblingDatabaseName = request.siblingDatabaseName),
    ("sibling database OID", record.siblingDatabaseOid = request.siblingDatabaseOid),
    ("server identity", record.serverIdentity = request.serverIdentity),
    ("outer artifact digest", record.artifactSha256 = request.artifactSha256),
    ("capture ID", record.captureId = request.captureId),
    ("marker binding", record.markerBinding = digest (marker.bindingPayload database))]

/-- `CapabilityRecord.assert_matches`, at a time. -/
def assertMatches (formats : Formats) (digest : Value → String) (record : CapabilityRecord)
    (request : ConsumeRequest) (marker : HostMarker) (now : Moment) : Except String Unit := do
  let database ← orRefuse marker.requireBoundDatabase
    "Launch capability requires a bound host marker."
  require (marker.state = .candidateHealth) "Capability marker is not candidate health."
  let operation ← orRefuse marker.operation "Capability marker is not candidate health."
  match (comparisons digest record request marker database operation).find? fun c => !c.2 with
  | some (label, _) => throw s!"Capability {label} mismatch."
  | none => pure ()
  let expires ← timestamp formats (.str record.expiresAt)
  require (now < expires) "Capability has expired."

theorem unexpired_of_assertMatches {formats : Formats} {digest : Value → String}
    {record : CapabilityRecord} {request : ConsumeRequest} {marker : HostMarker} {now : Moment}
    (h : assertMatches formats digest record request marker now = .ok ()) :
    ∃ expires, timestamp formats (.str record.expiresAt) = .ok expires ∧ now < expires := by
  simp [assertMatches] at h
  obtain ⟨_, -, -, _, -, h⟩ := h
  split at h
  · simp at h
  · simpa only [bind_ok, require_ok] using h

end Launch
end SpaceWorks
