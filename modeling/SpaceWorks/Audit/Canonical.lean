import Mathlib.Algebra.Group.Int.Defs
import Mathlib.Data.List.Sort
import Mathlib.Data.String.Basic
import SpaceWorks.Library.Checked
import SpaceWorks.Library.JsonText
import SpaceWorks.Library.Numerals

/-!
# The MAC of an audit row

`record` and `_sanitize_meta` of `services.py`, the bytes of `canonical.py`, and
`classify_audit_row` of `verification.py`.  HMAC and the detection of addresses are parameters.
-/

namespace SpaceWorks
namespace RowMac

open Checked JsonText

inductive Key
  | str (text : String)
  | int (value : Int)
  | bool (value : Bool)
  | other (text : String)
  deriving DecidableEq

/-- A Python value; a dict keeps the order of insertion. -/
inductive Value
  | none
  | bool (value : Bool)
  | int (value : Int)
  | number (text : String)
  | str (text : String)
  | list (items : List Value)
  | tuple (items : List Value)
  | dict (entries : List (Key × Value))
  | other (typeName : String)

mutual

def toValue : Json → Value
  | .null => .none
  | .bool value => .bool value
  | .int value => .int value
  | .str text => .str text
  | .list items => .list (toValues items)
  | .dict entries => .dict (toEntries entries)

def toValues : List Json → List Value
  | [] => []
  | item :: items => toValue item :: toValues items

def toEntries : List (String × Json) → List (Key × Value)
  | [] => []
  | (name, item) :: entries => (.str name, toValue item) :: toEntries entries

end

section Sanitizing

structure Detectors where
  ipAddress : String → Option String
  validEmail : String → Bool
  canonicalEmail : String → String
  lower : String → String
  hexdigest : String → String

variable (d : Detectors)

def fingerprintPrefix : String := "hmac-sha256:"

def fingerprint (kind value : String) : String :=
  fingerprintPrefix ++ d.hexdigest (kind ++ ":" ++ value)

def keyText : Option Key → String
  | some (.str text) => text
  | some (.int value) => if value = 0 then "" else toString value
  | some (.bool value) => if value then "True" else ""
  | some (.other text) => text
  | none => ""

/-- `re.sub(r"[^a-z0-9]+", "_", text)`. -/
def collapse : List Char → List Char
  | [] => []
  | c :: text =>
    if ('a' ≤ c ∧ c ≤ 'z') ∨ c.isDigit then c :: collapse text
    else match collapse text with
      | '_' :: rest => '_' :: rest
      | rest => '_' :: rest

def normalizedKey (key : Option Key) : String :=
  let text := collapse (d.lower (keyText key)).toList
  String.ofList ((text.dropWhile (· = '_')).reverse.dropWhile (· = '_')).reverse

def endsInWord (key : String) (words : List String) : Bool :=
  words.any fun word => key = word || key.toList.reverse.take (word.length + 1) =
    ('_' :: word.toList).reverse

def emailKeys : List String := ["email", "email_address", "emails"]

def ipKeys : List String := ["ip", "ip_address"]

def sensitiveScalar (value : Value) (key : Option Key) : Option (String × String) :=
  match value with
  | .str text =>
    if text = "" ∨ fingerprintPrefix.toList <+: text.toList then none
    else
      let candidate := Python.strip text
      match d.ipAddress candidate with
      | some address => some ("ip", address)
      | none =>
        if d.validEmail candidate then some ("email", d.canonicalEmail candidate)
        else if endsInWord (normalizedKey d key) emailKeys then
          some ("email", d.canonicalEmail candidate)
        else if endsInWord (normalizedKey d key) ipKeys then some ("ip", d.lower candidate)
        else none
  | _ => none

def sanitizeScalar (value : Value) (key : Option Key) : Value :=
  match sensitiveScalar d value key with
  | some (kind, text) => .str (fingerprint d kind text)
  | none => value

mutual

def sanitizeMeta : Value → Option Key → Value
  | .dict entries, _ => .dict (sanitizeEntries entries)
  | .list items, key => .list (sanitizeItems items key)
  | .tuple items, key => .list (sanitizeItems items key)
  | value, key => sanitizeScalar d value key

def sanitizeItems : List Value → Option Key → List Value
  | [], _ => []
  | item :: items, key => sanitizeMeta item key :: sanitizeItems items key

def sanitizeEntries : List (Key × Value) → List (Key × Value)
  | [] => []
  | (key, item) :: entries => (key, sanitizeMeta item (some key)) :: sanitizeEntries entries

end

end Sanitizing

inductive Reason
  | integerRange
  | number
  | keyType
  | collision (key : String)
  | unsupported (typeName : String)
  | naiveTimestamp
  deriving DecidableEq

structure CanonicalizationError where
  path : String
  reason : Reason
  deriving DecidableEq

def minInteger : Int := -(2 ^ 63)

def maxInteger : Int := 2 ^ 63 - 1

def Key.text? : Key → Option String
  | .str text => some text
  | .int value => some (toString value)
  | _ => none

/-- The keys as texts, when accepted and without collisions. -/
def coerceKeys (path : String) : List Key → List String → Except CanonicalizationError Unit
  | [], _ => pure ()
  | key :: keys, seen => do
    let text ← orRefuse key.text? ⟨path, .keyType⟩
    require (text ∉ seen) ⟨path, .collision text⟩
    coerceKeys path keys (text :: seen)

def sortEntries {α : Type} (entries : List (String × α)) : List (String × α) :=
  entries.insertionSort fun entry entry' => entry.1 ≤ entry'.1

/-- The values of some entries, with the first refusal in their order. -/
def settle {ε α : Type} (results : List (String × Except ε α)) : Except ε (List (String × α)) :=
  results.mapM fun result => (fun value => (result.1, value)) <$> result.2

mutual

def canonicalizeMeta : String → Value → Except CanonicalizationError Json
  | _, .none => pure .null
  | _, .bool value => pure (.bool value)
  | _, .str text => pure (.str text)
  | path, .int value => do
    require (minInteger ≤ value ∧ value ≤ maxInteger) ⟨path, .integerRange⟩
    pure (.int value)
  | path, .number _ => throw ⟨path, .number⟩
  | path, .list items => do
    let items ← canonicalizeItems path 0 items
    pure (.list items)
  | path, .dict entries => do
    coerceKeys path (entries.map Prod.fst) []
    let entries ← settle (sortEntries (canonicalizeEntries path entries))
    pure (.dict entries)
  | path, .tuple _ => throw ⟨path, .unsupported "tuple"⟩
  | path, .other typeName => throw ⟨path, .unsupported typeName⟩

def canonicalizeItems : String → Nat → List Value → Except CanonicalizationError (List Json)
  | _, _, [] => pure []
  | path, index, item :: items => do
    let item ← canonicalizeMeta (path ++ "[" ++ toString index ++ "]") item
    let items ← canonicalizeItems path (index + 1) items
    pure (item :: items)

def canonicalizeEntries :
    String → List (Key × Value) → List (String × Except CanonicalizationError Json)
  | _, [] => []
  | path, (key, item) :: entries =>
    (key.text?.getD "", canonicalizeMeta (path ++ "." ++ key.text?.getD "") item) ::
      canonicalizeEntries path entries

end

structure Uuid where
  value : Nat
  value_lt : value < 16 ^ 32
  deriving DecidableEq

def Uuid.text (uuid : Uuid) : List Char :=
  let digits := Python.padded 16 32 uuid.value
  digits.take 8 ++ '-' :: (digits.drop 8).take 4 ++ '-' :: (digits.drop 12).take 4 ++
    '-' :: (digits.drop 16).take 4 ++ '-' :: digits.drop 20

structure UtcTime where
  year : Nat
  month : Nat
  day : Nat
  hour : Nat
  minute : Nat
  second : Nat
  microsecond : Nat
  month_lt : month < 13
  day_lt : day < 32
  hour_lt : hour < 24
  minute_lt : minute < 60
  second_lt : second < 60
  microsecond_lt : microsecond < 1000000
  deriving DecidableEq

inductive Timestamp
  | aware (time : UtcTime)
  | naive
  deriving DecidableEq

/-- `strftime("%Y-%m-%dT%H:%M:%S.%fZ")`. -/
def UtcTime.text (time : UtcTime) : List Char :=
  Nat.toDigits 10 time.year ++
    ('-' :: Python.padded 10 2 time.month ++ '-' :: Python.padded 10 2 time.day ++
      'T' :: Python.padded 10 2 time.hour ++ ':' :: Python.padded 10 2 time.minute ++
      ':' :: Python.padded 10 2 time.second ++ '.' :: Python.padded 10 6 time.microsecond ++
      ['Z'])

def canonicalTimestamp : Timestamp → Except CanonicalizationError String
  | .aware time => pure (String.ofList time.text)
  | .naive => throw ⟨"created_at", .naiveTimestamp⟩

structure Content where
  makerspaceId : Option Int
  eventUuid : Option Uuid
  actorId : Option Int
  action : String
  targetType : String
  targetId : String
  metadata : Json
  createdAt : Timestamp

def idValue : Option Int → Value
  | some id => .int id
  | none => .none

def uuidText : Option Uuid → String
  | some uuid => String.ofList uuid.text
  | none => "None"

def payload (content : Content) (metadata : Json) (createdAt : String) : Value :=
  .dict
    [(.str "format_version", .int 1), (.str "domain", .str "spaceworks.audit-log"),
      (.str "makerspace_id", idValue content.makerspaceId),
      (.str "event_uuid", .str (uuidText content.eventUuid)),
      (.str "actor_id", idValue content.actorId),
      (.str "action", .str content.action),
      (.str "target_type", .str content.targetType),
      (.str "target_id", .str content.targetId),
      (.str "meta", toValue metadata),
      (.str "created_at", .str createdAt)]

/-- `json.dumps(…).encode("utf-8")`, with the keys sorted before. -/
def dumps (normalized : Json) : ByteArray :=
  (String.ofList (render normalized)).toByteArray

def canonicalPayloadBytes (content : Content) : Except CanonicalizationError ByteArray := do
  let metadata ← canonicalizeMeta "meta" (toValue content.metadata)
  let createdAt ← canonicalTimestamp content.createdAt
  let normalized ← canonicalizeMeta "payload" (payload content metadata createdAt)
  pure (dumps normalized)

section Recording

structure ClaimContext where
  sessionId : Value
  issuedById : Value
  redemptionIp : Value

def updateKey (entries : List (Key × Value)) (key : Key) (value : Value) : List (Key × Value) :=
  if key ∈ entries.map Prod.fst then
    entries.map fun entry => if entry.1 = key then (key, value) else entry
  else entries ++ [(key, value)]

def withClaim (entries : List (Key × Value)) : Option ClaimContext → List (Key × Value)
  | some claim =>
    let entries := updateKey entries (.str "claim_session_id") claim.sessionId
    let entries := updateKey entries (.str "claim_issued_by_id") claim.issuedById
    updateKey entries (.str "claim_redemption_ip") claim.redemptionIp
  | none => entries

structure AuditRow where
  pk : Nat
  content : Content
  rowMac : Option ByteArray

variable (d : Detectors) (hmac : ByteArray → ByteArray → ByteArray)

def calculateRowMac (key : ByteArray) (content : Content) :
    Except CanonicalizationError ByteArray :=
  hmac key <$> canonicalPayloadBytes content

/-- What a caller of `record` gives, and the clock. -/
structure Event where
  makerspaceId : Option Int
  actorId : Option Int
  action : String
  targetType : String
  targetId : String
  metadata : List (Key × Value)
  claim : Option ClaimContext
  eventUuid : Uuid
  createdAt : UtcTime

/-- `record`; no key when attestation is off or it is unavailable. -/
def record (pk : Nat) (key : Option ByteArray) (event : Event) :
    Except CanonicalizationError AuditRow := do
  let cleanMeta := withClaim event.metadata event.claim
  let storedMeta ← canonicalizeMeta "meta" (sanitizeMeta d (.dict cleanMeta) none)
  let content : Content :=
    { makerspaceId := event.makerspaceId
      eventUuid := some event.eventUuid
      actorId := event.actorId
      action := event.action
      targetType := event.targetType
      targetId := event.targetId
      metadata := storedMeta
      createdAt := .aware event.createdAt }
  match key with
  | some key =>
    let rowMac ← calculateRowMac hmac key content
    pure { pk := pk, content := content, rowMac := some rowMac }
  | none => pure { pk := pk, content := content, rowMac := none }

end Recording

section Classification

inductive AuditMacStatus
  | attested
  | unattested
  | macMissing
  | mismatch
  | keyUnavailable
  deriving DecidableEq

inductive Cutover
  | tampered
  | keyUnavailable
  | missing
  | fromId (id : Nat)
  deriving DecidableEq

structure Scope where
  key : Option ByteArray
  cutover : Cutover
  configured : Bool
  /-- The batch of the row, and whether it verifies. -/
  batch : Option Bool

variable (hmac : ByteArray → ByteArray → ByteArray)

def classifyAuditRow (scope : Scope) (row : AuditRow) : AuditMacStatus :=
  match row.rowMac with
  | none =>
    if scope.batch.isSome then .mismatch
    else match scope.cutover with
      | .tampered => .mismatch
      | .keyUnavailable => .keyUnavailable
      | .missing => if scope.configured then .keyUnavailable else .unattested
      | .fromId cutover => if cutover < row.pk then .macMissing else .unattested
  | some rowMac =>
    if row.content.eventUuid = none then .mismatch
    else match scope.key with
      | none => .keyUnavailable
      | some key =>
        match calculateRowMac hmac key row.content with
        | .error _ => .mismatch
        | .ok expected =>
          if rowMac.data ≠ expected.data then .mismatch
          else if scope.batch = some false then .mismatch
          else .attested

end Classification

end RowMac
end SpaceWorks
