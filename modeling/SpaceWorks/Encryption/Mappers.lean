import SpaceWorks.Library.Checked
import SpaceWorks.Library.Runs
import SpaceWorks.Library.Table

/-!
# Encrypted fields of one instance

One instance of a mapped model, its row and data keys (`mappers.py`, `crypto.py`, `services.py`,
`blind_index.py`), with `PII_ENCRYPTION_ENABLED`.  An envelope that `encrypt` made is a value of its
own; other texts with the prefix fail.  Key wrapping, write fence and search generation are left
out.
-/

namespace SpaceWorks
namespace Pii

open Checked TransactionalSystem Function

section Envelopes

structure Aad (φ : Type) where
  makerspaceId : Option Nat
  table : String
  pk : Nat
  field : φ
  deriving DecidableEq

structure Envelope (φ : Type) where
  version : Nat
  dek : Nat
  aad : Aad φ
  plaintext : String
  deriving DecidableEq

/-- A value of an attribute or column; None reads as empty. -/
inductive Raw (φ : Type)
  | text (value : String)
  | sealed (envelope : Envelope φ)
  deriving DecidableEq

def envelopePrefix : String := "pii:gcm:v1:"

variable {φ : Type}

def Raw.isEnvelope : Raw φ → Bool
  | .text value => envelopePrefix.toList.isPrefixOf value.toList
  | .sealed _ => true

inductive KeyStatus
  | active
  | rotated
  | disabled
  deriving DecidableEq

/-- `MakerspaceEncryptionKey`, with its data key unwrapped. -/
structure DataKey where
  version : Nat
  dek : Nat
  status : KeyStatus

instance : Keyed DataKey Nat := ⟨DataKey.version⟩

inductive PiiError
  | malformedEnvelope
  | authenticationFailed
  | keyUnavailable
  | legacyPlaintextRejected
  | doesNotExist
  | integrity
  deriving DecidableEq

variable [DecidableEq φ]

def getDek (keys : Table DataKey) (version : Nat) : Except PiiError Nat := do
  let key ← orRefuse (keys.get? version) .keyUnavailable
  require (key.status ≠ .disabled) .keyUnavailable
  pure key.dek

/-- `decrypt_with_key_loader`. -/
def decrypt (keys : Table DataKey) (aad : Aad φ) : Raw φ → Except PiiError String
  | .text value => do
    require (value = "") .malformedEnvelope
    pure ""
  | .sealed envelope => do
    let dek ← getDek keys envelope.version
    require (envelope.dek = dek ∧ envelope.aad = aad) .authenticationFailed
    pure envelope.plaintext

/-- What looks like an envelope is decrypted first. -/
def plaintextOf (keys : Table DataKey) (aad : Aad φ) : Raw φ → Except PiiError String
  | .text value =>
    if (Raw.text value : Raw φ).isEnvelope then decrypt keys aad (Raw.text value)
    else .ok value
  | .sealed envelope => decrypt keys aad (.sealed envelope)

def getOrCreateActiveDek (keys : Table DataKey) (newDek : Nat) :
    Except PiiError (Table DataKey × DataKey) :=
  match keys.rows.find? (·.status = .active) with
  | some key => .ok (keys, key)
  | none => do
    let key : DataKey :=
      { version := (keys.rows.map (·.version)).foldl max 0 + 1, dek := newDek, status := .active }
    let keys ← keys.insertNew key .integrity
    pure (keys, key)

def rotateDek (keys : Table DataKey) (newDek : Nat) : Except PiiError (Table DataKey) := do
  let current ← orRefuse (keys.rows.find? (·.status = .active)) .doesNotExist
  (keys.put { current with status := .rotated }).insertNew
    { version := current.version + 1, dek := newDek, status := .active } .integrity

/-- `rewrap_dek`: the data key stays. -/
def rewrapDek (keys : Table DataKey) (version : Nat) : Except PiiError (Table DataKey) := do
  let key ← orRefuse (keys.get? version) .doesNotExist
  require (key.status ≠ .disabled) .keyUnavailable
  pure keys

def disableDek (keys : Table DataKey) (version : Nat) : Except PiiError (Table DataKey) := do
  let key ← orRefuse (keys.get? version) .doesNotExist
  pure (keys.put { key with status := .disabled })

end Envelopes

section Instances

variable (φ : Type)

inductive IndexKind
  | none
  | bloom
  | bloomExact
  | eventExact
  | checkinExact
  deriving DecidableEq

/-- A `PiiBlindIndex` row, or the hash column of the row itself. -/
structure IndexEntry where
  bloomBits : Option Nat
  exactHash : Option Nat

/-- The registered fields, the active hashes, and `PII_ENCRYPTION_DUAL_READ`. -/
structure Mapping where
  fields : List φ
  indexKind : φ → IndexKind
  bloomBits : φ → String → Nat
  exactHash : φ → String → Nat
  makerspaceId : Option Nat
  table : String
  pk : Nat
  dualRead : Bool

variable {φ}

def Mapping.aad (m : Mapping φ) (field : φ) : Aad φ where
  makerspaceId := m.makerspaceId
  table := m.table
  pk := m.pk
  field := field

/-- What the index and hash updates write. -/
def Mapping.entry (m : Mapping φ) (field : φ) (plaintext : String) : Option IndexEntry :=
  if plaintext = "" then
    none
  else
    match m.indexKind field with
    | .none => none
    | .bloom => some { bloomBits := some (m.bloomBits field plaintext), exactHash := none }
    | .bloomExact => some
        { bloomBits := some (m.bloomBits field plaintext)
          exactHash := some (m.exactHash field plaintext) }
    | .eventExact | .checkinExact => some
        { bloomBits := none, exactHash := some (m.exactHash field plaintext) }

variable (φ)

/-- The instance in memory with its caches, its row, index entries and keys. -/
structure Mapped where
  adding : Bool
  dict : φ → Option (Raw φ)
  plainValues : φ → Option String
  rawValues : φ → Option (Raw φ)
  originalPlainValues : φ → Option String
  stored : φ → Raw φ
  index : φ → Option IndexEntry
  keys : Table DataKey

variable {φ} [DecidableEq φ]

def Mapped.assign (s : Mapped φ) (field : φ) (value : Raw φ) : Mapped φ :=
  { s with
    dict := update s.dict field (some value)
    plainValues := update s.plainValues field none
    rawValues := update s.rawValues field none
    originalPlainValues := update s.originalPlainValues field none }

/-- The end of `refresh_from_db`. -/
def Mapped.dropCaches (s : Mapped φ) : Mapped φ :=
  { s with
    plainValues := fun _ => none
    rawValues := fun _ => none
    originalPlainValues := fun _ => none }

def Mapped.fetch (m : Mapping φ) (s : Mapped φ) (field : φ) : Except PiiError String :=
  match s.stored field with
  | .text value =>
    if value = "" then .ok ""
    else if (Raw.text value : Raw φ).isEnvelope then
      decrypt s.keys (m.aad field) (Raw.text value)
    else if m.dualRead then .ok value
    else .error .legacyPlaintextRejected
  | .sealed envelope => decrypt s.keys (m.aad field) (.sealed envelope)

/-- One field of `refresh_from_db`, through a second instance. -/
def Mapped.reload (m : Mapping φ) (s : Mapped φ) (field : φ) : Except PiiError (Mapped φ) := do
  require (s.adding = false) .doesNotExist
  let value ← s.fetch m field
  pure (s.assign field (.text value))

def Mapped.getLoaded (m : Mapping φ) (s : Mapped φ) (field : φ) (value : Raw φ) :
    Except PiiError (Mapped φ × Raw φ) :=
  if value = .text "" then
    .ok (s, value)
  else
    match s.plainValues field with
    | some plaintext => .ok (s, .text plaintext)
    | none =>
      if value.isEnvelope = false then
        if m.dualRead then
          match value with
          | .text plaintext => .ok ({ s with
              plainValues := update s.plainValues field (some plaintext) }, value)
          | .sealed _ => .ok (s, value)
        else
          .error .legacyPlaintextRejected
      else do
        let decrypted ← decrypt s.keys (m.aad field) value
        pure ({ s with
          plainValues := update s.plainValues field (some decrypted)
          rawValues := update s.rawValues field (some value)
          originalPlainValues := update s.originalPlainValues field (some decrypted) },
          .text decrypted)

def Mapped.read (m : Mapping φ) (s : Mapped φ) (field : φ) :
    Except PiiError (Mapped φ × Raw φ) :=
  match s.dict field with
  | some value => s.getLoaded m field value
  | none => do
    let s ← s.reload m field
    let value := (s.dict field).getD (.text "")
    s.dropCaches.getLoaded m field value

end Instances

section Saving

variable {φ : Type} [DecidableEq φ]

/-- A row of `_mapped_values_for_save` after the loop of `save`. -/
structure SavedField (φ : Type) where
  field : φ
  encrypted : Raw φ
  restore : String

def Mapped.written (m : Mapping φ) (s : Mapped φ) (updateFields : Option (List φ)) : List φ :=
  m.fields.filter fun field =>
    (s.adding || (s.dict field).isSome) && updateFields.all fun fields => decide (field ∈ fields)

def Mapped.valuesForSave (m : Mapping φ) (s : Mapped φ) (updateFields : Option (List φ)) :
    List φ :=
  if m.makerspaceId = none then [] else s.written m updateFields

/-- The others are written as they are. -/
def Mapped.plainForSave (m : Mapping φ) (s : Mapped φ) (updateFields : Option (List φ)) :
    List φ :=
  if m.makerspaceId = none then s.written m updateFields else []

/-- A loaded ciphertext has its cached plaintext. -/
def Mapped.plaintextForSave (s : Mapped φ) (field : φ) : Raw φ :=
  let raw := (s.dict field).getD (.text "")
  if raw.isEnvelope then
    match s.plainValues field with
    | some cached => .text cached
    | none => raw
  else
    raw

def encryptField (m : Mapping φ) (newDek : Nat) (keys : Table DataKey) (field : φ)
    (plaintext : Raw φ) : Except PiiError (Table DataKey × SavedField φ) := do
  let text ← plaintextOf keys (m.aad field) plaintext
  if text = "" then
    pure (keys, { field := field, encrypted := .text "", restore := text })
  else do
    let (keys, active) ← getOrCreateActiveDek keys newDek
    let envelope : Envelope φ :=
      { version := active.version, dek := active.dek, aad := m.aad field, plaintext := text }
    pure (keys, { field := field, encrypted := .sealed envelope, restore := text })

/-- One turn of the loop of `save`. -/
def Mapped.saveField (m : Mapping φ) (s : Mapped φ) (newDek : Nat) (keys : Table DataKey)
    (field : φ) : Except PiiError (Table DataKey × SavedField φ) :=
  let plaintext := s.plaintextForSave field
  match s.rawValues field, s.originalPlainValues field, plaintext with
  | some rawSaved, some original, .text text =>
    if rawSaved ≠ .text "" ∧ text = original then
      .ok (keys, { field := field, encrypted := rawSaved, restore := text })
    else
      encryptField m newDek keys field plaintext
  | _, _, _ => encryptField m newDek keys field plaintext

def Mapped.saveFields (m : Mapping φ) (s : Mapped φ) (newDek : Nat) :
    Table DataKey → List φ → Except PiiError (Table DataKey × List (SavedField φ))
  | keys, [] => .ok (keys, [])
  | keys, field :: fields => do
    let (keys, savedField) ← s.saveField m newDek keys field
    let (keys, rest) ← s.saveFields m newDek keys fields
    pure (keys, savedField :: rest)

def Mapped.store (m : Mapping φ) (s : Mapped φ) (savedField : SavedField φ) : Mapped φ :=
  let field := savedField.field
  { s with
    dict := update s.dict field (some (.text savedField.restore))
    plainValues := update s.plainValues field (some savedField.restore)
    rawValues := update s.rawValues field (some savedField.encrypted)
    originalPlainValues := update s.originalPlainValues field (some savedField.restore)
    stored := update s.stored field savedField.encrypted
    index := update s.index field (m.entry field savedField.restore) }

def Mapped.storePlain (s : Mapped φ) (field : φ) : Mapped φ :=
  { s with stored := update s.stored field ((s.dict field).getD (.text "")) }

end Saving

end Pii
end SpaceWorks
