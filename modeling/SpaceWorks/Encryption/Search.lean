import Mathlib.Data.List.TakeWhile
import SpaceWorks.Encryption.Mappers
import SpaceWorks.Library.Bloom
import SpaceWorks.Library.Python

/-!
# Search over encrypted fields

The blind index of one model's fields (`registry.py`, `blind_index.py`) and the search over it
(`search.py`), with `pii_bloom_contains` or the exact hash.  A text is a list of characters, None
the empty one; Unicode's tables, the hashes and the key are parameters.
-/

namespace SpaceWorks
namespace BlindIndex

open Checked Bloom List
open Pii (IndexKind)

abbrev Text := List Char

abbrev Bytes := List UInt8

section Normalization

/-- Python's functions of a text. -/
structure Unicode where
  /-- `unicodedata.normalize("NFKC", text)`. -/
  nfkc : Text → Text
  /-- `str.casefold()`, character by character. -/
  casefold : Char → Text
  lower : Text → Text
  nfkc_nil : nfkc [] = []
  casefold_space : ∀ c, Python.isSpace c = true → ∀ d ∈ casefold c, Python.isSpace d = true
  lower_eq_nil : ∀ text, lower text = [] ↔ text = []

variable (u : Unicode)

def strip (text : Text) : Text :=
  ((text.dropWhile Python.isSpace).reverse.dropWhile Python.isSpace).reverse

def split (text : Text) : List Text :=
  (text.splitOnP Python.isSpace).filter (· ≠ [])

def normalizedName (value : Text) : Text :=
  [' '].intercalate (split (strip ((u.nfkc value).flatMap u.casefold)))

def canonicalEmail (value : Text) : Text :=
  u.lower (strip (u.nfkc value))

end Normalization

section Index

/-- The hash functions, and a `search_key()` of 32 bytes. -/
structure Deployment extends Unicode where
  sha256 : Bytes → Bytes
  hmacSha256 : Bytes → Bytes → Bytes
  searchKey : Option Bytes

inductive SearchError
  | piiUnavailable
  | enterAtLeastThreeCharacters
  | refineSearch

structure PiiField where
  modelLabel : String
  fieldName : String
  indexKind : IndexKind

def fieldsOf (label : String) (entries : List (String × IndexKind)) : List PiiField :=
  entries.map fun entry => { modelLabel := label, fieldName := entry.1, indexKind := entry.2 }

def allFields : List PiiField :=
  fieldsOf "hardware_requests.HardwareRequest"
    [("requester_username", .none), ("requester_name", .bloom),
      ("requester_contact_email", .bloomExact), ("requester_contact_phone", .none),
      ("checkin_project_name", .none), ("cancellation_reason", .none)] ++
  fieldsOf "events.EventRegistration" [("name", .none), ("email", .eventExact), ("phone", .none)] ++
  fieldsOf "events.EventFeedbackResponse" [("answers_snapshot", .none)] ++
  fieldsOf "events.EventAttendanceCertificate" [("recipient_name", .none)] ++
  fieldsOf "bookings.Booking"
    [("name", .none), ("email", .none), ("phone", .none), ("note", .none)] ++
  fieldsOf "machines.MachineServiceRequest"
    [("requester_name", .bloom), ("contact_email", .bloomExact), ("contact_phone", .none)] ++
  fieldsOf "machines.MachineUsageEntry"
    [("requester_name", .bloom), ("contact_email", .bloomExact), ("contact_phone", .none),
      ("note", .none)] ++
  fieldsOf "checkin.CheckinIdentity" [("mid", .checkinExact)] ++
  fieldsOf "integrations.EmailLog"
    [("to_email", .none), ("subject", .none), ("text_body", .none), ("html_body", .none)]

def fieldsForLabel (label : String) : List PiiField :=
  allFields.filter (·.modelLabel = label)

def Indexed (kind : IndexKind) : Prop :=
  kind = .bloom ∨ kind = .bloomExact

instance (kind : IndexKind) : Decidable (Indexed kind) :=
  inferInstanceAs (Decidable (_ ∨ _))

inductive GenerationStatus
  | building
  | active
  | retired
  deriving DecidableEq

structure SearchKeyGeneration where
  generation : Nat
  keyFingerprint : Bytes
  status : GenerationStatus

instance : Keyed SearchKeyGeneration Nat := ⟨SearchKeyGeneration.generation⟩

structure IndexRow where
  makerspaceId : Nat
  modelLabel : String
  objectId : Nat
  fieldName : String
  searchGeneration : Nat
  bloomBits : Bytes
  exactHash : Option Bytes

instance : Keyed IndexRow (Nat × String × Nat × String) :=
  ⟨fun row => (row.makerspaceId, row.modelLabel, row.objectId, row.fieldName)⟩

structure Store where
  generations : Table SearchKeyGeneration
  index : Table IndexRow

/-- A row of the model, with its makerspace and plaintexts. -/
structure Instance where
  pk : Nat
  makerspaceId : Nat
  value : String → Text

instance : Keyed Instance Nat := ⟨Instance.pk⟩

variable (d : Deployment)

/-- `b"inventory-manager:pii-search-key-fingerprint:v1\0"`. -/
def fingerprintPrefix : Bytes :=
  ("inventory-manager:pii-search-key-fingerprint:v1").toUTF8.toList ++ [0]

def searchKeyFingerprint (key : Bytes) : Bytes :=
  d.sha256 (fingerprintPrefix ++ key)

def activeGeneration (generations : Table SearchKeyGeneration) : Except SearchError Nat :=
  match generations.rows.filter (·.status = .active) with
  | [generation] => do
    let key ← orRefuse d.searchKey .piiUnavailable
    require (generation.keyFingerprint = searchKeyFingerprint d key) .piiUnavailable
    pure generation.generation
  | _ => .error .piiUnavailable

structure Scope where
  generation : Nat
  makerspaceId : Nat
  modelLabel : String
  fieldName : String

def mac (key : Bytes) (purpose : String) (scope : Scope) (value : Text) : Bytes :=
  d.hmacSha256 key <| String.toUTF8 (purpose ++ ":g" ++ toString scope.generation ++ ":"
    ++ toString scope.makerspaceId ++ ":" ++ scope.modelLabel ++ ":" ++ scope.fieldName ++ ":"
    ++ String.ofList value) |>.toList

/-- `int.from_bytes(pair, "big")`. -/
def fromBytes (bytes : Bytes) : Nat :=
  bytes.foldl (fun n byte => n * 256 + byte.toNat) 0

def digestPositions (digest : Bytes) : List Nat :=
  (List.range 6).map fun part => fromBytes ((digest.drop (part * 2)).take 2) % 2048

def positions (key : Bytes) (scope : Scope) (normalized : Text) : List Nat :=
  (windows 3 normalized).flatMap fun gram => digestPositions (mac d key "bloom:v1" scope gram)

def bloomBits (key : Bytes) (scope : Scope) (value : Text) : Bytes :=
  let normalized := normalizedName d.toUnicode value
  if normalized.length < 3 then zeros 256
  else setBits (zeros 256) (positions d key scope normalized)

def exactHash (key : Bytes) (scope : Scope) (value : Text) : Bytes :=
  mac d key "exact:v1" scope (canonicalEmail d.toUnicode value)

def scopeOf (generation makerspaceId : Nat) (field : PiiField) : Scope where
  generation := generation
  makerspaceId := makerspaceId
  modelLabel := field.modelLabel
  fieldName := field.fieldName

/-- The row that `upsert_index` writes for a value. -/
def entryOf (key : Bytes) (generation : Nat) (field : PiiField) (i : Instance) : IndexRow where
  makerspaceId := i.makerspaceId
  modelLabel := field.modelLabel
  objectId := i.pk
  fieldName := field.fieldName
  searchGeneration := generation
  bloomBits := bloomBits d key (scopeOf generation i.makerspaceId field) (i.value field.fieldName)
  exactHash :=
    if field.indexKind = .bloomExact then
      some (exactHash d key (scopeOf generation i.makerspaceId field) (i.value field.fieldName))
    else none

end Index

section

def candidateLimit : Nat := 250

def limit (rows : List Nat) : Except SearchError (List Nat) := do
  let rows := rows.take (candidateLimit + 1)
  require (rows.length ≤ candidateLimit) .refineSearch
  pure rows

variable (d : Deployment)

def fieldNamed (label fieldName : String) : Option PiiField :=
  (fieldsForLabel label).find? (·.fieldName = fieldName)

/-- The rows of the index that `filters` selects. -/
def scopedRows (store : Store) (makerspaceId : Nat) (label fieldName : String) (generation : Nat)
    (baseIds : Option (List Nat)) :
    List IndexRow :=
  store.index.rows.filter fun row =>
    row.makerspaceId = makerspaceId ∧ row.modelLabel = label ∧ row.fieldName = fieldName ∧
      row.searchGeneration = generation ∧ ∀ ids ∈ baseIds, row.objectId ∈ ids

def indexedCandidates (store : Store) (makerspaceId : Nat) (label fieldName : String) (term : Text)
    (exact : Bool) (baseIds : Option (List Nat)) :
    Except SearchError (List Nat) :=
  match fieldNamed label fieldName with
  | none => .ok []
  | some field =>
    if ¬ Indexed field.indexKind then .ok []
    else do
      let generation ← activeGeneration d store.generations
      let key ← orRefuse d.searchKey .piiUnavailable
      let scope : Scope :=
        { generation := generation
          makerspaceId := makerspaceId
          modelLabel := label
          fieldName := fieldName }
      let rows := scopedRows store makerspaceId label fieldName generation baseIds
      if exact then
        limit ((rows.filter (·.exactHash = some (exactHash d key scope term))).map (·.objectId))
      else do
        require (3 ≤ (normalizedName d.toUnicode term).length) .enterAtLeastThreeCharacters
        let bits := bloomBits d key scope term
        limit ((rows.filter (contains 256 ·.bloomBits bits)).map (·.objectId))

def matchesTerm (fieldName : String) (term : Text) (exact : Bool) (i : Instance) : Bool :=
  if exact then
    decide (canonicalEmail d.toUnicode (i.value fieldName) = canonicalEmail d.toUnicode term)
  else
    decide (normalizedName d.toUnicode term <:+: normalizedName d.toUnicode (i.value fieldName))

def verifiedIds (queryset : List Instance) (fieldName : String) (term : Text) (exact : Bool) :
    List Nat :=
  (queryset.filter (matchesTerm d fieldName term exact)).map (·.pk)

/-- The index's candidates in a queryset, and the verified ones. -/
def search
    (store : Store) (queryset : List Instance) (makerspaceId : Nat) (label fieldName : String)
    (term : Text) (exact : Bool) (baseIds : Option (List Nat)) :
    Except SearchError (List Nat) := do
  let ids ← indexedCandidates d store makerspaceId label fieldName term exact baseIds
  pure (verifiedIds d (queryset.filter (·.pk ∈ ids)) fieldName term exact)

def plainSearch (queryset : List Instance) (makerspaceId : Nat) (fieldName : String) (term : Text)
    (exact : Bool) (baseIds : Option (List Nat)) : List Nat :=
  (queryset.filter fun i =>
    decide (i.makerspaceId = makerspaceId ∧ ∀ ids ∈ baseIds, i.pk ∈ ids) &&
      matchesTerm d fieldName term exact i).map (·.pk)

variable {u : Unicode}

theorem strip_eq_nil {text : Text} :
    strip text = [] ↔ ∀ c ∈ text, Python.isSpace c = true := by
  rw [strip, reverse_eq_nil_iff, dropWhile_eq_nil_iff]
  constructor
  · intro h
    rw [← dropWhile_eq_nil_iff]
    by_contra hne
    have hfirst := head_dropWhile_not Python.isSpace hne
    rw [h _ (mem_reverse.mpr (head_mem hne))] at hfirst
    cases hfirst
  · intro h c hc
    exact h c ((dropWhile_sublist _).subset (mem_reverse.mp hc))

theorem normalizedName_eq_nil {value : Text}
    (h : ∀ c ∈ u.nfkc value, Python.isSpace c = true) : normalizedName u value = [] := by
  have hfold : ∀ c ∈ (u.nfkc value).flatMap u.casefold, Python.isSpace c = true := by
    intro c hc
    obtain ⟨c', hc', hmem⟩ := mem_flatMap.mp hc
    exact u.casefold_space c' (h c' hc') c hmem
  rw [normalizedName, strip_eq_nil.mpr hfold]
  rfl

theorem normalizedName_nil : normalizedName u [] = [] :=
  normalizedName_eq_nil fun c hc => by simp [u.nfkc_nil] at hc

theorem normalizedName_of_canonicalEmail_nil {value : Text}
    (h : canonicalEmail u [] = canonicalEmail u value) : normalizedName u value = [] := by
  have hempty : canonicalEmail u [] = [] := by
    rw [canonicalEmail, u.nfkc_nil]
    exact (u.lower_eq_nil _).mpr rfl
  rw [hempty] at h
  exact normalizedName_eq_nil (strip_eq_nil.mp ((u.lower_eq_nil _).mp h.symm))

variable {d : Deployment} {key : Bytes} {scope : Scope}

theorem positions_lt {normalized : Text} {p : Nat}
    (hp : p ∈ positions d key scope normalized) : p / 8 < 256 := by
  simp [positions, digestPositions] at hp
  obtain ⟨_, -, _, -, rfl⟩ := hp
  omega

theorem positions_subset {normalized normalized' : Text} (h : normalized <:+: normalized') :
    positions d key scope normalized ⊆ positions d key scope normalized' := by
  intro p hp
  obtain ⟨gram, hgram, hmem⟩ := mem_flatMap.mp hp
  exact mem_flatMap.mpr ⟨gram, windows_subset h hgram, hmem⟩

/-- A filter contains that of every term of three characters in the normalized value. -/
theorem contains_bloomBits {value term : Text}
    (hterm : 3 ≤ (normalizedName d.toUnicode term).length)
    (hwithin : normalizedName d.toUnicode term <:+: normalizedName d.toUnicode value) :
    contains 256 (bloomBits d key scope value) (bloomBits d key scope term) = true := by
  have hvalue := hwithin.length_le
  rw [bloomBits, bloomBits, if_neg (by omega), if_neg (by omega)]
  exact contains_setBits (fun p hp => positions_lt hp) (positions_subset hwithin)

variable (d : Deployment)

/-- The index has exactly what `upsert_index` writes for the values. -/
structure InSync (store : Store) (instances : Table Instance) (field : PiiField) (key : Bytes)
    (generation : Nat) : Prop where
  active : activeGeneration d store.generations = .ok generation
  available : d.searchKey = some key
  rows : ∀ row,
    (row ∈ store.index ∧ row.modelLabel = field.modelLabel ∧ row.fieldName = field.fieldName) ↔
      ∃ i ∈ instances, i.value field.fieldName ≠ [] ∧ row = entryOf d key generation field i

end

section Answers

variable {d : Deployment} {store : Store} {instances : Table Instance} {field : PiiField}
variable {key : Bytes} {generation : Nat} {term : Text} {i : Instance} {exact : Bool}

theorem limit_cases (rows : List Nat) :
    (limit rows = .ok rows ∧ rows.length ≤ candidateLimit) ∨
      (limit rows = .error .refineSearch ∧ candidateLimit < rows.length) := by
  by_cases hlength : rows.length ≤ candidateLimit
  · refine .inl ⟨?_, hlength⟩
    have htake : rows.take (candidateLimit + 1) = rows := take_of_length_le (by omega)
    simp [limit, htake, require, hlength, bind, Except.bind, pure, Except.pure]
  · refine .inr ⟨?_, by omega⟩
    have htake : (rows.take (candidateLimit + 1)).length = candidateLimit + 1 :=
      length_take_of_le (by omega)
    have hmany : ¬ candidateLimit + 1 ≤ candidateLimit := by omega
    simp [limit, htake, require, if_neg hmany, bind, Except.bind]

variable (d)

def offers (key : Bytes) (scope : Scope) (term : Text) (exact : Bool) (row : IndexRow) : Bool :=
  if exact then decide (row.exactHash = some (exactHash d key scope term))
  else contains 256 row.bloomBits (bloomBits d key scope term)

/-- The rows of the index that a search looks at. -/
def candidates
    (store : Store) (key : Bytes) (generation makerspaceId : Nat) (field : PiiField) (term : Text)
    (exact : Bool) (baseIds : Option (List Nat)) : List Nat :=
  ((scopedRows store makerspaceId field.modelLabel field.fieldName generation baseIds).filter
    (offers d key (scopeOf generation makerspaceId field) term exact)).map (·.objectId)

variable {d}

theorem indexedCandidates_eq (h : InSync d store instances field key generation)
    (hfield : fieldNamed field.modelLabel field.fieldName = some field)
    (hindexed : Indexed field.indexKind)
    (makerspaceId : Nat) (exact : Bool) (baseIds : Option (List Nat))
    (hterm : 3 ≤ (normalizedName d.toUnicode term).length) :
    indexedCandidates d store makerspaceId field.modelLabel field.fieldName term exact baseIds =
      limit (candidates d store key generation makerspaceId field term exact baseIds) := by
  simp only [indexedCandidates, hfield, hindexed, not_true, if_false, h.active, h.available,
    orRefuse_some, bind, Except.bind]
  cases exact with
  | true => rfl
  | false =>
    simp only [Bool.false_eq_true, if_false, require, if_pos hterm]
    rfl

theorem offers_of_matchesTerm (hexact : exact = true → field.indexKind = .bloomExact)
    (hterm : 3 ≤ (normalizedName d.toUnicode term).length)
    (hmatch : matchesTerm d field.fieldName term exact i = true) :
    offers d key (scopeOf generation i.makerspaceId field) term exact
      (entryOf d key generation field i) = true := by
  cases exact with
  | true =>
    have hform := of_decide_eq_true hmatch
    have hkind := hexact rfl
    simp [offers, entryOf, exactHash, hkind, hform]
  | false => exact contains_bloomBits hterm (of_decide_eq_true hmatch)

theorem value_ne_nil {fieldName : String} (hterm : 3 ≤ (normalizedName d.toUnicode term).length)
    (hmatch : matchesTerm d fieldName term exact i = true) :
    i.value fieldName ≠ [] := by
  intro hempty
  have hnil : normalizedName d.toUnicode term = [] := by
    cases exact with
    | true =>
      have hform : canonicalEmail d.toUnicode (i.value fieldName) = _ := of_decide_eq_true hmatch
      rw [hempty] at hform
      exact normalizedName_of_canonicalEmail_nil hform
    | false =>
      have hwithin : _ <:+: normalizedName d.toUnicode (i.value fieldName) :=
        of_decide_eq_true hmatch
      rw [hempty, normalizedName_nil] at hwithin
      exact infix_nil.mp hwithin
  simp [hnil] at hterm

theorem mem_candidates (h : InSync d store instances field key generation)
    {makerspaceId : Nat} {baseIds : Option (List Nat)}
    (hexact : exact = true → field.indexKind = .bloomExact)
    (hterm : 3 ≤ (normalizedName d.toUnicode term).length) (hi : i ∈ instances)
    (hmatch : matchesTerm d field.fieldName term exact i = true) :
    i.pk ∈ candidates d store key generation makerspaceId field term exact baseIds ↔
      i.makerspaceId = makerspaceId ∧ ∀ ids ∈ baseIds, i.pk ∈ ids := by
  simp only [candidates, scopedRows, mem_map, mem_filter, decide_eq_true_eq]
  constructor
  · rintro ⟨row, ⟨⟨hrow, rfl, hlabel, hname, -, hbase⟩, -⟩, hid⟩
    obtain ⟨x, hx, -, rfl⟩ := (h.rows row).mp ⟨hrow, hlabel, hname⟩
    obtain rfl : x = i := Table.eq_of_key_eq hx hi hid
    exact ⟨rfl, hbase⟩
  · rintro ⟨rfl, hbase⟩
    obtain ⟨hrow, hlabel, hname⟩ := (h.rows _).mpr ⟨i, hi, value_ne_nil hterm hmatch, rfl⟩
    exact ⟨entryOf d key generation field i,
      ⟨⟨hrow, rfl, hlabel, hname, rfl, hbase⟩, offers_of_matchesTerm hexact hterm hmatch⟩, rfl⟩

/-- An encrypted search finds what a plain one does, or refuses too many candidates; no match is
missing from the filters. -/
theorem search_eq_plainSearch
    {store : Store} {instances : Table Instance} {field : PiiField} {key : Bytes}
    {generation : Nat} {queryset : List Instance} (makerspaceId : Nat) {term : Text} {exact : Bool}
    (baseIds : Option (List Nat)) (hsync : InSync d store instances field key generation)
    (hfield : fieldNamed field.modelLabel field.fieldName = some field)
    (hindexed : Indexed field.indexKind) (hqueryset : ∀ i ∈ queryset, i ∈ instances)
    (hexact : exact = true → field.indexKind = .bloomExact)
    (hterm : 3 ≤ (normalizedName d.toUnicode term).length) :
    (search d store queryset makerspaceId field.modelLabel field.fieldName term exact baseIds =
        .ok (plainSearch d queryset makerspaceId field.fieldName term exact baseIds) ∨
      search d store queryset makerspaceId field.modelLabel field.fieldName term exact baseIds =
          .error .refineSearch ∧
        candidateLimit <
          (candidates d store key generation makerspaceId field term exact baseIds).length) ∧
    ∀ i ∈ queryset, matchesTerm d field.fieldName term false i = true →
      contains 256 (entryOf d key generation field i).bloomBits
        (bloomBits d key (scopeOf generation i.makerspaceId field) term) = true := by
  refine ⟨?_, fun i _ hmatch => contains_bloomBits hterm (of_decide_eq_true hmatch)⟩
  simp only [search, indexedCandidates_eq hsync hfield hindexed makerspaceId exact baseIds hterm]
  rcases limit_cases (candidates d store key generation makerspaceId field term exact baseIds) with
    ⟨hlimit, -⟩ | ⟨hlimit, hmany⟩
  · left
    simp only [hlimit, bind, Except.bind, pure, Except.pure, verifiedIds, plainSearch,
      filter_filter]
    congr 2
    refine filter_congr fun i hi => ?_
    cases hmatch : matchesTerm d field.fieldName term exact i with
    | false => simp
    | true => simp [mem_candidates hsync hexact hterm (hqueryset i hi) hmatch]
  · right
    exact ⟨by simp [hlimit, bind, Except.bind], hmany⟩

end Answers

def lowerAscii (c : Char) : Char :=
  if 65 ≤ c.toNat ∧ c.toNat ≤ 90 then Char.ofNat (c.toNat + 32) else c

/-- ASCII folding, and a hash that ends its payload. -/
def asciiDeployment : Deployment where
  nfkc := id
  casefold := fun c => [lowerAscii c]
  lower := List.map lowerAscii
  nfkc_nil := rfl
  casefold_space := by
    intro c hspace d hd
    have hletter : ¬ (65 ≤ c.toNat ∧ c.toNat ≤ 90) := by
      intro h
      simp [Python.isSpace] at hspace
      omega
    rw [mem_singleton.mp hd, lowerAscii, if_neg hletter]
    exact hspace
  lower_eq_nil := by simp
  sha256 := id
  hmacSha256 := fun key payload => payload.reverse ++ key
  searchKey := some (List.replicate 32 7)

def requesterName : PiiField :=
  { modelLabel := "machines.MachineServiceRequest"
    fieldName := "requester_name"
    indexKind := .bloom }

def ada : Instance where
  pk := 5
  makerspaceId := 1
  value := fun _ => ['A', 'd', 'a', ' ', ' ', 'L']

def sampleKey : Bytes := List.replicate 32 7

def sampleStore : Store where
  generations := ⟨[{ generation := 3
                     keyFingerprint := searchKeyFingerprint asciiDeployment sampleKey
                     status := .active }], nodup_singleton _⟩
  index := ⟨[entryOf asciiDeployment sampleKey 3 requesterName ada], nodup_singleton _⟩

theorem sampleStore_inSync :
    InSync asciiDeployment sampleStore ⟨[ada], nodup_singleton _⟩ requesterName sampleKey 3 where
  active := by
    simp [activeGeneration, sampleStore, asciiDeployment, sampleKey, require, bind, Except.bind,
      pure, Except.pure]
  available := rfl
  rows := fun row => by
    constructor
    · rintro ⟨hrow, -, -⟩
      obtain rfl := mem_singleton.mp hrow
      exact ⟨ada, mem_singleton_self _, by simp [ada], rfl⟩
    · rintro ⟨_, hi, -, rfl⟩
      obtain rfl := mem_singleton.mp hi
      exact ⟨mem_singleton_self _, rfl, rfl⟩

theorem ada_found :
    (search asciiDeployment sampleStore [ada] 1 requesterName.modelLabel requesterName.fieldName
          ['A', ' ', 'l'] false none =
        .ok (plainSearch asciiDeployment [ada] 1 requesterName.fieldName
          ['A', ' ', 'l'] false none) ∨
      search asciiDeployment sampleStore [ada] 1 requesterName.modelLabel requesterName.fieldName
          ['A', ' ', 'l'] false none = .error .refineSearch ∧
        candidateLimit < (candidates asciiDeployment sampleStore sampleKey 3 1 requesterName
          ['A', ' ', 'l'] false none).length) ∧
    ∀ i ∈ [ada],
      matchesTerm asciiDeployment requesterName.fieldName ['A', ' ', 'l'] false i = true →
      contains 256 (entryOf asciiDeployment sampleKey 3 requesterName i).bloomBits
        (bloomBits asciiDeployment sampleKey (scopeOf 3 i.makerspaceId requesterName)
          ['A', ' ', 'l']) = true :=
  search_eq_plainSearch 1 none sampleStore_inSync rfl (.inl rfl) (fun _ hi => hi)
    (by simp) (by decide +kernel)

end BlindIndex
end SpaceWorks
