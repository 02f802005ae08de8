import SpaceWorks.Library.Base64
import SpaceWorks.Library.BigEndian
import SpaceWorks.Library.Checked

/-!
# Reservation commitments

`reservation_keys.py` frames the key of a row under a unique rule, and
`backup_b1_commitment_matches` frames it again in the database.  PostgreSQL's predicates and
canonicalizers are part of a `UniqueRule`, SHA-256 a function.
-/

namespace SpaceWorks
namespace Reservations

open Checked List Option Except

abbrev Bytes := List UInt8

def utf8 (text : String) : Bytes :=
  text.toUTF8.data.toList

theorem utf8_injective : Function.Injective utf8 := by
  intro text text' h
  have hdata : text.toUTF8.data = text'.toUTF8.data := Array.toList_inj.mp h
  exact String.toByteArray_inj.mp (ByteArray.ext hdata)

def isHexDigit (c : Char) : Bool :=
  ('0' ≤ c && c ≤ '9') || ('a' ≤ c && c ≤ 'f')

def isDigest (value : String) : Bool :=
  value.toList.length = 64 && value.toList.all isHexDigit

def hexValue (c : Char) : Nat :=
  if c ≤ '9' then c.toNat - 48 else c.toNat - 87

/-- `bytes.fromhex`, of lower-case digits. -/
def fromHex : List Char → Bytes
  | high :: low :: text => UInt8.ofNat (16 * hexValue high + hexValue low) :: fromHex text
  | _ => []

def keyVersion : Bytes := utf8 "reservation-key-v1"

def commitmentDomain : Bytes := utf8 "spaceworks-b1-reservation-v1"

structure CanonicalComponent where
  typeIdentity : String
  value : Option Bytes
  stable : typeIdentity ≠ "" ∧ '\x00' ∉ typeIdentity.toList

/-- `_frame`; eight bytes hold the length. -/
def frame (value : Bytes) : Except String Bytes := do
  require (value.length < 256 ^ 8) "int too big to convert"
  pure (BigEndian.bytes 8 value.length ++ value)

/-- A value behind its mark, and a null. -/
def frameValue : Option Bytes → Except String Bytes
  | none => pure [0]
  | some value => (fun framed => 1 :: framed) <$> frame value

/-- The part of a key behind its header. -/
def frameComponents : List CanonicalComponent → Except String Bytes
  | [] => pure []
  | item :: components => do
    let name ← frame (utf8 item.typeIdentity)
    let value ← frameValue item.value
    let rest ← frameComponents components
    pure (name ++ (value ++ rest))

def reservationKeyV1 (constraintIdentity : String) (components : List CanonicalComponent)
    (nullsNotDistinct : Bool) : Except String (Option Bytes) := do
  require (isDigest constraintIdentity = true) "The constraint identity must be a SHA-256 digest."
  require (components ≠ []) "A reservation key needs at least one component."
  if nullsNotDistinct = false ∧ ∃ item ∈ components, item.value = none then
    pure none
  else do
    let version ← frame keyVersion
    let identity ← frame (fromHex constraintIdentity.toList)
    require (components.length < 256 ^ 4) "int too big to convert"
    let framed ← frameComponents components
    pure (some (version ++ (identity ++ (BigEndian.bytes 4 components.length ++ framed))))

def reservationCommitment (sha256 : Bytes → String) (runSalt framedKey : Bytes) :
    Except String String := do
  require (runSalt.length = 32) "A fresh 32-byte run salt is required."
  require (framedKey ≠ []) "A framed reservation key is required."
  pure (sha256 (commitmentDomain ++ runSalt ++ framedKey))

structure RunSalt where
  bytes : Bytes
  length_eq : bytes.length = 32

section Injectivity

variable {framed' s t : Bytes} {c : Char} {components components' : List CanonicalComponent}
  {constraintIdentity : String} {nullsNotDistinct : Bool}

theorem frame_append_inj {value value' framed : Bytes}
    (h : frame value = .ok framed) (h' : frame value' = .ok framed')
    (heq : framed ++ s = framed' ++ t) : value = value' ∧ s = t := by
  simp only [frame, bind_ok, require_ok, pure_ok, exists_const] at h h'
  obtain ⟨hlength, rfl⟩ := h
  obtain ⟨hlength', rfl⟩ := h'
  rw [append_assoc, append_assoc] at heq
  obtain ⟨hbytes, hrest⟩ := append_inj heq (by simp)
  exact append_inj hrest (BigEndian.eq_of_bytes_eq hlength hlength' hbytes)

theorem toNat_of_isHexDigit (h : isHexDigit c = true) :
    (48 ≤ c.toNat ∧ c.toNat ≤ 57) ∨ (97 ≤ c.toNat ∧ c.toNat ≤ 102) := by
  simp [isHexDigit, Char.le_def, UInt32.le_iff_toNat_le] at h
  exact h

theorem hexValue_spec (h : isHexDigit c = true) :
    hexValue c < 16 ∧ c.toNat = if hexValue c < 10 then hexValue c + 48 else hexValue c + 87 := by
  unfold hexValue
  rcases toNat_of_isHexDigit h with ⟨hleast, hmost⟩ | ⟨hleast, hmost⟩
  · have hdecimal : c ≤ '9' := by
      rw [Char.le_def, UInt32.le_iff_toNat_le]
      exact hmost
    rw [if_pos hdecimal]
    split <;> omega
  · have hletter : ¬ c ≤ '9' := by
      rw [Char.le_def, UInt32.le_iff_toNat_le]
      have hnine : ('9' : Char).val.toNat = 57 := rfl
      have hsame : c.val.toNat = c.toNat := rfl
      omega
    rw [if_neg hletter]
    split <;> omega

theorem hexValue_inj {d : Char} (hc : isHexDigit c = true) (hd : isHexDigit d = true)
    (h : hexValue c = hexValue d) : c = d := by
  have htoNat : c.toNat = d.toNat := by
    rw [(hexValue_spec hc).2, (hexValue_spec hd).2, h]
  exact Char.toNat_inj.mp htoNat

theorem fromHex_inj {text text' : List Char} (hlength : text.length = text'.length)
    (heven : text.length % 2 = 0) (h : ∀ c ∈ text, isHexDigit c = true)
    (h' : ∀ c ∈ text', isHexDigit c = true) (heq : fromHex text = fromHex text') :
    text = text' := by
  fun_induction fromHex text generalizing text' with
  | case1 high low _ ih =>
    match text', hlength with
    | high' :: low' :: text', hlength =>
      simp only [forall_mem_cons] at h h'
      obtain ⟨hhigh, hlow, htext⟩ := h
      obtain ⟨hhigh', hlow', htext'⟩ := h'
      rw [fromHex] at heq
      obtain ⟨hbyte, hrest⟩ := cons.inj heq
      have hspec := hexValue_spec hhigh
      have hspec' := hexValue_spec hhigh'
      have hlowSpec := hexValue_spec hlow
      have hlowSpec' := hexValue_spec hlow'
      have hvalue : 16 * hexValue high + hexValue low = 16 * hexValue high' + hexValue low' := by
        have htoNat := congrArg UInt8.toNat hbyte
        rw [UInt8.toNat_ofNat', UInt8.toNat_ofNat'] at htoNat
        omega
      rw [hexValue_inj hhigh hhigh' (by omega), hexValue_inj hlow hlow' (by omega),
        ih (by simpa using hlength) (by simp at heven; omega) htext htext' hrest]
  | case2 text hshort =>
    match text, text', hshort, hlength, heven with
    | [], [], _, _, _ => rfl
    | [c], _, _, _, heven => simp at heven
    | c :: d :: text, _, hshort, _, _ => exact (hshort c d text rfl).elim

theorem frameValue_append_inj {value value' : Option Bytes} {framed : Bytes}
    (h : frameValue value = .ok framed) (h' : frameValue value' = .ok framed')
    (heq : framed ++ s = framed' ++ t) : value = value' ∧ s = t := by
  cases value with
  | none =>
    obtain rfl := pure_ok.mp h
    cases value' with
    | none =>
      obtain rfl := pure_ok.mp h'
      exact ⟨rfl, append_cancel_left heq⟩
    | some =>
      obtain ⟨_, -, rfl⟩ := map_eq_ok.mp h'
      exact absurd (cons.inj heq).1 (by decide)
  | some =>
    obtain ⟨_, hbytes, rfl⟩ := map_eq_ok.mp h
    cases value' with
    | none =>
      obtain rfl := pure_ok.mp h'
      exact absurd (cons.inj heq).1 (by decide)
    | some =>
      obtain ⟨_, hbytes', rfl⟩ := map_eq_ok.mp h'
      obtain ⟨rfl, hrest⟩ := frame_append_inj hbytes hbytes' (cons.inj heq).2
      exact ⟨rfl, hrest⟩

theorem frameComponents_cons_ok {item : CanonicalComponent} {framed : Bytes} :
    frameComponents (item :: components) = .ok framed ↔
      ∃ name value rest, frame (utf8 item.typeIdentity) = .ok name ∧
        frameValue item.value = .ok value ∧ frameComponents components = .ok rest ∧
        name ++ (value ++ rest) = framed := by
  simp only [frameComponents, bind_ok, pure_ok]
  constructor
  · rintro ⟨name, hname, value, hvalue, rest, hrest, rfl⟩
    exact ⟨name, value, rest, hname, hvalue, hrest, rfl⟩
  · rintro ⟨name, value, rest, hname, hvalue, hrest, rfl⟩
    exact ⟨name, hname, value, hvalue, rest, hrest, rfl⟩

theorem frameComponents_inj {framed : Bytes} (hlength : components.length = components'.length)
    (h : frameComponents components = .ok framed)
    (h' : frameComponents components' = .ok framed) : components = components' := by
  induction components generalizing components' framed with
  | nil => exact (length_eq_zero_iff.mp hlength.symm).symm
  | cons item _ ih =>
    match components', hlength with
    | item' :: components', hlength =>
      obtain ⟨_, value, _, hname, hvalue, hrest, rfl⟩ := frameComponents_cons_ok.mp h
      obtain ⟨_, value', _, hname', hvalue', hrest', heq⟩ := frameComponents_cons_ok.mp h'
      obtain ⟨htype, htail⟩ := frame_append_inj hname' hname heq
      obtain ⟨hitem, hbehind⟩ := frameValue_append_inj hvalue' hvalue htail
      subst hbehind
      rw [ih (by simpa using hlength) hrest hrest']
      obtain ⟨typeIdentity, value, _⟩ := item
      obtain ⟨typeIdentity', value', _⟩ := item'
      obtain rfl : typeIdentity' = typeIdentity := utf8_injective htype
      obtain rfl : value' = value := hitem
      rfl

theorem reservationKeyV1_eq_some {key : Bytes} :
    reservationKeyV1 constraintIdentity components nullsNotDistinct = .ok (some key) ↔
      isDigest constraintIdentity = true ∧ components ≠ [] ∧
        ¬ (nullsNotDistinct = false ∧ ∃ item ∈ components, item.value = none) ∧
        components.length < 256 ^ 4 ∧
        ∃ version identity framed, frame keyVersion = .ok version ∧
          frame (fromHex constraintIdentity.toList) = .ok identity ∧
          frameComponents components = .ok framed ∧
          version ++ (identity ++ (BigEndian.bytes 4 components.length ++ framed)) = key := by
  simp only [reservationKeyV1, bind_ok, require_ok, exists_const]
  refine and_congr_right fun _ => and_congr_right fun _ => ?_
  split
  next hnull => simp [hnull]
  next hnull =>
    simp only [bind_ok, require_ok, pure_ok, some.injEq, exists_const]
    constructor
    · rintro ⟨version, hversion, identity, hidentity, hcount, framed, hframed, rfl⟩
      exact ⟨hnull, hcount, version, identity, framed, hversion, hidentity, hframed, rfl⟩
    · rintro ⟨-, hcount, version, identity, framed, hversion, hidentity, hframed, rfl⟩
      exact ⟨version, hversion, identity, hidentity, hcount, framed, hframed, rfl⟩

/-- A framed key determines the rule, the types and the values. -/
theorem reservationKeyV1_inj {constraintIdentity' : String} {nullsNotDistinct' : Bool} {key : Bytes}
    (h : reservationKeyV1 constraintIdentity components nullsNotDistinct = .ok (some key))
    (h' : reservationKeyV1 constraintIdentity' components' nullsNotDistinct' = .ok (some key)) :
    constraintIdentity = constraintIdentity' ∧ components = components' := by
  obtain ⟨hdigest, -, -, hcount, _, _, _, hversion, hidentity, hframed, rfl⟩ :=
    reservationKeyV1_eq_some.mp h
  obtain ⟨hdigest', -, -, hcount', _, _, _, hversion', hidentity', hframed',
    heq⟩ := reservationKeyV1_eq_some.mp h'
  obtain ⟨-, hrest⟩ := frame_append_inj hversion' hversion heq
  obtain ⟨hhex, hrest⟩ := frame_append_inj hidentity' hidentity hrest
  obtain ⟨hbytes, rfl⟩ := append_inj hrest (by simp)
  have hlength := BigEndian.eq_of_bytes_eq hcount' hcount hbytes
  simp only [isDigest, Bool.and_eq_true, decide_eq_true_eq, List.all_eq_true] at hdigest hdigest'
  have htext := fromHex_inj (hdigest'.1.trans hdigest.1.symm) (by omega) hdigest'.2 hdigest.2 hhex
  exact ⟨String.toList_inj.mp htext.symm, frameComponents_inj hlength.symm hframed hframed'⟩

end Injectivity

section

/-- An expression in canonical form, with the equality that it is exact for. -/
structure RuleComponent (Row : Type) where
  typeIdentity : String
  stable : typeIdentity ≠ "" ∧ '\x00' ∉ typeIdentity.toList
  typeIdentity_lt : (utf8 typeIdentity).length < 256 ^ 8
  value : Row → Option Bytes
  value_lt : ∀ {row bytes}, value row = some bytes → bytes.length < 256 ^ 8
  equal : Row → Row → Bool
  exact : ∀ {row row' bytes bytes'}, value row = some bytes → value row' = some bytes' →
    (equal row row' = true ↔ bytes = bytes')

structure UniqueRule (Row : Type) where
  identity : String
  identity_digest : isDigest identity = true
  predicate : Row → Bool
  components : List (RuleComponent Row)
  components_ne : components ≠ []
  components_lt : components.length < 256 ^ 4
  nullsNotDistinct : Bool

variable {Row : Type}

/-- The rule takes two values of a component for equal. -/
def RuleComponent.Same (component : RuleComponent Row) (nullsNotDistinct : Bool) (row row' : Row) :
    Prop :=
  match component.value row, component.value row' with
  | some _, some _ => component.equal row row' = true
  | none, none => nullsNotDistinct = true
  | _, _ => False

def UniqueRule.Same (rule : UniqueRule Row) (row row' : Row) : Prop :=
  ∀ component ∈ rule.components, component.Same rule.nullsNotDistinct row row'

def RuleComponent.canonical (component : RuleComponent Row) (row : Row) : CanonicalComponent :=
  ⟨component.typeIdentity, component.value row, component.stable⟩

/-- `_evaluate_rule` for a row of the predicate. -/
def UniqueRule.key (rule : UniqueRule Row) (row : Row) : Except String (Option Bytes) :=
  reservationKeyV1 rule.identity (rule.components.map fun component => component.canonical row)
    rule.nullsNotDistinct

def UniqueRule.commitment (sha256 : Bytes → String) (salt : RunSalt) (rule : UniqueRule Row)
    (row : Row) : Except String (Option String) := do
  if rule.predicate row = false then
    pure none
  else
    match ← rule.key row with
    | none => pure none
    | some key => some <$> reservationCommitment sha256 salt.bytes key

/-- Unequal rows whose keys have one digest. -/
def UniqueRule.Collide (sha256 : Bytes → String) (salt : RunSalt) (rule : UniqueRule Row)
    (row row' : Row) : Prop :=
  ∃ key key', rule.key row = .ok (some key) ∧ rule.key row' = .ok (some key') ∧ key ≠ key' ∧
    sha256 (commitmentDomain ++ salt.bytes ++ key) = sha256 (commitmentDomain ++ salt.bytes ++ key')

def backupB1Frame (value : Bytes) : Bytes :=
  BigEndian.bytes 8 value.length ++ value

/-- `canonicalizer` evaluates `canonicalizer_sql`. -/
structure EnforcedComponent (Row : Type) where
  typeIdentity : String
  canonicalizer : Row → Option Bytes

/-- `payload->'enforcement'`; `predicate` evaluates `predicate_sql`. -/
structure Enforcement (Row : Type) where
  predicate : Row → Bool
  nullsNotDistinct : Bool
  components : List (EnforcedComponent Row)

structure CommitmentGroup where
  componentId : String
  commitments : List String

structure Payload (Row : Type) where
  constraintIdentity : String
  componentCommitments : List CommitmentGroup
  reservationSalt : Option (List Char)
  enforcement : Option (Enforcement Row)

/-- The loop over the components; no bytes where it returns at a null. -/
def frameRow (nullsNotDistinct : Bool) (row : Row) :
    List (EnforcedComponent Row) → Bytes → Option Bytes
  | [], framed => some framed
  | component :: components, framed =>
    let named := framed ++ backupB1Frame (utf8 component.typeIdentity)
    match component.canonicalizer row with
    | none =>
      if nullsNotDistinct = false then none
      else frameRow nullsNotDistinct row components (named ++ [0])
    | some value =>
      frameRow nullsNotDistinct row components (named ++ ([1] ++ backupB1Frame value))

def commitmentMatches (sha256 : Bytes → String) (payload : Payload Row)
    (reservedComponent : String) (row : Row) : Except String Bool :=
  match payload.enforcement, payload.reservationSalt with
  | some enforcement, some salt =>
    if enforcement.predicate row = false then
      pure false
    else
      match frameRow enforcement.nullsNotDistinct row enforcement.components
        (backupB1Frame keyVersion ++ backupB1Frame (fromHex payload.constraintIdentity.toList) ++
          BigEndian.bytes 4 enforcement.components.length) with
      | none => pure false
      | some framed => do
        let group ← orRefuse
          (payload.componentCommitments.find? fun item => item.componentId = reservedComponent)
          "commitment reservation lacks its component commitment group"
        let salt ← orRefuse (Base64.decode salt) "invalid base64 end sequence"
        pure (group.commitments.contains (sha256 (commitmentDomain ++ salt ++ framed)))
  | _, _ => throw "commitment reservation lacks catalog-verified enforcement facts"

/-- `catalog_bound_payload`, when the catalog has the rule. -/
def catalogBoundPayload (rule : UniqueRule Row) (componentCommitments : List CommitmentGroup)
    (salt : Bytes) : Except String (Payload Row) := do
  require (salt.length = 32) "The commitment reservation salt must be 32 bytes."
  pure {
    constraintIdentity := rule.identity
    componentCommitments := componentCommitments
    reservationSalt := some (Base64.encode salt)
    enforcement := some {
      predicate := rule.predicate
      nullsNotDistinct := rule.nullsNotDistinct
      components := rule.components.map fun component =>
        ⟨component.typeIdentity, component.value⟩ } }

theorem frame_ok {value framed : Bytes} :
    frame value = .ok framed ↔ value.length < 256 ^ 8 ∧ framed = backupB1Frame value := by
  simp only [frame, backupB1Frame, bind_ok, require_ok, pure_ok, exists_const]
  rw [eq_comm (a := framed)]

theorem frameValue_ok {value : Option Bytes} {framed : Bytes}
    (h : ∀ bytes, value = some bytes → bytes.length < 256 ^ 8) :
    frameValue value = .ok framed ↔
      framed = value.elim [0] fun bytes => [1] ++ backupB1Frame bytes := by
  cases value with
  | none => rw [frameValue, pure_ok, elim_none, eq_comm]
  | some bytes =>
    simp only [frameValue, map_eq_ok, frame_ok, elim_some]
    constructor
    · rintro ⟨_, ⟨-, rfl⟩, rfl⟩
      rfl
    · rintro rfl
      exact ⟨_, ⟨h bytes rfl, rfl⟩, rfl⟩

def RuleComponent.framed (component : RuleComponent Row) (row : Row) : Bytes :=
  backupB1Frame (utf8 component.typeIdentity) ++
    (component.value row).elim [0] fun bytes => [1] ++ backupB1Frame bytes

theorem frameComponents_canonical (components : List (RuleComponent Row)) (row : Row) :
    frameComponents (components.map fun component => component.canonical row) =
      .ok (components.flatMap fun component => component.framed row) := by
  induction components with
  | nil => rfl
  | cons component _ ih =>
    rw [map_cons, frameComponents_cons_ok]
    refine ⟨_, _, _, frame_ok.mpr ⟨component.typeIdentity_lt, rfl⟩,
      (frameValue_ok fun _ => component.value_lt).mpr rfl, ih, ?_⟩
    rw [flatMap_cons, RuleComponent.framed, append_assoc]
    rfl

/-- The database frames what the key does, short of distinct nulls. -/
theorem frameRow_eq (nullsNotDistinct : Bool) (row : Row) (components : List (RuleComponent Row))
    (header : Bytes) :
    frameRow nullsNotDistinct row
        (components.map fun component => ⟨component.typeIdentity, component.value⟩) header =
      if nullsNotDistinct = false ∧ ∃ component ∈ components, component.value row = none then none
      else some (header ++ components.flatMap fun component => component.framed row) := by
  induction components generalizing header with
  | nil => simp [frameRow]
  | cons component _ ih =>
    cases hvalue : component.value row with
    | none =>
      cases nullsNotDistinct with
      | false =>
        rw [if_pos ⟨rfl, component, mem_cons_self, hvalue⟩]
        simp [frameRow, hvalue]
      | true =>
        simp [frameRow, RuleComponent.framed, hvalue, ih]
    | some =>
      simp [frameRow, RuleComponent.framed, hvalue, ih]

/-- What stands in front of the components of a rule's keys. -/
def UniqueRule.header (rule : UniqueRule Row) : Bytes :=
  backupB1Frame keyVersion ++ backupB1Frame (fromHex rule.identity.toList) ++
    BigEndian.bytes 4 rule.components.length

theorem length_fromHex (text : List Char) : (fromHex text).length ≤ text.length := by
  fun_induction fromHex text with
  | case1 =>
    simp only [length_cons]
    omega
  | case2 => simp

theorem UniqueRule.key_eq (rule : UniqueRule Row) (row : Row) :
    rule.key row = .ok
      (if rule.nullsNotDistinct = false ∧ ∃ component ∈ rule.components, component.value row = none
        then none
        else some (rule.header ++ rule.components.flatMap fun component => component.framed row)) := by
  have hnulls : (∃ item ∈ rule.components.map fun component => component.canonical row,
      item.value = none) ↔ ∃ component ∈ rule.components, component.value row = none := by
    simp [RuleComponent.canonical]
  have hne : (rule.components.map fun component => component.canonical row) ≠ [] := by
    simpa using rule.components_ne
  split
  next h =>
    simp only [UniqueRule.key, reservationKeyV1, bind_ok, require_ok, exists_const]
    exact ⟨rule.identity_digest, hne, by rw [if_pos (by rwa [hnulls])]; rfl⟩
  next h =>
    have hidentity : (fromHex rule.identity.toList).length < 256 ^ 8 := by
      have hdigest := rule.identity_digest
      simp [isDigest] at hdigest
      have hlength := length_fromHex rule.identity.toList
      omega
    rw [UniqueRule.key, reservationKeyV1_eq_some, hnulls]
    refine ⟨rule.identity_digest, hne, h, by simpa using rule.components_lt, _, _, _,
      frame_ok.mpr ⟨by decide +kernel, rfl⟩, frame_ok.mpr ⟨hidentity, rfl⟩,
      frameComponents_canonical _ row, ?_⟩
    simp [UniqueRule.header]

theorem canonical_eq_of_framed_eq {rule : UniqueRule Row} {row row' : Row} {key : Bytes}
    (h : rule.key row = .ok (some key)) (h' : rule.key row' = .ok (some key)) :
    ∀ component ∈ rule.components, component.value row = component.value row' := by
  intro component hmem
  have hcomponents := map_inj_left.mp (reservationKeyV1_inj h h').2 component hmem
  exact congrArg CanonicalComponent.value hcomponents

variable {sha256 : Bytes → String} {salt : RunSalt} {rule : UniqueRule Row} {row row' : Row}

theorem RuleComponent.same_self_iff {component : RuleComponent Row} {nullsNotDistinct : Bool} :
    component.Same nullsNotDistinct row row' ↔ component.value row = component.value row' ∧
        (component.value row = none → nullsNotDistinct = true) := by
  unfold RuleComponent.Same
  split
  next bytes bytes' hvalue hvalue' =>
    rw [component.exact hvalue hvalue', hvalue, hvalue']
    simp
  next hvalue hvalue' => simp [hvalue, hvalue']
  next hsome hnone =>
    cases hvalue : component.value row with
    | none =>
      cases hvalue' : component.value row' with
      | none => exact (hnone hvalue hvalue').elim
      | some => simp
    | some bytes =>
      cases hvalue' : component.value row' with
      | none => simp
      | some bytes' => exact (hsome bytes bytes' hvalue hvalue').elim

theorem sameKey_iff :
    (∃ key, rule.key row = .ok (some key) ∧ rule.key row' = .ok (some key)) ↔
      rule.Same row row' := by
  constructor
  · rintro ⟨_, hkey, hkey'⟩ component hmem
    rw [RuleComponent.same_self_iff]
    refine ⟨canonical_eq_of_framed_eq hkey hkey' component hmem, fun hnull => ?_⟩
    rw [UniqueRule.key_eq] at hkey
    split at hkey
    next => exact absurd hkey (by simp)
    next hnulls =>
      by_contra hdistinct
      exact hnulls ⟨by simpa using hdistinct, component, hmem, hnull⟩
  · intro hsame
    have hvalues := fun component hmem =>
      RuleComponent.same_self_iff.mp (hsame component hmem)
    have hnulls : ¬ (rule.nullsNotDistinct = false ∧
        ∃ component ∈ rule.components, component.value row = none) := by
      rintro ⟨hdistinct, component, hmem, hnull⟩
      have hnotDistinct := (hvalues component hmem).2 hnull
      rw [hdistinct] at hnotDistinct
      exact absurd hnotDistinct (by decide)
    have hcanonical : rule.components.map (fun component => component.canonical row') =
        rule.components.map fun component => component.canonical row :=
      map_congr_left fun component hmem => by
        rw [RuleComponent.canonical, RuleComponent.canonical, (hvalues component hmem).1]
    have hkey := rule.key_eq row
    rw [if_neg hnulls] at hkey
    exact ⟨_, hkey, by rw [UniqueRule.key, hcanonical]; exact hkey⟩

theorem key_ne_nil {key : Bytes} (h : rule.key row = .ok (some key)) : key ≠ [] := by
  rw [UniqueRule.key_eq] at h
  split at h
  next => exact absurd h (by simp)
  next =>
    obtain rfl := some.inj (ok.inj h)
    exact append_ne_nil_of_left_ne_nil
      (append_ne_nil_of_right_ne_nil _ (by simp [BigEndian.bytes])) _

theorem reservationCommitment_ok {key : Bytes} {commitment : String} (h : key ≠ []) :
    reservationCommitment sha256 salt.bytes key = .ok commitment ↔
      commitment = sha256 (commitmentDomain ++ salt.bytes ++ key) := by
  simp only [reservationCommitment, bind_ok, require_ok, pure_ok, exists_const,
    salt.length_eq, h, ne_eq, not_false_eq_true, true_and]
  exact eq_comm

theorem commitment_eq_some {commitment : String} :
    rule.commitment sha256 salt row = .ok (some commitment) ↔
      rule.predicate row = true ∧ ∃ key, rule.key row = .ok (some key) ∧
        commitment = sha256 (commitmentDomain ++ salt.bytes ++ key) := by
  unfold UniqueRule.commitment
  split
  next hpredicate => simp [hpredicate, pure, Except.pure]
  next hpredicate =>
    rw [bind_ok, Bool.not_eq_false] at *
    refine (and_iff_right hpredicate).symm.trans (and_congr_right fun _ => ?_)
    constructor
    · rintro ⟨_ | key, hkey, heq⟩
      · exact absurd (pure_ok.mp heq) (by simp)
      · obtain ⟨_, hcommitment, hsome⟩ := map_eq_ok.mp heq
        cases hsome
        exact ⟨key, hkey, (reservationCommitment_ok (key_ne_nil hkey)).mp hcommitment⟩
    · rintro ⟨key, hkey, heq⟩
      exact ⟨some key, hkey, map_eq_ok.mpr
        ⟨_, (reservationCommitment_ok (key_ne_nil hkey)).mpr heq, rfl⟩⟩

/-- One commitment exactly when the rule or a collision says so. -/
theorem sameCommitment_iff :
    (∃ commitment, rule.commitment sha256 salt row = .ok (some commitment) ∧
        rule.commitment sha256 salt row' = .ok (some commitment)) ↔
      rule.predicate row = true ∧ rule.predicate row' = true ∧
        (rule.Same row row' ∨ rule.Collide sha256 salt row row') := by
  simp only [commitment_eq_some, ← sameKey_iff, UniqueRule.Collide]
  constructor
  · rintro ⟨_, ⟨hpredicate, key, hkey, rfl⟩, hpredicate', key', hkey', heq⟩
    refine ⟨hpredicate, hpredicate', ?_⟩
    by_cases hsame : key = key'
    · subst hsame
      exact .inl ⟨key, hkey, hkey'⟩
    · exact .inr ⟨key, key', hkey, hkey', hsame, heq⟩
  · rintro ⟨hpredicate, hpredicate', ⟨key, hkey, hkey'⟩ | ⟨key, key', hkey, hkey', -, heq⟩⟩
    · exact ⟨_, ⟨hpredicate, key, hkey, rfl⟩, hpredicate', key, hkey', rfl⟩
    · exact ⟨_, ⟨hpredicate, key, hkey, rfl⟩, hpredicate', key', hkey', heq⟩

theorem frameRow_eq_some {framed : Bytes} :
    frameRow rule.nullsNotDistinct row
        (rule.components.map fun component => ⟨component.typeIdentity, component.value⟩)
        rule.header = some framed ↔
      rule.key row = .ok (some framed) := by
  rw [frameRow_eq, UniqueRule.key_eq, ok.injEq]

theorem commitmentMatches_iff {componentCommitments : List CommitmentGroup}
    {reservedComponent : String} :
    (catalogBoundPayload rule componentCommitments salt.bytes >>= fun payload =>
        commitmentMatches sha256 payload reservedComponent row) = .ok true ↔
      ∃ commitment, rule.commitment sha256 salt row = .ok (some commitment) ∧
        ∃ group, (componentCommitments.find? fun item => item.componentId = reservedComponent) =
          some group ∧ commitment ∈ group.commitments := by
  simp only [catalogBoundPayload, bind_ok, require_ok, pure_ok, exists_const,
    salt.length_eq, true_and, exists_eq_left']
  unfold commitmentMatches
  simp only [commitment_eq_some]
  split
  next hpredicate => simp [hpredicate, pure, Except.pure]
  next hpredicate =>
    rw [Bool.not_eq_false] at hpredicate
    have hheader : backupB1Frame keyVersion ++ backupB1Frame (fromHex rule.identity.toList) ++
        BigEndian.bytes 4 (rule.components.map fun component =>
          (⟨component.typeIdentity, component.value⟩ : EnforcedComponent Row)).length =
        rule.header := by
      rw [length_map, UniqueRule.header]
    simp only [hheader, hpredicate, true_and]
    split
    next hframed =>
      have hnone : ∀ key, rule.key row ≠ .ok (some key) := fun key hkey => by
        rw [frameRow_eq_some.mpr hkey] at hframed
        cases hframed
      simp [hnone, pure, Except.pure]
    next framed hframed =>
      have hkey := frameRow_eq_some.mp hframed
      simp only [bind_ok, orRefuse_ok, pure_ok, Base64.decode_encode, some.injEq,
        exists_eq_left', contains_iff_mem, hkey, ok.injEq]
      constructor
      · rintro ⟨group, hgroup, hmem⟩
        exact ⟨_, rfl, group, hgroup, hmem⟩
      · rintro ⟨_, rfl, group, hgroup, hmem⟩
        exact ⟨group, hgroup, hmem⟩

/-- Keys determine their parts, commitments agree as the unique rule does, short of collisions, and
the database finds the published ones. -/
theorem reservations_exact (sha256 : Bytes → String) (salt : RunSalt) (rule : UniqueRule Row)
    (componentCommitments : List CommitmentGroup) (reservedComponent : String) :
    (∀ constraintIdentity constraintIdentity' components components' nullsNotDistinct
        nullsNotDistinct' key,
      reservationKeyV1 constraintIdentity components nullsNotDistinct = .ok (some key) →
      reservationKeyV1 constraintIdentity' components' nullsNotDistinct' = .ok (some key) →
      constraintIdentity = constraintIdentity' ∧ components = components') ∧
    (∀ row row', (∃ commitment, rule.commitment sha256 salt row = .ok (some commitment) ∧
        rule.commitment sha256 salt row' = .ok (some commitment)) ↔
      rule.predicate row = true ∧ rule.predicate row' = true ∧
        (rule.Same row row' ∨ rule.Collide sha256 salt row row')) ∧
    ∀ row, (catalogBoundPayload rule componentCommitments salt.bytes >>= fun payload =>
        commitmentMatches sha256 payload reservedComponent row) = .ok true ↔
      ∃ commitment, rule.commitment sha256 salt row = .ok (some commitment) ∧
        ∃ group, (componentCommitments.find? fun item => item.componentId = reservedComponent) =
          some group ∧ commitment ∈ group.commitments := by
  refine ⟨?_, fun _ _ => sameCommitment_iff, fun _ => commitmentMatches_iff⟩
  intro _ _ _ _ _ _ _ hkey hkey'
  exact reservationKeyV1_inj hkey hkey'

end

end Reservations
end SpaceWorks
