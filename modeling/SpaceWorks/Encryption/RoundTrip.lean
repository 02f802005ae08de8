import SpaceWorks.Encryption.Mappers

/-!
# Round trip of encrypted fields

A session: assignments, saves, reads, refreshes, loads and key operations, beside what was last
assigned and saved.
-/

namespace SpaceWorks
namespace Pii

open Checked TransactionalSystem Table Function List Option Except Prod

section Sessions

variable {φ : Type}

structure Session (φ : Type) where
  mapped : Mapped φ
  saved : φ → Raw φ
  assigned : φ → Option (Raw φ)

def Session.initial : Session φ where
  mapped :=
    { adding := true
      dict := fun _ => some (.text "")
      plainValues := fun _ => none
      rawValues := fun _ => none
      originalPlainValues := fun _ => none
      stored := fun _ => .text ""
      index := fun _ => none
      keys := ∅ }
  saved := fun _ => .text ""
  assigned := fun _ => none

/-- `refresh_from_db` is some `reload`s and then `dropCaches`. -/
inductive Operation (φ : Type)
  | assign (field : φ) (value : Raw φ)
  | read (field : φ)
  | save (updateFields : Option (List φ)) (newDek : Nat)
  | reload (field : φ)
  | dropCaches
  | load (deferred : List φ)
  | rotate (newDek : Nat)
  | rewrap (version : Nat)
  | disable (version : Nat)

/-- What the caller has last assigned, or saved. -/
def Session.expected (w : Session φ) (field : φ) : Raw φ :=
  (w.assigned field).getD (w.saved field)

variable [DecidableEq φ]

def Session.commit (m : Mapping φ) (w : Session φ) (savedField : SavedField φ) : Session φ where
  mapped := w.mapped.store m savedField
  saved := update w.saved savedField.field (w.expected savedField.field)
  assigned := update w.assigned savedField.field none

def Session.commitPlain (w : Session φ) (field : φ) : Session φ where
  mapped := w.mapped.storePlain field
  saved := update w.saved field (w.expected field)
  assigned := update w.assigned field none

def Session.setKeys (w : Session φ) (keys : Table DataKey) : Session φ :=
  { w with mapped := { w.mapped with keys := keys } }

def Mapped.loaded (s : Mapped φ) (deferred : List φ) : Mapped φ :=
  { s.dropCaches with
    dict := fun field => if field ∈ deferred then none else some (s.stored field) }

def Session.save (m : Mapping φ) (w : Session φ) (updateFields : Option (List φ))
    (newDek : Nat) : Except PiiError (Session φ) := do
  require (w.mapped.adding → updateFields = none) .integrity
  let (keys, savedFields) ← w.mapped.saveFields m newDek w.mapped.keys
    (w.mapped.valuesForSave m updateFields)
  let plainFields := w.mapped.plainForSave m updateFields
  let w := savedFields.foldl (Session.commit m) (w.setKeys keys)
  let w := plainFields.foldl Session.commitPlain w
  pure { w with mapped := { w.mapped with adding := false } }

def Session.step (m : Mapping φ) (w : Session φ) : Operation φ → Except PiiError (Session φ)
  | .assign field value => .ok
      { w with
        mapped := w.mapped.assign field value
        assigned := update w.assigned field (some value) }
  | .read field => do
    let (mapped, _) ← w.mapped.read m field
    pure { w with mapped := mapped }
  | .save updateFields newDek => w.save m updateFields newDek
  | .reload field => do
    let mapped ← w.mapped.reload m field
    pure { w with mapped := mapped, assigned := update w.assigned field none }
  | .dropCaches => .ok { w with mapped := w.mapped.dropCaches }
  | .load deferred => do
    require (w.mapped.adding = false) .doesNotExist
    pure { w with mapped := w.mapped.loaded deferred, assigned := fun _ => none }
  | .rotate newDek => do
    let keys ← rotateDek w.mapped.keys newDek
    pure (w.setKeys keys)
  | .rewrap version => do
    let keys ← rewrapDek w.mapped.keys version
    pure (w.setKeys keys)
  | .disable version => do
    let keys ← disableDek w.mapped.keys version
    pure (w.setKeys keys)

end Sessions

section Keys

variable {keys keys' : Table DataKey} {key : DataKey} {newDek version : Nat}

def KeysKept (keys keys' : Table DataKey) : Prop :=
  ∀ version key, keys.get? version = some key →
    ∃ key', keys'.get? version = some key' ∧ key'.dek = key.dek

theorem KeysKept.refl (keys : Table DataKey) : KeysKept keys keys :=
  fun _ key hkey => ⟨key, hkey, rfl⟩

theorem KeysKept.trans {a b c : Table DataKey} (hab : KeysKept a b) (hbc : KeysKept b c) :
    KeysKept a c := by
  intro version key hkey
  obtain ⟨middle, hmiddle, hdek⟩ := hab version key hkey
  obtain ⟨last, hlast, hdek'⟩ := hbc version middle hmiddle
  exact ⟨last, hlast, hdek'.trans hdek⟩

theorem KeysKept.insert {keys : Table DataKey} {key : DataKey}
    (h : keys.get? (Keyed.key key) = none) : KeysKept keys (keys.insert key h) := by
  intro version old hold
  refine ⟨old, ?_, rfl⟩
  have hne : version ≠ Keyed.key key := by
    rintro rfl
    rw [hold] at h
    simp at h
  rw [get?_insert h, if_neg hne]
  exact hold

theorem KeysKept.put {keys : Table DataKey} {key old : DataKey}
    (hold : old ∈ keys) (hversion : key.version = old.version) (hdek : key.dek = old.dek) :
    KeysKept keys (keys.put key) := by
  intro version other hother
  by_cases heq : version = Keyed.key key
  · have hget : keys.get? (Keyed.key key) = some old := get?_eq_some.mpr ⟨hold, hversion.symm⟩
    refine ⟨key, by rw [heq]; exact get?_put_self hget, ?_⟩
    rw [heq, hget] at hother
    cases hother
    exact hdek
  · exact ⟨other, by rw [get?_put_of_ne keys heq]; exact hother, rfl⟩

theorem active_mem (h : keys.rows.find? (·.status = .active) = some key) : key ∈ keys :=
  mem_of_find?_eq_some h

theorem getOrCreateActiveDek_ok (h : getOrCreateActiveDek keys newDek = .ok (keys', key)) :
    KeysKept keys keys' ∧ keys'.get? key.version = some key := by
  unfold getOrCreateActiveDek at h
  split at h
  · rename_i found hfound
    obtain ⟨rfl, rfl⟩ := mk.inj (ok.inj h)
    exact ⟨KeysKept.refl _, get?_eq_some.mpr ⟨active_mem hfound, rfl⟩⟩
  · simp only [bind_ok, pure_ok, insertNew_ok, mk.injEq] at h
    obtain ⟨_, ⟨habsent, rfl⟩, rfl, rfl⟩ := h
    refine ⟨KeysKept.insert habsent, get?_eq_some.mpr ⟨?_, rfl⟩⟩
    exact (mem_insert habsent).mpr (.inr rfl)

theorem rotateDek_ok (h : rotateDek keys newDek = .ok keys') : KeysKept keys keys' := by
  simp [rotateDek, insertNew_ok] at h
  obtain ⟨current, hcurrent, habsent, rfl⟩ := h
  have hput : KeysKept keys (keys.put { current with status := .rotated }) :=
    KeysKept.put (active_mem hcurrent) rfl rfl
  exact hput.trans (KeysKept.insert habsent)

theorem rewrapDek_ok (h : rewrapDek keys version = .ok keys') : keys' = keys := by
  simp [rewrapDek] at h
  obtain ⟨-, -, -, -, rfl⟩ := h
  rfl

theorem disableDek_ok (h : disableDek keys version = .ok keys') : KeysKept keys keys' := by
  simp [disableDek] at h
  obtain ⟨_, hkey, rfl⟩ := h
  exact KeysKept.put (mem_of_get? hkey) rfl rfl

end Keys

section Invariant

variable {φ : Type} {keys : Table DataKey} {aad : Aad φ} {raw : Raw φ} {text : String}

def Encodes (keys : Table DataKey) (aad : Aad φ) (raw : Raw φ) (text : String) : Prop :=
  text = "" ∧ raw = .text "" ∨
    text ≠ "" ∧ ∃ envelope key, raw = .sealed envelope ∧ envelope.aad = aad ∧
      envelope.plaintext = text ∧ keys.get? envelope.version = some key ∧ key.dek = envelope.dek

theorem Encodes.mono {keys' : Table DataKey}
    (h : Encodes keys aad raw text) (hkept : KeysKept keys keys') :
    Encodes keys' aad raw text := by
  rcases h with h | ⟨hne, envelope, key, hraw, haad, htext, hkey, hdek⟩
  · exact .inl h
  · obtain ⟨key', hkey', hdek'⟩ := hkept envelope.version key hkey
    exact .inr ⟨hne, envelope, key', hraw, haad, htext, hkey', hdek'.trans hdek⟩

def Disabled (keys : Table DataKey) (raw : Raw φ) : Prop :=
  ∃ envelope key, raw = .sealed envelope ∧ keys.get? envelope.version = some key ∧
    key.status = .disabled

variable [DecidableEq φ]

theorem Encodes.decrypt (h : Encodes keys aad raw text) :
    decrypt keys aad raw = .ok text ∨
      decrypt keys aad raw = .error .keyUnavailable ∧ Disabled keys raw := by
  rcases h with ⟨rfl, rfl⟩ | ⟨-, envelope, key, rfl, rfl, rfl, hkey, hdek⟩
  · left
    simp [Pii.decrypt]
  · by_cases hstatus : key.status = .disabled
    · right
      refine ⟨?_, envelope, key, rfl, hkey, hstatus⟩
      simp [Pii.decrypt, getDek, hkey, hstatus, orRefuse, require, bind, Except.bind]
    · left
      simp [Pii.decrypt, getDek, hkey, hstatus, hdek, orRefuse, require, bind, Except.bind, pure,
        Except.pure]

theorem Encodes.opened
    {keys : Table DataKey} {aad : Aad φ} {envelope : Envelope φ} {text opened : String}
    (h : Encodes keys aad (.sealed envelope) text)
    (hopened : Pii.decrypt keys aad (.sealed envelope) = .ok opened) :
    opened = text := by
  rcases h.decrypt with hok | ⟨herror, -⟩
  · rw [hok] at hopened
    exact (ok.inj hopened).symm
  · rw [herror] at hopened
    simp at hopened

/-- The attribute in memory has the value that is expected of it. -/
def InMemory (w : Session φ) (field : φ) : Prop :=
  match w.mapped.dict field with
  | none => w.mapped.adding = false ∧ w.assigned field = none
  | some (.sealed envelope) =>
    w.assigned field = none ∧ w.mapped.stored field = .sealed envelope
  | some (.text text) =>
    w.expected field = .text text ∧ (Raw.text text : Raw φ).isEnvelope = false

/-- The invariant of one field, for values unlike envelopes. -/
structure Faithful (m : Mapping φ) (w : Session φ) (field : φ) : Prop where
  stored : ∃ text, w.saved field = .text text ∧ (Raw.text text : Raw φ).isEnvelope = false ∧
    Encodes w.mapped.keys (m.aad field) (w.mapped.stored field) text ∧
      w.mapped.index field = m.entry field text
  assigned : ∀ value, w.assigned field = some value →
    ∃ text, value = .text text ∧ (Raw.text text : Raw φ).isEnvelope = false
  memory : InMemory w field
  plain : ∀ text, w.mapped.plainValues field = some text → w.expected field = .text text
  reusable : ∀ raw text, w.mapped.rawValues field = some raw →
    w.mapped.originalPlainValues field = some text →
      w.expected field = .text text ∧ Encodes w.mapped.keys (m.aad field) raw text

omit [DecidableEq φ] in
theorem Faithful.expected_text
    {m : Mapping φ} {w : Session φ} {field : φ} (h : Faithful m w field) :
    ∃ text, w.expected field = .text text ∧ (Raw.text text : Raw φ).isEnvelope = false := by
  unfold Session.expected
  cases hassigned : w.assigned field with
  | none =>
    obtain ⟨text, hsaved, hplain, -⟩ := h.stored
    exact ⟨text, hsaved, hplain⟩
  | some value => exact h.assigned value hassigned

end Invariant

section Steps

variable {φ : Type} [DecidableEq φ]
variable {m : Mapping φ} {w : Session φ} {field : φ}
  {text : String} {mapped : Mapped φ} {keys keys' : Table DataKey} {newDek : Nat}
  {savedField : SavedField φ} {savedFields : List (SavedField φ)}

theorem Faithful.fetch (h : Faithful m w field) (hsaved : w.saved field = .text text) :
    w.mapped.fetch m field = .ok text ∨ w.mapped.fetch m field = .error .keyUnavailable ∧
        Disabled w.mapped.keys (w.mapped.stored field) := by
  obtain ⟨text', hsaved', -, hencodes, -⟩ := h.stored
  obtain rfl : text' = text := by simpa using hsaved'.symm.trans hsaved
  have hopens := hencodes.decrypt
  unfold Mapped.fetch
  rcases hencodes with ⟨rfl, hraw⟩ | ⟨-, _, -, hraw, -⟩
  · left
    simp [hraw]
  · rw [hraw] at hopens ⊢
    exact hopens

omit [DecidableEq φ] in
theorem Faithful.setCaches (h : ∀ field, Faithful m w field)
    {plain original : φ → Option String} {raw : φ → Option (Raw φ)}
    (hplain : ∀ field text, plain field = some text → w.expected field = .text text)
    (hreusable : ∀ field value text, raw field = some value → original field = some text →
      w.expected field = .text text ∧ Encodes w.mapped.keys (m.aad field) value text) (field : φ) :
    Faithful m { w with mapped := { w.mapped with
      plainValues := plain
      rawValues := raw
      originalPlainValues := original } } field where
  stored := (h field).stored
  assigned := (h field).assigned
  memory := (h field).memory
  plain := hplain field
  reusable := hreusable field

omit [DecidableEq φ] in
theorem Faithful.dropCaches (h : ∀ field, Faithful m w field) (field : φ) :
    Faithful m { w with mapped := w.mapped.dropCaches } field :=
  Faithful.setCaches h (by simp) (by simp) field

theorem Faithful.getLoaded (h : ∀ field, Faithful m w field)
    {value result : Raw φ} (hdict : w.mapped.dict field = some value)
    (hread : w.mapped.getLoaded m field value = .ok (mapped, result)) :
    (∀ field, Faithful m { w with mapped := mapped } field) ∧ result = w.expected field := by
  have hf := h field
  have hmemory := hf.memory
  unfold InMemory at hmemory
  rw [hdict] at hmemory
  unfold Mapped.getLoaded at hread
  split at hread
  · rename_i hempty
    obtain ⟨rfl, rfl⟩ := mk.inj (ok.inj hread)
    subst hempty
    exact ⟨h, hmemory.1.symm⟩
  · split at hread
    · rename_i plaintext hcached
      obtain ⟨rfl, rfl⟩ := mk.inj (ok.inj hread)
      exact ⟨h, (hf.plain plaintext hcached).symm⟩
    · split at hread
      · split at hread
        · cases value with
          | sealed => simp [Raw.isEnvelope] at *
          | text plaintext =>
            obtain ⟨rfl, rfl⟩ := mk.inj (ok.inj hread)
            refine ⟨Faithful.setCaches h ?_ fun field => (h field).reusable, hmemory.1.symm⟩
            intro other text htext
            by_cases heq : other = field
            · subst heq
              obtain rfl : plaintext = text := by simpa using htext
              exact hmemory.1
            · exact (h other).plain text (by simpa [heq] using htext)
        · simp at hread
      · rename_i hsealed
        simp at hread
        obtain ⟨decrypted, hdecrypt, rfl, rfl⟩ := hread
        cases value with
        | text => exact absurd hmemory.2 (by simpa using hsealed)
        | sealed envelope =>
          obtain ⟨hnone, hstored⟩ := hmemory
          obtain ⟨text, hsaved, -, hencodes, -⟩ := hf.stored
          rw [hstored] at hencodes
          have hopened : decrypted = text := hencodes.opened hdecrypt
          subst hopened
          have hexpected : w.expected field = .text decrypted := by
            simp [Session.expected, hnone, hsaved]
          refine ⟨Faithful.setCaches h ?_ ?_, hexpected.symm⟩
          · intro other text htext
            by_cases heq : other = field
            · subst heq
              obtain rfl : decrypted = text := by simpa using htext
              exact hexpected
            · exact (h other).plain text (by simpa [heq] using htext)
          · intro other raw text hraw htext
            by_cases heq : other = field
            · subst heq
              obtain rfl : decrypted = text := by simpa using htext
              obtain rfl : Raw.sealed envelope = raw := by simpa using hraw
              exact ⟨hexpected, hencodes⟩
            · exact (h other).reusable raw text (by simpa [heq] using hraw)
                (by simpa [heq] using htext)

theorem Faithful.assignText (h : ∀ field, Faithful m w field)
    (hplain : (Raw.text text : Raw φ).isEnvelope = false) {assigned : Option (Raw φ)}
    (hassigned : assigned = some (.text text) ∨ assigned = none ∧ w.saved field = .text text)
    (other : φ) :
    Faithful m { w with
      mapped := w.mapped.assign field (.text text)
      assigned := update w.assigned field assigned } other := by
  by_cases heq : other = field
  · subst heq
    exact {
      stored := (h other).stored
      assigned := by
        intro value hvalue
        have hvalue : assigned = some value := by simpa using hvalue
        rcases hassigned with rfl | ⟨rfl, -⟩
        · cases hvalue
          exact ⟨text, rfl, hplain⟩
        · simp at hvalue
      memory := by
        simp only [InMemory, Mapped.assign, update_self]
        refine ⟨?_, hplain⟩
        rcases hassigned with rfl | ⟨rfl, hsaved⟩
        · simp [Session.expected]
        · simpa [Session.expected] using hsaved
      plain := by simp [Mapped.assign]
      reusable := by simp [Mapped.assign] }
  · have hf := h other
    exact {
      stored := hf.stored
      assigned := by simpa [heq] using hf.assigned
      memory := by
        have hmemory := hf.memory
        unfold InMemory Session.expected at hmemory ⊢
        simpa [Mapped.assign, heq] using hmemory
      plain := by simpa [Mapped.assign, Session.expected, heq] using hf.plain
      reusable := by simpa [Mapped.assign, Session.expected, heq] using hf.reusable }

omit [DecidableEq φ] in
theorem Faithful.setKeys (h : Faithful m w field) (hkept : KeysKept w.mapped.keys keys) :
    Faithful m (w.setKeys keys) field where
  stored := by
    obtain ⟨text, hsaved, hplain, hencodes, hindex⟩ := h.stored
    exact ⟨text, hsaved, hplain, hencodes.mono hkept, hindex⟩
  assigned := h.assigned
  memory := h.memory
  plain := h.plain
  reusable := by
    intro raw text hraw htext
    obtain ⟨hexpected, hencodes⟩ := h.reusable raw text hraw htext
    exact ⟨hexpected, hencodes.mono hkept⟩

theorem Faithful.reload (h : ∀ field, Faithful m w field)
    (hreload : w.mapped.reload m field = .ok mapped) (other : φ) :
    Faithful m { w with mapped := mapped, assigned := update w.assigned field none } other := by
  simp only [Mapped.reload, bind_ok, pure_ok] at hreload
  obtain ⟨-, -, text, hfetch, rfl⟩ := hreload
  obtain ⟨saved, hsaved, hplain, -⟩ := (h field).stored
  have hsame : text = saved := by
    rcases (h field).fetch hsaved with hok | ⟨herror, -⟩
    · rw [hok] at hfetch
      exact (ok.inj hfetch).symm
    · rw [herror] at hfetch
      simp at hfetch
  subst hsame
  exact Faithful.assignText h hplain (.inr ⟨rfl, hsaved⟩) other

theorem Faithful.load
    (h : ∀ field, Faithful m w field) (hadding : w.mapped.adding = false) (deferred : List φ)
    (field : φ) :
    Faithful m { w with mapped := w.mapped.loaded deferred, assigned := fun _ => none } field where
  stored := (h field).stored
  assigned := by simp
  memory := by
    obtain ⟨_, hsaved, hplain, hencodes, -⟩ := (h field).stored
    unfold InMemory Session.expected
    by_cases hdeferred : field ∈ deferred
    · simp [Mapped.loaded, Mapped.dropCaches, hdeferred, hadding]
    · rcases hencodes with ⟨rfl, hraw⟩ | ⟨-, _, _, hraw, -⟩
      · simp [Mapped.loaded, Mapped.dropCaches, hdeferred, hraw, hsaved, hplain]
      · simp [Mapped.loaded, Mapped.dropCaches, hdeferred, hraw]
  plain := by simp [Mapped.loaded, Mapped.dropCaches]
  reusable := by simp [Mapped.loaded, Mapped.dropCaches]

theorem plaintextOf_text (h : (Raw.text text : Raw φ).isEnvelope = false) {aad : Aad φ} :
    plaintextOf keys aad (.text text) = .ok text := by
  simp [plaintextOf, h]

theorem encryptField_ok {plaintext : Raw φ}
    (h : encryptField m newDek keys field plaintext = .ok (keys', savedField)) :
    KeysKept keys keys' ∧ savedField.field = field ∧
      plaintextOf keys (m.aad field) plaintext = .ok savedField.restore ∧
        Encodes keys' (m.aad field) savedField.encrypted savedField.restore := by
  simp only [encryptField, bind_ok] at h
  obtain ⟨_, htext, h⟩ := h
  split at h
  · rename_i hempty
    obtain ⟨rfl, rfl⟩ := mk.inj (ok.inj h)
    exact ⟨KeysKept.refl keys, rfl, htext, .inl ⟨hempty, rfl⟩⟩
  · rename_i hne
    simp only [bind_ok, pure_ok, mk.injEq, Prod.exists] at h
    obtain ⟨_, active, hactive, rfl, rfl⟩ := h
    obtain ⟨hkept, hkey⟩ := getOrCreateActiveDek_ok hactive
    exact ⟨hkept, rfl, htext, .inr ⟨hne, _, active, rfl, rfl, rfl, hkey, rfl⟩⟩

theorem Faithful.plaintextForSave (h : Faithful m w field) (hloaded : (w.mapped.dict field).isSome)
    (hkept : KeysKept w.mapped.keys keys)
    (htext : plaintextOf keys (m.aad field) (w.mapped.plaintextForSave field) = .ok text) :
    w.expected field = .text text := by
  obtain ⟨expected, hexpected, hplain⟩ := h.expected_text
  obtain ⟨raw, hraw⟩ := isSome_iff_exists.mp hloaded
  have hmemory := h.memory
  unfold InMemory at hmemory
  rw [hraw] at hmemory
  have hsame : ∀ value, w.mapped.plaintextForSave field = .text value →
      w.expected field = .text value → w.expected field = .text text := by
    intro value hvalue hvalueExpected
    obtain rfl : value = expected := by simpa using hvalueExpected.symm.trans hexpected
    rw [hvalue, plaintextOf_text hplain] at htext
    cases htext
    exact hexpected
  cases raw with
  | text value =>
    refine hsame value ?_ hmemory.1
    simp [Mapped.plaintextForSave, hraw, hmemory.2]
  | sealed envelope =>
    cases hcached : w.mapped.plainValues field with
    | some cached =>
      refine hsame cached ?_ (h.plain cached hcached)
      simp [Mapped.plaintextForSave, hraw, Raw.isEnvelope, hcached]
    | none =>
      -- the envelope of the row, opened under the keys of this save
      obtain ⟨hunassigned, hstored⟩ := hmemory
      obtain ⟨saved, hsaved, -, hencodes, -⟩ := h.stored
      rw [hstored] at hencodes
      have hplaintext : w.mapped.plaintextForSave field = .sealed envelope := by
        simp [Mapped.plaintextForSave, hraw, Raw.isEnvelope, hcached]
      rw [hplaintext] at htext
      have hopened : text = saved := (hencodes.mono hkept).opened htext
      subst hopened
      simp [Session.expected, hunassigned, hsaved]

theorem Faithful.saveField (h : Faithful m w field) (hloaded : (w.mapped.dict field).isSome)
    (hkept : KeysKept w.mapped.keys keys)
    (hsave : w.mapped.saveField m newDek keys field = .ok (keys', savedField)) :
    KeysKept keys keys' ∧ savedField.field = field ∧ w.expected field = .text savedField.restore ∧
        Encodes keys' (m.aad field) savedField.encrypted savedField.restore := by
  have hencrypt : encryptField m newDek keys field (w.mapped.plaintextForSave field) =
      .ok (keys', savedField) →
      KeysKept keys keys' ∧ savedField.field = field ∧ w.expected field = .text savedField.restore ∧
          Encodes keys' (m.aad field) savedField.encrypted savedField.restore := by
    intro hencrypted
    obtain ⟨hkeys, hfield, htext, hencodes⟩ := encryptField_ok hencrypted
    exact ⟨hkeys, hfield, h.plaintextForSave hloaded hkept htext, hencodes⟩
  simp only [Mapped.saveField] at hsave
  split at hsave
  · rename_i rawSaved original text hrawSaved horiginal hplaintext
    split at hsave
    · rename_i hsame
      obtain ⟨rfl, rfl⟩ := mk.inj (ok.inj hsave)
      obtain ⟨hvalue, hencodes⟩ := h.reusable rawSaved original hrawSaved horiginal
      rw [hsame.2]
      exact ⟨KeysKept.refl keys, rfl, hvalue, hencodes.mono hkept⟩
    · exact hencrypt hsave
  · exact hencrypt hsave

theorem Faithful.saveFields (h : ∀ field, Faithful m w field) {fields : List φ}
    (hloaded : ∀ field ∈ fields, (w.mapped.dict field).isSome) (hkept : KeysKept w.mapped.keys keys)
    (hsave : w.mapped.saveFields m newDek keys fields = .ok (keys', savedFields)) :
    KeysKept keys keys' ∧ ∀ savedField ∈ savedFields,
      w.expected savedField.field = .text savedField.restore ∧
        Encodes keys' (m.aad savedField.field) savedField.encrypted savedField.restore := by
  induction fields generalizing keys savedFields with
  | nil =>
    obtain ⟨rfl, rfl⟩ := mk.inj (ok.inj hsave)
    exact ⟨KeysKept.refl keys, by simp⟩
  | cons field _ ih =>
    simp only [Mapped.saveFields, bind_ok, pure_ok, mk.injEq, Prod.exists] at hsave
    obtain ⟨_, _, hfirst, _, _, hrest, rfl, rfl⟩ := hsave
    obtain ⟨hmiddle, rfl, hexpected, hencodes⟩ :=
      (h field).saveField (hloaded field mem_cons_self) hkept hfirst
    obtain ⟨hlast, hall⟩ := ih (fun other hother => hloaded other (mem_cons_of_mem _ hother))
        (hkept.trans hmiddle) hrest
    refine ⟨hmiddle.trans hlast, ?_⟩
    intro savedField hmem
    cases hmem with
    | head => exact ⟨hexpected, hencodes.mono hlast⟩
    | tail _ hmem => exact hall savedField hmem

@[simp] theorem Session.commit_expected (savedField : SavedField φ) (other : φ) :
    (w.commit m savedField).expected other = w.expected other := by
  by_cases heq : other = savedField.field
  · subst heq
    simp [Session.expected, Session.commit]
  · simp [Session.expected, Session.commit, heq]

theorem Faithful.commit (h : ∀ field, Faithful m w field) {savedField : SavedField φ}
    (hexpected : w.expected savedField.field = .text savedField.restore)
    (hencodes : Encodes w.mapped.keys (m.aad savedField.field) savedField.encrypted
      savedField.restore) (other : φ) :
    Faithful m (w.commit m savedField) other := by
  have hunchanged := Session.commit_expected (m := m) (w := w) savedField other
  by_cases heq : other = savedField.field
  · subst heq
    obtain ⟨text, htext, hplain⟩ := (h savedField.field).expected_text
    obtain rfl : text = savedField.restore := by simpa using htext.symm.trans hexpected
    exact {
      stored := by
        refine ⟨savedField.restore, ?_, hplain, ?_, ?_⟩
        · simp [Session.commit, hexpected]
        · simpa [Session.commit, Mapped.store] using hencodes
        · simp [Session.commit, Mapped.store]
      assigned := by simp [Session.commit]
      memory := by
        unfold InMemory
        rw [hunchanged]
        simp [Session.commit, Mapped.store, hexpected, hplain]
      plain := by
        rw [hunchanged]
        simp [Session.commit, Mapped.store, hexpected]
      reusable := by
        rw [hunchanged]
        intro raw text hraw htext
        obtain rfl : savedField.encrypted = raw := by
          simpa [Session.commit, Mapped.store] using hraw
        obtain rfl : savedField.restore = text := by
          simpa [Session.commit, Mapped.store] using htext
        exact ⟨hexpected, hencodes⟩ }
  · have hf := h other
    exact {
      stored := by simpa [Session.commit, Mapped.store, heq] using hf.stored
      assigned := by simpa [Session.commit, heq] using hf.assigned
      memory := by
        have hmemory := hf.memory
        unfold InMemory at hmemory ⊢
        rw [hunchanged]
        simpa [Session.commit, Mapped.store, heq] using hmemory
      plain := by
        rw [hunchanged]
        simpa [Session.commit, Mapped.store, heq] using hf.plain
      reusable := by
        rw [hunchanged]
        simpa [Session.commit, Mapped.store, heq] using hf.reusable }

theorem Faithful.commitAll (h : ∀ field, Faithful m w field) (hall : ∀ savedField ∈ savedFields,
      w.expected savedField.field = .text savedField.restore ∧
        Encodes w.mapped.keys (m.aad savedField.field) savedField.encrypted
          savedField.restore) (field : φ) :
    Faithful m (savedFields.foldl (Session.commit m) w) field := by
  induction savedFields generalizing w with
  | nil => exact h field
  | cons first _ ih =>
    obtain ⟨hexpected, hencodes⟩ := hall first mem_cons_self
    refine ih (w := w.commit m first) (Faithful.commit h hexpected hencodes) ?_
    intro savedField hmem
    have hlater := hall savedField (mem_cons_of_mem first hmem)
    rw [Session.commit_expected]
    exact hlater

theorem Faithful.save (h : ∀ field, Faithful m w field) (hmakerspace : m.makerspaceId ≠ none)
    {updateFields : Option (List φ)} {w' : Session φ}
    (hsave : w.save m updateFields newDek = .ok w') (field : φ) :
    Faithful m w' field := by
  simp only [Session.save, bind_ok, pure_ok, Prod.exists] at hsave
  obtain ⟨-, -, keys, _, hfields, rfl⟩ := hsave
  have hloaded : ∀ field ∈ w.mapped.valuesForSave m updateFields,
      (w.mapped.dict field).isSome := by
    intro field hmem
    simp only [Mapped.valuesForSave, if_neg hmakerspace, Mapped.written, mem_filter,
      Bool.and_eq_true, Bool.or_eq_true] at hmem
    rcases hmem.2.1 with hadding | hsome
    · have hmemory := (h field).memory
      unfold InMemory at hmemory
      cases hdict : w.mapped.dict field with
      | some => rfl
      | none =>
        rw [hdict] at hmemory
        simp [hmemory.1] at hadding
    · exact hsome
  obtain ⟨hkept, hall⟩ := Faithful.saveFields h hloaded (KeysKept.refl _) hfields
  have hplain : w.mapped.plainForSave m updateFields = [] := by
    simp [Mapped.plainForSave, hmakerspace]
  have hcommitted :=
    Faithful.commitAll (w := w.setKeys keys) (fun field => (h field).setKeys hkept) hall field
  rw [hplain]
  exact { hcommitted with
    memory := by
      have hmemory := hcommitted.memory
      unfold InMemory at hmemory ⊢
      split
      · rename_i hdict
        simp at hdict
        rw [hdict] at hmemory
        exact ⟨rfl, hmemory.2⟩
      · rename_i hdict
        simp at hdict
        rw [hdict] at hmemory
        exact hmemory
      · rename_i hdict
        simp at hdict
        rw [hdict] at hmemory
        exact hmemory }

theorem Faithful.read (h : ∀ field, Faithful m w field) {mapped : Mapped φ} {result : Raw φ}
    (hread : w.mapped.read m field = .ok (mapped, result)) :
    (∀ field, Faithful m { w with mapped := mapped } field) ∧ result = w.expected field := by
  cases hdict : w.mapped.dict field with
  | some =>
    simp only [Mapped.read, hdict] at hread
    exact Faithful.getLoaded h hdict hread
  | none =>
    have hmemory := (h field).memory
    unfold InMemory at hmemory
    rw [hdict] at hmemory
    simp [Mapped.read, hdict] at hread
    obtain ⟨refreshed, hrefreshed, hread⟩ := hread
    have hsession : ∀ field, Faithful m { w with mapped := refreshed } field := by
      have hreloaded := Faithful.reload h hrefreshed
      rw [← hmemory.2, update_eq_self] at hreloaded
      exact hreloaded
    have hvalue : refreshed.dropCaches.dict field =
        some ((refreshed.dict field).getD (.text "")) := by
      simp [Mapped.reload] at hrefreshed
      obtain ⟨-, -, _, -, rfl⟩ := hrefreshed
      simp [Mapped.dropCaches, Mapped.assign]
    exact Faithful.getLoaded (Faithful.dropCaches hsession) hvalue hread

end Steps

section Results

variable {φ : Type}

def Operation.Plain : Operation φ → Prop
  | .assign _ (.text text) => (Raw.text text : Raw φ).isEnvelope = false
  | .assign _ (.sealed _) => False
  | _ => True

instance Operation.Plain.decidable : (operation : Operation φ) → Decidable operation.Plain
  | .assign _ (.text text) =>
    inferInstanceAs (Decidable ((Raw.text text : Raw φ).isEnvelope = false))
  | .assign _ (.sealed _) => inferInstanceAs (Decidable False)
  | .read _ | .save _ _ | .reload _ | .dropCaches | .load _ | .rotate _ | .rewrap _
  | .disable _ => inferInstanceAs (Decidable True)

/-- The attribute is the loaded envelope, empty, or has a cached plaintext. -/
def Readable (m : Mapping φ) (s : Mapped φ) (field : φ) : Prop :=
  m.dualRead = true ∨
    match s.dict field with
    | some (.sealed _) => True
    | some (.text text) => text = "" ∨ s.plainValues field ≠ none
    | none => s.stored field = .text "" ∨ Disabled s.keys (s.stored field)

structure Recorded (m : Mapping φ) (s : Mapped φ) (field : φ) (text : String) : Prop where
  empty : text = "" → s.stored field = .text ""
  bound : text ≠ "" → ∃ envelope, s.stored field = .sealed envelope ∧
    envelope.aad = m.aad field ∧ envelope.plaintext = text
  index : s.index field = m.entry field text

variable [DecidableEq φ]

variable {m : Mapping φ} {w : Session φ} {field : φ}

omit [DecidableEq φ] in
theorem Faithful.initial (m : Mapping φ) (field : φ) : Faithful m Session.initial field where
  stored := by
    refine ⟨"", rfl, by simp [Raw.isEnvelope, envelopePrefix], .inl ⟨rfl, rfl⟩, ?_⟩
    simp [Session.initial, Mapping.entry]
  assigned := by simp [Session.initial]
  memory := by simp [InMemory, Session.initial, Session.expected, Raw.isEnvelope, envelopePrefix]
  plain := by simp [Session.initial]
  reusable := by simp [Session.initial]

theorem Faithful.step (h : ∀ field, Faithful m w field) (hmakerspace : m.makerspaceId ≠ none)
    {operation : Operation φ} (hplain : operation.Plain) {w' : Session φ}
    (hstep : w.step m operation = .ok w') (field : φ) :
    Faithful m w' field := by
  cases operation with
  | assign _ value =>
    cases hstep
    cases value with
    | text => exact Faithful.assignText h hplain (.inl rfl) field
    | sealed => exact hplain.elim
  | read =>
    simp only [Session.step, bind_ok, pure_ok, Prod.exists] at hstep
    obtain ⟨_, _, hread, rfl⟩ := hstep
    exact (Faithful.read h hread).1 field
  | save => exact Faithful.save h hmakerspace hstep field
  | reload =>
    simp [Session.step] at hstep
    obtain ⟨_, hreload, rfl⟩ := hstep
    exact Faithful.reload h hreload field
  | dropCaches =>
    cases hstep
    exact Faithful.dropCaches h field
  | load deferred =>
    simp only [Session.step, bind_ok, pure_ok, require_ok] at hstep
    obtain ⟨_, hadding, rfl⟩ := hstep
    exact Faithful.load h hadding deferred field
  | rotate =>
    simp [Session.step] at hstep
    obtain ⟨_, hkeys, rfl⟩ := hstep
    exact (h field).setKeys (rotateDek_ok hkeys)
  | rewrap =>
    simp [Session.step] at hstep
    obtain ⟨_, hkeys, rfl⟩ := hstep
    obtain rfl := rewrapDek_ok hkeys
    exact h field
  | disable =>
    simp [Session.step] at hstep
    obtain ⟨_, hkeys, rfl⟩ := hstep
    exact (h field).setKeys (disableDek_ok hkeys)

omit [DecidableEq φ] in
theorem Faithful.recorded (h : Faithful m w field) :
    ∃ text, w.saved field = .text text ∧ Recorded m w.mapped field text := by
  obtain ⟨text, hsaved, -, hencodes, hindex⟩ := h.stored
  refine ⟨text, hsaved, ?_⟩
  rcases hencodes with ⟨hempty, hraw⟩ | ⟨hne, envelope, -, hraw, haad, hplaintext, -⟩
  · exact {
      empty := fun _ => hraw
      bound := fun hne => absurd hempty hne
      index := hindex }
  · exact {
      empty := fun hempty => absurd hempty hne
      bound := fun _ => ⟨envelope, hraw, haad, hplaintext⟩
      index := hindex }

theorem Disabled.decrypt {keys : Table DataKey} {raw : Raw φ} (h : Disabled keys raw)
    (aad : Aad φ) : Pii.decrypt keys aad raw = .error .keyUnavailable := by
  obtain ⟨_, _, rfl, hkey, hstatus⟩ := h
  simp [Pii.decrypt, getDek, hkey, hstatus, orRefuse, require, bind, Except.bind]

def registration : Mapping Bool where
  fields := [false, true]
  indexKind := fun email => if email then .eventExact else .none
  bloomBits := fun _ _ => 0
  exactHash := fun _ value => value.length
  makerspaceId := some 1
  table := "events_eventregistration"
  pk := 1
  dualRead := false

end Results

end Pii
end SpaceWorks
