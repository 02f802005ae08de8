import SpaceWorks.Library.Base64
import SpaceWorks.Library.Checked
import SpaceWorks.Library.Numerals

/-!
# The text of PII envelopes

`crypto.py`: what `encrypt` writes and the parser reads.  AES-GCM is a parameter, a text a list of
characters.
-/

namespace SpaceWorks
namespace Envelopes

open Checked List

abbrev Text := List Char

abbrev Bytes := List UInt8

def envelopeScheme : List Text := [['p', 'i', 'i'], ['g', 'c', 'm'], ['v', '1']]

def envelopePrefix : Text := ['p', 'i', 'i', ':', 'g', 'c', 'm', ':', 'v', '1', ':']

def nonceBytes : Nat := 12

def tagBytes : Nat := 16

inductive PiiError
  | unavailable
  | malformedEnvelope
  deriving DecidableEq

structure AesGcm where
  sealed : Bytes → Bytes → Bytes → Bytes → Bytes
  length_sealed : ∀ dek nonce plaintext aad,
    (sealed dek nonce plaintext aad).length = plaintext.length + tagBytes

structure Nonce where
  bytes : Bytes
  length_bytes : bytes.length = nonceBytes

/-- `_encode`: the encoding without the padding at its end. -/
def encode (value : Bytes) : Text :=
  ((Base64.encode value).reverse.dropWhile (· = '=')).reverse

def decode (value : Text) : Except PiiError Bytes := do
  require (value ≠ []) .malformedEnvelope
  require (value.all (· ∈ Base64.alphabet)) .malformedEnvelope
  let decoded ← orRefuse (Base64.decode (value ++ Base64.padding value)) .malformedEnvelope
  require (encode decoded = value) .malformedEnvelope
  pure decoded

structure Envelope where
  version : Nat
  nonce : Bytes
  ciphertext : Bytes
  deriving DecidableEq

/-- `raw.split(":")`. -/
def parts (raw : Text) : List Text :=
  raw.splitOn ':'

def parseEnvelope (raw : Text) : Except PiiError Envelope := do
  require (envelopePrefix <+: raw) .malformedEnvelope
  match parts raw with
  | [scheme, mode, format, number, nonceText, ciphertextText] =>
    require ([scheme, mode, format] = envelopeScheme) .malformedEnvelope
    let version ← orRefuse (Python.int? number) .malformedEnvelope
    require (1 ≤ version) .malformedEnvelope
    let nonce ← decode nonceText
    let ciphertext ← decode ciphertextText
    require (nonce.length = nonceBytes ∧ tagBytes ≤ ciphertext.length) .malformedEnvelope
    pure ⟨version.toNat, nonce, ciphertext⟩
  | _ => throw .malformedEnvelope

/-- What `encrypt` writes, if the version has a decimal text. -/
def envelopeText (envelope : Envelope) : Option Text :=
  (Python.str? envelope.version).map fun number =>
    envelopePrefix ++ number ++ ':' :: encode envelope.nonce ++ ':' :: encode envelope.ciphertext

/-- `encrypt`, or `PiiUnavailable`, or a decimal error. -/
def encrypt (aes : AesGcm) (nonce : Nonce) (plaintext dek aad : Bytes) (keyVersion : Nat) :
    Except PiiError Text := do
  if plaintext = [] then pure []
  else
    require (1 ≤ keyVersion) .unavailable
    require (dek.length = 32) .unavailable
    let ciphertext := aes.sealed dek nonce.bytes plaintext aad
    orRefuse (envelopeText ⟨keyVersion, nonce.bytes, ciphertext⟩) .unavailable

variable {text : Text}

theorem dropWhile_pad (h : ∀ c ∈ text, c ≠ '=') (pads : Nat) :
    (List.replicate pads '=' ++ text).dropWhile (· = '=') = text := by
  induction pads with
  | zero =>
    cases text with
    | nil => rfl
    | cons c =>
      have hc : c ≠ '=' := h c (by simp)
      simp [hc]
  | succ _ ih => simpa [replicate_succ] using ih

theorem encode_eq (value : Bytes) : encode value = Base64.encodeUnpadded value := by
  have halphabet : ∀ c ∈ (Base64.encodeUnpadded value).reverse, c ≠ '=' := by
    intro c hc heq
    exact Base64.pad_notMem (heq ▸ Base64.encodeUnpadded_alphabet value c (by simpa using hc))
  rw [encode, Base64.encode, reverse_append, Base64.padding, reverse_replicate,
    dropWhile_pad halphabet, reverse_reverse]

variable {value : Bytes}

theorem encode_ne_nil (h : value ≠ []) : encode value ≠ [] := by
  rw [encode_eq]
  match value, h with
  | [_], _ => simp [Base64.encodeUnpadded]
  | [_, _], _ => simp [Base64.encodeUnpadded]
  | _ :: _ :: _ :: _, _ => simp [Base64.encodeUnpadded]

theorem colon_notMem_encode (value : Bytes) : ':' ∉ encode value := by
  rw [encode_eq]
  intro hmem
  exact absurd (Base64.encodeUnpadded_alphabet value ':' hmem) (by decide +kernel)

theorem decode_encode (h : value ≠ []) : decode (encode value) = .ok value := by
  have halphabet : (encode value).all (· ∈ Base64.alphabet) := by
    rw [encode_eq, all_eq_true]
    exact fun c hc => decide_eq_true (Base64.encodeUnpadded_alphabet value c hc)
  have hdecoded : Base64.decode (encode value ++ Base64.padding (encode value)) = some value := by
    rw [encode_eq]
    exact Base64.decode_encode value
  simp only [decode, bind_ok, require_ok, orRefuse_ok, pure_ok, exists_const]
  exact ⟨encode_ne_nil h, halphabet, value, hdecoded, rfl, rfl⟩

theorem encode_of_decode (h : decode text = .ok value) :
    encode value = text := by
  simp only [decode, bind_ok, require_ok, orRefuse_ok, pure_ok, exists_const] at h
  obtain ⟨-, -, _, -, hcanonical, rfl⟩ := h
  exact hcanonical

def spelled (number : Text) (envelope : Envelope) : Text :=
  envelopePrefix ++ number ++ ':' :: encode envelope.nonce ++ ':' :: encode envelope.ciphertext

def plainVersion (raw : Text) : Bool :=
  (parts raw)[3]?.any Python.plainNumeral

variable {number : Text}

theorem parts_spelled (hnumber : ':' ∉ number) (envelope : Envelope) :
    parts (spelled number envelope) =
      envelopeScheme ++ [number, encode envelope.nonce, encode envelope.ciphertext] := by
  have hspelled : spelled number envelope =
      ['p', 'i', 'i'] ++ ':' :: (['g', 'c', 'm'] ++ ':' :: (['v', '1'] ++ ':' :: (number ++ ':' ::
        (encode envelope.nonce ++ ':' :: encode envelope.ciphertext)))) := by
    simp [spelled, envelopePrefix]
  rw [parts, hspelled, splitOn_append_cons_self_of_not_mem (by decide),
    splitOn_append_cons_self_of_not_mem (by decide),
    splitOn_append_cons_self_of_not_mem (by decide),
    splitOn_append_cons_self_of_not_mem hnumber,
    splitOn_append_cons_self_of_not_mem (colon_notMem_encode _),
    splitOn_eq_singleton (colon_notMem_encode _)]
  rfl

theorem prefix_spelled (number : Text) (envelope : Envelope) :
    envelopePrefix <+: spelled number envelope :=
  ⟨_, by rw [spelled, append_assoc, append_assoc]⟩

variable {raw : Text} {envelope : Envelope}

theorem parseEnvelope_cases
    (h : parseEnvelope raw = .ok envelope) :
    ∃ number, raw = spelled number envelope ∧ (parts raw)[3]? = some number ∧
      Python.int? number = some (envelope.version : Int) ∧ 1 ≤ envelope.version := by
  have hjoin : [':'].intercalate (parts raw) = raw := intercalate_splitOn ..
  simp only [parseEnvelope, bind_ok, require_ok] at h
  obtain ⟨_, _, h⟩ := h
  split at h
  · next scheme mode format number nonceText ciphertextText hparts =>
      simp [envelopeScheme] at h
      obtain ⟨⟨rfl, rfl, rfl⟩, _, hversion, _, _, hnonce, _,
        hciphertext, -, rfl⟩ := h
      refine ⟨number, ?_, by simp [hparts], ?_, ?_⟩
      · rw [← hjoin, hparts, spelled, encode_of_decode hnonce, encode_of_decode hciphertext]
        simp [List.intercalate, envelopePrefix]
      · simp only [hversion]
        rw [Int.toNat_of_nonneg (by omega)]
      · simp only
        omega
  · simp at h

theorem parseEnvelope_spelled (hnumber : ':' ∉ number)
    (hversion : Python.int? number = some (envelope.version : Int))
    (hpositive : 1 ≤ envelope.version) (hnonce : envelope.nonce.length = nonceBytes)
    (hciphertext : tagBytes ≤ envelope.ciphertext.length) :
    parseEnvelope (spelled number envelope) = .ok envelope := by
  have hnonceText : decode (encode envelope.nonce) = .ok envelope.nonce := by
    refine decode_encode ?_
    rintro hnil
    simp [hnil, nonceBytes] at hnonce
  have hciphertextText : decode (encode envelope.ciphertext) = .ok envelope.ciphertext := by
    refine decode_encode ?_
    rintro hnil
    simp [hnil, tagBytes] at hciphertext
  simp only [parseEnvelope, bind_ok, require_ok]
  refine ⟨⟨⟩, prefix_spelled number envelope, ?_⟩
  rw [parts_spelled hnumber]
  simp only [envelopeScheme, cons_append, nil_append, bind_ok, require_ok,
    orRefuse_ok, pure_ok, exists_const]
  exact ⟨trivial, _, hversion, by omega, _, hnonceText, _, hciphertextText, ⟨hnonce, hciphertext⟩,
    by simp⟩

theorem envelopeText_eq (envelope : Envelope) :
    envelopeText envelope = (Python.str? envelope.version).map (spelled · envelope) :=
  rfl

theorem envelopeText_iff (h : parseEnvelope raw = .ok envelope) :
    envelopeText envelope = some raw ↔ plainVersion raw = true := by
  obtain ⟨number, hraw, hpart, hversion, hpositive⟩ := parseEnvelope_cases h
  have hplain : plainVersion raw = Python.plainNumeral number := by
    simp [plainVersion, hpart]
  rw [hplain, ← Python.str?_int?_iff hversion hpositive, envelopeText_eq, Option.map_eq_some_iff]
  constructor
  · rintro ⟨number', hwritten, heq⟩
    have hsame : number' = number := by
      rw [hraw] at heq
      simpa [spelled] using heq
    rwa [hsame] at hwritten
  · intro hwritten
    exact ⟨number, hwritten, hraw.symm⟩

theorem parseEnvelope_encrypt
    {aes : AesGcm} {nonce : Nonce} {plaintext dek aad : Bytes} {keyVersion : Nat}
    (hplaintext : plaintext ≠ []) (h : encrypt aes nonce plaintext dek aad keyVersion = .ok raw) :
    parseEnvelope raw = .ok ⟨keyVersion, nonce.bytes, aes.sealed dek nonce.bytes plaintext aad⟩ := by
  simp [encrypt, if_neg hplaintext, envelopeText_eq] at h
  obtain ⟨hpositive, -, number, hwritten, rfl⟩ := h
  have hcolon : ':' ∉ number := by
    unfold Python.str? at hwritten
    split at hwritten
    · rw [← Option.some.inj hwritten]
      intro hmem
      exact absurd (Nat.isDigit_of_mem_toDigits (by omega) (by omega) hmem) (by decide)
    · cases hwritten
  refine parseEnvelope_spelled hcolon (Python.int?_str? hwritten) hpositive nonce.length_bytes ?_
  simp only [aes.length_sealed]
  omega

/-- Written envelopes are read back, an accepted text is canonical exactly when its version is
plain, and texts are told apart. -/
theorem envelope_canonical (raw : Text) (envelope : Envelope) :
    (∀ (aes : AesGcm) (nonce : Nonce) (plaintext dek aad : Bytes) (keyVersion : Nat),
      plaintext ≠ [] → encrypt aes nonce plaintext dek aad keyVersion = .ok raw →
        parseEnvelope raw =
          .ok ⟨keyVersion, nonce.bytes, aes.sealed dek nonce.bytes plaintext aad⟩) ∧
      (parseEnvelope raw = .ok envelope →
        ((envelopeText envelope = some raw ↔ plainVersion raw = true) ∧
          ∀ raw', parseEnvelope raw' = .ok envelope → plainVersion raw = true →
            plainVersion raw' = true → raw' = raw)) := by
  refine ⟨fun aes nonce plaintext dek aad keyVersion hplaintext h =>
    parseEnvelope_encrypt hplaintext h, fun h => ⟨envelopeText_iff h, ?_⟩⟩
  intro raw' h' hplain hplain'
  have hwritten := (envelopeText_iff h).mpr hplain
  have hwritten' := (envelopeText_iff h').mpr hplain'
  exact Option.some.inj (hwritten'.symm.trans hwritten)

def zeroEnvelope (number : Text) : Text :=
  envelopePrefix ++ number ++ ':' :: List.replicate 16 'A' ++ ':' :: List.replicate 22 'A'

theorem zeroEnvelope_read :
    envelopeText ⟨1, List.replicate 12 0, List.replicate 16 0⟩ = some (zeroEnvelope ['1']) :=
  ((envelope_canonical (zeroEnvelope ['1']) ⟨1, List.replicate 12 0, List.replicate 16 0⟩).2
    (by decide +kernel)).1.mpr (by decide +kernel)

theorem leading_zero_accepted :
    parseEnvelope (zeroEnvelope ['0', '1']) = parseEnvelope (zeroEnvelope ['1']) ∧
      parseEnvelope (zeroEnvelope ['0', '1']) = .ok ⟨1, List.replicate 12 0, List.replicate 16 0⟩ ∧
      envelopeText ⟨1, List.replicate 12 0, List.replicate 16 0⟩ ≠ some (zeroEnvelope ['0', '1']) ∧
      zeroEnvelope ['0', '1'] ≠ zeroEnvelope ['1'] := by
  decide +kernel

end Envelopes
end SpaceWorks
