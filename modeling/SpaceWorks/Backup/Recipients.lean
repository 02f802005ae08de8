import SpaceWorks.Backup.RecipientsBech32
import SpaceWorks.Library.PyValue
import SpaceWorks.Library.Python

/-!
# Canonical recipients

`canonical_recipient` and `fingerprint_for` of `recipients.py`.
-/

namespace SpaceWorks
namespace AgeRecipients

open BitGroups Python List

section Recipients

inductive Failure
  | validationError (message code : String)
  | exception
  deriving DecidableEq

/-- The entry of `_BECH32_MESSAGES` for a code, and the code. -/
def DecodeError.failure : DecodeError → Failure
  | .invalidBech32 => .validationError "The recipient is not valid Bech32." "invalid_bech32"
  | .bech32mChecksum =>
    .validationError "Bech32m recipients are not supported by age." "bech32m_checksum"
  | .invalidChecksum =>
    .validationError "The recipient checksum is invalid." "invalid_checksum"

variable (upperBeyond : Char → List Char) (lowerBeyond : List Char → Nat → List Char)

/-- `canonical_recipient` up to the bytes that the recipient encodes. -/
def recipientBytes : Python.Value → Except Failure (List Nat)
  | .str raw =>
    let value := strip raw
    if value.toList.any isSpace then
      .error (.validationError "The recipient cannot contain internal whitespace."
        "recipient_whitespace")
    else if "AGE-SECRET-KEY".toList.isPrefixOf (upper upperBeyond value).toList then
      .error (.validationError "A private age identity cannot be used as a public recipient."
        "private_key")
    else if value ≠ lowerText lowerBeyond value ∧ value ≠ upper upperBeyond value then
      .error (.validationError "Bech32 recipients cannot use mixed case." "mixed_case")
    else
      let value := (lowerText lowerBeyond value).toList
      if "age-plugin-".toList.isPrefixOf value then
        .error (.validationError "Plugin recipients are not supported." "plugin_recipient")
      else
        match decode value with
        | .error error => .error error.failure
        | .ok (hrp, payload) =>
          if hrp ≠ "age".toList then
            .error (.validationError
              "The recipient must use the age human-readable prefix." "invalid_hrp")
          else
            match convertBits payload 5 8 false with
            | none => .error (.validationError
                "The recipient payload must decode to 32 bytes." "invalid_payload_length")
            | some decoded =>
              if decoded.length ≠ 32 then
                .error (.validationError
                  "The recipient payload must decode to 32 bytes." "invalid_payload_length")
              else .ok decoded
  | _ => .error (.validationError "The recipient must be text." "recipient_type")

def canonicalRecipient (raw : Python.Value) : Except Failure String := do
  let decoded ← recipientBytes upperBeyond lowerBeyond raw
  match (convertBits decoded 8 5 true).bind (encode "age".toList) with
  | some text => .ok (String.ofList text)
  | none => .error .exception

/-- `fingerprint_for`, with the hexadecimal `sha256`. -/
def fingerprintFor (sha256 : String → String) (canonical : String) : String :=
  sha256 canonical

variable {upperBeyond lowerBeyond} {raw : Python.Value} {bytes : List Nat} {text : String}

theorem bytes_of_recipient (h : recipientBytes upperBeyond lowerBeyond raw = .ok bytes) :
    Fits 8 bytes ∧ bytes.length = 32 := by
  cases raw with
  | str =>
    simp only [recipientBytes] at h
    split_ifs at h
    split at h
    · cases h
    · split_ifs at h
      split at h
      · cases h
      · rename_i decoded hconvert
        split_ifs at h with hlength
        cases h
        exact ⟨((convertBits_unpadded (by decide)).mp hconvert).2.1, not_not.mp hlength⟩
  | _ => cases h

theorem exists_text (hbytes : Fits 8 bytes) (hlength : bytes.length = 32) :
    ∃ payload text, convertBits bytes 8 5 true = some payload ∧
      encode "age".toList payload = some text ∧ decode text = .ok ("age".toList, payload) ∧
      convertBits payload 5 8 false = some bytes := by
  obtain ⟨payload, _, hconvert, hpayload, _, _, -⟩ :=
    convertBits_padded (show 0 < 5 by decide) hbytes
  obtain ⟨text, htext, hdecode⟩ := decode_encode (show "age".toList ≠ [] by decide) (by decide)
    hpayload (by simp; omega)
  exact ⟨payload, text, hconvert, htext, hdecode,
    (convertBits_inverse (by decide) (by decide)).mpr hconvert⟩

theorem recipientBytes_text {payload : List Nat} {text : List Char}
    (htext : encode "age".toList payload = some text)
    (hdecode : decode text = .ok ("age".toList, payload))
    (hconvert : convertBits payload 5 8 false = some bytes) (hlength : bytes.length = 32) :
    recipientBytes upperBeyond lowerBeyond (.str (String.ofList text)) = .ok bytes := by
  obtain ⟨data, rfl, hdata⟩ := encode_eq_some.mp htext
  obtain ⟨-, hsubset, -⟩ := symbols_spec (symbols_iff.mpr hdata)
  have hplain : ("age".toList ++ ['1'] ++ alphabet).all (fun c =>
      isSpace c = false ∧ c.toNat < 128 ∧ c.toLower = c) = true := by decide
  have hchars : ∀ c ∈ "age".toList ++ '1' :: data,
      isSpace c = false ∧ c.toNat < 128 ∧ c.toLower = c := by
    intro c hc
    rw [append_cons, mem_append] at hc
    exact of_decide_eq_true
      (all_eq_true.mp hplain c (mem_append.mpr (hc.imp_right fun hc => hsubset hc)))
  have hstrip : strip (String.ofList ("age".toList ++ '1' :: data)) =
      String.ofList ("age".toList ++ '1' :: data) := by
    simpa using @strip_surrounded [] _ [] (by simp) (by simp) fun c hc => (hchars c hc).1
  have hspace : ("age".toList ++ '1' :: data).any isSpace = false :=
    any_eq_false.mpr fun c hc => by simp [(hchars c hc).1]
  have hlower : lowerText lowerBeyond (String.ofList ("age".toList ++ '1' :: data)) =
      String.ofList ("age".toList ++ '1' :: data) := by
    rw [lowerText_ofList fun c hc => (hchars c hc).2.1]
    exact congrArg String.ofList ((map_congr_left fun c hc => (hchars c hc).2.2).trans (map_id _))
  have hupper := @upper_ofList upperBeyond _ fun c hc => (hchars c hc).2.1
  have hprivate : "AGE-SECRET-KEY".toList.isPrefixOf
      (("age".toList ++ '1' :: data).map Char.toUpper) = false := by
    simp [List.isPrefixOf]
  have hplugin : "age-plugin-".toList.isPrefixOf ("age".toList ++ '1' :: data) = false := by
    simp [List.isPrefixOf]
  unfold recipientBytes
  simp only [hstrip, hlower, hupper, String.toList_ofList, hspace, hprivate, hplugin, hdecode,
    hconvert, hlength, Bool.false_eq_true, if_false, ne_eq, not_true_eq_false, false_and]

/-- An accepted spelling's canonical text has its bytes. -/
theorem canonicalRecipient_ok (h : canonicalRecipient upperBeyond lowerBeyond raw = .ok text) :
    ∃ bytes payload, recipientBytes upperBeyond lowerBeyond raw = .ok bytes ∧
      convertBits bytes 8 5 true = some payload ∧
      encode "age".toList payload = some text.toList ∧
      decode text.toList = .ok ("age".toList, payload) ∧
      recipientBytes upperBeyond lowerBeyond (.str text) = .ok bytes := by
  cases hbytes : recipientBytes upperBeyond lowerBeyond raw with
  | error =>
    rw [canonicalRecipient, hbytes] at h
    cases h
  | ok bytes =>
    obtain ⟨hfits, hlength⟩ := bytes_of_recipient hbytes
    obtain ⟨payload, data, hconvert, hencode, hdecode, hback⟩ := exists_text hfits hlength
    have hok : canonicalRecipient upperBeyond lowerBeyond raw = .ok (String.ofList data) := by
      simp only [canonicalRecipient, hbytes, bind, Except.bind, hconvert, Option.bind_some, hencode]
    obtain rfl := Except.ok.inj (hok.symm.trans h)
    have hdata : (String.ofList data).toList = data := String.toList_ofList
    exact ⟨bytes, payload, rfl, hconvert, by rw [hdata, hencode], by rw [hdata, hdecode],
      recipientBytes_text hencode hdecode hback hlength⟩

example : canonicalRecipient (fun c => [c]) (fun _ _ => [])
    (.str " AGE1QL3Z7HJY54PW3HYWW5AYYFG7ZQGVC7W3J2ELW8ZMRJ2KG5SFN9AQMCAC8P\n") =
    .ok "age1ql3z7hjy54pw3hyww5ayyfg7zqgvc7w3j2elw8zmrj2kg5sfn9aqmcac8p" := by
  decide +kernel

/-- **The encoding of recipients.** Bech32 loses nothing either way, accepted spellings share
canonical form and bytes together, and fingerprints collide only with `sha256`. -/
theorem recipient_encoding_canonical (upperBeyond : Char → List Char)
    (lowerBeyond : List Char → Nat → List Char) (sha256 : String → String) :
    (∀ hrp payload, hrp ≠ [] → Printable hrp → Fits 5 payload → hrp.length + payload.length ≤ 83 →
      ∃ value, encode hrp payload = some value ∧ decode value = .ok (hrp, payload)) ∧
    (∀ value hrp payload, decode value = .ok (hrp, payload) → encode hrp payload = some value) ∧
    (∀ bytes, Fits 8 bytes → ∃ values, convertBits bytes 8 5 true = some values ∧
      convertBits values 5 8 false = some bytes) ∧
    (∀ values bytes, convertBits values 5 8 false = some bytes →
      convertBits bytes 8 5 true = some values) ∧
    (∀ raw text, canonicalRecipient upperBeyond lowerBeyond raw = .ok text →
      canonicalRecipient upperBeyond lowerBeyond (.str text) = .ok text) ∧
    ∀ raw other text otherText, canonicalRecipient upperBeyond lowerBeyond raw = .ok text →
      canonicalRecipient upperBeyond lowerBeyond other = .ok otherText →
      ∃ bytes otherBytes, recipientBytes upperBeyond lowerBeyond raw = .ok bytes ∧
        recipientBytes upperBeyond lowerBeyond other = .ok otherBytes ∧
        bytes.length = 32 ∧ otherBytes.length = 32 ∧
        (text = otherText ↔ bytes = otherBytes) ∧
        (bytes = otherBytes → fingerprintFor sha256 text = fingerprintFor sha256 otherText) ∧
        (fingerprintFor sha256 text = fingerprintFor sha256 otherText →
          bytes = otherBytes ∨ text ≠ otherText ∧ sha256 text = sha256 otherText) := by
  refine ⟨fun _ _ => decode_encode, fun _ _ _ h => (decode_ok.mp h).2.2.2, ?_,
    fun _ _ => (convertBits_inverse (by decide) (by decide)).mp, ?_, ?_⟩
  · intro bytes hbytes
    obtain ⟨values, -, hconvert, -⟩ := convertBits_padded (show 0 < 5 by decide) hbytes
    exact ⟨values, hconvert, (convertBits_inverse (by decide) (by decide)).mpr hconvert⟩
  · intro raw text h
    obtain ⟨_, _, _, hconvert, hencode, -, hagain⟩ := canonicalRecipient_ok h
    simp only [canonicalRecipient, hagain, bind, Except.bind, hconvert, Option.bind_some, hencode,
      String.ofList_toList]
  · intro raw other text otherText h hother
    obtain ⟨bytes, _, hbytes, hconvert, hencode, -, hread⟩ := canonicalRecipient_ok h
    obtain ⟨bytes', _, hbytes', hconvert', hencode', -, hread'⟩ :=
      canonicalRecipient_ok hother
    have hsame : text = otherText ↔ bytes = bytes' := by
      constructor
      · rintro rfl
        exact Except.ok.inj (hread.symm.trans hread')
      · rintro rfl
        obtain rfl := Option.some.inj (hconvert.symm.trans hconvert')
        exact String.toList_injective (Option.some.inj (hencode.symm.trans hencode'))
    refine ⟨bytes, bytes', hbytes, hbytes', (bytes_of_recipient hbytes).2,
      (bytes_of_recipient hbytes').2, hsame, fun heq => by rw [hsame.mpr heq], fun hdigest => ?_⟩
    exact (em (text = otherText)).imp hsame.mp fun hne => ⟨hne, hdigest⟩

end Recipients

end AgeRecipients
end SpaceWorks
