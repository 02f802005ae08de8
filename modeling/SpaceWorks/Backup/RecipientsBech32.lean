import Mathlib.Data.List.Basic
import Mathlib.Data.Nat.Bitwise
import SpaceWorks.Library.BitGroups

/-!
# Bech32

`recipients_bech32.py`, the encoding of the recipients of age.
-/

namespace SpaceWorks
namespace AgeRecipients

open BitGroups List Option

section

/-- The inner loop of `convert_bits`; every turn lowers the bit count. -/
def takeGroups (toBits accumulator : Nat) : Nat → Nat → List Nat → Nat × List Nat
  | 0, bitCount, converted => (bitCount, converted)
  | turns + 1, bitCount, converted =>
    if toBits ≤ bitCount then
      takeGroups toBits accumulator turns (bitCount - toBits)
        (converted ++ [accumulator >>> (bitCount - toBits) &&& ((1 <<< toBits) - 1)])
    else (bitCount, converted)

/-- The loop of `convert_bits` over natural values. -/
def regroup (fromBits toBits : Nat) :
    List Nat → Nat → Nat → List Nat → Option (Nat × Nat × List Nat)
  | [], accumulator, bitCount, converted => some (accumulator, bitCount, converted)
  | value :: values, accumulator, bitCount, converted =>
    if value >>> fromBits ≠ 0 then none
    else
      let accumulator := accumulator <<< fromBits ||| value
      let (bitCount, converted) :=
        takeGroups toBits accumulator (bitCount + fromBits) (bitCount + fromBits) converted
      regroup fromBits toBits values accumulator bitCount converted

def convertBits (values : List Nat) (fromBits toBits : Nat) (pad : Bool) : Option (List Nat) :=
  match regroup fromBits toBits values 0 0 [] with
  | none => none
  | some (accumulator, bitCount, converted) =>
    let maximum := (1 <<< toBits) - 1
    if pad then
      if bitCount ≠ 0 then
        some (converted ++ [accumulator <<< (toBits - bitCount) &&& maximum])
      else some converted
    else if fromBits ≤ bitCount ∨ accumulator <<< (toBits - bitCount) &&& maximum ≠ 0 then none
    else some converted

/-- What `takeGroups` leaves: groups, and `bitCount` pending bits. -/
structure Taken (toBits accumulator total bitCount : Nat) (converted : List Nat) : Prop where
  length : converted.length * toBits + bitCount = total
  fits : Fits toBits converted
  number : number toBits converted = accumulator / 2 ^ bitCount

variable {fromBits toBits accumulator total bitCount : Nat} {values converted bytes : List Nat}

theorem low_bits (n : Nat) : n &&& ((1 <<< toBits) - 1) = n % 2 ^ toBits := by
  rw [Nat.one_shiftLeft, Nat.and_two_pow_sub_one_eq_mod]

theorem Taken.take (h : Taken toBits accumulator total bitCount converted)
    (hcount : toBits ≤ bitCount) :
    Taken toBits accumulator total (bitCount - toBits)
      (converted ++ [accumulator >>> (bitCount - toBits) &&& ((1 <<< toBits) - 1)]) := by
  rw [low_bits, Nat.shiftRight_eq_div_pow]
  refine ⟨?_, h.fits.snoc (Nat.mod_lt _ (Nat.two_pow_pos toBits)), ?_⟩
  · rw [length_append, length_singleton, Nat.add_mul, Nat.one_mul, ← h.length]
    omega
  · have hdiv : accumulator / 2 ^ bitCount =
        accumulator / 2 ^ (bitCount - toBits) / 2 ^ toBits := by
      rw [Nat.div_div_eq_div_mul, ← Nat.pow_add, Nat.sub_add_cancel hcount]
    rw [number_snoc, h.number, hdiv, Nat.mul_comm, Nat.div_add_mod]

theorem takeGroups_spec (hto : 0 < toBits) {turns : Nat} (hturns : bitCount ≤ turns)
    (h : Taken toBits accumulator total bitCount converted) :
    (takeGroups toBits accumulator turns bitCount converted).1 < toBits ∧
      Taken toBits accumulator total (takeGroups toBits accumulator turns bitCount converted).1
        (takeGroups toBits accumulator turns bitCount converted).2 := by
  induction turns generalizing bitCount converted with
  | zero => exact ⟨by simpa [takeGroups, Nat.le_zero.mp hturns] using hto, h⟩
  | succ _ ih =>
    by_cases hcount : toBits ≤ bitCount
    · rw [takeGroups, if_pos hcount]
      exact ih (by omega) (h.take hcount)
    · rw [takeGroups, if_neg hcount]
      exact ⟨by omega, h⟩

/-- Another value enters below the pending bits. -/
theorem Taken.enter (h : Taken toBits accumulator total bitCount converted) {value : Nat}
    (hvalue : value < 2 ^ fromBits) :
    Taken toBits (accumulator * 2 ^ fromBits + value) (total + fromBits) (bitCount + fromBits)
      converted := by
  refine ⟨by rw [← Nat.add_assoc, h.length], h.fits, ?_⟩
  rw [h.number, Nat.pow_add, Nat.mul_comm (2 ^ bitCount), ← Nat.div_div_eq_div_mul,
    Nat.mul_comm accumulator, Nat.mul_add_div (Nat.two_pow_pos fromBits),
    Nat.div_eq_of_lt hvalue, Nat.add_zero]

theorem shiftRight_eq_zero_iff (value : Nat) : value >>> fromBits = 0 ↔ value < 2 ^ fromBits := by
  rw [Nat.shiftRight_eq_div_pow, Nat.div_eq_zero_iff_lt (Nat.two_pow_pos fromBits)]

theorem fits_of_regroup {state : Nat × Nat × List Nat}
    (h : regroup fromBits toBits values accumulator bitCount converted = some state) :
    Fits fromBits values := by
  induction values generalizing accumulator bitCount converted with
  | nil => simp [Fits]
  | cons _ _ ih =>
    rw [regroup] at h
    split at h
    · cases h
    · rename_i hvalue
      rw [not_not, shiftRight_eq_zero_iff] at hvalue
      intro x hx
      rcases mem_cons.mp hx with rfl | hx
      · exact hvalue
      · exact ih h x hx

theorem fits_of_convertBits {pad : Bool} (h : convertBits values fromBits toBits pad = some bytes) :
    Fits fromBits values := by
  cases hregroup : regroup fromBits toBits values 0 0 [] with
  | none => simp [convertBits, hregroup] at h
  | some => exact fits_of_regroup hregroup

theorem regroup_spec (hto : 0 < toBits) (hvalues : Fits fromBits values) {done : List Nat}
    (haccumulator : accumulator = number fromBits done) (hcount : bitCount < toBits)
    (h : Taken toBits accumulator (done.length * fromBits) bitCount converted) :
    ∃ bitCount' converted', regroup fromBits toBits values accumulator bitCount converted =
        some (number fromBits (done ++ values), bitCount', converted') ∧ bitCount' < toBits ∧
      Taken toBits (number fromBits (done ++ values)) ((done ++ values).length * fromBits)
        bitCount' converted' := by
  induction values generalizing done accumulator bitCount converted with
  | nil =>
    rw [append_nil, ← haccumulator]
    exact ⟨bitCount, converted, rfl, hcount, h⟩
  | cons value _ ih =>
    have hvalue : value < 2 ^ fromBits := hvalues value mem_cons_self
    obtain ⟨hcount', htaken⟩ := takeGroups_spec hto (Nat.le_refl _) (h.enter hvalue)
    have hdone : accumulator * 2 ^ fromBits + value = number fromBits (done ++ [value]) := by
      rw [number_snoc, haccumulator]
    have hor : accumulator <<< fromBits ||| value = accumulator * 2 ^ fromBits + value := by
      rw [← Nat.shiftLeft_add_eq_or_of_lt hvalue, Nat.shiftLeft_eq]
    have hlength : done.length * fromBits + fromBits = (done ++ [value]).length * fromBits := by
      rw [length_append, length_singleton, Nat.add_mul, Nat.one_mul]
    rw [hlength] at htaken
    have hih := ih (fun x hx => hvalues x (mem_cons_of_mem value hx)) hdone hcount' htaken
    rw [append_assoc, singleton_append] at hih
    have hshift : ¬ value >>> fromBits ≠ 0 := by
      rw [not_not, shiftRight_eq_zero_iff]
      exact hvalue
    rw [regroup, if_neg hshift]
    simp only [hor]
    exact hih

theorem regroup_values (hto : 0 < toBits) (hvalues : Fits fromBits values) :
    ∃ bitCount converted, regroup fromBits toBits values 0 0 [] =
        some (number fromBits values, bitCount, converted) ∧ bitCount < toBits ∧
      Taken toBits (number fromBits values) (values.length * fromBits) bitCount converted :=
  regroup_spec hto hvalues (show 0 = number fromBits [] from rfl) hto
    ⟨by simp, by simp [Fits], by simp⟩

theorem convertBits_padded (hto : 0 < toBits) (hbytes : Fits fromBits bytes) :
    ∃ groups padding, convertBits bytes fromBits toBits true = some groups ∧
      Fits toBits groups ∧ padding < toBits ∧
      groups.length * toBits = bytes.length * fromBits + padding ∧
      number toBits groups = number fromBits bytes * 2 ^ padding := by
  obtain ⟨bitCount, converted, hregroup, _, htaken⟩ := regroup_values hto hbytes
  by_cases hzero : bitCount = 0
  · subst hzero
    exact ⟨converted, 0, by simp [convertBits, hregroup], htaken.fits, hto, htaken.length,
      by simpa using htaken.number⟩
  · refine ⟨converted ++ [number fromBits bytes <<< (toBits - bitCount) % 2 ^ toBits],
      toBits - bitCount, ?_, htaken.fits.snoc (Nat.mod_lt _ (Nat.two_pow_pos toBits)), by omega,
      ?_, ?_⟩
    · simp [convertBits, hregroup, hzero, low_bits]
    · rw [length_append, length_singleton, Nat.add_mul, Nat.one_mul, ← htaken.length]
      omega
    · have hsplit : toBits = bitCount + (toBits - bitCount) := by omega
      have hpow : 2 ^ toBits = 2 ^ bitCount * 2 ^ (toBits - bitCount) := by
        rw [← Nat.pow_add, ← hsplit]
      have hdiv := Nat.div_add_mod (number fromBits bytes) (2 ^ bitCount)
      rw [number_snoc, htaken.number, Nat.shiftLeft_eq, hpow, Nat.mul_mod_mul_right,
        ← Nat.mul_assoc, ← Nat.add_mul, Nat.mul_comm _ (2 ^ bitCount), hdiv]

theorem eq_of_mul_add_eq {a b p q : Nat} (hp : p < toBits) (hq : q < toBits)
    (h : a * toBits + p = b * toBits + q) : a = b ∧ p = q := by
  have hto : 0 < toBits := Nat.zero_lt_of_lt hp
  have hdiv := congrArg (· / toBits) h
  simp [Nat.mul_comm _ toBits, Nat.mul_add_div hto, Nat.div_eq_of_lt hp,
    Nat.div_eq_of_lt hq] at hdiv
  subst hdiv
  exact ⟨rfl, Nat.add_left_cancel h⟩

theorem rest_eq_zero_iff (hcount : bitCount < toBits) (n : Nat) :
    n <<< (toBits - bitCount) &&& ((1 <<< toBits) - 1) = 0 ↔ n % 2 ^ bitCount = 0 := by
  have hpow : 2 ^ toBits = 2 ^ bitCount * 2 ^ (toBits - bitCount) := by
    rw [← Nat.pow_add, Nat.add_sub_cancel' (Nat.le_of_lt hcount)]
  rw [low_bits, Nat.shiftLeft_eq, hpow, Nat.mul_mod_mul_right, Nat.mul_eq_zero]
  exact or_iff_left (Nat.two_pow_pos _).ne'

/-- Without padding, fewer last bits than one value are zero. -/
theorem convertBits_unpadded (hto : 0 < toBits) :
    convertBits values fromBits toBits false = some bytes ↔
      Fits fromBits values ∧ Fits toBits bytes ∧ ∃ padding, padding < fromBits ∧ padding < toBits ∧
        values.length * fromBits = bytes.length * toBits + padding ∧
        number fromBits values = number toBits bytes * 2 ^ padding := by
  constructor
  · intro h
    have hvalues := fits_of_convertBits h
    obtain ⟨bitCount, _, hregroup, hcount, htaken⟩ := regroup_values hto hvalues
    simp only [convertBits, hregroup, Bool.false_eq_true, if_false] at h
    split at h
    · cases h
    · rename_i hrest
      cases h
      rw [not_or, not_not, rest_eq_zero_iff hcount] at hrest
      refine ⟨hvalues, htaken.fits, bitCount, by omega, hcount, htaken.length.symm, ?_⟩
      rw [htaken.number, Nat.div_mul_cancel (Nat.dvd_of_mod_eq_zero hrest.2)]
  · rintro ⟨hvalues, hbytes, _, _, hpadding', hlength, hnumber⟩
    obtain ⟨bitCount, converted, hregroup, hcount, htaken⟩ := regroup_values hto hvalues
    obtain ⟨hlength', rfl⟩ := eq_of_mul_add_eq hcount hpadding' (htaken.length.trans hlength)
    have hconverted : converted = bytes := by
      refine eq_of_number_eq hlength' htaken.fits hbytes ?_
      rw [htaken.number, hnumber, Nat.mul_div_cancel _ (Nat.two_pow_pos _)]
    have hrest : ¬ (fromBits ≤ bitCount ∨
        number fromBits values <<< (toBits - bitCount) &&& ((1 <<< toBits) - 1) ≠ 0) := by
      rw [not_or, not_not, rest_eq_zero_iff hcount, hnumber, Nat.mul_mod_left]
      exact ⟨by omega, rfl⟩
    simp [convertBits, hregroup, if_neg hrest, hconverted]

/-- Padded groups and their unpadded reading determine each other. -/
theorem convertBits_inverse {small large : Nat} (hsmall : 0 < small) (hle : small ≤ large) :
    convertBits values small large false = some bytes ↔
      convertBits bytes large small true = some values := by
  rw [convertBits_unpadded (by omega)]
  constructor
  · rintro ⟨hvalues, hbytes, padding, hpadding, -, _, hnumber⟩
    obtain ⟨groups, padding', hconvert, hgroups, hpadding', _, hnumber'⟩ :=
      convertBits_padded hsmall hbytes
    obtain ⟨hcard, rfl⟩ : groups.length = values.length ∧ padding = padding' :=
      eq_of_mul_add_eq hpadding hpadding' (by omega)
    rw [hconvert, eq_of_number_eq hcard hgroups hvalues (hnumber'.trans hnumber.symm)]
  · intro h
    have hbytes := fits_of_convertBits h
    obtain ⟨groups, padding, hconvert, hgroups, hpadding, hlength, hnumber⟩ :=
      convertBits_padded hsmall hbytes
    obtain rfl : groups = values := some.inj (hconvert.symm.trans h)
    exact ⟨hgroups, hbytes, padding, hpadding, by omega, hlength, hnumber⟩

variable {checksum value n : Nat} {values : List Nat}

def generators : List Nat := [0x3B6A57B2, 0x26508E6D, 0x1EA119FA, 0x3D4233DD, 0x2A1462B3]

/-- The inner loop of `_polymod`. -/
def mixGenerators (top : Nat) (entries : List (Nat × Nat)) (checksum : Nat) : Nat :=
  entries.foldl (fun checksum entry =>
    if top >>> entry.2 &&& 1 ≠ 0 then checksum ^^^ entry.1 else checksum) checksum

def polymodStep (checksum value : Nat) : Nat :=
  mixGenerators (checksum >>> 25) generators.zipIdx ((checksum &&& 0x1FFFFFF) <<< 5 ^^^ value)

def polymod (values : List Nat) : Nat :=
  values.foldl polymodStep 1

def expandHrp (hrp : List Char) : List Nat :=
  hrp.map (fun character => character.toNat >>> 5) ++ [0] ++
    hrp.map (fun character => character.toNat &&& 31)

def checksumOf (values : List Nat) : List Nat :=
  let polymod := polymod (values ++ List.replicate 6 0) ^^^ 1
  (List.range 6).map fun index => polymod >>> (5 * (5 - index)) &&& 31

theorem mixGenerators_xor (top : Nat) (entries : List (Nat × Nat)) (a b : Nat) :
    mixGenerators top entries (a ^^^ b) = mixGenerators top entries a ^^^ b := by
  induction entries generalizing a with
  | nil => rfl
  | cons _ _ ih =>
    simp only [mixGenerators, foldl_cons] at ih ⊢
    split
    · rw [Nat.xor_right_comm]
      exact ih _
    · exact ih a

theorem mixGenerators_lt {top : Nat} {entries : List (Nat × Nat)}
    (hentries : ∀ entry ∈ entries, entry.1 < 2 ^ 30) (h : checksum < 2 ^ 30) :
    mixGenerators top entries checksum < 2 ^ 30 := by
  induction entries generalizing checksum with
  | nil => exact h
  | cons entry _ ih =>
    simp only [mixGenerators, foldl_cons] at ih ⊢
    refine ih (fun other hother => hentries other (mem_cons_of_mem entry hother)) ?_
    split
    · exact Nat.xor_lt_two_pow h (hentries entry mem_cons_self)
    · exact h

theorem polymodStep_lt (hvalue : value < 2 ^ 30) : polymodStep checksum value < 2 ^ 30 := by
  refine mixGenerators_lt (by decide) (Nat.xor_lt_two_pow ?_ hvalue)
  have hlow : checksum &&& 0x1FFFFFF < 2 ^ 25 := Nat.and_lt_two_pow checksum (by decide)
  omega

/-- The step is linear in differences of up to 25 bits. -/
theorem polymodStep_xor {difference : Nat} (hdifference : difference < 2 ^ 25) :
    polymodStep (checksum ^^^ difference) value =
      polymodStep checksum 0 ^^^ (difference <<< 5 ^^^ value) := by
  have htop : (checksum ^^^ difference) >>> 25 = checksum >>> 25 := by
    rw [Nat.shiftRight_xor_distrib, Nat.shiftRight_eq_div_pow difference,
      Nat.div_eq_of_lt hdifference, Nat.xor_zero]
  have hlow : difference &&& 0x1FFFFFF = difference := by
    rw [show (0x1FFFFFF : Nat) = 2 ^ 25 - 1 from rfl, Nat.and_two_pow_sub_one_eq_mod,
      Nat.mod_eq_of_lt hdifference]
  rw [polymodStep, htop, Nat.and_xor_distrib_right, hlow, Nat.shiftLeft_xor_distrib,
    Nat.xor_assoc, mixGenerators_xor, polymodStep, Nat.xor_zero]

theorem shift_xor (hvalue : value < 2 ^ 5) : n <<< 5 ^^^ value = n * 2 ^ 5 + value := by
  rw [← Nat.shiftLeft_eq, Nat.shiftLeft_add_eq_or_of_lt hvalue]
  refine Nat.eq_of_testBit_eq fun i => ?_
  by_cases hi : 5 ≤ i
  · have hbit : value.testBit i = false :=
      Nat.testBit_lt_two_pow (Nat.lt_of_lt_of_le hvalue (Nat.pow_le_pow_right (by decide) hi))
    simp [hbit]
  · simp [hi]

/-- Values for trailing zeros add the number they spell. -/
theorem foldl_polymodStep (hvalues : Fits 5 values) (checksum : Nat)
    (done : List Nat) (hdone : Fits 5 done) (hlength : done.length + values.length ≤ 6) :
    values.foldl polymodStep (checksum ^^^ number 5 done) =
      (List.replicate values.length 0).foldl polymodStep checksum ^^^
        number 5 (done ++ values) := by
  induction values generalizing checksum done with
  | nil => simp
  | cons value _ ih =>
    have hvalue : value < 2 ^ 5 := hvalues value mem_cons_self
    have hnumber : number 5 done < 2 ^ 25 := by
      have hlt := number_lt hdone
      have hpow : 2 ^ (5 * done.length) ≤ 2 ^ 25 :=
        Nat.pow_le_pow_right (by decide) (by simp at hlength; omega)
      omega
    rw [foldl_cons, polymodStep_xor hnumber, shift_xor hvalue, ← number_snoc,
      ih (fun x hx => hvalues x (mem_cons_of_mem value hx)) _ _ (hdone.snoc hvalue)
        (by simp at hlength ⊢; omega),
      length_cons, replicate_succ, foldl_cons, append_assoc,
      singleton_append]

theorem number_checksumOf (hn : n < 2 ^ 30) :
    number 5 ((List.range 6).map fun index => n >>> (5 * (5 - index)) &&& 31) = n := by
  have h31 : ∀ m : Nat, m &&& 31 = m % 32 := fun m => Nat.and_two_pow_sub_one_eq_mod m 5
  simp [number, range_succ, h31, Nat.shiftRight_eq_div_pow]
  omega

theorem fits_checksumOf (values : List Nat) : Fits 5 (checksumOf values) := by
  intro x hx
  obtain ⟨_, -, rfl⟩ := List.mem_map.mp hx
  exact Nat.lt_succ_of_le Nat.and_le_right

/-- Six values close a checksum exactly when `encode` appends them. -/
theorem polymod_append_iff {checksum : List Nat} (hchecksum : Fits 5 checksum)
    (hlength : checksum.length = 6) :
    polymod (values ++ checksum) = 1 ↔ checksum = checksumOf values := by
  have hlt : polymod (values ++ List.replicate 6 0) ^^^ 1 < 2 ^ 30 := by
    refine Nat.xor_lt_two_pow ?_ (by decide)
    rw [show List.replicate 6 0 = List.replicate 5 0 ++ [0] from rfl, ← append_assoc, polymod,
      foldl_append, foldl_cons, foldl_nil]
    exact polymodStep_lt (by decide)
  have hspread : polymod (values ++ checksum) =
      polymod (values ++ List.replicate 6 0) ^^^ number 5 checksum := by
    have h := foldl_polymodStep hchecksum (values.foldl polymodStep 1) [] (by simp [Fits])
      (by simp [hlength])
    rw [number_nil, Nat.xor_zero, nil_append, hlength] at h
    rw [polymod, polymod, foldl_append, foldl_append, h]
  constructor
  · intro h
    refine eq_of_number_eq (by simp [checksumOf, hlength]) hchecksum (fits_checksumOf values) ?_
    rw [checksumOf, number_checksumOf hlt, ← h, hspread, ← Nat.xor_assoc, Nat.xor_self,
      Nat.zero_xor]
  · rintro rfl
    rw [hspread, checksumOf, number_checksumOf hlt, ← Nat.xor_assoc, Nat.xor_self, Nat.zero_xor]

end

section Codec

def alphabet : List Char := "qpzry9x8gf2tvdw0s3jn54khce6mua7l".toList

inductive DecodeError
  | invalidBech32
  | bech32mChecksum
  | invalidChecksum
  deriving DecidableEq

/-- `str.rfind` of one character. -/
def rfind (character : Char) (text : List Char) : Int :=
  text.length - 1 - text.reverse.idxOf character

def Printable (text : List Char) : Prop :=
  text.any (fun character => character.toNat < 33 || 126 < character.toNat) = false

instance (text : List Char) : Decidable (Printable text) :=
  inferInstanceAs (Decidable (_ = false))

def decode (value : List Char) : Except DecodeError (List Char × List Nat) :=
  let separator := rfind '1' value
  if ¬ (8 ≤ value.length ∧ value.length ≤ 90) ∨ ¬ Printable value ∨ separator < 1 ∨
      (value.length : Int) < separator + 7 then
    .error .invalidBech32
  else
    let hrp := value.take separator.toNat
    match (value.drop (separator.toNat + 1)).mapM (fun character => alphabet.idxOf? character) with
    | none => .error .invalidBech32
    | some combined =>
      let checksum := polymod (expandHrp hrp ++ combined)
      if checksum = 0x2BC830A3 then .error .bech32mChecksum
      else if checksum ≠ 1 then .error .invalidChecksum
      else .ok (hrp, combined.take (combined.length - 6))

def encode (hrp : List Char) (payload : List Nat) : Option (List Char) :=
  ((payload ++ checksumOf (expandHrp hrp ++ payload)).mapM fun value => alphabet[value]?).map
    fun text => hrp ++ '1' :: text

example : decode "a12uel5l".toList = .ok (['a'], []) := by decide +kernel

variable {hrp value text : List Char} {payload values : List Nat}

theorem rfind_append {c : Char} {before after : List Char} (h : c ∉ after) :
    rfind c (before ++ c :: after) = before.length := by
  have hindex : (before ++ c :: after).reverse.idxOf c = after.length := by
    rw [reverse_append, reverse_cons, append_assoc, idxOf_append_of_notMem (by simpa using h)]
    simp
  rw [rfind, hindex, length_append, length_cons]
  omega

theorem eq_of_rfind {c : Char} (h : 0 ≤ rfind c text) :
    text = text.take (rfind c text).toNat ++ c :: text.drop ((rfind c text).toNat + 1) := by
  have hindex : text.reverse.idxOf c < text.reverse.length := by
    rw [length_reverse]
    rw [rfind] at h
    omega
  have hlength : (rfind c text).toNat = text.length - 1 - text.reverse.idxOf c := by
    rw [rfind]
    omega
  have hlt : (rfind c text).toNat < text.length := by
    rw [length_reverse] at hindex
    omega
  have hget : text[(rfind c text).toNat] = c := by
    have hreverse := getElem_idxOf hindex
    rw [getElem_reverse] at hreverse
    simpa [hlength] using hreverse
  conv_lhs => rw [← take_append_drop (rfind c text).toNat text, drop_eq_getElem_cons hlt, hget]

theorem symbol_iff (v : Nat) (c : Char) : alphabet[v]? = some c ↔ alphabet.idxOf? c = some v := by
  rw [List.getElem?_eq_some_iff, List.idxOf?_eq_some_iff]
  constructor
  · rintro ⟨hv, rfl⟩
    refine ⟨hv, by simp, fun j hj hsame => ?_⟩
    have hnodup : alphabet.Nodup := by decide
    have hindex := congrArg (alphabet.idxOf ·) hsame
    simp only [hnodup.idxOf_getElem] at hindex
    omega
  · rintro ⟨hv, hget, -⟩
    exact ⟨hv, by simpa using hget⟩

theorem mapM_cons_eq_some {α β : Type*} {f : α → Option β} {x : α} {xs : List α} {ys : List β} :
    (x :: xs).mapM f = some ys ↔ ∃ z zs, f x = some z ∧ xs.mapM f = some zs ∧ ys = z :: zs := by
  rw [mapM_cons]
  simp only [bind_eq_bind, bind_eq_some_iff, Option.pure_def, some.injEq]
  constructor
  · rintro ⟨z, hz, zs, hzs, rfl⟩
    exact ⟨z, zs, hz, hzs, rfl⟩
  · rintro ⟨z, zs, hz, hzs, rfl⟩
    exact ⟨z, hz, zs, hzs, rfl⟩

theorem mapM_eq_some_comm {α β : Type*} {f : α → Option β} {g : β → Option α}
    (hfg : ∀ a b, f a = some b ↔ g b = some a) {xs : List α} {ys : List β} :
    xs.mapM f = some ys ↔ ys.mapM g = some xs := by
  induction xs generalizing ys with
  | nil =>
    cases ys with
    | nil => simp
    | cons => simp [mapM_cons_eq_some, -mapM_cons]
  | cons _ _ ih =>
    cases ys with
    | nil => simp [mapM_cons_eq_some, -mapM_cons]
    | cons => simp [mapM_cons_eq_some, hfg, ih, -mapM_cons]

theorem symbols_iff :
    (values.mapM fun value => alphabet[value]?) = some text ↔
      (text.mapM fun character => alphabet.idxOf? character) = some values :=
  mapM_eq_some_comm symbol_iff

theorem symbols_spec (h : (values.mapM fun value => alphabet[value]?) = some text) :
    Fits 5 values ∧ text ⊆ alphabet ∧ text.length = values.length := by
  induction values generalizing text with
  | nil =>
    obtain rfl : [] = text := by simpa using h
    simp [Fits]
  | cons v _ ih =>
    obtain ⟨_, _, hc, hrest, rfl⟩ := mapM_cons_eq_some.mp h
    obtain ⟨hv, rfl⟩ := List.getElem?_eq_some_iff.mp hc
    have hv' : v < 2 ^ 5 := hv
    obtain ⟨hfits, hsubset, hlength⟩ := ih hrest
    exact ⟨by simpa [Fits] using ⟨hv', hfits⟩,
      cons_subset.mpr ⟨getElem_mem hv, hsubset⟩, by simp [hlength]⟩

theorem exists_symbols (h : Fits 5 values) :
    ∃ text, (values.mapM fun value => alphabet[value]?) = some text := by
  induction values with
  | nil => exact ⟨[], rfl⟩
  | cons v _ ih =>
    obtain ⟨text, htext⟩ := ih fun x hx => h x (mem_cons_of_mem v hx)
    have hv : v < alphabet.length := h v mem_cons_self
    exact ⟨alphabet[v] :: text, mapM_cons_eq_some.mpr ⟨_, _, getElem?_eq_getElem hv, htext, rfl⟩⟩

theorem encode_eq_some :
    encode hrp payload = some value ↔ ∃ text, value = hrp ++ '1' :: text ∧
      (text.mapM fun character => alphabet.idxOf? character) =
        some (payload ++ checksumOf (expandHrp hrp ++ payload)) := by
  rw [encode, map_eq_some_iff]
  constructor
  · rintro ⟨text, htext, rfl⟩
    exact ⟨text, rfl, symbols_iff.mp htext⟩
  · rintro ⟨text, rfl, htext⟩
    exact ⟨text, symbols_iff.mpr htext, rfl⟩

/-- `decode` accepts what `encode` writes, within bounds. -/
theorem decode_ok :
    decode value = .ok (hrp, payload) ↔
      hrp ≠ [] ∧ value.length ≤ 90 ∧ Printable value ∧ encode hrp payload = some value := by
  rw [encode_eq_some]
  constructor
  · intro h
    unfold decode at h
    dsimp only at h
    split at h
    · cases h
    · rename_i hbounds
      simp only [not_or, not_not] at hbounds
      obtain ⟨⟨-, hlength⟩, hprintable, _, _⟩ := hbounds
      split at h
      · cases h
      · rename_i combined hcombined
        split_ifs at h with hm hone
        obtain ⟨rfl, rfl⟩ := Prod.mk.inj (Except.ok.inj h)
        have hvalue := eq_of_rfind (by omega : 0 ≤ rfind '1' value)
        obtain ⟨hfits, -, hcard⟩ := symbols_spec (symbols_iff.mpr hcombined)
        rw [length_drop] at hcard
        have hlast : combined = combined.take (combined.length - 6) ++
            combined.drop (combined.length - 6) := (take_append_drop _ _).symm
        refine ⟨?_, hlength, hprintable, _, hvalue, ?_⟩
        · exact ne_nil_of_length_pos (by rw [length_take]; omega)
        · rw [not_not, hlast, ← append_assoc] at hone
          have hsix : (combined.drop (combined.length - 6)).length = 6 := by
            rw [length_drop]
            omega
          rw [← (polymod_append_iff (fun x hx => hfits x (mem_of_mem_drop hx)) hsix).mp hone,
            ← hlast, hcombined]
  · rintro ⟨hhrp, hlength, hprintable, text, rfl, htext⟩
    obtain ⟨-, hsubset, hcard⟩ := symbols_spec (symbols_iff.mpr htext)
    have hnot : '1' ∉ text := fun hmem => absurd (hsubset hmem) (by decide)
    have hrfind : rfind '1' (hrp ++ '1' :: text) = hrp.length := rfind_append hnot
    have hchecksum : (checksumOf (expandHrp hrp ++ payload)).length = 6 := by simp [checksumOf]
    have hpos := length_pos_iff.mpr hhrp
    have hpolymod := (polymod_append_iff (fits_checksumOf (expandHrp hrp ++ payload))
      hchecksum).mpr rfl
    rw [length_append] at hcard
    simp at hlength
    rw [decode, if_neg]
    · simp [hrfind, htext, ← append_assoc, hpolymod, hchecksum]
    · simp only [hrfind, length_append, length_cons, not_or, not_not]
      exact ⟨⟨by omega, by omega⟩, hprintable, by omega, by omega⟩

/-- `decode` reads back what `encode` writes, within bounds. -/
theorem decode_encode (hhrp : hrp ≠ []) (hprintable : Printable hrp) (hpayload : Fits 5 payload)
    (hlength : hrp.length + payload.length ≤ 83) :
    ∃ value, encode hrp payload = some value ∧ decode value = .ok (hrp, payload) := by
  have hfits : Fits 5 (payload ++ checksumOf (expandHrp hrp ++ payload)) := by
    intro x hx
    rcases mem_append.mp hx with hx | hx
    · exact hpayload x hx
    · exact fits_checksumOf _ x hx
  obtain ⟨text, htext⟩ := exists_symbols hfits
  have hencode : encode hrp payload = some (hrp ++ '1' :: text) := by rw [encode, htext]; rfl
  obtain ⟨-, hsubset, hcard⟩ := symbols_spec htext
  have hchecksum : (checksumOf (expandHrp hrp ++ payload)).length = 6 := by simp [checksumOf]
  rw [length_append] at hcard
  refine ⟨hrp ++ '1' :: text, hencode, decode_ok.mpr ⟨hhrp, ?_, ?_, hencode⟩⟩
  · rw [length_append, length_cons]
    omega
  · have hdata : Printable ('1' :: text) := by
      have halphabet : ('1' :: alphabet).any (fun c => c.toNat < 33 || 126 < c.toNat) = false := by
        decide
      rw [List.any_eq_false] at halphabet
      rw [Printable, List.any_eq_false]
      exact fun c hc => halphabet c (cons_subset_cons '1' hsubset hc)
    rw [Printable, any_append, hprintable, hdata]
    rfl

end Codec

end AgeRecipients
end SpaceWorks
