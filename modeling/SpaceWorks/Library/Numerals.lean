import Mathlib.Algebra.Group.Nat.Defs
import Mathlib.Data.List.Basic
import Mathlib.Data.List.Induction
import SpaceWorks.Library.Python

/-!
# Numerals

`int()` of a text, with all the digits it accepts, and `str()` of a number.
-/

namespace Python

open List Option

/-- The decimal zeros of Unicode 15.0. -/
def decimalZeros : List Nat :=
  [0x30, 0x660, 0x6F0, 0x7C0, 0x966, 0x9E6, 0xA66, 0xAE6, 0xB66, 0xBE6, 0xC66, 0xCE6, 0xD66,
    0xDE6, 0xE50, 0xED0, 0xF20, 0x1040, 0x1090, 0x17E0, 0x1810, 0x1946, 0x19D0, 0x1A80, 0x1A90,
    0x1B50, 0x1BB0, 0x1C40, 0x1C50, 0xA620, 0xA8D0, 0xA900, 0xA9D0, 0xA9F0, 0xAA50, 0xABF0,
    0xFF10, 0x104A0, 0x10D30, 0x11066, 0x110F0, 0x11136, 0x111D0, 0x112F0, 0x11450, 0x114D0,
    0x11650, 0x116C0, 0x11730, 0x118E0, 0x11950, 0x11C50, 0x11D50, 0x11DA0, 0x11F50, 0x16A60,
    0x16AC0, 0x16B50, 0x1D7CE, 0x1D7D8, 0x1D7E2, 0x1D7EC, 0x1D7F6, 0x1E140, 0x1E2F0, 0x1E4F0,
    0x1E950, 0x1FBF0]

/-- The value of a decimal digit of any script. -/
def decimal? (c : Char) : Option Nat :=
  (decimalZeros.find? fun start => start ≤ c.toNat && c.toNat < start + 10).map fun start =>
    c.toNat - start

/-- A character as `int()` reads it; others become one that is refused. -/
def toAscii (c : Char) : Char :=
  if c.toNat < 127 then c
  else if isSpace c then ' '
  else match decimal? c with
    | some digit => digit.digitChar
    | none => '?'

def isAsciiSpace (c : Char) : Bool :=
  (9 ≤ c.toNat && c.toNat ≤ 13) || c.toNat = 32

/-- Digits with single underscores between them. -/
def digitsOf : List Char → Option (List Char)
  | [] => none
  | [c] => if c.isDigit then some [c] else none
  | c :: '_' :: text => if c.isDigit then (digitsOf text).map (c :: ·) else none
  | c :: text => if c.isDigit then (digitsOf text).map (c :: ·) else none

/-- The longest numeral that is read or written. -/
def maxStrDigits : Nat := 4300

def unsigned (text : List Char) : Option Nat :=
  (digitsOf text).bind fun digits =>
    if digits.length ≤ maxStrDigits then some (Nat.ofDigitChars 10 digits 0) else none

def int? (text : List Char) : Option Int :=
  let stripped :=
    (((text.map toAscii).dropWhile isAsciiSpace).reverse.dropWhile isAsciiSpace).reverse
  match stripped with
  | '+' :: digits => (unsigned digits).map Int.ofNat
  | '-' :: digits => (unsigned digits).map fun n => -(n : Int)
  | digits => (unsigned digits).map Int.ofNat

/-- `str()` of a number; a number of too many digits is refused. -/
def str? (n : Nat) : Option (List Char) :=
  if (Nat.toDigits 10 n).length ≤ maxStrDigits then some (Nat.toDigits 10 n) else none

def plainNumeral (text : List Char) : Bool :=
  !text.isEmpty && text.all Char.isDigit && text.head? ≠ some '0'

theorem digitsOf_digits {text : List Char} (hne : text ≠ []) (h : text.all Char.isDigit = true) :
    digitsOf text = some text := by
  induction text using digitsOf.induct with
  | case1 => exact absurd rfl hne
  | case2 _ hc => simp [digitsOf, hc]
  | case3 => simp_all
  | case4 =>
    have hunderscore : Char.isDigit '_' = true := by
      simp only [all_cons, Bool.and_eq_true] at h
      exact h.2.1
    exact absurd hunderscore (by decide)
  | case5 => simp_all
  | case6 _ text hnil hunderscore hc ih =>
    have hrest : text.all Char.isDigit = true := by
      simp only [all_cons, Bool.and_eq_true] at h
      exact h.2
    rw [digitsOf, if_pos hc, ih hnil hrest]
    · rfl
    · exact hnil
    · exact hunderscore
  | case7 => simp_all

theorem toNat_of_isDigit {c : Char} (h : c.isDigit = true) : 48 ≤ c.toNat ∧ c.toNat ≤ 57 := by
  simp [Char.isDigit] at h
  exact h

theorem toAscii_digit {c : Char} (h : c.isDigit = true) : toAscii c = c := by
  have hrange := toNat_of_isDigit h
  rw [toAscii, if_pos (by omega)]

theorem not_isAsciiSpace {c : Char} (h : c.isDigit = true) : isAsciiSpace c = false := by
  have hrange := toNat_of_isDigit h
  simp only [isAsciiSpace, Bool.or_eq_false_iff, Bool.and_eq_false_iff, decide_eq_false_iff_not]
  omega

theorem dropWhile_digits {text : List Char} (h : ∀ c ∈ text, c.isDigit = true) :
    text.dropWhile isAsciiSpace = text := by
  cases text with
  | nil => rfl
  | cons c => rw [dropWhile_cons_of_neg (by simp [not_isAsciiSpace (h c (by simp))])]

theorem int?_digits {text : List Char} (hne : text ≠ []) (h : ∀ c ∈ text, c.isDigit = true) :
    int? text = if text.length ≤ maxStrDigits then some (Nat.ofDigitChars 10 text 0 : Int)
      else none := by
  have hascii : text.map toAscii = text := by
    conv => rhs; rw [← List.map_id text]
    exact map_congr_left fun c hc => toAscii_digit (h c hc)
  have hstripped : (((text.map toAscii).dropWhile isAsciiSpace).reverse.dropWhile
      isAsciiSpace).reverse = text := by
    rw [hascii, dropWhile_digits h, dropWhile_digits (by simpa using h), reverse_reverse]
  have hunsigned : unsigned text = if text.length ≤ maxStrDigits
      then some (Nat.ofDigitChars 10 text 0) else none := by
    rw [unsigned, digitsOf_digits hne (by simpa using h)]
    rfl
  unfold int?
  simp only [hstripped]
  split
  · next digits =>
      have hplus := h '+' (by simp)
      exact absurd hplus (by decide)
  · next digits =>
      have hminus := h '-' (by simp)
      exact absurd hminus (by decide)
  · rw [hunsigned]
    split <;> rfl

theorem digitChar_of_isDigit {c : Char} (h : c.isDigit = true) :
    (c.toNat - '0'.toNat).digitChar = c := by
  have hrange := toNat_of_isDigit h
  have hall : ∀ n : Fin 10, (n.val).digitChar = Char.ofNat (48 + n.val) := by decide
  have hdigit := hall ⟨c.toNat - 48, by omega⟩
  have hzero : '0'.toNat = 48 := rfl
  rw [hzero, hdigit, show 48 + (c.toNat - 48) = c.toNat by omega, Char.ofNat_toNat]

theorem toDigits_ofDigitChars {text : List Char} (h : plainNumeral text = true) :
    0 < Nat.ofDigitChars 10 text 0 ∧ Nat.toDigits 10 (Nat.ofDigitChars 10 text 0) = text := by
  induction text using List.reverseRecOn with
  | nil => simp [plainNumeral] at h
  | append_singleton text c ih =>
    simp only [plainNumeral, Bool.and_eq_true, all_append, all_cons, all_nil,
      Bool.and_true, decide_eq_true_eq] at h
    obtain ⟨⟨-, htext, hc⟩, hhead⟩ := h
    have hrange := toNat_of_isDigit hc
    have hzero : '0'.toNat = 48 := rfl
    have hvalue : Nat.ofDigitChars 10 (text ++ [c]) 0 =
        10 * Nat.ofDigitChars 10 text 0 + (c.toNat - '0'.toNat) := by
      rw [Nat.ofDigitChars_append, Nat.ofDigitChars_cons, Nat.ofDigitChars_nil]
    rw [hvalue]
    by_cases hnil : text = []
    · subst hnil
      have hne : c ≠ '0' := by
        rintro rfl
        exact hhead rfl
      have hpos : 0 < c.toNat - '0'.toNat := by
        rcases Nat.eq_or_lt_of_le hrange.1 with heq | _
        · exact absurd (Char.toNat_inj.mp (heq.symm.trans hzero.symm)) hne
        · omega
      simp only [Nat.ofDigitChars_nil, Nat.mul_zero, Nat.zero_add, nil_append]
      refine ⟨hpos, ?_⟩
      rw [Nat.toDigits_of_lt_base (by omega), digitChar_of_isDigit hc]
    · have hplain : plainNumeral text = true := by
        have hhead' : text.head? ≠ some '0' := by
          rwa [List.head?_append_of_ne_nil _ hnil] at hhead
        simp [plainNumeral, hnil, htext, hhead']
      obtain ⟨hpos, hdigits⟩ := ih hplain
      refine ⟨by omega, ?_⟩
      rw [← Nat.toDigits_append_toDigits (by omega) hpos (by omega), hdigits,
        Nat.toDigits_of_lt_base (by omega), digitChar_of_isDigit hc]

theorem plainNumeral_toDigits {n : Nat} (h : 0 < n) : plainNumeral (Nat.toDigits 10 n) = true := by
  induction n using Nat.strongRecOn with
  | ind n ih =>
    by_cases hlt : n < 10
    · have hall : ∀ m : Fin 10, 0 < m.val → plainNumeral [m.val.digitChar] = true := by decide
      rw [Nat.toDigits_of_lt_base hlt]
      exact hall ⟨n, hlt⟩ h
    · have hrest := ih (n / 10) (by omega) (by omega)
      have hdigit : (n % 10).digitChar.isDigit = true := by
        simp [Nat.mod_lt]
      simp only [plainNumeral, Bool.and_eq_true, decide_eq_true_eq] at hrest
      obtain ⟨⟨_, hall⟩, hhead⟩ := hrest
      have hnil : Nat.toDigits 10 (n / 10) ≠ [] := Nat.toDigits_ne_nil
      rw [Nat.toDigits_of_base_le (by omega) (by omega)]
      simp [plainNumeral, hall, hdigit, List.head?_append_of_ne_nil _ hnil, hhead]

theorem str?_int?_iff {text : List Char} {n : Nat} (hread : int? text = some n) (hn : 0 < n) :
    str? n = some text ↔ plainNumeral text = true := by
  constructor
  · intro h
    unfold str? at h
    split at h
    · rw [← some.inj h]
      exact plainNumeral_toDigits hn
    · cases h
  · intro h
    have hplain := h
    simp [plainNumeral] at hplain
    obtain ⟨⟨hne, hdigits⟩, -⟩ := hplain
    rw [int?_digits (by simpa using hne) hdigits] at hread
    split at hread
    · next hlength =>
        have hvalue : Nat.ofDigitChars 10 text 0 = n := by
          exact_mod_cast some.inj hread
        rw [← hvalue, str?, (toDigits_ofDigitChars h).2, if_pos hlength]
    · cases hread

theorem int?_str? {text : List Char} {n : Nat} (h : str? n = some text) :
    int? text = some (n : Int) := by
  unfold str? at h
  split at h
  · next hlength =>
      cases h
      rw [int?_digits Nat.toDigits_ne_nil, if_pos hlength, Nat.ofDigitChars_ten_toDigits]
      exact fun c hc => Nat.isDigit_of_mem_toDigits (by omega) (by omega) hc
  · cases h

/-- The last digits of a number, with zeros in front. -/
def padded (base : Nat) : Nat → Nat → List Char
  | 0, _ => []
  | width + 1, n => (n / base ^ width % base).digitChar :: padded base width n

@[simp] theorem length_padded (base width n : Nat) : (padded base width n).length = width := by
  induction width with
  | zero => rfl
  | succ _ ih => simp [padded, ih]

theorem digitChar_inj {n m : Nat} (hn : n < 16) (hm : m < 16) (h : n.digitChar = m.digitChar) :
    n = m := by
  have hall : ∀ n m : Fin 16, n.val.digitChar = m.val.digitChar → n = m := by decide
  exact congrArg Fin.val (hall ⟨n, hn⟩ ⟨m, hm⟩ h)

theorem mod_eq_of_padded_eq {base width n m : Nat} (hpos : 0 < base) (hbase : base ≤ 16)
    (h : padded base width n = padded base width m) : n % base ^ width = m % base ^ width := by
  induction width with
  | zero => simp [Nat.mod_one]
  | succ width ih =>
    obtain ⟨hhead, htail⟩ := cons.inj h
    have hn := Nat.mod_lt (n / base ^ width) hpos
    have hm := Nat.mod_lt (m / base ^ width) hpos
    have hdigit := digitChar_inj (by omega) (by omega) hhead
    rw [Nat.pow_succ, Nat.mod_mul, Nat.mod_mul, ih htail, hdigit]

theorem eq_of_padded_eq {base width n m : Nat} (hpos : 0 < base) (hbase : base ≤ 16)
    (hn : n < base ^ width) (hm : m < base ^ width)
    (h : padded base width n = padded base width m) : n = m := by
  have hmod := mod_eq_of_padded_eq hpos hbase h
  rwa [Nat.mod_eq_of_lt hn, Nat.mod_eq_of_lt hm] at hmod

end Python
