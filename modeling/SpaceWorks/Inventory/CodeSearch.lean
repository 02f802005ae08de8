import SpaceWorks.Library.Python

/-!
# Searching by item code

The text of an item code and its search (`apps/inventory/item_codes.py`).  No part can hold a
hyphen, so a text has at most one reading.
-/

namespace SpaceWorks
namespace CodeSearch

open List

structure CodedItem where
  itemCodePrefix : String
  categoryCode : Option String
  codeLetter : String

def formatItemCode (itemPrefix categoryCode letter : String) : String :=
  if categoryCode = "" ∨ letter = "" then ""
  else if itemPrefix = "" then categoryCode ++ "-" ++ letter
  else itemPrefix ++ "-" ++ categoryCode ++ "-" ++ letter

def itemCode (item : CodedItem) : String :=
  match item.categoryCode with
  | none => ""
  | some categoryCode => formatItemCode item.itemCodePrefix categoryCode item.codeLetter

def repeated (p : Char → Bool) (least most : Nat) (text : List Char) : Bool :=
  text.all p && least ≤ text.length && text.length ≤ most

def prefixRe : List Char → Bool :=
  repeated (fun c => c.isUpper || c.isDigit) 1 6

def categoryCodeRe : List Char → Bool :=
  repeated Char.isUpper 2 4

/-- The last group of `ITEM_CODE_RE`, `[A-Z]{1,4}`. -/
def letterRe : List Char → Bool :=
  repeated Char.isUpper 1 4

/-- `ITEM_CODE_RE.match(text)`: its groups stand between hyphens. -/
def itemCodeRe (text : List Char) : Option (Option (List Char) × List Char × List Char) :=
  match text.splitOn '-' with
  | [categoryCode, letter] =>
    if categoryCodeRe categoryCode && letterRe letter then some (none, categoryCode, letter)
    else none
  | [itemPrefix, categoryCode, letter] =>
    if prefixRe itemPrefix && categoryCodeRe categoryCode && letterRe letter then
      some (some itemPrefix, categoryCode, letter)
    else none
  | _ => none

/-- `item_code_q`, as the predicate of its filter. -/
def itemCodeQ (beyond : Char → List Char) (text : String) (item : CodedItem) : Bool :=
  match itemCodeRe (Python.upper beyond (Python.strip text)).toList with
  | none => false
  | some (itemPrefix, categoryCode, letter) =>
    item.categoryCode = some (String.ofList categoryCode) &&
      item.codeLetter = String.ofList letter &&
      itemPrefix.all fun given => item.itemCodePrefix = String.ofList given

section Reading

variable {p : Char → Bool} {least most : Nat} {text : List Char}

/-- The texts that `ITEM_CODE_RE` describes, with their groups. -/
inductive Reads : List Char → Option (List Char) → List Char → List Char → Prop
  | short {categoryCode letter : List Char}
      (hcode : categoryCodeRe categoryCode = true) (hletter : letterRe letter = true) :
      Reads (categoryCode ++ '-' :: letter) none categoryCode letter
  | full {itemPrefix categoryCode letter : List Char}
      (hgiven : prefixRe itemPrefix = true) (hcode : categoryCodeRe categoryCode = true)
      (hletter : letterRe letter = true) :
      Reads (itemPrefix ++ '-' :: (categoryCode ++ '-' :: letter))
        (some itemPrefix) categoryCode letter

theorem repeated_eq_true :
    repeated p least most text = true ↔
      (∀ c ∈ text, p c = true) ∧ least ≤ text.length ∧ text.length ≤ most := by
  simp [repeated, and_assoc]

theorem hyphen_not_mem
    (h : repeated p least most text = true) (hp : p '-' = false) : '-' ∉ text := by
  intro hmem
  have hyes := (repeated_eq_true.mp h).1 '-' hmem
  simp [hp] at hyes

theorem hyphen_not_mem_given (h : prefixRe text = true) : '-' ∉ text :=
  hyphen_not_mem h (by decide)

theorem hyphen_not_mem_code (h : categoryCodeRe text = true) : '-' ∉ text :=
  hyphen_not_mem h (by decide)

theorem hyphen_not_mem_letter (h : letterRe text = true) : '-' ∉ text :=
  hyphen_not_mem h (by decide)

theorem itemCodeRe_eq_some {itemPrefix : Option (List Char)} {categoryCode letter : List Char} :
    itemCodeRe text = some (itemPrefix, categoryCode, letter) ↔
      Reads text itemPrefix categoryCode letter := by
  constructor
  · intro h
    have htext : ['-'].intercalate (text.splitOn '-') = text := intercalate_splitOn '-'
    unfold itemCodeRe at h
    split at h
    · next hsplit =>
        rw [hsplit] at htext
        split at h
        · next hboth =>
            cases h
            rw [Bool.and_eq_true] at hboth
            obtain rfl : categoryCode ++ '-' :: letter = text := by
              simpa using htext
            exact .short hboth.1 hboth.2
        · cases h
    · next first _ _ hsplit =>
        rw [hsplit] at htext
        split at h
        · next hall =>
            cases h
            rw [Bool.and_eq_true, Bool.and_eq_true] at hall
            obtain rfl : first ++ '-' :: (categoryCode ++ '-' :: letter) = text := by
              simpa using htext
            exact .full hall.1.1 hall.1.2 hall.2
        · cases h
    · cases h
  · intro h
    cases h with
    | short hcode hletter =>
      have hsplit : (categoryCode ++ '-' :: letter).splitOn '-' = [categoryCode, letter] := by
        rw [splitOn_append_cons_self_of_not_mem (hyphen_not_mem_code hcode),
          splitOn_eq_singleton (hyphen_not_mem_letter hletter)]
      unfold itemCodeRe
      rw [hsplit]
      simp [hcode, hletter]
    | full hgiven hcode hletter =>
      next first =>
      have hsplit : (first ++ '-' :: (categoryCode ++ '-' :: letter)).splitOn '-' =
          [first, categoryCode, letter] := by
        rw [splitOn_append_cons_self_of_not_mem (hyphen_not_mem_given hgiven),
          splitOn_append_cons_self_of_not_mem (hyphen_not_mem_code hcode),
          splitOn_eq_singleton (hyphen_not_mem_letter hletter)]
      unfold itemCodeRe
      rw [hsplit]
      simp [hgiven, hcode, hletter]

end Reading

/-- The parts that a code can have: blank or of their documented shape. -/
structure Accepted (itemPrefix categoryCode letter : String) : Prop where
  prefix_ok : itemPrefix = "" ∨ prefixRe itemPrefix.toList = true
  code_ok : categoryCode = "" ∨ categoryCodeRe categoryCode.toList = true
  letter_ok : letter = "" ∨ letterRe letter.toList = true

/-- An item whose columns hold accepted parts. -/
def CodedItem.Accepted (item : CodedItem) : Prop :=
  CodeSearch.Accepted item.itemCodePrefix (item.categoryCode.getD "") item.codeLetter

def prefixGroup (itemPrefix : String) : Option (List Char) :=
  if itemPrefix = "" then none else some itemPrefix.toList

theorem reads_formatItemCode
    {itemPrefix categoryCode letter : String} (h : Accepted itemPrefix categoryCode letter)
    (hcode : categoryCode ≠ "") (hletter : letter ≠ "") :
    Reads (formatItemCode itemPrefix categoryCode letter).toList
      (prefixGroup itemPrefix) categoryCode.toList letter.toList := by
  have hcodeRe := h.code_ok.resolve_left hcode
  have hletterRe := h.letter_ok.resolve_left hletter
  unfold formatItemCode prefixGroup
  rw [if_neg (by simp [hcode, hletter])]
  by_cases hgiven : itemPrefix = ""
  · simpa [hgiven] using Reads.short hcodeRe hletterRe
  · simpa [hgiven] using
      Reads.full (h.prefix_ok.resolve_left hgiven) hcodeRe hletterRe

def isCodeChar (c : Char) : Bool :=
  c.isUpper || c.isDigit || c == '-'

theorem isCodeChar_of_reads
    {text : List Char} {itemPrefix : Option (List Char)} {categoryCode letter : List Char}
    (h : Reads text itemPrefix categoryCode letter) : ∀ c ∈ text, isCodeChar c = true := by
  have hupper : ∀ {least most : Nat} {part : List Char},
      repeated Char.isUpper least most part = true → ∀ c ∈ part, isCodeChar c = true := by
    intro least most part hpart c hc
    simp [isCodeChar, (repeated_eq_true.mp hpart).1 c hc]
  have hhyphen : isCodeChar '-' = true := by decide
  cases h with
  | short hcode hletter =>
    simp only [mem_append, mem_cons]
    rintro c (hc | rfl | hc)
    · exact hupper hcode c hc
    · exact hhyphen
    · exact hupper hletter c hc
  | full hgiven hcode hletter =>
    simp only [mem_append, mem_cons]
    rintro c (hc | rfl | hc | rfl | hc)
    · simp [isCodeChar, (repeated_eq_true.mp hgiven).1 c hc]
    · exact hhyphen
    · exact hupper hcode c hc
    · exact hhyphen
    · exact hupper hletter c hc

theorem isCodeChar_formatItemCode
    {itemPrefix categoryCode letter : String} (h : Accepted itemPrefix categoryCode letter) :
    ∀ c ∈ (formatItemCode itemPrefix categoryCode letter).toList, isCodeChar c = true := by
  by_cases hblank : categoryCode = "" ∨ letter = ""
  · simp [formatItemCode, hblank]
  · rw [not_or] at hblank
    exact isCodeChar_of_reads (reads_formatItemCode h hblank.1 hblank.2)

section Searching

variable {c : Char} {beyond : Char → List Char} {text categoryCode : String} {item : CodedItem}

/-- A text that names a code in any letter case, with spaces around it. -/
def Variant (text code : String) : Prop :=
  ∃ before body after : List Char, text = String.ofList (before ++ body ++ after) ∧
      (∀ c ∈ before, Python.isSpace c = true) ∧ (∀ c ∈ after, Python.isSpace c = true) ∧
      body.map Char.toUpper = code.toList

theorem toNat_of_isCodeChar (h : isCodeChar c = true) :
    c.toNat = 45 ∨ (48 ≤ c.toNat ∧ c.toNat ≤ 57) ∨ (65 ≤ c.toNat ∧ c.toNat ≤ 90) := by
  have hupper : c.isUpper = decide (c.val ≥ 'A'.val ∧ c.val ≤ 'Z'.val) := rfl
  simp [isCodeChar, hupper, Char.isDigit, UInt32.le_iff_toNat_le] at h
  rcases h with (⟨hleast, hmost⟩ | ⟨hleast, hmost⟩) | rfl
  · exact .inr (.inr ⟨hleast, hmost⟩)
  · exact .inr (.inl ⟨hleast, hmost⟩)
  · exact .inl rfl

theorem ascii_of_isCodeChar_toUpper (h : isCodeChar c.toUpper = true) :
    c.toNat < 128 ∧ Python.isSpace c = false := by
  have hrange : c.toNat < 128 ∧ (32 < c.toNat) := by
    by_cases hlower : 'a'.val ≤ c.val ∧ c.val ≤ 'z'.val
    · simp only [UInt32.le_iff_toNat_le] at hlower
      have hleast : 97 ≤ c.toNat := hlower.1
      have hmost : c.toNat ≤ 122 := hlower.2
      omega
    · have hsame : c.toUpper = c := dif_neg hlower
      rw [hsame] at h
      have hvalue := toNat_of_isCodeChar h
      omega
  obtain ⟨hascii, _⟩ := hrange
  refine ⟨hascii, ?_⟩
  simp [Python.isSpace]
  omega

theorem upper_strip_variant {code : String} (h : Variant text code)
    (hcode : ∀ c ∈ code.toList, isCodeChar c = true) :
    Python.upper beyond (Python.strip text) = code := by
  obtain ⟨_, body, _, rfl, hbefore, hafter, hbody⟩ := h
  have hchars : ∀ c ∈ body, c.toNat < 128 ∧ Python.isSpace c = false := by
    intro c hc
    refine ascii_of_isCodeChar_toUpper (hcode _ ?_)
    rw [← hbody]
    exact mem_map_of_mem hc
  rw [Python.strip_surrounded hbefore hafter fun c hc => (hchars c hc).2,
    Python.upper_ofList fun c hc => (hchars c hc).1, hbody, String.ofList_toList]

theorem itemCodeQ_iff {itemPrefix letter : String} (h : Accepted itemPrefix categoryCode letter)
    (htext : Variant text (formatItemCode itemPrefix categoryCode letter)) (item : CodedItem) :
    itemCodeQ beyond text item = true ↔
      categoryCode ≠ "" ∧ letter ≠ "" ∧ item.categoryCode = some categoryCode ∧
        item.codeLetter = letter ∧ (itemPrefix = "" ∨ item.itemCodePrefix = itemPrefix) := by
  have hupper : Python.upper beyond (Python.strip text) =
      formatItemCode itemPrefix categoryCode letter :=
    upper_strip_variant htext (isCodeChar_formatItemCode h)
  unfold itemCodeQ
  rw [hupper]
  by_cases hblank : categoryCode = "" ∨ letter = ""
  · have hnone : itemCodeRe (formatItemCode itemPrefix categoryCode letter).toList = none := by
      rw [formatItemCode, if_pos hblank]
      rfl
    rw [hnone]
    rcases hblank with rfl | rfl <;> simp
  · rw [not_or] at hblank
    rw [itemCodeRe_eq_some.mpr (reads_formatItemCode h hblank.1 hblank.2)]
    by_cases hgiven : itemPrefix = ""
    · simp [prefixGroup, hgiven, hblank.1, hblank.2]
    · simp [prefixGroup, hgiven, hblank.1, hblank.2, and_assoc]

theorem prefixGroup_injective : Function.Injective prefixGroup := by
  intro first second h
  unfold prefixGroup at h
  split at h <;> split at h
  · next hfirst hsecond => rw [hfirst, hsecond]
  · cases h
  · cases h
  · exact String.toList_injective (Option.some.inj h)

theorem parts_of_itemCode (h : itemCode item ≠ "") :
    ∃ categoryCode, item.categoryCode = some categoryCode ∧ categoryCode ≠ "" ∧
      item.codeLetter ≠ "" ∧
      itemCode item = formatItemCode item.itemCodePrefix categoryCode item.codeLetter := by
  unfold itemCode at h ⊢
  split at h
  · exact absurd rfl h
  · next categoryCode hcode =>
      have hparts : ¬(categoryCode = "" ∨ item.codeLetter = "") := by
        intro hblank
        rw [formatItemCode, if_pos hblank] at h
        exact h rfl
      rw [not_or] at hparts
      exact ⟨categoryCode, hcode, hparts.1, hparts.2, rfl⟩

theorem CodedItem.Accepted.reads (h : item.Accepted)
    (hitem : item.categoryCode = some categoryCode) (hcode : categoryCode ≠ "")
    (hletter : item.codeLetter ≠ "") :
    Reads (formatItemCode item.itemCodePrefix categoryCode item.codeLetter).toList
      (prefixGroup item.itemCodePrefix) categoryCode.toList item.codeLetter.toList := by
  unfold CodedItem.Accepted at h
  rw [hitem, Option.getD_some] at h
  exact reads_formatItemCode h hcode hletter

theorem Reads.unique
    {text : List Char} {p p' : Option (List Char)} {code code' letter letter' : List Char}
    (h : Reads text p code letter) (h' : Reads text p' code' letter') :
    p = p' ∧ code = code' ∧ letter = letter' := by
  have hsame := (itemCodeRe_eq_some.mpr h).symm.trans (itemCodeRe_eq_some.mpr h')
  simpa using hsame

/-- The search for a code, in any case and padding, selects the items of its parts, and only items
that read as them. -/
theorem search_inverts_formatting
    (beyond : Char → List Char) {itemPrefix categoryCode letter text : String}
    (h : Accepted itemPrefix categoryCode letter)
    (htext : Variant text (formatItemCode itemPrefix categoryCode letter)) (item : CodedItem) :
    (itemCodeQ beyond text item = true ↔
      categoryCode ≠ "" ∧ letter ≠ "" ∧ item.categoryCode = some categoryCode ∧
        item.codeLetter = letter ∧ (itemPrefix = "" ∨ item.itemCodePrefix = itemPrefix)) ∧
    (item.Accepted → itemCodeQ beyond text item = true → itemCodeRe (itemCode item).toList =
        some (prefixGroup item.itemCodePrefix, categoryCode.toList, letter.toList)) ∧
    (item.Accepted → itemPrefix ≠ "" → categoryCode ≠ "" → letter ≠ "" →
      (itemCodeQ beyond text item = true ↔
        itemCode item = formatItemCode itemPrefix categoryCode letter)) := by
  have hselects : itemCodeQ beyond text item = true ↔
      categoryCode ≠ "" ∧ letter ≠ "" ∧ item.categoryCode = some categoryCode ∧
        item.codeLetter = letter ∧ (itemPrefix = "" ∨ item.itemCodePrefix = itemPrefix) :=
    itemCodeQ_iff h htext item
  refine ⟨hselects, ?_, ?_⟩
  · intro hitem hselected
    obtain ⟨hcode, hletter, hitemCode, rfl, -⟩ := hselects.mp hselected
    rw [itemCode, hitemCode]
    exact itemCodeRe_eq_some.mpr (hitem.reads hitemCode hcode hletter)
  · intro hitem hgiven hcode hletter
    have hreads := reads_formatItemCode h hcode hletter
    rw [hselects]
    constructor
    · rintro ⟨-, -, hitemCode, hitemLetter, hitemPrefix⟩
      rw [itemCode, hitemCode, hitemLetter, hitemPrefix.resolve_left hgiven]
    · intro hsame
      have hne : itemCode item ≠ "" := by
        intro hempty
        rw [← hsame, hempty] at hreads
        cases itemCodeRe_eq_some.mpr hreads
      obtain ⟨_, hitemCode, hcode', hletter', hitemText⟩ := parts_of_itemCode hne
      have hitemReads := hitem.reads hitemCode hcode' hletter'
      rw [← hitemText, hsame] at hitemReads
      obtain ⟨hgroup, hcodes, hletters⟩ := hitemReads.unique hreads
      have hsamePrefix := prefixGroup_injective hgroup
      have hsameCode := String.toList_injective hcodes
      have hsameLetter := String.toList_injective hletters
      exact ⟨hcode, hletter, hsameCode ▸ hitemCode, hsameLetter, .inr hsamePrefix⟩

def microcontroller : CodedItem :=
  { itemCodePrefix := "TC", categoryCode := some "MCU", codeLetter := "A" }

/-- A code typed in small letters, with a space in front. -/
theorem search_inverts_formatting_typed :
    Accepted "TC" "MCU" "A" ∧ Variant " tc-mcu-a" (formatItemCode "TC" "MCU" "A") ∧
      itemCodeQ (fun c => [c]) " tc-mcu-a" microcontroller = true := by
  have haccepted : Accepted "TC" "MCU" "A" :=
    { prefix_ok := .inr (by decide), code_ok := .inr (by decide)
      letter_ok := .inr (by decide) }
  have hvariant : Variant " tc-mcu-a" (formatItemCode "TC" "MCU" "A") :=
    ⟨[' '], "tc-mcu-a".toList, [], by decide +kernel, forall_mem_singleton.mpr (by decide),
      forall_mem_nil _, by decide +kernel⟩
  have hselects := (search_inverts_formatting (fun c => [c]) haccepted hvariant microcontroller).1
  exact ⟨haccepted, hvariant,
    hselects.mpr ⟨by decide, by decide, by decide, by decide, .inr (by decide)⟩⟩

/-- Without a prefix or a category the code selects others or nothing, and a hyphen in a letter
splits otherwise. -/
theorem code_without_prefix_selects_more :
    (Accepted "" "MCU" "A" ∧ Variant "MCU-A" (formatItemCode "" "MCU" "A") ∧
      itemCodeQ (fun c => [c]) "MCU-A" microcontroller = true ∧
      microcontroller.itemCodePrefix ≠ "") ∧
    (Accepted "TC" "" "A" ∧ Variant "" (formatItemCode "TC" "" "A") ∧
      itemCodeQ (fun c => [c]) "" { microcontroller with categoryCode := some "" } = false) ∧
    (formatItemCode "" "MCU" "AB-C" = "MCU-AB-C" ∧ itemCodeQ (fun c => [c]) "MCU-AB-C"
        { itemCodePrefix := "MCU", categoryCode := some "AB", codeLetter := "C" } = true) := by
  refine ⟨⟨?_, ?_, by decide +kernel, by decide⟩, ⟨?_, ?_, by decide +kernel⟩, by decide +kernel,
    by decide +kernel⟩
  · exact { prefix_ok := .inl rfl, code_ok := .inr (by decide), letter_ok := .inr (by decide) }
  · exact ⟨[], "MCU-A".toList, [], by decide +kernel, forall_mem_nil _,
      forall_mem_nil _, by decide +kernel⟩
  · exact { prefix_ok := .inr (by decide), code_ok := .inl rfl, letter_ok := .inr (by decide) }
  · exact ⟨[], [], [], by decide +kernel, forall_mem_nil _, forall_mem_nil _,
      by decide +kernel⟩

end Searching

end CodeSearch
end SpaceWorks
