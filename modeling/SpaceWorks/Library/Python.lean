import Mathlib.Data.Int.Notation

/-!
# Python values

Stripping and lowering of text, and decimals as the integer number of their hundredths: only a
division needs a rounding rule.
-/

namespace Python

open List

/-- `str.isspace` of one character. -/
def isSpace (c : Char) : Bool :=
  let n := c.toNat
  (9 ≤ n && n ≤ 13) || (28 ≤ n && n ≤ 32) || n = 0x85 || n = 0xA0 || n = 0x1680
    || (0x2000 ≤ n && n ≤ 0x200A) || n = 0x2028 || n = 0x2029 || n = 0x202F
    || n = 0x205F || n = 0x3000

def strip (s : String) : String :=
  String.ofList ((s.toList.dropWhile isSpace).reverse.dropWhile isSpace).reverse

/-- `str.upper()`; `beyond` ASCII is a table. -/
def upper (beyond : Char → List Char) (s : String) : String :=
  String.ofList (s.toList.flatMap fun c => if c.toNat < 128 then [c.toUpper] else beyond c)

/-- `str.lower()`, on the letters an e-mail address may hold. -/
def lower (s : String) : String :=
  String.ofList (s.toList.map Char.toLower)

/-- `str.lower()`; `beyond` ASCII is a rule on the whole text. -/
def lowerText (beyond : List Char → Nat → List Char) (s : String) : String :=
  String.ofList (s.toList.zipIdx.flatMap fun entry =>
    if entry.1.toNat < 128 then [entry.1.toLower] else beyond s.toList entry.2)

/-- `ROUND_HALF_EVEN` of `num / den`, for a positive `den`. -/
def roundHalfEven (num den : Int) : Int :=
  let q := num / den
  let r := num % den
  if 2 * r < den then q
  else if den < 2 * r then q + 1
  else if q % 2 = 0 then q
  else q + 1

/-- `ROUND_HALF_UP` of `num / den`, for a positive `den`. -/
def roundHalfUp (num den : Int) : Int :=
  let q := num / den
  let r := num % den
  if 2 * r < den ∨ (2 * r = den ∧ num < 0) then q else q + 1

/-- `str` of a decimal with two places. -/
def decimalText (hundredths : Int) : String :=
  let n := hundredths.natAbs
  let cents := toString (n % 100)
  let digits := toString (n / 100) ++ "." ++ (if n % 100 < 10 then "0" ++ cents else cents)
  if hundredths < 0 then "-" ++ digits else digits

theorem dropWhile_isSpace_of_head {s : List Char} (h : ∀ c, s.head? = some c → isSpace c = false) :
    s.dropWhile isSpace = s := by
  cases s with
  | nil => rfl
  | cons c => exact dropWhile_cons_of_neg (by simp [h c rfl])

theorem head_dropWhile_isSpace {s : List Char} {c : Char}
    (h : (s.dropWhile isSpace).head? = some c) : isSpace c = false := by
  have hnot := List.head?_dropWhile_not isSpace s
  rw [h] at hnot
  simpa using hnot

theorem strip_surrounded {before body after : List Char}
    (hbefore : ∀ c ∈ before, isSpace c = true) (hafter : ∀ c ∈ after, isSpace c = true)
    (hbody : ∀ c ∈ body, isSpace c = false) :
    strip (String.ofList (before ++ body ++ after)) = String.ofList body := by
  have hhead : ((body ++ after).dropWhile isSpace).reverse.dropWhile isSpace =
      body.reverse.dropWhile isSpace := by
    have hspaces : ∀ c ∈ after.reverse, isSpace c = true := by simpa using hafter
    cases body with
    | nil =>
      have hnone : (after ++ []).dropWhile isSpace = [].dropWhile isSpace :=
        dropWhile_append_of_pos hafter
      rw [append_nil] at hnone
      rw [nil_append, hnone]
      rfl
    | cons first =>
      rw [cons_append, dropWhile_cons_of_neg (by simp [hbody first mem_cons_self]),
        ← cons_append, reverse_append, dropWhile_append_of_pos hspaces]
  have hlast : body.reverse.dropWhile isSpace = body.reverse :=
    dropWhile_isSpace_of_head fun c hc => hbody c (mem_reverse.mp (mem_of_mem_head? hc))
  unfold strip
  rw [String.toList_ofList, append_assoc, dropWhile_append_of_pos hbefore, hhead,
    hlast, reverse_reverse]

theorem strip_strip (s : String) : strip (strip s) = strip s := by
  unfold strip
  generalize s.toList = text
  have hprefix : ((text.dropWhile isSpace).reverse.dropWhile isSpace).reverse <+:
      text.dropWhile isSpace := by
    have hsuffix := dropWhile_suffix isSpace (l := (text.dropWhile isSpace).reverse)
    rwa [← reverse_prefix, reverse_reverse] at hsuffix
  have hhead : ∀ c, ((text.dropWhile isSpace).reverse.dropWhile isSpace).reverse.head? = some c →
      isSpace c = false := by
    intro c hc
    obtain ⟨_, hrest⟩ := hprefix
    refine head_dropWhile_isSpace (s := text) ?_
    rw [← hrest, head?_append, hc]
    rfl
  rw [String.toList_ofList, dropWhile_isSpace_of_head hhead, reverse_reverse,
    dropWhile_isSpace_of_head fun _ => head_dropWhile_isSpace]

theorem upper_ofList
    {beyond : Char → List Char} {text : List Char} (h : ∀ c ∈ text, c.toNat < 128) :
    upper beyond (String.ofList text) = String.ofList (text.map Char.toUpper) := by
  unfold upper
  rw [String.toList_ofList]
  congr 1
  induction text with
  | nil => rfl
  | cons c _ ih =>
    rw [flatMap_cons, if_pos (h c mem_cons_self), map_cons, singleton_append,
      ih fun d hd => h d (mem_cons_of_mem c hd)]

theorem lowerText_ofList
    {beyond : List Char → Nat → List Char} {text : List Char} (h : ∀ c ∈ text, c.toNat < 128) :
    lowerText beyond (String.ofList text) = String.ofList (text.map Char.toLower) := by
  unfold lowerText
  rw [String.toList_ofList]
  congr 1
  generalize beyond text = table
  generalize 0 = start
  induction text generalizing start with
  | nil => rfl
  | cons c _ ih =>
    rw [zipIdx_cons, flatMap_cons, if_pos (h c mem_cons_self), map_cons,
      singleton_append, ih (fun d hd => h d (mem_cons_of_mem c hd))]

end Python
