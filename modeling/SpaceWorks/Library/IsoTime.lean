import Mathlib.Tactic.Ring
import SpaceWorks.Library.Numerals

/-!
# Times in UTC

`datetime` values in UTC, their order and ISO text.  An `IsoReader` is any reading of texts that
reads those back.
-/

namespace Python

structure Moment where
  year : Nat
  month : Nat
  day : Nat
  hour : Nat
  minute : Nat
  second : Nat
  microsecond : Nat
  year_lt : year < 10000
  month_lt : month < 13
  day_lt : day < 32
  hour_lt : hour < 24
  minute_lt : minute < 60
  second_lt : second < 60
  microsecond_lt : microsecond < 1000000

/-- Times are compared by their fields, the year first. -/
def Moment.rank (time : Moment) : Nat :=
  (((((time.year * 13 + time.month) * 32 + time.day) * 24 + time.hour) * 60 + time.minute) * 60
    + time.second) * 1000000 + time.microsecond

instance : LE Moment := ⟨fun s t => s.rank ≤ t.rank⟩

instance : LT Moment := ⟨fun s t => s.rank < t.rank⟩

instance (s t : Moment) : Decidable (s ≤ t) := inferInstanceAs (Decidable (s.rank ≤ t.rank))

instance (s t : Moment) : Decidable (s < t) := inferInstanceAs (Decidable (s.rank < t.rank))

def onSecond (second : Nat) : Moment where
  year := 2026
  month := 5
  day := 9
  hour := 12
  minute := 0
  second := second % 60
  microsecond := 0
  year_lt := by decide
  month_lt := by decide
  day_lt := by decide
  hour_lt := by decide
  minute_lt := by decide
  second_lt := Nat.mod_lt second (by decide)
  microsecond_lt := by decide

/-- The fraction of a second, which a whole second does not have. -/
def fraction (microsecond : Nat) : List Char :=
  if microsecond = 0 then ['Z'] else '.' :: padded 10 6 microsecond ++ ['Z']

/-- `value.isoformat()` with `Z` for the offset. -/
def isoText (time : Moment) : String :=
  String.ofList (padded 10 4 time.year ++ '-' :: padded 10 2 time.month ++
    '-' :: padded 10 2 time.day ++ 'T' :: padded 10 2 time.hour ++
    ':' :: padded 10 2 time.minute ++ ':' :: padded 10 2 time.second ++
    fraction time.microsecond)

/-- What `datetime.fromisoformat` reads, offset included. -/
inductive Reading
  | malformed
  | naive
  | aware (time : Moment)

structure IsoReader where
  read : String → Reading
  read_isoText : ∀ time, read (isoText time) = .aware time

def numeral (digits : List Char) : Nat :=
  digits.foldl (fun n c => 10 * n + (c.toNat - 48)) 0

/-- The time with these fields, if there is one. -/
def reading (year month day hour minute second microsecond : List Char) : Reading :=
  if h : numeral year < 10000 ∧ numeral month < 13 ∧ numeral day < 32 ∧ numeral hour < 24 ∧
      numeral minute < 60 ∧ numeral second < 60 ∧ numeral microsecond < 1000000 then
    .aware ⟨numeral year, numeral month, numeral day, numeral hour, numeral minute,
      numeral second, numeral microsecond, h.1, h.2.1, h.2.2.1, h.2.2.2.1, h.2.2.2.2.1,
      h.2.2.2.2.2.1, h.2.2.2.2.2.2⟩
  else .malformed

def readUtc (text : String) : Reading :=
  match text.toList with
  | [y₁, y₂, y₃, y₄, '-', m₁, m₂, '-', d₁, d₂, 'T', h₁, h₂, ':', i₁, i₂, ':', s₁, s₂, 'Z'] =>
    reading [y₁, y₂, y₃, y₄] [m₁, m₂] [d₁, d₂] [h₁, h₂] [i₁, i₂] [s₁, s₂] []
  | [y₁, y₂, y₃, y₄, '-', m₁, m₂, '-', d₁, d₂, 'T', h₁, h₂, ':', i₁, i₂, ':', s₁, s₂, '.',
      f₁, f₂, f₃, f₄, f₅, f₆, 'Z'] =>
    reading [y₁, y₂, y₃, y₄] [m₁, m₂] [d₁, d₂] [h₁, h₂] [i₁, i₂] [s₁, s₂] [f₁, f₂, f₃, f₄, f₅, f₆]
  | _ => .malformed

theorem toNat_digitChar {n : Nat} (h : n < 10) : n.digitChar.toNat = n + 48 := by
  have hall : ∀ n : Fin 10, n.val.digitChar.toNat = n.val + 48 := by decide
  exact hall ⟨n, h⟩

theorem foldl_padded (width n start : Nat) :
    (padded 10 width n).foldl (fun n c => 10 * n + (c.toNat - 48)) start =
      start * 10 ^ width + n % 10 ^ width := by
  induction width generalizing start with
  | zero => simp [padded, Nat.mod_one]
  | succ _ ih =>
    rw [padded, List.foldl_cons, ih, toNat_digitChar (Nat.mod_lt _ (by omega)), Nat.pow_succ,
      Nat.mod_mul, Nat.add_sub_cancel]
    ring

theorem numeral_padded {width n : Nat} (h : n < 10 ^ width) : numeral (padded 10 width n) = n := by
  rw [numeral, foldl_padded, Nat.mod_eq_of_lt h]
  omega

theorem reading_padded (time : Moment) :
    reading (padded 10 4 time.year) (padded 10 2 time.month) (padded 10 2 time.day)
      (padded 10 2 time.hour) (padded 10 2 time.minute) (padded 10 2 time.second)
      (padded 10 6 time.microsecond) = .aware time := by
  obtain ⟨year, month, day, hour, minute, second, microsecond, hy, hm, hd, hh, hi, hs, hf⟩ := time
  have hfields : numeral (padded 10 4 year) = year ∧ numeral (padded 10 2 month) = month ∧
      numeral (padded 10 2 day) = day ∧ numeral (padded 10 2 hour) = hour ∧
      numeral (padded 10 2 minute) = minute ∧ numeral (padded 10 2 second) = second ∧
      numeral (padded 10 6 microsecond) = microsecond := by
    refine ⟨?_, ?_, ?_, ?_, ?_, ?_, ?_⟩ <;> exact numeral_padded (by omega)
  simp [reading, hfields, hy, hm, hd, hh, hi, hs, hf]

theorem readUtc_isoText (time : Moment) : readUtc (isoText time) = .aware time := by
  rw [← reading_padded time]
  unfold readUtc isoText fraction
  rw [String.toList_ofList]
  by_cases hwhole : time.microsecond = 0
  · rw [if_pos hwhole, hwhole]
    rfl
  · rw [if_neg hwhole]
    rfl

/-- The reader of the texts that `isoText` writes. -/
def utcReader : IsoReader where
  read := readUtc
  read_isoText := readUtc_isoText

end Python
