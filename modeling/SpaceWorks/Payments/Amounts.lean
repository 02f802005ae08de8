import Mathlib.Algebra.Order.Field.Basic
import Mathlib.Tactic.FieldSimp
import Mathlib.Tactic.Linarith
import SpaceWorks.Library.Rounding
import SpaceWorks.Payments.Lifecycle

/-!
# Payment amounts

`apps/payments/amounts.py`, the units of `apps/payments/currency_rules.py` and the rules of
`create_payment` (`apps/payments/services.py`).  Amounts are hundredths, fee rates basis points, so
products stay exact in 28 digits.
-/

namespace SpaceWorks
namespace Payments
namespace Amounts

open Checked TransactionalSystem

section

def stripeTwoDecimalCurrencies : List String :=
  ["aed", "afn", "all", "amd", "ang", "aoa", "ars", "aud", "awg", "azn", "bam", "bbd", "bdt",
    "bmd", "bnd", "bob", "brl", "bsd", "bwp", "byn", "bzd", "cad", "cdf", "chf", "cny", "cop",
    "crc", "cve", "czk", "dkk", "dop", "dzd", "egp", "etb", "eur", "fjd", "fkp", "gbp", "gel",
    "gip", "gmd", "gtq", "gyd", "hkd", "hnl", "htg", "huf", "idr", "ils", "inr", "jmd", "kes",
    "kgs", "khr", "kyd", "kzt", "lak", "lbp", "lkr", "lrd", "lsl", "mad", "mdl", "mkd", "mmk",
    "mnt", "mop", "mur", "mvr", "mwk", "mxn", "myr", "mzn", "nad", "ngn", "nio", "nok", "npr",
    "nzd", "pab", "pen", "pgk", "php", "pkr", "pln", "qar", "ron", "rsd", "rub", "sar", "sbd",
    "scr", "sek", "sgd", "shp", "sle", "sos", "srd", "std", "szl", "thb", "tjs", "top", "try",
    "ttd", "twd", "tzs", "uah", "usd", "uyu", "uzs", "wst", "xcd", "xcg", "yer", "zar", "zmw"]

def stripeZeroDecimalCurrencies : List String :=
  ["bif", "clp", "djf", "gnf", "jpy", "kmf", "krw", "mga", "pyg", "rwf", "vnd", "vuv", "xaf",
    "xof", "xpf"]

def stripeThreeDecimalCurrencies : List String :=
  ["bhd", "jod", "kwd", "omr", "tnd"]

def stripeLegacyWholeCurrencies : List String :=
  ["isk", "ugx"]

def razorpayTwoDecimalCurrencies : List String :=
  ["aed", "all", "amd", "aud", "awg", "azn", "bam", "bbd", "bdt", "bgn", "bmd", "bnd", "bob",
    "brl", "bsd", "btn", "bwp", "bzd", "cad", "chf", "cny", "cop", "crc", "cup", "cve", "czk",
    "dkk", "dop", "dzd", "egp", "etb", "eur", "fjd", "gbp", "ghs", "gip", "gmd", "gtq", "gyd",
    "hkd", "hnl", "hrk", "htg", "huf", "idr", "ils", "inr", "jmd", "kes", "kgs", "khr", "kyd",
    "kzt", "lak", "lkr", "lrd", "lsl", "mad", "mdl", "mga", "mkd", "mmk", "mnt", "mop", "mur",
    "mvr", "mwk", "mxn", "myr", "mzn", "nad", "ngn", "nio", "nok", "npr", "nzd", "pen", "pgk",
    "php", "pkr", "pln", "qar", "ron", "rsd", "rub", "sar", "scr", "sek", "sgd", "sll", "sos",
    "svc", "szl", "thb", "try", "ttd", "twd", "tzs", "uah", "usd", "uyu", "uzs", "xcd", "yer",
    "zar", "zmw"]

def razorpayZeroDecimalCurrencies : List String :=
  ["bif", "clp", "djf", "gnf", "isk", "jpy", "kmf", "krw", "pyg", "rwf", "ugx", "vnd", "vuv",
    "xaf", "xof", "xpf"]

def razorpayThreeDecimalCurrencies : List String :=
  ["bhd", "iqd", "jod", "kwd", "omr", "tnd"]

/-- `STRIPE_CURRENCY_UNITS`: scale and quantum; later entries win. -/
def stripeCurrencyUnits (currency : String) : Option (Int × Int) :=
  if currency ∈ stripeLegacyWholeCurrencies then some (100, 100)
  else if currency ∈ stripeThreeDecimalCurrencies then some (1000, 10)
  else if currency ∈ stripeZeroDecimalCurrencies then some (1, 1)
  else if currency ∈ stripeTwoDecimalCurrencies then some (100, 1)
  else none

def razorpayCurrencyUnits (currency : String) : Option (Int × Int) :=
  if currency ∈ razorpayThreeDecimalCurrencies then some (1000, 10)
  else if currency ∈ razorpayZeroDecimalCurrencies then some (1, 1)
  else if currency ∈ razorpayTwoDecimalCurrencies then some (100, 1)
  else none

def providerCurrencyUnits : Provider → String → Option (Int × Int)
  | .stripe => stripeCurrencyUnits
  | .razorpay => razorpayCurrencyUnits

def supported (currency : String) : Bool :=
  (stripeCurrencyUnits currency).isSome || (razorpayCurrencyUnits currency).isSome

variable (beyond : List Char → Nat → List Char)

def normalizeCurrency (currency : String) : Except String String := do
  let lowered := Python.lowerText beyond currency
  require (supported lowered = true) "Unsupported payment currency."
  return lowered

def currencyUnits (currency : String) (provider : Provider) : Except String (Int × Int) := do
  let normalized ← normalizeCurrency beyond currency
  orRefuse (providerCurrencyUnits provider normalized) "Unsupported payment currency."

/-- `normalize_major_amount` in hundredths, of a finite number or none. -/
def normalizeMajorAmount (amount : Option Rat) : Except String Int := do
  let value ← orRefuse amount "Invalid payment amount."
  require (0 < value ∧ value ≤ 999999999999 / 100) "Invalid payment amount."
  require ((value * 100).den = 1) "Unsupported payment amount precision."
  return (value * 100).num

def toMinorUnits (amount : Option Rat) (currency : String) (provider : Provider) :
    Except String Int := do
  let (scale, quantum) ← currencyUnits beyond currency provider
  let hundredths ← normalizeMajorAmount amount
  let value := hundredths * scale
  require (value % 100 = 0 ∧ value / 100 % quantum = 0) "Unsupported payment amount precision."
  return value / 100

def applicationFeeAmount (amount : Option Rat) (basisPoints : Int) (currency : String)
    (provider : Provider) : Except String Int := do
  let charge ← toMinorUnits beyond amount currency provider
  let (_, quantum) ← currencyUnits beyond currency provider
  require (0 ≤ basisPoints) "Invalid payment fee."
  let fee := Python.roundHalfUp (charge * basisPoints) (10000 * quantum) * quantum
  return min charge fee

/-- The decimal that a ledger column of hundredths holds. -/
def ofHundredths (hundredths : Int) : Option Rat :=
  some (hundredths / 100)

def validatePaymentAmount (payment : Payment) : Except String Int := do
  let charge ← toMinorUnits beyond (ofHundredths payment.amount) payment.currency payment.provider
  let (_, quantum) ← currencyUnits beyond payment.currency payment.provider
  let fee : Int := payment.stripeApplicationFeeAmount
  require (0 ≤ fee ∧ fee ≤ charge ∧ fee % quantum = 0) "Invalid stored payment fee."
  return charge

structure PricedSource extends PaymentSource where
  applicationFeeBps : Int := 0

/-- `create_payment` with its amount rules. -/
def createPricedPayment (s : State) (request : ChargeRequest) (amount : Option Rat)
    (charging : Bool) (source : Option PricedSource) : Except Error State := do
  require charging (.unavailable "Payments are disabled for this makerspace.")
  let source ← orRefuse source (.unavailable "Payments are not configured for this makerspace.")
  let currency ← (normalizeCurrency beyond request.currency).mapError Error.unavailable
  let amount ← (normalizeMajorAmount amount).mapError Error.unavailable
  let fee ← (applicationFeeAmount beyond (ofHundredths amount) source.applicationFeeBps currency
    source.vendor).mapError Error.unavailable
  createPayment s { request with amount := amount, currency := currency } charging
    (some source.toPaymentSource) (.ok fee.toNat)

variable {beyond : List Char → Nat → List Char} {currency : String} {provider : Provider}
variable {amount : Option Rat} {minor : Int}

def currencyUnitPairs : List (Int × Int) :=
  [(100, 1), (1, 1), (1000, 10), (100, 100)]

theorem mem_currencyUnitPairs {units : Int × Int}
    (h : currencyUnits beyond currency provider = .ok units) : units ∈ currencyUnitPairs := by
  simp [currencyUnits] at h
  obtain ⟨_, -, hunits⟩ := h
  cases provider with
  | stripe =>
    simp only [providerCurrencyUnits, stripeCurrencyUnits] at hunits
    split at hunits
    · cases hunits; decide
    split at hunits
    · cases hunits; decide
    split at hunits
    · cases hunits; decide
    split at hunits
    · cases hunits; decide
    · cases hunits
  | razorpay =>
    simp only [providerCurrencyUnits, razorpayCurrencyUnits] at hunits
    split at hunits
    · cases hunits; decide
    split at hunits
    · cases hunits; decide
    split at hunits
    · cases hunits; decide
    · cases hunits

theorem units_of_currency {scale quantum : Int}
    (h : currencyUnits beyond currency provider = .ok (scale, quantum)) :
    (scale = 1 ∨ scale = 100 ∨ scale = 1000) ∧ 0 < quantum := by
  have hmem := mem_currencyUnitPairs h
  simp [currencyUnitPairs] at hmem
  omega

theorem normalizeMajorAmount_ok {hundredths : Int} :
    normalizeMajorAmount amount = .ok hundredths ↔
      0 < hundredths ∧ hundredths ≤ 999999999999 ∧ amount = ofHundredths hundredths := by
  simp only [normalizeMajorAmount, bind_ok, orRefuse_ok, require_ok, exists_const,
    pure_ok, ofHundredths]
  constructor
  · rintro ⟨value, rfl, ⟨_, _⟩, hden, rfl⟩
    have hvalue : ((value * 100).num : Rat) = value * 100 := (Rat.den_eq_one_iff _).mp hden
    refine ⟨?_, ?_, ?_⟩
    · have hscaled : (0 : Rat) < ((value * 100).num : Rat) := by linarith
      exact_mod_cast hscaled
    · have hscaled : ((value * 100).num : Rat) ≤ 999999999999 := by linarith
      exact_mod_cast hscaled
    · rw [hvalue]
      congr 1
      linarith
  · rintro ⟨hpositive, hmost, rfl⟩
    have hvalue : (hundredths : Rat) / 100 * 100 = hundredths := by linarith
    have hleast : (0 : Rat) < hundredths := by exact_mod_cast hpositive
    have hlargest : (hundredths : Rat) ≤ 999999999999 := by exact_mod_cast hmost
    refine ⟨(hundredths : Rat) / 100, rfl, ⟨by linarith, by linarith⟩, ?_, ?_⟩
    · rw [hvalue]
      exact Rat.den_intCast hundredths
    · rw [hvalue]
      exact Rat.num_intCast hundredths

theorem toMinorUnits_ok :
    toMinorUnits beyond amount currency provider = .ok minor ↔
      ∃ scale quantum hundredths, currencyUnits beyond currency provider = .ok (scale, quantum) ∧
        normalizeMajorAmount amount = .ok hundredths ∧ hundredths * scale = 100 * minor ∧
        minor % quantum = 0 := by
  simp only [toMinorUnits, bind_ok, require_ok, exists_const, pure_ok, Prod.exists]
  constructor
  · rintro ⟨scale, quantum, hunits, hundredths, hamount, ⟨_, hquantum⟩, rfl⟩
    exact ⟨scale, quantum, hundredths, hunits, hamount, by omega, hquantum⟩
  · rintro ⟨scale, quantum, hundredths, hunits, hamount, _, hquantum⟩
    have hvalue : hundredths * scale / 100 = minor := by omega
    exact ⟨scale, quantum, hunits, hundredths, hamount, ⟨by omega, hvalue ▸ hquantum⟩, hvalue⟩

/-- A converted amount: positive, in range, a multiple of the quantum, to scale. -/
structure Converted (amount : Option Rat) (minor scale quantum : Int) : Prop where
  scale_pos : 0 < scale
  quantum_pos : 0 < quantum
  positive : 0 < minor
  most : minor ≤ 9999999999990
  multiple : minor % quantum = 0
  exact : amount = some ((minor : Rat) / scale)

theorem converted_of_toMinorUnits (h : toMinorUnits beyond amount currency provider = .ok minor) :
    ∃ scale quantum, currencyUnits beyond currency provider = .ok (scale, quantum) ∧
      Converted amount minor scale quantum := by
  obtain ⟨scale, quantum, hundredths, hunits, hamount, hminor, hmultiple⟩ := toMinorUnits_ok.mp h
  obtain ⟨hscale, hquantum⟩ := units_of_currency hunits
  obtain ⟨_, _, rfl⟩ := normalizeMajorAmount_ok.mp hamount
  have hratio : (hundredths : Rat) / 100 = (minor : Rat) / scale := by
    have hcast : (hundredths : Rat) * scale = 100 * minor := by exact_mod_cast hminor
    have hne : (scale : Rat) ≠ 0 := by
      have hpos : 0 < scale := by omega
      exact_mod_cast hpos.ne'
    field_simp
    linarith
  refine ⟨scale, quantum, hunits, ?_, hquantum, ?_, ?_, hmultiple, ?_⟩
  · omega
  · rcases hscale with rfl | rfl | rfl <;> omega
  · rcases hscale with rfl | rfl | rfl <;> omega
  · rw [ofHundredths, hratio]

theorem toMinorUnits_injective {amount' : Option Rat}
    (h : toMinorUnits beyond amount currency provider = .ok minor)
    (h' : toMinorUnits beyond amount' currency provider = .ok minor) :
    amount = amount' := by
  obtain ⟨scale, quantum, hunits, hconverted⟩ := converted_of_toMinorUnits h
  obtain ⟨scale', quantum', hunits', hconverted'⟩ := converted_of_toMinorUnits h'
  obtain ⟨rfl, rfl⟩ : scale = scale' ∧ quantum = quantum' := by
    simpa using hunits.symm.trans hunits'
  rw [hconverted.exact, hconverted'.exact]

end

section Fees

variable {beyond : List Char → Nat → List Char}
  {amount : Option Rat} {basisPoints fee charge : Int} {currency : String}
  {provider : Provider}

/-- The rounded multiple of the quantum before the cap. -/
def uncappedFee (charge basisPoints quantum : Int) : Int :=
  Python.roundHalfUp (charge * basisPoints) (10000 * quantum) * quantum

theorem applicationFeeAmount_ok :
    applicationFeeAmount beyond amount basisPoints currency provider = .ok fee ↔
      ∃ charge scale quantum, toMinorUnits beyond amount currency provider = .ok charge ∧
        currencyUnits beyond currency provider = .ok (scale, quantum) ∧ 0 ≤ basisPoints ∧
        fee = min charge (uncappedFee charge basisPoints quantum) := by
  simp only [applicationFeeAmount, bind_ok, require_ok, exists_const, pure_ok,
    Prod.exists, uncappedFee]
  constructor
  · rintro ⟨charge, hcharge, scale, quantum, hunits, hrate, rfl⟩
    exact ⟨charge, scale, quantum, hcharge, hunits, hrate, rfl⟩
  · rintro ⟨charge, scale, quantum, hcharge, hunits, hrate, rfl⟩
    exact ⟨charge, hcharge, scale, quantum, hunits, hrate, rfl⟩

section Rounded

variable {charge charge' basisPoints quantum : Int}

theorem uncappedFee_bounds (basisPoints : Int) (hquantum : 0 < quantum) (charge : Int) :
    2 * (charge * basisPoints) - 10000 * quantum ≤ 20000 * uncappedFee charge basisPoints quantum ∧
      20000 * uncappedFee charge basisPoints quantum ≤
        2 * (charge * basisPoints) + 10000 * quantum := by
  have hbounds := Python.roundHalfUp_bounds (charge * basisPoints)
    (show 0 < 10000 * quantum by omega)
  have hmultiple : 2 * (10000 * quantum *
      Python.roundHalfUp (charge * basisPoints) (10000 * quantum)) =
      20000 * uncappedFee charge basisPoints quantum := by
    rw [uncappedFee, Int.mul_assoc 10000, Int.mul_comm quantum, ← Int.mul_assoc]
    rfl
  rwa [hmultiple] at hbounds

theorem uncappedFee_nonneg
    (hcharge : 0 ≤ charge) (hrate : 0 ≤ basisPoints) (hquantum : 0 < quantum) :
    0 ≤ uncappedFee charge basisPoints quantum :=
  Int.mul_nonneg (Python.roundHalfUp_nonneg (by omega) (Int.mul_nonneg hcharge hrate))
    (Int.le_of_lt hquantum)

theorem uncappedFee_mono (hcharge : 0 ≤ charge) (hrate : 0 ≤ basisPoints) (hquantum : 0 < quantum)
    (h : charge ≤ charge') :
    uncappedFee charge basisPoints quantum ≤ uncappedFee charge' basisPoints quantum :=
  Int.mul_le_mul_of_nonneg_right
    (Python.roundHalfUp_mono (by omega) (Int.mul_nonneg hcharge hrate)
      (Int.mul_le_mul_of_nonneg_right h hrate))
    (Int.le_of_lt hquantum)

theorem uncappedFee_le
    (hcharge : 0 ≤ charge) (hmultiple : charge % quantum = 0) (hquantum : 0 < quantum)
    (hrate : basisPoints ≤ 10000) :
    uncappedFee charge basisPoints quantum ≤ charge := by
  obtain ⟨n, rfl⟩ := Int.dvd_of_emod_eq_zero hmultiple
  have hproduct : quantum * n * basisPoints ≤ quantum * n * 10000 :=
    Int.mul_le_mul_of_nonneg_left hrate hcharge
  have hrounded : Python.roundHalfUp (quantum * n * basisPoints) (10000 * quantum) ≤ n := by
    refine Python.roundHalfUp_le (by omega) ?_
    rw [Int.mul_assoc 10000]
    omega
  have hfee := Int.mul_le_mul_of_nonneg_right hrounded (Int.le_of_lt hquantum)
  rwa [Int.mul_comm n quantum] at hfee

theorem le_uncappedFee
    (hcharge : 0 ≤ charge) (hmultiple : charge % quantum = 0) (hquantum : 0 < quantum)
    (hrate : 10000 ≤ basisPoints) :
    charge ≤ uncappedFee charge basisPoints quantum := by
  obtain ⟨n, rfl⟩ := Int.dvd_of_emod_eq_zero hmultiple
  have hproduct : quantum * n * 10000 ≤ quantum * n * basisPoints :=
    Int.mul_le_mul_of_nonneg_left hrate hcharge
  have hrounded : n ≤ Python.roundHalfUp (quantum * n * basisPoints) (10000 * quantum) := by
    refine Python.le_roundHalfUp (by omega) ?_
    rw [Int.mul_assoc 10000]
    omega
  have hfee := Int.mul_le_mul_of_nonneg_right hrounded (Int.le_of_lt hquantum)
  rwa [Int.mul_comm n quantum] at hfee

end Rounded

/-- The fee of a charge: a multiple of the quantum up to the charge, nearest to the percentage, the
charge itself above it. -/
structure FeeOf (charge basisPoints quantum fee : Int) : Prop where
  nonneg : 0 ≤ fee
  le_charge : fee ≤ charge
  multiple : fee % quantum = 0
  nearest : basisPoints ≤ 10000 →
    |(fee : Rat) - (charge : Rat) * basisPoints / 10000| ≤ (quantum : Rat) / 2
  capped : 10000 ≤ basisPoints → fee = charge

theorem feeOf_min {quantum : Int}
    (hcharge : 0 ≤ charge) (hmultiple : charge % quantum = 0) (hquantum : 0 < quantum)
    (hrate : 0 ≤ basisPoints) :
    FeeOf charge basisPoints quantum (min charge (uncappedFee charge basisPoints quantum)) := by
  have hnonneg := uncappedFee_nonneg hcharge hrate hquantum
  refine ⟨by omega, by omega, ?_, ?_, ?_⟩
  · rcases Int.le_total charge (uncappedFee charge basisPoints quantum) with hle | hle
    · rw [Int.min_eq_left hle]
      exact hmultiple
    · rw [Int.min_eq_right hle]
      exact Int.mul_emod_left _ _
  · intro hmost
    obtain ⟨hlower, hupper⟩ := uncappedFee_bounds basisPoints hquantum charge
    rw [Int.min_eq_right (uncappedFee_le hcharge hmultiple hquantum hmost), abs_le]
    have hlower' : 2 * ((charge : Rat) * basisPoints) - 10000 * quantum ≤
        20000 * (uncappedFee charge basisPoints quantum : Rat) := by exact_mod_cast hlower
    have hupper' : 20000 * (uncappedFee charge basisPoints quantum : Rat) ≤
        2 * ((charge : Rat) * basisPoints) + 10000 * quantum := by exact_mod_cast hupper
    constructor <;> linarith
  · intro hleast
    exact Int.min_eq_left (le_uncappedFee hcharge hmultiple hquantum hleast)

theorem feeOf_applicationFeeAmount
    (h : applicationFeeAmount beyond amount basisPoints currency provider = .ok fee) :
    ∃ charge scale quantum, toMinorUnits beyond amount currency provider = .ok charge ∧
      currencyUnits beyond currency provider = .ok (scale, quantum) ∧
      FeeOf charge basisPoints quantum fee := by
  obtain ⟨charge, scale, quantum, hcharge, hunits, hrate, rfl⟩ := applicationFeeAmount_ok.mp h
  obtain ⟨scale', quantum', hunits', hconverted⟩ := converted_of_toMinorUnits hcharge
  obtain ⟨rfl, rfl⟩ : scale = scale' ∧ quantum = quantum' := by
    simpa using hunits.symm.trans hunits'
  exact ⟨charge, scale, quantum, hcharge, hunits,
    feeOf_min (Int.le_of_lt hconverted.positive) hconverted.multiple hconverted.quantum_pos hrate⟩

theorem applicationFeeAmount_mono {amount' : Option Rat} {charge' fee' : Int}
    (hcharge : toMinorUnits beyond amount currency provider = .ok charge)
    (hcharge' : toMinorUnits beyond amount' currency provider = .ok charge')
    (hfee : applicationFeeAmount beyond amount basisPoints currency provider = .ok fee)
    (hfee' : applicationFeeAmount beyond amount' basisPoints currency provider = .ok fee')
    (hle : charge ≤ charge') : fee ≤ fee' := by
  obtain ⟨c, scale, quantum, hc, hunits, hrate, rfl⟩ := applicationFeeAmount_ok.mp hfee
  obtain ⟨c', scale', quantum', hc', hunits', -, rfl⟩ := applicationFeeAmount_ok.mp hfee'
  obtain rfl : charge = c := Except.ok.inj (hcharge.symm.trans hc)
  obtain rfl : charge' = c' := Except.ok.inj (hcharge'.symm.trans hc')
  obtain ⟨rfl, rfl⟩ : scale = scale' ∧ quantum = quantum' := by
    simpa using hunits.symm.trans hunits'
  obtain ⟨_, _, _, hconverted⟩ := converted_of_toMinorUnits hcharge
  have hmono := uncappedFee_mono (Int.le_of_lt hconverted.positive) hrate
    (units_of_currency hunits).2 hle
  omega

end Fees

section Creation

variable {beyond : List Char → Nat → List Char}
  {s t : State} {request : ChargeRequest} {charging : Bool} {row : Payment}

theorem mem_createPayment {source : PaymentSource} {fee : Nat}
    (h : createPayment s request charging (some source) (.ok fee) = .ok t)
    (hrow : row ∈ t.payments) :
    row ∈ s.payments ∨ (row.amount = request.amount ∧ row.currency = request.currency ∧
      row.provider = source.vendor ∧ row.stripeApplicationFeeAmount = fee) := by
  simp only [createPayment, bind_ok, pure_ok] at h
  obtain ⟨-, -, resolved, hresolved, feeAmount, hfee, _, hcreated, rfl⟩ := h
  obtain rfl : source = resolved := by simpa using hresolved
  obtain rfl : fee = feeAmount := by simpa [Except.mapError] using hfee
  obtain ⟨hnew, rfl⟩ := insertPayment_ok hcreated
  rcases (Table.mem_insert hnew).mp hrow with hold | rfl
  · exact .inl hold
  · exact .inr ⟨rfl, rfl, rfl, rfl⟩

theorem createPricedPayment_validates {amount : Option Rat} {source : Option PricedSource}
    (h : createPricedPayment beyond s request amount charging source = .ok t)
    (hrow : row ∈ t.payments) :
    row ∈ s.payments ∨ ∃ charge, validatePaymentAmount beyond row = .ok charge := by
  simp only [createPricedPayment, bind_ok, orRefuse_ok, mapError_eq_ok] at h
  obtain ⟨-, -, _, -, _, _, _, _, fee, hfee, hcreate⟩ := h
  rcases mem_createPayment hcreate hrow with hold | ⟨hamount, hsame, hprovider, hstored⟩
  · exact .inl hold
  obtain ⟨charge, scale, quantum, hcharge, hunits, hfeeOf⟩ := feeOf_applicationFeeAmount hfee
  have hnonneg := hfeeOf.nonneg
  have hmost := hfeeOf.le_charge
  have hcast : (row.stripeApplicationFeeAmount : Int) = fee := by
    rw [hstored]
    exact Int.toNat_of_nonneg hnonneg
  refine .inr ⟨charge, ?_⟩
  simp only [validatePaymentAmount, bind_ok, require_ok, exists_const, pure_ok, Prod.exists]
  rw [hamount, hsame, hprovider, hcast]
  exact ⟨charge, hcharge, scale, quantum, hunits, ⟨hnonneg, hmost, hfeeOf.multiple⟩, rfl⟩

/-- Minor units are exact and injective, fees are nearest multiples within the charge and monotone,
and stored payments are valid. -/
theorem payment_amounts (beyond : List Char → Nat → List Char) :
    (∀ payment charge, validatePaymentAmount beyond payment = .ok charge → ∃ scale quantum,
        currencyUnits beyond payment.currency payment.provider = .ok (scale, quantum) ∧
        toMinorUnits beyond (ofHundredths payment.amount) payment.currency payment.provider =
          .ok charge) ∧
    (∀ amount currency provider minor, toMinorUnits beyond amount currency provider = .ok minor →
      ∃ scale quantum, currencyUnits beyond currency provider = .ok (scale, quantum) ∧
        0 < scale ∧ amount = some ((minor : Rat) / scale)) ∧
    (∀ amount amount' currency provider minor,
      toMinorUnits beyond amount currency provider = .ok minor →
      toMinorUnits beyond amount' currency provider = .ok minor → amount = amount') ∧
    (∀ amount basisPoints currency provider fee,
      applicationFeeAmount beyond amount basisPoints currency provider = .ok fee →
      ∃ charge scale quantum, toMinorUnits beyond amount currency provider = .ok charge ∧
        currencyUnits beyond currency provider = .ok (scale, quantum) ∧
        FeeOf charge basisPoints quantum fee) ∧
    (∀ amount amount' basisPoints currency provider charge charge' fee fee',
      toMinorUnits beyond amount currency provider = .ok charge →
      toMinorUnits beyond amount' currency provider = .ok charge' →
      applicationFeeAmount beyond amount basisPoints currency provider = .ok fee →
      applicationFeeAmount beyond amount' basisPoints currency provider = .ok fee' →
      charge ≤ charge' → fee ≤ fee') ∧
    (∀ s t request amount charging source,
      createPricedPayment beyond s request amount charging source = .ok t →
      ∀ row ∈ t.payments,
        row ∈ s.payments ∨ ∃ charge, validatePaymentAmount beyond row = .ok charge) := by
  refine ⟨?_, ?_, ?_, ?_, ?_, ?_⟩
  · intro payment charge h
    simp only [validatePaymentAmount, bind_ok, require_ok, exists_const, pure_ok, Prod.exists] at h
    obtain ⟨_, hminor, scale, quantum, hunits, -, rfl⟩ := h
    exact ⟨scale, quantum, hunits, hminor⟩
  · intro amount currency provider minor h
    obtain ⟨scale, quantum, hunits, hconverted⟩ := converted_of_toMinorUnits h
    exact ⟨scale, quantum, hunits, hconverted.scale_pos, hconverted.exact⟩
  · intro _ _ _ _ _ h h'
    exact toMinorUnits_injective h h'
  · intro _ _ _ _ _ h
    exact feeOf_applicationFeeAmount h
  · intro _ _ _ _ _ _ _ _ _ hcharge hcharge' hfee hfee' hle
    exact applicationFeeAmount_mono hcharge hcharge' hfee hfee' hle
  · intro _ _ _ _ _ _ h row hrow
    exact createPricedPayment_validates h hrow

/-- Ten kronur at five percent: a fee of one quantum. -/
theorem payment_amounts_of_kronur :
    toMinorUnits (fun _ _ => []) (some 10) "ISK" .stripe = .ok 1000 ∧
      applicationFeeAmount (fun _ _ => []) (some 10) 500 "ISK" .stripe = .ok 100 ∧
      ∃ scale quantum, currencyUnits (fun _ _ => []) "ISK" .stripe = .ok (scale, quantum) ∧
        0 < scale ∧ some (10 : Rat) = some (((1000 : Int) : Rat) / scale) := by
  have hminor : toMinorUnits (fun _ _ => []) (some 10) "ISK" .stripe = .ok 1000 := by
    decide +kernel
  have hfee : applicationFeeAmount (fun _ _ => []) (some 10) 500 "ISK" .stripe = .ok 100 := by
    decide +kernel
  have hexact := (payment_amounts fun _ _ => []).2.1 (some 10) "ISK" .stripe 1000 hminor
  exact ⟨hminor, hfee, hexact⟩

theorem fee_is_capped :
    toMinorUnits (fun _ _ => []) (some 10) "usd" .stripe = .ok 1000 ∧
      currencyUnits (fun _ _ => []) "usd" .stripe = .ok (100, 1) ∧
      applicationFeeAmount (fun _ _ => []) (some 10) 20000 "usd" .stripe = .ok 1000 ∧
      ¬ |((1000 : Int) : Rat) - ((1000 : Int) : Rat) * ((20000 : Int) : Rat) / 10000| ≤
        ((1 : Int) : Rat) / 2 := by
  refine ⟨by decide +kernel, by decide +kernel, by decide +kernel, ?_⟩
  norm_num

end Creation

end Amounts
end Payments
end SpaceWorks
