import SpaceWorks.Forms.Schema

/-!
# Answers to a form

`validate_answers` of `apps/forms_schema/validation.py`: raw answers, checked against a schema and
stored as a snapshot.  Floats and lower case beyond ASCII are parameters.
-/

namespace SpaceWorks
namespace Forms

open Checked List Option

variable {F : Type}

/-- The built-in operations on floats and on texts that the checks use. -/
structure Builtins (F : Type) where
  isFinite : F → Bool
  /-- `float(Decimal(raw))`, unless `Decimal` refuses the text. -/
  ofDecimal : String → Option F
  /-- The rule of `str.lower` for the characters beyond ASCII. -/
  lowerBeyond : List Char → Nat → List Char

variable (builtins : Builtins F)

/-- What is left after the integer part of `_JSON_NUMBER_RE`. -/
def integerPart : List Char → Option (List Char)
  | '0' :: rest => some rest
  | c :: rest => if c.isDigit then some (rest.dropWhile Char.isDigit) else none
  | [] => none

/-- The rest after the fraction of `_JSON_NUMBER_RE`. -/
def fractionPart : List Char → Option (List Char)
  | '.' :: c :: rest => if c.isDigit then some (rest.dropWhile Char.isDigit) else none
  | ['.'] => none
  | rest => some rest

/-- The exponent of `_JSON_NUMBER_RE` without its letter. -/
def exponentDigits (text : List Char) : Bool :=
  !text.isEmpty && text.all Char.isDigit

/-- The exponent of `_JSON_NUMBER_RE`, to the end. -/
def exponentPart : List Char → Bool
  | [] => true
  | c :: rest =>
    (c = 'e' || c = 'E') &&
      match rest with
      | '+' :: digits | '-' :: digits => exponentDigits digits
      | digits => exponentDigits digits

def jsonNumberRe (text : List Char) : Bool :=
  let unsigned := match text with
    | '-' :: rest => rest
    | rest => rest
  (((integerPart unsigned).bind fractionPart).map exponentPart).getD false

/-- `int` of the decimal of an integer text. -/
def integerOf : List Char → Int
  | '-' :: digits => -(Nat.ofDigitChars 10 digits 0 : Int)
  | digits => (Nat.ofDigitChars 10 digits 0 : Int)

/-- `_canonical_number`; `none` is its `ValueError`. -/
def canonicalNumber : Value F → Option (Value F)
  | .int n => some (.int n)
  | .float x => if builtins.isFinite x then some (.float x) else none
  | .str text =>
    let raw := Python.strip text
    if jsonNumberRe raw.toList then
      if raw.toList.all fun c => c ≠ '.' ∧ c ≠ 'e' ∧ c ≠ 'E' then
        some (.int (integerOf raw.toList))
      else (builtins.ofDecimal raw).bind fun converted =>
        if builtins.isFinite converted then some (.float converted) else none
    else none
  | _ => none

def daysInMonth (year month : Nat) : Nat :=
  if month = 2 then
    if year % 4 = 0 ∧ (year % 100 ≠ 0 ∨ year % 400 = 0) then 29 else 28
  else if month = 4 ∨ month = 6 ∨ month = 9 ∨ month = 11 then 30
  else 31

/-- The fields of a text that matches `[0-9]{4}-[0-9]{2}-[0-9]{2}`. -/
def dateFields : List Char → Option (Nat × Nat × Nat)
  | [y₁, y₂, y₃, y₄, '-', m₁, m₂, '-', d₁, d₂] =>
    if [y₁, y₂, y₃, y₄, m₁, m₂, d₁, d₂].all Char.isDigit then
      some (Nat.ofDigitChars 10 [y₁, y₂, y₃, y₄] 0, Nat.ofDigitChars 10 [m₁, m₂] 0,
        Nat.ofDigitChars 10 [d₁, d₂] 0)
    else none
  | _ => none

/-- The fields make a date that `date.fromisoformat` takes. -/
def realDate (fields : Nat × Nat × Nat) : Bool :=
  1 ≤ fields.1 && 1 ≤ fields.2.1 && fields.2.1 ≤ 12 && 1 ≤ fields.2.2
    && fields.2.2 ≤ daysInMonth fields.1 fields.2.1

def textLimit : QuestionType → Nat
  | .shortText => 500
  | _ => 5000

/-- `_canonical_answer` of a text question. -/
def canonicalText (type : QuestionType) : Value F → Except String (Value F)
  | .str text => do
    let text := Python.strip text
    require (text.length ≤ textLimit type) s!"Must be at most {textLimit type} characters."
    return .str text
  | _ => .error "Must be a string."

def canonicalDate : Value F → Except String (Value F)
  | .str text => do
    let fields ← orRefuse (dateFields text.toList) "Must be a date in YYYY-MM-DD format."
    require (realDate fields) "Must be a real calendar date."
    return .str text
  | _ => .error "Must be a date in YYYY-MM-DD format."

def canonicalChoice (options : List String) : Value F → Except String (Value F)
  | .str text => do
    require (text ∈ options) "Must be one of the configured choices."
    return .str text
  | _ => .error "Must be one of the configured choices."

def Value.text? : Value F → Option String
  | .str text => some text
  | _ => none

def canonicalChoices (options : List String) : Value F → Except String (Value F)
  | .list items => do
    let chosen ← orRefuse (items.mapM Value.text?) "Must be an array of configured choices."
    require chosen.Nodup "Choices must not be repeated."
    require (∀ item ∈ chosen, item ∈ options) "Must contain only configured choices."
    return .list ((options.filter fun option => option ∈ chosen).map .str)
  | _ => .error "Must be an array of configured choices."

def canonicalYesNo : Value F → Except String (Value F)
  | .bool value => .ok (.bool value)
  | .str text =>
    let normalized := Python.lowerText builtins.lowerBeyond (Python.strip text)
    if normalized ∈ ["yes", "true"] then .ok (.bool true)
    else if normalized ∈ ["no", "false"] then .ok (.bool false)
    else .error "Must be yes or no."
  | _ => .error "Must be yes or no."

def canonicalAnswer (question : Question) (value : Value F) : Except String (Value F) :=
  match question.type with
  | .shortText | .paragraph => canonicalText question.type value
  | .number => orRefuse (canonicalNumber builtins value) "Must be a finite number."
  | .date => canonicalDate value
  | .singleChoice | .dropdown => canonicalChoice question.options value
  | .multiChoice => canonicalChoices question.options value
  | .yesNo => canonicalYesNo builtins value

def isUnanswered : Option (Value F) → Bool
  | none => true
  | some .null => true
  | some (.str text) => Python.strip text = ""
  | some (.list items) => items.isEmpty
  | some _ => false

/-- One turn of `validate_answers`. -/
def answerOf (raw : List (String × Value F)) (question : Question) :
    Except String (Option (Value F)) :=
  match get? raw question.id with
  | none => do
    require (¬ question.required) "This question is required."
    return none
  | some value =>
    if isUnanswered (some value) then do
      require (¬ question.required) "This question is required."
      return none
    else do
      let canonical ← canonicalAnswer builtins question value
      return some canonical

structure Answer (F : Type) where
  id : String
  label : String
  type : QuestionType
  value : Value F

structure Snapshot (F : Type) where
  version : Nat := 1
  answers : List (Answer F)

inductive AnswersError
  | schema (messages : List String)
  | notObject (message : String)
  | fields (errors : List (String × String))

def entryOf (raw : List (String × Value F)) (question : Question) : Option (Answer F) :=
  match answerOf builtins raw question with
  | .ok (some value) =>
    some { id := question.id, label := question.label, type := question.type, value := value }
  | _ => none

def errorOf (raw : List (String × Value F)) (question : Question) : Option (String × String) :=
  match answerOf builtins raw question with
  | .ok _ => none
  | .error message => some (question.id, message)

def unknownErrors (questions : List Question) (raw : List (String × Value F)) :
    List (String × String) :=
  (raw.filter fun entry => entry.1 ∉ questions.map Question.id).map
    fun entry => (entry.1, "Unknown question ID.")

def answerQuestions (questions : List Question) (raw : List (String × Value F)) :
    Except AnswersError (Option (Snapshot F)) := do
  let errors := unknownErrors questions raw ++ questions.filterMap (errorOf builtins raw)
  require (errors = []) (.fields errors)
  let answers := questions.filterMap (entryOf builtins raw)
  if answers.isEmpty then return none
  else return some { answers }

/-- The entries of the raw answers; `None` counts as no answers. -/
def rawEntries : Value F → Except AnswersError (List (String × Value F))
  | .null => .ok []
  | .dict entries => .ok entries
  | _ => .error (.notObject "Must be an object or null.")

def validateAnswers (schema raw : Value F) : Except AnswersError (Option (Snapshot F)) := do
  let canonical ← (validateFormSchema schema).mapError fun message => .schema [message]
  let entries ← rawEntries raw
  answerQuestions builtins (canonical.getD []) entries

def canonicalAnswers : Option (Snapshot F) → Value F
  | none => .null
  | some snapshot => .dict (snapshot.answers.map fun answer => (answer.id, answer.value))

variable {builtins : Builtins F} {question : Question} {value canonical : Value F}

inductive Fits (builtins : Builtins F) (question : Question) : Value F → Prop
  | text {text : String} (htype : question.type = .shortText ∨ question.type = .paragraph)
      (hstripped : Python.strip text = text) (hne : text ≠ "")
      (hlength : text.length ≤ textLimit question.type) : Fits builtins question (.str text)
  | int (htype : question.type = .number) (n : Int) : Fits builtins question (.int n)
  | float {x : F} (htype : question.type = .number) (hfinite : builtins.isFinite x = true) :
      Fits builtins question (.float x)
  | date {text : String} {fields : Nat × Nat × Nat}
      (htype : question.type = .date) (hne : Python.strip text ≠ "")
      (hfields : dateFields text.toList = some fields) (hreal : realDate fields = true) :
      Fits builtins question (.str text)
  | choice {text : String} (htype : question.type = .singleChoice ∨ question.type = .dropdown)
      (hmem : text ∈ question.options) : Fits builtins question (.str text)
  | choices {chosen : List String}
      (htype : question.type = .multiChoice) (hne : chosen ≠ []) (hdistinct : chosen.Nodup)
      (horder : question.options.filter (fun option => option ∈ chosen) = chosen) :
      Fits builtins question (.list (chosen.map .str))
  | yesNo (htype : question.type = .yesNo) (answer : Bool) : Fits builtins question (.bool answer)

theorem mapM_text? {items : List (Value F)} {chosen : List String}
    (h : items.mapM Value.text? = some chosen) : items = chosen.map .str := by
  induction items generalizing chosen with
  | nil =>
    obtain rfl : [] = chosen := by simpa using h
    rfl
  | cons item =>
    simp [bind_eq_some_iff] at h
    obtain ⟨_, _, _, _, rfl⟩ := h
    cases item <;> simp_all [Value.text?]

theorem mapM_text?_map (chosen : List String) :
    (chosen.map (Value.str (F := F))).mapM Value.text? = some chosen := by
  induction chosen with
  | nil => rfl
  | cons _ _ ih => simp [ih, Value.text?]

theorem fits_of_text (htype : question.type = .shortText ∨ question.type = .paragraph)
    (hanswered : isUnanswered (some value) = false)
    (h : canonicalText question.type value = .ok canonical) : Fits builtins question canonical := by
  unfold canonicalText at h
  split at h
  · simp at h
    obtain ⟨hlength, rfl⟩ := h
    simp [isUnanswered] at hanswered
    exact .text htype (Python.strip_strip _) hanswered hlength
  · cases h

theorem fits_of_number (htype : question.type = .number)
    (h : canonicalNumber builtins value = some canonical) : Fits builtins question canonical := by
  unfold canonicalNumber at h
  split at h
  · cases h
    exact .int htype _
  · split at h
    · next hfinite =>
        cases h
        exact .float htype hfinite
    · cases h
  · dsimp only at h
    split at h
    · split at h
      · cases h
        exact .int htype _
      · obtain ⟨_, -, hx⟩ := bind_eq_some_iff.mp h
        split at hx
        · next hfinite =>
            cases hx
            exact .float htype hfinite
        · cases hx
    · cases h
  · cases h

theorem fits_of_date (htype : question.type = .date) (hanswered : isUnanswered (some value) = false)
    (h : canonicalDate value = .ok canonical) : Fits builtins question canonical := by
  unfold canonicalDate at h
  split at h
  · simp only [bind_ok, orRefuse_ok, require_ok, pure_ok, exists_const] at h
    obtain ⟨_, hfields, hreal, rfl⟩ := h
    simp [isUnanswered] at hanswered
    exact .date htype hanswered hfields hreal
  · cases h

theorem fits_of_choice (htype : question.type = .singleChoice ∨ question.type = .dropdown)
    (h : canonicalChoice question.options value = .ok canonical) :
    Fits builtins question canonical := by
  unfold canonicalChoice at h
  split at h
  · simp at h
    obtain ⟨hmem, rfl⟩ := h
    exact .choice htype hmem
  · cases h

theorem fits_of_choices (hquestion : Canonical question) (htype : question.type = .multiChoice)
    (hanswered : isUnanswered (some value) = false)
    (h : canonicalChoices question.options value = .ok canonical) :
    Fits builtins question canonical := by
  unfold canonicalChoices at h
  split at h
  · next items =>
      simp at h
      obtain ⟨chosen, hitems, -, hknown, rfl⟩ := h
      obtain rfl := mapM_text? hitems
      refine .choices htype ?_ (hquestion.distinct.filter _) ?_
      · cases chosen with
        | nil => simp [isUnanswered] at hanswered
        | cons first =>
          refine ne_nil_of_mem (a := first) (mem_filter.mpr ⟨?_, by simp⟩)
          exact hknown first mem_cons_self
      · refine filter_congr fun option hoption => ?_
        simp [hoption]
  · cases h

theorem fits_of_yesNo (htype : question.type = .yesNo)
    (h : canonicalYesNo builtins value = .ok canonical) : Fits builtins question canonical := by
  unfold canonicalYesNo at h
  split at h
  · cases h
    exact .yesNo htype _
  · dsimp only at h
    split at h
    · cases h
      exact .yesNo htype true
    · split at h
      · cases h
        exact .yesNo htype false
      · cases h
  · cases h

theorem fits_of_canonicalAnswer
    (hquestion : Canonical question) (hanswered : isUnanswered (some value) = false)
    (h : canonicalAnswer builtins question value = .ok canonical) :
    Fits builtins question canonical := by
  unfold canonicalAnswer at h
  cases htype : question.type with
  | shortText =>
    exact fits_of_text (.inl htype) hanswered (htype ▸ h)
  | paragraph =>
    exact fits_of_text (.inr htype) hanswered (htype ▸ h)
  | number =>
    rw [htype] at h
    exact fits_of_number htype (orRefuse_ok.mp h)
  | date =>
    rw [htype] at h
    exact fits_of_date htype hanswered h
  | singleChoice =>
    rw [htype] at h
    exact fits_of_choice (.inl htype) h
  | dropdown =>
    rw [htype] at h
    exact fits_of_choice (.inr htype) h
  | multiChoice =>
    rw [htype] at h
    exact fits_of_choices hquestion htype hanswered h
  | yesNo =>
    rw [htype] at h
    exact fits_of_yesNo htype h

theorem canonicalAnswer_of_fits
    (hquestion : Canonical question) (h : Fits builtins question value) :
    canonicalAnswer builtins question value = .ok value ∧ isUnanswered (some value) = false := by
  cases h with
  | text htype hstripped hne hlength =>
    refine ⟨?_, by simpa [isUnanswered, hstripped] using hne⟩
    rcases htype with htype | htype <;> rw [htype] at hlength <;>
      simp [canonicalAnswer, htype, canonicalText, hstripped, require, hlength]
  | int htype => simp [canonicalAnswer, htype, canonicalNumber, isUnanswered]
  | float htype hfinite => simp [canonicalAnswer, htype, canonicalNumber, hfinite, isUnanswered]
  | date htype hne hfields hreal =>
    simp [canonicalAnswer, htype, canonicalDate, hfields, hreal, isUnanswered, hne]
  | choice htype hmem =>
    have htrimmed := hquestion.options _ hmem
    refine ⟨?_, by simpa [isUnanswered, htrimmed.stripped] using htrimmed.nonempty⟩
    rcases htype with htype | htype <;>
      simp [canonicalAnswer, htype, canonicalChoice, require, hmem]
  | @choices chosen htype hne hdistinct horder =>
    refine ⟨?_, by simpa [isUnanswered] using hne⟩
    have hknown : ∀ item ∈ chosen, item ∈ question.options := by
      intro item hitem
      rw [← horder] at hitem
      exact mem_of_mem_filter hitem
    simp only [canonicalAnswer, htype, canonicalChoices, bind_ok, orRefuse_ok,
      require_ok, pure_ok, exists_const]
    exact ⟨chosen, mapM_text?_map chosen, hdistinct, hknown, by rw [horder]⟩
  | yesNo htype => simp [canonicalAnswer, htype, canonicalYesNo, isUnanswered]

variable {raw : List (String × Value F)} {questions : List Question}

theorem get?_eq_none {entries : List (String × Value F)} {name : String}
    (h : ∀ entry ∈ entries, entry.1 ≠ name) : get? entries name = none := by
  unfold get?
  rw [find?_eq_none.mpr fun entry hentry => by simpa using h entry hentry]
  rfl

theorem entryOf_id {question : Question} {answer : Answer F}
    (h : entryOf builtins raw question = some answer) :
    answer.id = question.id ∧ answer.label = question.label ∧ answer.type = question.type ∧
      answerOf builtins raw question = .ok (some answer.value) := by
  unfold entryOf at h
  split at h
  · next value hanswer =>
      cases h
      exact ⟨rfl, rfl, rfl, hanswer⟩
  · cases h

def storedEntries (answers : List (Answer F)) : List (String × Value F) :=
  answers.map fun answer => (answer.id, answer.value)

theorem get?_storedEntries (hdistinct : (questions.map Question.id).Nodup) {question : Question}
    (hquestion : question ∈ questions) :
    get? (storedEntries (questions.filterMap (entryOf builtins raw))) question.id =
      (entryOf builtins raw question).map Answer.value := by
  induction questions with
  | nil => cases hquestion
  | cons first rest ih =>
    rw [map_cons, nodup_cons] at hdistinct
    obtain ⟨hnew, hrest⟩ := hdistinct
    have hkeys : ∀ entry ∈ storedEntries (rest.filterMap (entryOf builtins raw)),
        entry.1 ∈ rest.map Question.id := by
      intro entry hentry
      obtain ⟨_, hanswer, rfl⟩ := mem_map.mp hentry
      obtain ⟨other, hother, hentryOf⟩ := mem_filterMap.mp hanswer
      exact mem_map.mpr ⟨other, hother, (entryOf_id hentryOf).1.symm⟩
    cases hfirst : entryOf builtins raw first with
    | none =>
      rw [filterMap_cons_none hfirst]
      rcases mem_cons.mp hquestion with rfl | hquestion
      · rw [hfirst, map_none]
        exact get?_eq_none fun entry hentry heq => hnew (heq ▸ hkeys entry hentry)
      · exact ih hrest hquestion
    | some answer =>
      have hid := (entryOf_id hfirst).1
      rw [filterMap_cons_some hfirst, storedEntries, map_cons]
      rcases mem_cons.mp hquestion with rfl | hquestion
      · rw [hfirst]
        simp [get?, hid]
      · have hne : answer.id ≠ question.id := by
          intro heq
          exact hnew (mem_map.mpr ⟨question, hquestion, (hid.symm.trans heq).symm⟩)
        rw [← ih hrest hquestion]
        simp [get?, hne, storedEntries]

variable {snapshot : Option (Snapshot F)} {stored : Option (Value F)}

def answersOf : Option (Snapshot F) → List (Answer F)
  | none => []
  | some snapshot => snapshot.answers

structure Conforms (builtins : Builtins F) (questions : List Question)
    (raw : List (String × Value F)) (snapshot : Option (Snapshot F)) : Prop where
  known : ∀ entry ∈ raw, entry.1 ∈ questions.map Question.id
  order : ((answersOf snapshot).map Answer.id).Sublist (questions.map Question.id)
  fits : ∀ answer ∈ answersOf snapshot, ∃ question ∈ questions, answer.id = question.id ∧
    answer.label = question.label ∧ answer.type = question.type ∧
      Fits builtins question answer.value
  required : ∀ question ∈ questions, question.required = true →
    ∃ answer ∈ answersOf snapshot, answer.id = question.id

theorem answerQuestions_ok (h : answerQuestions builtins questions raw = .ok snapshot) :
    (∀ entry ∈ raw, entry.1 ∈ questions.map Question.id) ∧
      (∀ question ∈ questions, ∃ stored, answerOf builtins raw question = .ok stored) ∧
        answersOf snapshot = questions.filterMap (entryOf builtins raw) := by
  simp only [answerQuestions, bind_ok, require_ok, exists_const, append_eq_nil_iff] at h
  obtain ⟨⟨hunknown, hfailed⟩, hanswers⟩ := h
  refine ⟨fun entry hentry => ?_, fun question hquestion => ?_, ?_⟩
  · by_contra hnot
    rw [unknownErrors, map_eq_nil_iff, filter_eq_nil_iff] at hunknown
    exact hunknown entry hentry (by simpa using hnot)
  · have hnone := filterMap_eq_nil_iff.mp hfailed question hquestion
    unfold errorOf at hnone
    split at hnone
    · next stored hstored => exact ⟨stored, hstored⟩
    · cases hnone
  · split at hanswers
    · next hempty =>
        cases hanswers
        exact (List.isEmpty_iff.mp hempty).symm
    · cases hanswers
      rfl

theorem answerOf_ok
    (hquestion : Canonical question) (h : answerOf builtins raw question = .ok stored) :
    (stored = none → question.required = false) ∧
      ∀ value, stored = some value → Fits builtins question value := by
  unfold answerOf at h
  split at h
  · simp at h
    obtain ⟨hrequired, rfl⟩ := h
    exact ⟨fun _ => by simpa using hrequired, fun value hvalue => by cases hvalue⟩
  · next value hget =>
      split at h
      · simp at h
        obtain ⟨hrequired, rfl⟩ := h
        exact ⟨fun _ => by simpa using hrequired, fun value hvalue => by cases hvalue⟩
      · next hanswered =>
          simp at h
          obtain ⟨canonical, hcanonical, rfl⟩ := h
          refine ⟨fun hnone => absurd hnone (some_ne_none _), fun value hvalue => ?_⟩
          obtain rfl : canonical = value := some.inj hvalue
          exact fits_of_canonicalAnswer hquestion (by simpa using hanswered) hcanonical

theorem conforms_of_answerQuestions (hcanonical : ∀ question ∈ questions, Canonical question)
    (h : answerQuestions builtins questions raw = .ok snapshot) :
    Conforms builtins questions raw snapshot := by
  obtain ⟨hknown, hstored, hanswers⟩ := answerQuestions_ok h
  refine ⟨hknown, ?_, fun answer hanswer => ?_, fun question hquestion hrequired => ?_⟩
  · rw [hanswers]
    clear hknown hstored hanswers h hcanonical
    induction questions with
    | nil => exact List.Sublist.slnil
    | cons first _ ih =>
      cases hfirst : entryOf builtins raw first with
      | none =>
        rw [filterMap_cons_none hfirst]
        exact ih.cons _
      | some =>
        rw [filterMap_cons_some hfirst, map_cons, (entryOf_id hfirst).1]
        exact ih.cons_cons _
  · rw [hanswers] at hanswer
    obtain ⟨question, hquestion, hentry⟩ := mem_filterMap.mp hanswer
    obtain ⟨hid, hlabel, htype, hanswerOf⟩ := entryOf_id hentry
    exact ⟨question, hquestion, hid, hlabel, htype,
      (answerOf_ok (hcanonical question hquestion) hanswerOf).2 _ rfl⟩
  · obtain ⟨stored, hanswerOf⟩ := hstored question hquestion
    cases stored with
    | none =>
      have hoptional := (answerOf_ok (hcanonical question hquestion) hanswerOf).1 rfl
      rw [hrequired] at hoptional
      cases hoptional
    | some value =>
      rw [hanswers]
      refine ⟨⟨question.id, question.label, question.type, value⟩, ?_, rfl⟩
      refine mem_filterMap.mpr ⟨question, hquestion, ?_⟩
      rw [entryOf, hanswerOf]

theorem answerOf_storedEntries (hdistinct : (questions.map Question.id).Nodup)
    (hcanonical : ∀ question ∈ questions, Canonical question) (hquestion : question ∈ questions)
    (h : answerOf builtins raw question = .ok stored) :
    answerOf builtins (storedEntries (questions.filterMap (entryOf builtins raw))) question =
      .ok stored := by
  have hget : get? (storedEntries (questions.filterMap (entryOf builtins raw))) question.id =
      (entryOf builtins raw question).map Answer.value :=
    get?_storedEntries hdistinct hquestion
  obtain ⟨hoptional, hfits⟩ := answerOf_ok (hcanonical question hquestion) h
  cases stored with
  | none =>
    rw [entryOf, h] at hget
    rw [answerOf, hget]
    simp [hoptional rfl]
  | some value =>
    obtain ⟨hagain, hanswered⟩ :=
      canonicalAnswer_of_fits (hcanonical question hquestion) (hfits value rfl)
    rw [entryOf, h] at hget
    rw [answerOf, hget]
    simp [hanswered, hagain]

theorem answerQuestions_again (hdistinct : (questions.map Question.id).Nodup)
    (hcanonical : ∀ question ∈ questions, Canonical question)
    (h : answerQuestions builtins questions raw = .ok snapshot) :
    answerQuestions builtins questions (storedEntries (answersOf snapshot)) = .ok snapshot := by
  obtain ⟨-, hstored, hanswers⟩ := answerQuestions_ok h
  have hconforms := conforms_of_answerQuestions hcanonical h
  have hsame : ∀ question ∈ questions,
      answerOf builtins (storedEntries (answersOf snapshot)) question =
        answerOf builtins raw question := by
    intro question hquestion
    obtain ⟨_, hanswerOf⟩ := hstored question hquestion
    rw [hanswers, hanswerOf]
    exact answerOf_storedEntries hdistinct hcanonical hquestion hanswerOf
  have hentries : questions.filterMap (entryOf builtins (storedEntries (answersOf snapshot))) =
      questions.filterMap (entryOf builtins raw) :=
    filterMap_congr fun question hquestion => by
      rw [entryOf, entryOf, hsame question hquestion]
  have herrors : questions.filterMap (errorOf builtins (storedEntries (answersOf snapshot))) =
      questions.filterMap (errorOf builtins raw) :=
    filterMap_congr fun question hquestion => by
      rw [errorOf, errorOf, hsame question hquestion]
  have hknown : unknownErrors questions (storedEntries (answersOf snapshot)) = [] := by
    rw [unknownErrors, map_eq_nil_iff, filter_eq_nil_iff]
    intro entry hentry
    obtain ⟨_, hanswer, rfl⟩ := mem_map.mp hentry
    have hmem := hconforms.order.subset (mem_map_of_mem (f := Answer.id) hanswer)
    simpa using hmem
  have hraw : unknownErrors questions raw = [] := by
    simp [answerQuestions] at h
    exact h.1.1
  rw [← h]
  unfold answerQuestions
  rw [hentries, herrors, hknown, hraw]

variable {value schema raw : Value F}

theorem questions_of_validateFormSchema {canonical : Option (List Question)}
    (h : validateFormSchema value = .ok canonical) :
    (∀ question ∈ canonical.getD [], Canonical question) ∧
      ((canonical.getD []).map Question.id).Nodup := by
  unfold validateFormSchema at h
  split at h
  · cases h
    exact ⟨by simp, nodup_nil⟩
  · cases h
    exact ⟨by simp, nodup_nil⟩
  · simp only [bind_ok, pure_ok] at h
    obtain ⟨-, -, _, hloop, rfl⟩ := h
    obtain ⟨hcanonical, hdistinct, -⟩ := canonicalQuestions_spec hloop
    exact ⟨hcanonical, hdistinct⟩
  · cases h

theorem canonicalAnswers_entries (snapshot : Option (Snapshot F)) :
    rawEntries (canonicalAnswers snapshot) = .ok (storedEntries (answersOf snapshot)) := by
  cases snapshot <;> rfl

/-- An accepted form is canonical, and an accepted snapshot conforms to it and is that of its own
answers. -/
theorem forms_validated (builtins : Builtins F) :
    (∀ (value : Value F) canonical, validateFormSchema value = .ok canonical →
      validateFormSchema (schemaValue F canonical) = .ok canonical) ∧
    ∀ (schema raw : Value F) snapshot, validateAnswers builtins schema raw = .ok snapshot →
      ∃ canonical entries, validateFormSchema schema = .ok canonical ∧
        rawEntries raw = .ok entries ∧
        Conforms builtins (canonical.getD []) entries snapshot ∧
        validateAnswers builtins schema (canonicalAnswers snapshot) = .ok snapshot ∧
        validateAnswers builtins (schemaValue F canonical) (canonicalAnswers snapshot) =
          .ok snapshot := by
  refine ⟨fun value canonical h => validateFormSchema_canonical h, fun schema raw snapshot h => ?_⟩
  simp [validateAnswers] at h
  obtain ⟨canonical, hschema, entries, hentries, hanswers⟩ := h
  obtain ⟨hcanonical, hdistinct⟩ := questions_of_validateFormSchema hschema
  have hagain := answerQuestions_again hdistinct hcanonical hanswers
  refine ⟨canonical, entries, hschema, hentries,
    conforms_of_answerQuestions hcanonical hanswers, ?_, ?_⟩
  · simp only [validateAnswers, bind_ok, mapError_eq_ok]
    exact ⟨canonical, hschema, _, canonicalAnswers_entries snapshot, hagain⟩
  · simp only [validateAnswers, bind_ok, mapError_eq_ok]
    exact ⟨canonical, validateFormSchema_canonical hschema, _, canonicalAnswers_entries snapshot,
      hagain⟩

/-- Floats as the numbers that texts of integers would give. -/
def wholeFloats : Builtins Int where
  isFinite _ := true
  ofDecimal _ := none
  lowerBeyond text n := (text[n]?).toList

def shirtForm : Value Int :=
  .list [.dict [("id", .str "size"), ("label", .str " Size "), ("type", .str "multi_choice"),
      ("options", .list [.str "S", .str " M"]), ("required", .bool true)],
    .dict [("id", .str "remark"), ("label", .str "Remark"), ("type", .str "short_text"),
      ("options", .list []), ("required", .bool false)]]

def shirtAnswers : Value Int :=
  .dict [("size", .list [.str "M", .str "S"]), ("remark", .str " ")]

theorem shirtForm_validated :
    (validateAnswers wholeFloats shirtForm shirtAnswers).isOk = true ∧
      ∀ snapshot, validateAnswers wholeFloats shirtForm shirtAnswers = .ok snapshot →
        validateAnswers wholeFloats shirtForm (canonicalAnswers snapshot) = .ok snapshot := by
  refine ⟨by decide +kernel, fun snapshot h => ?_⟩
  obtain ⟨_, _, -, -, -, hagain, -⟩ :=
    (forms_validated wholeFloats).2 shirtForm shirtAnswers snapshot h
  exact hagain

end Forms
end SpaceWorks
