import Mathlib.Data.List.Dedup
import Mathlib.Data.List.Sort
import SpaceWorks.Library.Checked
import SpaceWorks.Library.Python

/-!
# Form schemas

`validate_form_schema` of `apps/forms_schema/validation.py`, which returns a list of questions in
canonical form.
-/

namespace SpaceWorks
namespace Forms

open Checked List

inductive Value (F : Type) : Type
  | null
  | bool (value : Bool)
  | int (value : Int)
  | float (value : F)
  | str (value : String)
  | list (items : List (Value F))
  | dict (entries : List (String × Value F))

inductive QuestionType
  | shortText
  | paragraph
  | number
  | date
  | singleChoice
  | multiChoice
  | dropdown
  | yesNo
  deriving DecidableEq

namespace QuestionType

def text : QuestionType → String
  | .shortText => "short_text"
  | .paragraph => "paragraph"
  | .number => "number"
  | .date => "date"
  | .singleChoice => "single_choice"
  | .multiChoice => "multi_choice"
  | .dropdown => "dropdown"
  | .yesNo => "yes_no"

def allowed : List QuestionType :=
  [.shortText, .paragraph, .number, .date, .singleChoice, .multiChoice, .dropdown, .yesNo]

def ofText? (text : String) : Option QuestionType :=
  allowed.find? fun type => type.text = text

def choice : QuestionType → Bool
  | .singleChoice | .multiChoice | .dropdown => true
  | _ => false

theorem ofText?_text (type : QuestionType) : ofText? type.text = some type := by
  cases type <;> decide

end QuestionType

structure Question where
  id : String
  label : String
  type : QuestionType
  options : List String
  required : Bool

variable {F : Type}

def questionKeys : List String := ["id", "label", "options", "required", "type"]

def get? (entries : List (String × Value F)) (name : String) : Option (Value F) :=
  (entries.find? fun entry => entry.1 = name).map Prod.snd

def schemaError (index : Nat) (field message : String) : String :=
  s!"Question {index + 1} ({field}): {message}"

/-- The detail of a question with other keys than `QUESTION_KEYS`. -/
def keysDetail (names : List String) : String :=
  let missing := questionKeys.filter fun name => name ∉ names
  let unknown := (names.filter fun name => name ∉ questionKeys).dedup.insertionSort (· ≤ ·)
  "; ".intercalate
    ((if missing = [] then [] else ["missing keys: " ++ ", ".intercalate missing])
      ++ (if unknown = [] then [] else ["unknown keys: " ++ ", ".intercalate unknown]))

def isIdChar (c : Char) : Bool :=
  ('A' ≤ c && c ≤ 'Z') || ('a' ≤ c && c ≤ 'z') || ('0' ≤ c && c ≤ '9') || c = '_' || c = '-'

def questionIdRe (text : String) : Bool :=
  text.toList.all isIdChar && decide (1 ≤ text.length) && decide (text.length ≤ 64)

/-- The checks of a question's `id`. -/
def canonicalId (index : Nat) (seenIds : List String) : Option (Value F) → Except String String
  | some (.str id) => do
    require (questionIdRe id)
      (schemaError index "id" "Use 1-64 letters, numbers, underscores, or hyphens.")
    require (id ∉ seenIds) (schemaError index "id" "Question IDs must be unique.")
    return id
  | _ => .error (schemaError index "id" "Use 1-64 letters, numbers, underscores, or hyphens.")

/-- The checks of a question's `label`. -/
def canonicalLabel (index : Nat) : Option (Value F) → Except String String
  | some (.str label) => do
    let label := Python.strip label
    require (label ≠ "" ∧ label.length ≤ 200)
      (schemaError index "label" "Must contain 1-200 characters.")
    return label
  | _ => .error (schemaError index "label" "Must be a string.")

def canonicalType (index : Nat) : Option (Value F) → Except String QuestionType
  | some (.str text) =>
    orRefuse (QuestionType.ofText? text) (schemaError index "type" "Unsupported question type.")
  | _ => .error (schemaError index "type" "Unsupported question type.")

/-- The check of a question's `required`. -/
def canonicalRequired (index : Nat) : Option (Value F) → Except String Bool
  | some (.bool required) => .ok required
  | _ => .error (schemaError index "required" "Must be a JSON boolean.")

/-- One turn of the loop over the options of a choice question. -/
def addOption (index : Nat) (canonicalOptions : List String) :
    Value F → Except String (List String)
  | .str option => do
    let option := Python.strip option
    require (option ≠ "" ∧ option.length ≤ 200)
      (schemaError index "options" "Every choice must contain 1-200 characters.")
    require (option ∉ canonicalOptions) (schemaError index "options" "Choices must be unique.")
    return canonicalOptions ++ [option]
  | _ => .error (schemaError index "options" "Every choice must be a string.")

def canonicalOptions (index : Nat) (type : QuestionType) :
    Option (Value F) → Except String (List String)
  | some (.list options) =>
    if type.choice then do
      require (1 ≤ options.length ∧ options.length ≤ 50)
        (schemaError index "options" "Must contain 1-50 choices.")
      options.foldlM (addOption index) []
    else do
      require (options.isEmpty) (schemaError index "options" "Must be empty for this question type.")
      return []
  | _ => .error (schemaError index "options" "Must be an array.")

def canonicalQuestion (index : Nat) (seenIds : List String) : Value F → Except String Question
  | .dict entries => do
    let names := entries.map Prod.fst
    require (names ⊆ questionKeys ∧ questionKeys ⊆ names)
      (schemaError index "question" (keysDetail names))
    let id ← canonicalId index seenIds (get? entries "id")
    let label ← canonicalLabel index (get? entries "label")
    let type ← canonicalType index (get? entries "type")
    let required ← canonicalRequired index (get? entries "required")
    let options ← canonicalOptions index type (get? entries "options")
    return { id, label, type, options, required }
  | _ => .error (schemaError index "question" "Must be an object.")

/-- The comprehension of `validate_form_schema`. -/
def canonicalQuestions : Nat → List String → List (Value F) → Except String (List Question)
  | _, _, [] => .ok []
  | index, seenIds, question :: rest => do
    let canonical ← canonicalQuestion index seenIds question
    let questions ← canonicalQuestions (index + 1) (seenIds ++ [canonical.id]) rest
    return canonical :: questions

def validateFormSchema : Value F → Except String (Option (List Question))
  | .null => .ok none
  | .list [] => .ok none
  | .list questions => do
    require (questions.length ≤ 50) "A custom form may contain at most 50 questions."
    let canonical ← canonicalQuestions 0 [] questions
    return some canonical
  | _ => .error "A custom form must be an array or null."

def Question.entries (F : Type) (question : Question) : List (String × Value F) :=
  [("id", .str question.id), ("label", .str question.label), ("type", .str question.type.text),
    ("options", .list (question.options.map .str)), ("required", .bool question.required)]

def Question.value (F : Type) (question : Question) : Value F :=
  .dict (question.entries F)

def schemaValue (F : Type) : Option (List Question) → Value F
  | none => .null
  | some questions => .list (questions.map (Question.value F))

variable {index : Nat} {seenIds options options' : List String} {values : List (Value F)}
variable {question : Question} {questions : List Question}

/-- A text that the checks of labels and options leave as it is. -/
structure Trimmed (text : String) : Prop where
  stripped : Python.strip text = text
  nonempty : text ≠ ""
  length : text.length ≤ 200

structure Canonical (question : Question) : Prop where
  id : questionIdRe question.id = true
  label : Trimmed question.label
  plain : question.type.choice = false → question.options = []
  count : question.type.choice = true → 1 ≤ question.options.length ∧ question.options.length ≤ 50
  options : ∀ option ∈ question.options, Trimmed option
  distinct : question.options.Nodup

theorem trimmed_strip {text : String}
    (h : Python.strip text ≠ "" ∧ (Python.strip text).length ≤ 200) :
    Trimmed (Python.strip text) :=
  ⟨Python.strip_strip text, h.1, h.2⟩

theorem canonicalId_ok {value : Option (Value F)}
    {id : String} (h : canonicalId index seenIds value = .ok id) :
    questionIdRe id = true ∧ id ∉ seenIds := by
  unfold canonicalId at h
  split at h
  · simp at h
    obtain ⟨hre, hnew, rfl⟩ := h
    exact ⟨hre, hnew⟩
  · cases h

theorem canonicalLabel_ok {value : Option (Value F)} {label : String}
    (h : canonicalLabel index value = .ok label) : Trimmed label := by
  unfold canonicalLabel at h
  split at h
  · simp at h
    obtain ⟨htrimmed, rfl⟩ := h
    exact trimmed_strip htrimmed
  · cases h

theorem addOption_ok {value : Value F} (h : addOption index options value = .ok options') :
    ∃ option, Trimmed option ∧ option ∉ options ∧ options' = options ++ [option] := by
  unfold addOption at h
  split at h
  · simp at h
    obtain ⟨htrimmed, hnew, rfl⟩ := h
    exact ⟨_, trimmed_strip htrimmed, hnew, rfl⟩
  · cases h

theorem addOption_trimmed {option : String} (h : Trimmed option) (hnew : option ∉ options) :
    addOption index options (.str option : Value F) = .ok (options ++ [option]) := by
  simp [addOption, h.stripped, h.nonempty, h.length, hnew]

theorem foldlM_addOption (hoptions : (∀ option ∈ options, Trimmed option) ∧ options.Nodup)
    (h : values.foldlM (addOption index) options = .ok options') :
    ((∀ option ∈ options', Trimmed option) ∧ options'.Nodup) ∧
      options'.length = options.length + values.length := by
  induction values generalizing options with
  | nil =>
    rw [foldlM_nil, pure_ok] at h
    subst h
    exact ⟨hoptions, rfl⟩
  | cons _ _ ih =>
    rw [foldlM_cons, bind_ok] at h
    obtain ⟨_, hone, hrest⟩ := h
    obtain ⟨option, htrimmed, hnew, rfl⟩ := addOption_ok hone
    have hmore : (∀ o ∈ options ++ [option], Trimmed o) ∧ (options ++ [option]).Nodup := by
      refine ⟨fun o ho => ?_, ?_⟩
      · rcases mem_append.mp ho with ho | ho
        · exact hoptions.1 o ho
        · exact mem_singleton.mp ho ▸ htrimmed
      · exact nodup_append'.mpr ⟨hoptions.2, nodup_singleton option, disjoint_singleton.mpr hnew⟩
    obtain ⟨hall, hlength⟩ := ih hmore hrest
    refine ⟨hall, ?_⟩
    rw [hlength, length_append, length_singleton, length_cons]
    omega

theorem foldlM_addOption_trimmed (index : Nat) {seen : List String}
    (htrimmed : ∀ option ∈ options, Trimmed option) (hdistinct : (seen ++ options).Nodup) :
    (options.map (Value.str (F := F))).foldlM (addOption index) seen = .ok (seen ++ options) := by
  induction options generalizing seen with
  | nil => rw [append_nil]; rfl
  | cons option rest ih =>
    obtain ⟨hone, hrest⟩ := forall_mem_cons.mp htrimmed
    have hnew : option ∉ seen := fun hmem =>
      (nodup_append'.mp hdistinct).2.2 hmem mem_cons_self
    have hsplit : (seen ++ [option]) ++ rest = seen ++ option :: rest := by simp
    rw [map_cons, foldlM_cons, addOption_trimmed hone hnew]
    refine (ih hrest (hsplit ▸ hdistinct)).trans ?_
    rw [hsplit]

theorem canonicalOptions_ok {type : QuestionType} {value : Option (Value F)}
    (h : canonicalOptions index type value = .ok options) :
    (type.choice = false → options = []) ∧
      (type.choice = true → 1 ≤ options.length ∧ options.length ≤ 50) ∧
      (∀ option ∈ options, Trimmed option) ∧ options.Nodup := by
  unfold canonicalOptions at h
  split at h
  · split at h
    · next hchoice =>
        simp at h
        obtain ⟨hcount, hloop⟩ := h
        obtain ⟨⟨htrimmed, hdistinct⟩, hlength⟩ := foldlM_addOption ⟨by simp, nodup_nil⟩ hloop
        rw [length_nil, Nat.zero_add] at hlength
        refine ⟨fun hplain => ?_, fun _ => hlength ▸ hcount, htrimmed, hdistinct⟩
        rw [hchoice] at hplain
        cases hplain
    · next hplain =>
        simp at h
        obtain ⟨-, rfl⟩ := h
        exact ⟨fun _ => rfl, fun hchoice => absurd hchoice hplain, by simp, nodup_nil⟩
  · cases h

theorem canonicalQuestion_ok {value : Value F}
    (h : canonicalQuestion index seenIds value = .ok question) :
    Canonical question ∧ question.id ∉ seenIds := by
  unfold canonicalQuestion at h
  split at h
  · simp only [bind_ok, pure_ok] at h
    obtain ⟨-, -, _, hid, _, hlabel, _, -, _, -, _, hoptions, rfl⟩ := h
    obtain ⟨hre, hnew⟩ := canonicalId_ok hid
    obtain ⟨hplain, hcount, htrimmed, hdistinct⟩ := canonicalOptions_ok hoptions
    exact ⟨⟨hre, canonicalLabel_ok hlabel, hplain, hcount, htrimmed, hdistinct⟩, hnew⟩
  · cases h

theorem canonicalOptions_value (h : Canonical question) (index : Nat) :
    canonicalOptions index question.type
      (some (.list (question.options.map (Value.str (F := F))))) = .ok question.options := by
  cases hchoice : question.type.choice with
  | true =>
    have hcount := h.count hchoice
    have hloop : (question.options.map (Value.str (F := F))).foldlM (addOption index) [] =
        .ok question.options := foldlM_addOption_trimmed index h.options h.distinct
    simp only [canonicalOptions, hchoice, if_true, length_map]
    rw [require, if_pos hcount]
    exact hloop
  | false =>
    rw [h.plain hchoice]
    simp [canonicalOptions, hchoice, require]

theorem canonicalQuestion_value (h : Canonical question) (index : Nat)
    (hnew : question.id ∉ seenIds) :
    canonicalQuestion index seenIds (question.value F) = .ok question := by
  have hid : canonicalId index seenIds (some (Value.str (F := F) question.id)) =
      .ok question.id := by
    simp [canonicalId, h.id, hnew]
  have hlabel : canonicalLabel index (some (Value.str (F := F) question.label)) =
      .ok question.label := by
    simp [canonicalLabel, h.label.stripped, h.label.nonempty, h.label.length]
  have htype : canonicalType index (some (Value.str (F := F) question.type.text)) =
      .ok question.type := by
    simp [canonicalType, QuestionType.ofText?_text]
  have hoptions := canonicalOptions_value (F := F) h index
  have hkeys : (question.entries F).map Prod.fst ⊆ questionKeys ∧
      questionKeys ⊆ (question.entries F).map Prod.fst := by
    simp [Question.entries, questionKeys]
  have hgetId : get? (question.entries F) "id" = some (.str question.id) := rfl
  have hgetLabel : get? (question.entries F) "label" = some (.str question.label) := rfl
  have hgetType : get? (question.entries F) "type" = some (.str question.type.text) := rfl
  have hgetOptions : get? (question.entries F) "options" =
      some (.list (question.options.map .str)) := rfl
  have hgetRequired : get? (question.entries F) "required" = some (.bool question.required) := rfl
  have hrequired : canonicalRequired index (some (Value.bool (F := F) question.required)) =
      .ok question.required := rfl
  unfold canonicalQuestion Question.value
  simp only [bind_ok, require_ok, pure_ok, exists_const, hgetId, hgetLabel, hgetType,
    hgetOptions, hgetRequired]
  exact ⟨hkeys, _, hid, _, hlabel, _, htype, _, hrequired, _, hoptions, rfl⟩

theorem canonicalQuestions_value (h : canonicalQuestions index seenIds values = .ok questions) :
    canonicalQuestions index seenIds (questions.map (Question.value F)) = .ok questions ∧
      questions.length = values.length := by
  induction values generalizing index seenIds questions with
  | nil =>
    obtain rfl : [] = questions := by simpa [canonicalQuestions] using h
    exact ⟨rfl, rfl⟩
  | cons _ _ ih =>
    simp [canonicalQuestions] at h
    obtain ⟨question, hone, questions, hrest, rfl⟩ := h
    obtain ⟨hcanonical, hnew⟩ := canonicalQuestion_ok hone
    obtain ⟨hagain, hlength⟩ := ih hrest
    refine ⟨?_, by rw [length_cons, length_cons, hlength]⟩
    simp only [map_cons, canonicalQuestions, bind_ok, pure_ok]
    exact ⟨question, canonicalQuestion_value hcanonical index hnew, questions, hagain, rfl⟩

theorem canonicalQuestions_spec (h : canonicalQuestions index seenIds values = .ok questions) :
    (∀ question ∈ questions, Canonical question) ∧
      (questions.map Question.id).Nodup ∧ ∀ question ∈ questions, question.id ∉ seenIds := by
  induction values generalizing index seenIds questions with
  | nil =>
    obtain rfl : [] = questions := by simpa [canonicalQuestions] using h
    exact ⟨by simp, nodup_nil, by simp⟩
  | cons _ _ ih =>
    simp [canonicalQuestions] at h
    obtain ⟨_, hone, _, hrest, rfl⟩ := h
    obtain ⟨hcanonical, hnew⟩ := canonicalQuestion_ok hone
    obtain ⟨hall, hdistinct, hfresh⟩ := ih hrest
    refine ⟨forall_mem_cons.mpr ⟨hcanonical, hall⟩, ?_,
      forall_mem_cons.mpr ⟨hnew, fun other hother hmem => ?_⟩⟩
    · rw [map_cons, nodup_cons]
      refine ⟨fun hmem => ?_, hdistinct⟩
      obtain ⟨other, hother, hid⟩ := mem_map.mp hmem
      exact hfresh other hother (mem_append_right _ (hid ▸ mem_singleton_self _))
    · exact hfresh other hother (mem_append_left _ hmem)

theorem validateFormSchema_canonical {value : Value F} {canonical : Option (List Question)}
    (h : validateFormSchema value = .ok canonical) :
    validateFormSchema (schemaValue F canonical) = .ok canonical := by
  unfold validateFormSchema at h
  split at h
  · cases h
    rfl
  · cases h
    rfl
  · next questions hne =>
      simp at h
      obtain ⟨hcount, questions', hloop, rfl⟩ := h
      obtain ⟨hagain, hlength⟩ := canonicalQuestions_value hloop
      cases questions' with
      | nil => exact absurd (length_eq_zero_iff.mp hlength.symm) hne
      | cons =>
        simp only [schemaValue, map_cons, validateFormSchema, bind_ok, require_ok,
          pure_ok, exists_const]
        refine ⟨?_, _, hagain, rfl⟩
        rw [← map_cons, length_map, hlength]
        exact hcount
  · cases h

end Forms
end SpaceWorks
