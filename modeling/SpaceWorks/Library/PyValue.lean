import Mathlib.Data.List.Basic

/-!
# Python values

The values that JSON and Python exchange, with `==`, truth, and what `json.loads` gives back for
`json.dumps`: a tuple comes back as a list.
-/

namespace Python

/-- A Python value; a dict keeps the order of insertion. -/
inductive Value
  | null
  | bool (value : Bool)
  | int (value : Int)
  | str (text : String)
  | list (items : List Value)
  | tuple (items : List Value)
  | dict (entries : List (String × Value))

namespace Value

mutual

/-- The operator `==`; a bool is the number that it stands for. -/
def eq : Value → Value → Bool
  | .null, .null => true
  | .bool a, .bool b => a == b
  | .bool a, .int n => a.toInt == n
  | .int n, .bool b => n == b.toInt
  | .int n, .int m => n == m
  | .str s, .str t => s == t
  | .list xs, .list ys => eqItems xs ys
  | .tuple xs, .tuple ys => eqItems xs ys
  | .dict xs, .dict ys => xs.length == ys.length && eqEntries xs ys
  | _, _ => false

def eqItems : List Value → List Value → Bool
  | [], [] => true
  | x :: xs, y :: ys => eq x y && eqItems xs ys
  | _, _ => false

def eqEntries : List (String × Value) → List (String × Value) → Bool
  | [], _ => true
  | (key, value) :: entries, other =>
    (match other.lookup key with
      | some found => eq value found
      | none => false) && eqEntries entries other

end

/-- `bool(value)`. -/
def truthy : Value → Bool
  | .null => false
  | .bool value => value
  | .int value => value != 0
  | .str text => text != ""
  | .list items => !items.isEmpty
  | .tuple items => !items.isEmpty
  | .dict entries => !entries.isEmpty

def get : Value → String → Option Value
  | .dict entries, key => some ((entries.lookup key).getD .null)
  | _, _ => none

def isTrue : Value → Bool
  | .bool value => value
  | _ => false

def isNull : Value → Bool
  | .null => true
  | _ => false

def isDict : Value → Bool
  | .dict _ => true
  | _ => false

mutual

/-- `json.loads(json.dumps(value))`. -/
def reload : Value → Value
  | .list items => .list (reloadItems items)
  | .tuple items => .list (reloadItems items)
  | .dict entries => .dict (reloadEntries entries)
  | value => value

def reloadItems : List Value → List Value
  | [] => []
  | item :: items => reload item :: reloadItems items

def reloadEntries : List (String × Value) → List (String × Value)
  | [] => []
  | (key, value) :: entries => (key, reload value) :: reloadEntries entries

end

@[simp] theorem isDict_reload (value : Value) : value.reload.isDict = value.isDict := by
  cases value <;> simp [reload, isDict]

@[simp] theorem isTrue_reload (value : Value) : value.reload.isTrue = value.isTrue := by
  cases value <;> simp [reload, isTrue]

@[simp] theorem isNull_reload (value : Value) : value.reload.isNull = value.isNull := by
  cases value <;> simp [reload, isNull]

theorem lookup_reloadEntries (entries : List (String × Value)) (key : String) :
    (reloadEntries entries).lookup key = (entries.lookup key).map reload := by
  induction entries with
  | nil => rfl
  | cons entry _ ih =>
    obtain ⟨name, _⟩ := entry
    rw [reloadEntries, List.lookup_cons, List.lookup_cons]
    cases key == name with
    | true => rfl
    | false => exact ih

theorem get_reload (value : Value) (key : String) :
    value.reload.get key = (value.get key).map reload := by
  cases value with
  | dict entries =>
    simp only [reload, get, lookup_reloadEntries, Option.map_some]
    cases entries.lookup key <;> simp [reload]
  | _ => simp [reload, get]

end Value

end Python
