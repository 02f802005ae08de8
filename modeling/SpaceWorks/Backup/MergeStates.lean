import SpaceWorks.Library.Checked

/-!
# States of restore components

`slice_merge_state.py` over `backup_b1restorecomponentstate`, with the trigger
`backup_b1_restore_component_guard`.  `rowsLive`: the slice's rows are in the live tables.
-/

namespace SpaceWorks
namespace Merging

open Checked

inductive State where
  | pending
  | dependencyWait
  | merging
  | restored
  | failed
  deriving DecidableEq

inductive MergeCheckpoint where
  | none
  | staged
  | keysInstalled
  | rowsApplied
  | objectsPromoted
  | verified
  deriving DecidableEq

def MergeCheckpoint.rank : MergeCheckpoint → Nat
  | .none => 0
  | .staged => 1
  | .keysInstalled => 2
  | .rowsApplied => 3
  | .objectsPromoted => 4
  | .verified => 5

structure Component (ι : Type) where
  state : State
  mergeCheckpoint : MergeCheckpoint
  dependencyFacts : List ι
  rowsLive : Bool
  deriving DecidableEq

def Component.initial {ι : Type} : Component ι :=
  ⟨.pending, .none, [], false⟩

abbrev Components (ι : Type) := ι → Option (Component ι)

section Guard

def State.allows : State → State → Bool
  | .pending, .dependencyWait | .pending, .merging | .pending, .failed => true
  | .dependencyWait, .pending | .dependencyWait, .merging | .dependencyWait, .failed => true
  | .merging, .dependencyWait | .merging, .restored | .merging, .failed => true
  | _, _ => false

variable {ι : Type} [DecidableEq ι]

def guard (old new : Component ι) : Bool :=
  (old.dependencyFacts = [] || old.dependencyFacts = new.dependencyFacts) &&
  ((new.state = .dependencyWait && new.mergeCheckpoint = .none && old.mergeCheckpoint.rank ≤ 2) ||
    (new.state = .failed && new.mergeCheckpoint.rank = old.mergeCheckpoint.rank) ||
    (old.mergeCheckpoint.rank ≤ new.mergeCheckpoint.rank &&
      new.mergeCheckpoint.rank ≤ old.mergeCheckpoint.rank + 1 &&
      (new.mergeCheckpoint.rank = 0 || new.state = .merging || new.state = .restored))) &&
  (old.state = new.state ||
    (old.state.allows new.state && (new.state ≠ .restored || new.mergeCheckpoint = .verified)))

def update (group : List ι) (change : ι → Component ι → Component ι) (components : Components ι) :
    Components ι :=
  fun c => if c ∈ group then (components c).map (change c) else components c

/-- One `UPDATE` of a group, refused as a whole. -/
def save (group : List ι) (change : Component ι → Component ι) (components : Components ι) :
    Except String (Components ι) := do
  require (∀ c ∈ group, (components c).all (fun row => guard row (change row)) = true)
    "the component guard refuses the update"
  pure (update group (fun _ => change) components)

variable {group : List ι} {change : Component ι → Component ι}
  {changes : ι → Component ι → Component ι} {components after : Components ι}

theorem save_ok :
    save group change components = .ok after ↔
      (∀ c ∈ group, ∀ row, components c = some row → guard row (change row) = true) ∧
        update group (fun _ => change) components = after := by
  simp [save, Option.all_eq_true]

theorem update_eq_some {c : ι} {row : Component ι} :
    update group changes components c = some row ↔
      ∃ old, components c = some old ∧ row = if c ∈ group then changes c old else old := by
  unfold update
  split
  · simp [eq_comm]
  · simp

theorem update_of_mem {c : ι} {row : Component ι} (hmem : c ∈ group)
    (h : components c = some row) : update group changes components c = some (changes c row) := by
  rw [update, if_pos hmem, h, Option.map_some]

theorem update_of_notMem {c : ι} (hmem : c ∉ group) :
    update group changes components c = components c := by
  rw [update, if_neg hmem]

end Guard

section Operations

variable {ι : Type} [DecidableEq ι]

def rowsOf (components : Components ι) (group : List ι) : List (Component ι) :=
  group.filterMap components

def sameCheckpoint (rows : List (Component ι)) : Except String MergeCheckpoint :=
  match rows with
  | [] => throw "A cross-linked merge group has divergent checkpoints."
  | row :: rows => do
    require (∀ other ∈ rows, other.mergeCheckpoint = row.mergeCheckpoint)
      "A cross-linked merge group has divergent checkpoints."
    pure row.mergeCheckpoint

def lockedState (group : List ι) (components : Components ι) : Except String PUnit := do
  require (∀ c ∈ group, (components c).isSome = true)
    "A requested opaque component is not registered."
  require (∀ row ∈ rowsOf components group,
      row.state = .pending ∨ row.state = .dependencyWait ∨ row.state = .merging)
    "A component is not in a mergeable not-restored state."

def membersIn (components : Components ι) (group : List ι) (P : State → Bool) : List ι :=
  group.filter fun c => (components c).any fun row => P row.state

def beginMerging (group : List ι) (components : Components ι) :
    Except String (Components ι) :=
  save (membersIn components group fun state => state ≠ .merging)
    (fun row => { row with state := .merging }) components

def checkpoint (group : List ι) (value : MergeCheckpoint) (components : Components ι) :
    Except String (Components ι) := do
  let current ← sameCheckpoint (rowsOf components group)
  if value.rank ≤ current.rank then
    pure components
  else do
    require (value.rank = current.rank + 1) "A merge checkpoint cannot skip an ordered step."
    save group (fun row => { row with mergeCheckpoint := value }) components

/-- Dependencies neither supplied nor restored. -/
def unmet (facts : ι → List ι) (group : List ι) (components : Components ι) : List ι :=
  (group.flatMap facts).filter fun d =>
    d ∉ group && (components d).any fun row => row.state ≠ .restored

def recordAndResolveDependencies (facts : ι → List ι) (group : List ι)
    (components : Components ι) : Except String (Components ι × List ι) := do
  require (∀ c ∈ group, ∀ d ∈ facts c, (components d).isSome = true ∧ d ≠ c)
    "A dependency fact is outside this signed restore operation."
  require (∀ c ∈ group, (components c).all (fun row =>
      row.dependencyFacts = [] || row.dependencyFacts = facts c) = true)
    "Authenticated dependency facts changed across merge attempts."
  pure (update group (fun c row => { row with dependencyFacts := facts c }) components,
    unmet facts group components)

def dependencyWait (group : List ι) (components : Components ι) :
    Except String (Components ι) :=
  save group (fun row => { row with state := .dependencyWait, mergeCheckpoint := .none }) components

/-- `apply_staged` fills free identities only. -/
def applyStaged (hasRows : ι → Bool) (group : List ι) (components : Components ι) :
    Except String (Components ι) := do
  require (∀ row ∈ rowsOf components group, row.rowsLive = false)
    "A staged row would overwrite an occupied target identity."
  pure (update group (fun c row => { row with rowsLive := hasRows c }) components)

def finalize (group : List ι) (components : Components ι) : Except String (Components ι) := do
  let current ← sameCheckpoint (rowsOf components group)
  require (current = .verified) "Final merge commit requires completed verification."
  save group (fun row => { row with state := .restored }) components

def markFailed (group : List ι) (components : Components ι) : Except String (Components ι) :=
  save (membersIn components group fun state => state = .merging)
    (fun row => { row with state := .failed }) components

section Passing

variable {row : Component ι} {value : MergeCheckpoint}

theorem guard_checkpoint (hstate : row.state = .merging)
    (hvalue : value.rank = row.mergeCheckpoint.rank + 1) :
    guard row { row with mergeCheckpoint := value } = true := by
  simp [guard, hstate, hvalue]

theorem guard_restored (hstate : row.state = .merging) (hvalue : row.mergeCheckpoint = .verified) :
    guard row { row with state := .restored } = true := by
  simp [guard, hstate, hvalue, State.allows, MergeCheckpoint.rank]

end Passing

variable {group : List ι} {components : Components ι}

omit [DecidableEq ι] in
theorem mem_rowsOf {row : Component ι} :
    row ∈ rowsOf components group ↔ ∃ c ∈ group, components c = some row :=
  List.mem_filterMap

omit [DecidableEq ι] in
/-- A registered group shares a checkpoint when its rows do. -/
theorem sameCheckpoint_ok {value : MergeCheckpoint} :
    sameCheckpoint (rowsOf components group) = .ok value ↔ rowsOf components group ≠ [] ∧
        ∀ row ∈ rowsOf components group, row.mergeCheckpoint = value := by
  cases hrows : rowsOf components group with
  | nil => simp [sameCheckpoint]
  | cons =>
    simp only [sameCheckpoint, bind_ok, require_ok, pure_ok, exists_const, ne_eq,
      reduceCtorEq, not_false_eq_true, true_and, List.forall_mem_cons]
    constructor
    · rintro ⟨hsame, rfl⟩
      exact ⟨rfl, hsame⟩
    · rintro ⟨rfl, hsame⟩
      exact ⟨hsame, rfl⟩

end Operations

end Merging
end SpaceWorks
