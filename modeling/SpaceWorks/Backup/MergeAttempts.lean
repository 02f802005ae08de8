import Mathlib.Data.List.Nodup
import Mathlib.Order.Basic
import SpaceWorks.Backup.MergeStates
import SpaceWorks.Library.Runs

/-!
# Attempts to merge slices

`merge_slices` as a sequence of steps, each of which an exception or a crash can stop, and the
handler that decides between `failed` and `resume_required`.
-/

namespace SpaceWorks
namespace Merging

open Checked TransactionalSystem List

section Steps

inductive Work where
  | outer
  | provisionRole
  | plaintext
  | stage
  | afterStaging
  | installKeys
  | afterKeyInstall
  | discardStaging
  | dropSchema
  | replaceJournal
  | afterRowApply
  | promoteObjects
  | verifyPromoted
  | afterObjectPromotion
  | verifyRows
  | verifyKeys
  | verifyReservations
  | cleanupStaging
  | beforeFinal
  | journalFinal
  deriving DecidableEq

inductive Step where
  | lockedState
  | beginMerging
  | work (part : Work)
  | checkpoint (value : MergeCheckpoint)
  | dependencies
  | dependencyWait
  | commonCheckpoint (next : MergeCheckpoint)
  | applyStaged
  | finalize
  deriving DecidableEq

/-- The steps from the validated inputs to the resolved dependencies. -/
def staging : List Step :=
  [.work .outer, .work .provisionRole, .beginMerging,
    .work .plaintext, .work .stage, .checkpoint .staged, .work .afterStaging,
    .work .installKeys, .checkpoint .keysInstalled, .work .afterKeyInstall,
    .dependencies, .work .discardStaging, .work .dropSchema, .work .replaceJournal,
    .dependencyWait]

def finishing : List Step :=
  [.checkpoint .rowsApplied, .work .afterRowApply,
    .commonCheckpoint .objectsPromoted, .work .promoteObjects, .checkpoint .objectsPromoted,
    .work .verifyPromoted, .work .afterObjectPromotion,
    .work .verifyRows, .work .verifyKeys, .work .verifyReservations, .checkpoint .verified,
    .work .cleanupStaging, .work .beforeFinal, .work .journalFinal, .finalize]

def program : List Step :=
  .lockedState :: (staging ++ (.commonCheckpoint .rowsApplied :: .applyStaged :: finishing))

/-- `merge_started and not rows_committed`, where an exception rises. -/
def Step.marksFailed : Step → Bool
  | .work .plaintext | .work .stage | .checkpoint .staged | .work .afterStaging
  | .work .installKeys | .checkpoint .keysInstalled | .work .afterKeyInstall
  | .dependencies | .work .dropSchema | .work .replaceJournal | .dependencyWait
  | .commonCheckpoint .rowsApplied | .applyStaged => true
  | _ => false

/-- The dependency facts of slices, and which have rows. -/
structure Slices (ι : Type) where
  facts : ι → List ι
  hasRows : ι → Bool

structure Locals (ι : Type) where
  components : Components ι
  missing : Option (List ι)

variable {ι : Type} [DecidableEq ι] (slices : Slices ι)

def act (group : List ι) (step : Step) (locals : Locals ι) : Except String (Locals ι) :=
  match step with
  | .lockedState => do
    lockedState group locals.components
    pure locals
  | .beginMerging => do
    let components ← beginMerging group locals.components
    pure { locals with components := components }
  | .work _ => pure locals
  | .checkpoint value => do
    let components ← checkpoint group value locals.components
    pure { locals with components := components }
  | .dependencies => do
    let (components, missing) ← recordAndResolveDependencies slices.facts group locals.components
    pure { components := components, missing := some missing }
  | .dependencyWait => do
    let components ← dependencyWait group locals.components
    pure { locals with components := components }
  | .commonCheckpoint _ => do
    let _ ← sameCheckpoint (rowsOf locals.components group)
    pure locals
  | .applyStaged => do
    let components ← applyStaged slices.hasRows group locals.components
    pure { locals with components := components }
  | .finalize => do
    let components ← finalize group locals.components
    pure { locals with components := components }

def before (group : List ι) (components : Components ι) (value : MergeCheckpoint) : Bool :=
  match sameCheckpoint (rowsOf components group) with
  | .ok current => current.rank < value.rank
  | .error _ => false

/-- Whether the control flow comes to a step. -/
def reached (group : List ι) (locals : Locals ι) : Step → Bool
  | .work .discardStaging | .work .dropSchema | .work .replaceJournal | .dependencyWait =>
    locals.missing.any (· ≠ [])
  | .applyStaged | .checkpoint .rowsApplied =>
    locals.missing = some [] && before group locals.components .rowsApplied
  | .work .promoteObjects | .checkpoint .objectsPromoted =>
    locals.missing = some [] && before group locals.components .objectsPromoted
  | .commonCheckpoint _ | .work .afterRowApply | .work .verifyPromoted
  | .work .afterObjectPromotion | .work .verifyRows | .work .verifyKeys
  | .work .verifyReservations | .checkpoint .verified | .work .cleanupStaging
  | .work .beforeFinal | .work .journalFinal | .finalize =>
    locals.missing = some []
  | _ => true

end Steps

section Attempts

structure Fault where
  step : Step
  interrupted : Bool
  deriving DecidableEq

/-- An attempt; `cleansUp`: its handler works. -/
structure Attempt (ι : Type) where
  group : List ι
  fault : Option Fault
  cleansUp : Bool

inductive Ending where
  | completed
  | interrupted
  | raised (step : Step)

variable {ι : Type} [DecidableEq ι] (slices : Slices ι)

def runSteps (attempt : Attempt ι) : List Step → Locals ι → Locals ι × Ending
  | [], locals => (locals, .completed)
  | step :: steps, locals =>
    if reached attempt.group locals step = false then runSteps attempt steps locals
    else if attempt.fault = some ⟨step, true⟩ then (locals, .interrupted)
    else if attempt.fault = some ⟨step, false⟩ then (locals, .raised step)
    else
      match act slices attempt.group step locals with
      | .error _ => (locals, .raised step)
      | .ok locals => runSteps attempt steps locals

def mergeSlices (components : Components ι) (attempt : Attempt ι) : Components ι :=
  if attempt.group = [] ∨ ¬ attempt.group.Nodup then components
  else
    match runSteps slices attempt program ⟨components, none⟩ with
    | (locals, .raised step) =>
      if step.marksFailed = true ∧ attempt.cleansUp = true then
        settle (fun components _ => markFailed attempt.group components) locals.components ()
      else locals.components
    | (locals, _) => locals.components

end Attempts

section Soundness

variable {ι : Type} [DecidableEq ι] {slices : Slices ι} {group members : List ι}
  {components after : Components ι}
  {row : Component ι} {locals : Locals ι} {c : ι} {value : MergeCheckpoint}

/-- What no step takes from a row. -/
structure Kept (row next : Component ι) : Prop where
  restored : row.state = .restored → next.state = .restored
  rank : 3 ≤ row.mergeCheckpoint.rank → row.mergeCheckpoint.rank ≤ next.mergeCheckpoint.rank

def Keeps (components after : Components ι) : Prop :=
  ∀ c row, components c = some row → ∃ next, after c = some next ∧ Kept row next

def Met (components : Components ι) (row : Component ι) (d : ι) : Prop :=
  ∃ other, components d = some other ∧
    (other.state = .restored ∨ row.mergeCheckpoint.rank ≤ other.mergeCheckpoint.rank)

/-- Committed components are merging or restored with dependencies met, and failed ones have no live
rows. -/
structure Sound (slices : Slices ι) (components : Components ι) : Prop where
  committed : ∀ c row, components c = some row → 3 ≤ row.mergeCheckpoint.rank →
    row.state = .merging ∨ row.state = .restored
  live : ∀ c row, components c = some row → row.rowsLive = true → row.state ≠ .failed
  met : ∀ c row, components c = some row → 3 ≤ row.mergeCheckpoint.rank → row.state = .merging →
    ∀ d ∈ slices.facts c, d ≠ c ∧ Met components row d
  facts : ∀ c row, components c = some row →
    row.dependencyFacts = [] ∨ row.dependencyFacts = slices.facts c

omit [DecidableEq ι] in
theorem Kept.refl (row : Component ι) : Kept row row :=
  ⟨id, fun _ => Nat.le_refl _⟩

omit [DecidableEq ι] in
theorem Keeps.refl (components : Components ι) : Keeps components components :=
  fun _ row h => ⟨row, h, .refl row⟩

omit [DecidableEq ι] in
theorem Keeps.trans {last : Components ι} (h : Keeps components after) (h' : Keeps after last) :
    Keeps components last := by
  intro c row hrow
  obtain ⟨next, hnext, hkept⟩ := h c row hrow
  obtain ⟨final, hfinal, hkept'⟩ := h' c next hnext
  refine ⟨final, hfinal, fun hrestored => hkept'.restored (hkept.restored hrestored), fun hrank => ?_⟩
  have hfirst := hkept.rank hrank
  exact Nat.le_trans hfirst (hkept'.rank (Nat.le_trans hrank hfirst))

omit [DecidableEq ι] in
theorem Met.mono {d : ι} (h : Met components row d)
    (hkeeps : Keeps components after) (hrank : 3 ≤ row.mergeCheckpoint.rank) :
    Met after row d := by
  obtain ⟨other, hother, hmet⟩ := h
  obtain ⟨next, hnext, hkept⟩ := hkeeps d other hother
  refine ⟨next, hnext, hmet.imp hkept.restored fun hle => ?_⟩
  exact Nat.le_trans hle (hkept.rank (Nat.le_trans hrank hle))

theorem guard_spec {next : Component ι} (h : guard row next = true)
    (hstate : next.state ≠ .failed) :
    Kept row next ∧ (3 ≤ next.mergeCheckpoint.rank →
      next.state = .merging ∨ next.state = .restored) := by
  simp [guard] at h
  obtain ⟨⟨-, hrank⟩, htransition⟩ := h
  have hrestored : row.state = .restored → next.state = .restored := by
    rcases htransition with hsame | ⟨hallowed, -⟩
    · exact fun h => hsame ▸ h
    · intro h
      rw [h] at hallowed
      cases hallowed
  rcases hrank with (⟨⟨_, hnone⟩, _⟩ | ⟨hfailed, -⟩) | ⟨⟨hle, -⟩, hzero⟩
  · have hrank : next.mergeCheckpoint.rank = 0 := by rw [hnone]; rfl
    exact ⟨⟨hrestored, by omega⟩, by omega⟩
  · exact absurd hfailed hstate
  · refine ⟨⟨hrestored, fun _ => hle⟩, fun hcommitted => ?_⟩
    rcases hzero with (_ | hmerging) | hrestored
    · omega
    · exact .inl hmerging
    · exact .inr hrestored

theorem sound_update (changes : ι → Component ι → Component ι) (h : Sound slices components)
    (hkept : ∀ c ∈ group, ∀ row, components c = some row → Kept row (changes c row))
    (hcommitted : ∀ c ∈ group, ∀ row, components c = some row →
      3 ≤ (changes c row).mergeCheckpoint.rank →
      (changes c row).state = .merging ∨ (changes c row).state = .restored)
    (hlive : ∀ c ∈ group, ∀ row, components c = some row → (changes c row).rowsLive = true →
      (changes c row).state ≠ .failed) (hmet : ∀ c ∈ group, ∀ row, components c = some row →
      3 ≤ (changes c row).mergeCheckpoint.rank → (changes c row).state = .merging →
      (row.state = .merging ∧ row.mergeCheckpoint = (changes c row).mergeCheckpoint) ∨
        ∀ d ∈ slices.facts c, d ≠ c ∧ Met (update group changes components) (changes c row) d)
    (hfacts : ∀ c ∈ group, ∀ row, components c = some row →
      (changes c row).dependencyFacts = row.dependencyFacts ∨
        (changes c row).dependencyFacts = slices.facts c) :
    Sound slices (update group changes components) ∧
      Keeps components (update group changes components) := by
  have hkeeps : Keeps components (update group changes components) := by
    intro c row hrow
    by_cases hmem : c ∈ group
    · exact ⟨_, update_of_mem hmem hrow, hkept c hmem row hrow⟩
    · exact ⟨row, by rw [update_of_notMem hmem, hrow], .refl row⟩
  have hold : ∀ {c row}, components c = some row → 3 ≤ row.mergeCheckpoint.rank →
      row.state = .merging → ∀ d ∈ slices.facts c,
        d ≠ c ∧ Met (update group changes components) row d := by
    intro c row hrow hrank hmerging d hd
    obtain ⟨hne, hold⟩ := h.met c row hrow hrank hmerging d hd
    exact ⟨hne, hold.mono hkeeps hrank⟩
  refine ⟨⟨?_, ?_, ?_, ?_⟩, hkeeps⟩
  all_goals
    intro c row hafter
    obtain ⟨old, hrow, rfl⟩ := update_eq_some.mp hafter
    by_cases hmem : c ∈ group
    all_goals simp only [hmem, if_true, if_false]
  · exact hcommitted c hmem old hrow
  · exact h.committed c old hrow
  · exact hlive c hmem old hrow
  · exact h.live c old hrow
  · intro hrank hmerging
    rcases hmet c hmem old hrow hrank hmerging with ⟨hmerging', hsame⟩ | hmet
    · intro d hd
      obtain ⟨hne, other, hother, hmet⟩ := hold hrow (hsame ▸ hrank) hmerging' d hd
      exact ⟨hne, other, hother, hsame ▸ hmet⟩
    · exact hmet
  · exact hold hrow
  · rcases hfacts c hmem old hrow with hsame | hsame
    · rw [hsame]
      exact h.facts c old hrow
    · exact .inr hsame
  · exact h.facts c old hrow

/-- The invariant of the steps behind `locked_state`. -/
structure Holds (slices : Slices ι) (group : List ι) (locals : Locals ι) : Prop where
  sound : Sound slices locals.components
  registered : ∀ c ∈ group, ∃ row, locals.components c = some row ∧ row.state ≠ .failed
  resolved : locals.missing = some [] → ∀ c ∈ group, ∀ d ∈ slices.facts c, d ≠ c ∧
    ∃ other, locals.components d = some other ∧ (d ∈ group ∨ other.state = .restored)

omit [DecidableEq ι] in
theorem Holds.not_failed (h : Holds slices group locals)
    (hmem : c ∈ group) (hrow : locals.components c = some row) : row.state ≠ .failed := by
  obtain ⟨_, hother, hstate⟩ := h.registered c hmem
  rw [hrow] at hother
  cases hother
  exact hstate

omit [DecidableEq ι] in
theorem Holds.next {missing : Option (List ι)}
    (h : Holds slices group locals) (hsound : Sound slices after)
    (hkeeps : Keeps locals.components after)
    (hstate : ∀ c ∈ group, ∀ row, after c = some row → row.state ≠ .failed)
    (hresolved : missing = some [] → ∀ c ∈ group, ∀ d ∈ slices.facts c, d ≠ c ∧
      ∃ other, locals.components d = some other ∧ (d ∈ group ∨ other.state = .restored)) :
    Holds slices group ⟨after, missing⟩ := by
  refine ⟨hsound, fun c hmem => ?_, fun hmissing c hmem d hd => ?_⟩
  · obtain ⟨row, hrow, -⟩ := h.registered c hmem
    obtain ⟨next, hnext, -⟩ := hkeeps c row hrow
    exact ⟨next, hnext, hstate c hmem next hnext⟩
  · obtain ⟨hne, other, hother, hmet⟩ := hresolved hmissing c hmem d hd
    obtain ⟨next, hnext, hkept⟩ := hkeeps d other hother
    exact ⟨hne, next, hnext, hmet.imp_right hkept.restored⟩

theorem Holds.save {change : Component ι → Component ι}
    (h : Holds slices group locals) (hmembers : ∀ c ∈ members, c ∈ group)
    (hsave : save members change locals.components = .ok after)
    (hstate : ∀ row : Component ι, row.state ≠ .failed → (change row).state ≠ .failed)
    (hfacts : ∀ row, (change row).dependencyFacts = row.dependencyFacts)
    (hmet : ∀ c ∈ members, ∀ row, locals.components c = some row →
      3 ≤ (change row).mergeCheckpoint.rank → (change row).state = .merging →
      (row.state = .merging ∧ row.mergeCheckpoint = (change row).mergeCheckpoint) ∨
        ∀ d ∈ slices.facts c, d ≠ c ∧ Met after (change row) d) :
    Holds slices group ⟨after, locals.missing⟩ ∧ Keeps locals.components after := by
  obtain ⟨hguard, rfl⟩ := save_ok.mp hsave
  have hspec := fun c hmem row hrow =>
    guard_spec (hguard c hmem row hrow) (hstate row (h.not_failed (hmembers c hmem) hrow))
  obtain ⟨hsound, hkeeps⟩ := sound_update (fun _ => change) h.sound
    (fun c hmem row hrow => (hspec c hmem row hrow).1)
    (fun c hmem row hrow => (hspec c hmem row hrow).2)
    (fun c hmem row hrow _ => hstate row (h.not_failed (hmembers c hmem) hrow))
    hmet (fun _ _ row _ => .inl (hfacts row))
  refine ⟨h.next hsound hkeeps ?_ h.resolved, hkeeps⟩
  intro c hmem row hrow
  obtain ⟨old, hold, rfl⟩ := update_eq_some.mp hrow
  split
  · exact hstate old (h.not_failed hmem hold)
  · exact h.not_failed hmem hold

theorem Holds.update {locals : Locals ι} (changes : ι → Component ι → Component ι)
    (h : Holds slices group locals) (hstate : ∀ c row, (changes c row).state = row.state)
    (hcheckpoint : ∀ c row, (changes c row).mergeCheckpoint = row.mergeCheckpoint)
    (hfacts : ∀ c row, (changes c row).dependencyFacts = row.dependencyFacts ∨
      (changes c row).dependencyFacts = slices.facts c) {missing : Option (List ι)}
    (hresolved : missing = some [] → ∀ c ∈ group, ∀ d ∈ slices.facts c, d ≠ c ∧
      ∃ other, locals.components d = some other ∧ (d ∈ group ∨ other.state = .restored)) :
    Holds slices group ⟨Merging.update group changes locals.components, missing⟩ ∧
      Keeps locals.components (Merging.update group changes locals.components) := by
  obtain ⟨hsound, hkeeps⟩ := sound_update changes h.sound
    (fun c _ row _ => ⟨fun hrestored => (hstate c row).trans hrestored,
      fun _ => Nat.le_of_eq (congrArg MergeCheckpoint.rank (hcheckpoint c row).symm)⟩)
    (fun c _ row hrow hrank => by
      rw [hstate]
      exact h.sound.committed c row hrow (hcheckpoint c row ▸ hrank))
    (fun c hmem row hrow _ => by
      rw [hstate]
      exact h.not_failed hmem hrow)
    (fun c _ row _ _ hmerging => .inl ⟨(hstate c row).symm.trans hmerging, (hcheckpoint c row).symm⟩)
    (fun c _ row _ => hfacts c row)
  refine ⟨h.next hsound hkeeps ?_ hresolved, hkeeps⟩
  intro c hmem row hrow
  obtain ⟨_, hold, rfl⟩ := update_eq_some.mp hrow
  rw [if_pos hmem, hstate]
  exact h.not_failed hmem hold

end Soundness

section Harm

variable {ι : Type} [DecidableEq ι] (slices : Slices ι)

def Committed (components : Components ι) (c : ι) : Prop :=
  ∃ row, components c = some row ∧ (3 ≤ row.mergeCheckpoint.rank ∨ row.rowsLive = true)

/-- `locked_state` and `validate_component_states` let the group pass. -/
def Admitted (components : Components ι) (group : List ι) : Prop :=
  ∀ c ∈ group, ∃ row, components c = some row ∧
    (row.state = .pending ∨ row.state = .dependencyWait ∨ row.state = .merging)

def Aligned (components : Components ι) (group : List ι) (value : MergeCheckpoint) : Prop :=
  ∀ c ∈ group, ∀ row, components c = some row → row.mergeCheckpoint = value

/-- An attempt comes to the step, if nothing stops it. -/
def OnPath (components : Components ι) (group : List ι) : Step → Prop
  | .work .discardStaging | .work .dropSchema | .work .replaceJournal | .dependencyWait =>
    unmet slices.facts group components ≠ []
  | .commonCheckpoint _ => unmet slices.facts group components = []
  | .applyStaged =>
    unmet slices.facts group components = [] ∧
      ∃ value, Aligned components group value ∧ value.rank < 3
  | _ => True

/-- The table refuses the step itself. -/
def Obstructed (components : Components ι) (group : List ι) : Step → Prop
  | .checkpoint .staged => ¬ ∃ value, Aligned components group value
  | .dependencies => ∃ c ∈ group, ∃ d ∈ slices.facts c, components d = none ∨ d = c
  | .dependencyWait =>
    unmet slices.facts group components ≠ [] ∧
      ∃ value, Aligned components group value ∧ 3 ≤ value.rank
  | .applyStaged =>
    OnPath slices components group .applyStaged ∧
      ∃ c ∈ group, ∃ row, components c = some row ∧ row.rowsLive = true
  | _ => False

/-- A fault, or the table's refusal. -/
def CanRaise (components : Components ι) (attempt : Attempt ι) (step : Step) : Prop :=
  (OnPath slices components attempt.group step ∧ attempt.fault = some ⟨step, false⟩) ∨
    Obstructed slices components attempt.group step

def StoppedBefore (components : Components ι) (attempt : Attempt ι) (step : Step) : Prop :=
  ∃ fault, attempt.fault = some fault ∧ fault.step ∈ program.takeWhile (· ≠ step) ∧
    OnPath slices components attempt.group fault.step

/-- No exception rises before the row step of a committed group, or the attempt is stopped before,
or its handler fails. -/
def Harmless (components : Components ι) (attempt : Attempt ι) : Prop :=
  (∃ c ∈ attempt.group, Committed components c) → Admitted components attempt.group →
    attempt.cleansUp = true → ∀ step, step.marksFailed = true →
      CanRaise slices components attempt step → StoppedBefore slices components attempt step

end Harm

end Merging
end SpaceWorks
