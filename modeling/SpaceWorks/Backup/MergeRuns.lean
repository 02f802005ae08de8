import Mathlib.Data.List.Dedup
import SpaceWorks.Backup.MergeStaging

/-!
# Runs of attempts

`sound_attempt` keeps the table sound, `can_restore` brings committed components back, and
`committed_never_stranded` is about runs.
-/

namespace SpaceWorks
namespace Merging

open Checked TransactionalSystem List Option

section Runs

variable {ι : Type} [DecidableEq ι] {slices : Slices ι} {attempt : Attempt ι} {group : List ι}
  {components after : Components ι}

end Runs

section Progress

variable {ι : Type} [DecidableEq ι] {slices : Slices ι} {attempt : Attempt ι} {group : List ι}
  {components after : Components ι} {steps : List Step} {locals next : Locals ι}
  {step : Step} {value : MergeCheckpoint}

structure Ready (group : List ι) (value : MergeCheckpoint) (locals : Locals ι) : Prop where
  missing : locals.missing = some []
  rows : ∀ c ∈ group, ∃ row, locals.components c = some row ∧ row.state = .merging ∧
    row.mergeCheckpoint = value

omit [DecidableEq ι] in
theorem Ready.sameCheckpoint (h : Ready group value locals)
    (hne : group ≠ []) : sameCheckpoint (rowsOf locals.components group) = .ok value := by
  refine sameCheckpoint_of_aligned hne (fun c hmem => ?_) fun c hmem row hrow => ?_
  · exact (h.rows c hmem).imp fun _ hrow => hrow.1
  · obtain ⟨_, hother, -, hvalue⟩ := h.rows c hmem
    rw [hrow] at hother
    cases hother
    exact hvalue

theorem Ready.checkpoint {current : MergeCheckpoint} (h : Ready group current locals)
    (hne : group ≠ []) (hrank : value.rank = current.rank + 1) :
    ∃ next, act slices group (.checkpoint value) locals = .ok next ∧ Ready group value next := by
  have haligned : Aligned locals.components group current := by
    intro c hmem row hrow
    obtain ⟨_, hother, -, hvalue⟩ := h.rows c hmem
    rw [hrow] at hother
    cases hother
    exact hvalue
  have hcheckpoint : Merging.checkpoint group value locals.components =
      .ok (update group (fun _ row => { row with mergeCheckpoint := atLeast value current })
        locals.components) :=
    checkpoint_of_aligned hne
      (fun c hmem => (h.rows c hmem).imp fun _ hrow => ⟨hrow.1, hrow.2.1⟩) haligned
      (Nat.le_of_eq hrank)
  refine ⟨⟨update group (fun _ row => { row with mergeCheckpoint := atLeast value current })
    locals.components, locals.missing⟩, ?_, h.missing, fun c hmem => ?_⟩
  · simp only [act, bind_ok, pure_ok]
    exact ⟨_, hcheckpoint, rfl⟩
  · obtain ⟨row, hrow, hstate, -⟩ := h.rows c hmem
    refine ⟨{ row with mergeCheckpoint := atLeast value current }, ?_, hstate, if_neg (by omega)⟩
    show update group (fun _ row => { row with mergeCheckpoint := atLeast value current })
      locals.components c = _
    rw [update_of_mem hmem hrow]

theorem Ready.finalize (h : Ready group .verified locals) (hne : group ≠ []) :
    ∃ next, act slices group .finalize locals = .ok next ∧
      next.components = update group (fun _ row => { row with state := .restored })
        locals.components := by
  have hsave : save group (fun row => { row with state := .restored }) locals.components =
      .ok (update group (fun _ row => { row with state := .restored }) locals.components) := by
    refine save_ok.mpr ⟨fun c hmem row hrow => ?_, rfl⟩
    obtain ⟨_, hother, hstate, hvalue⟩ := h.rows c hmem
    rw [hrow] at hother
    cases hother
    exact guard_restored hstate hvalue
  refine ⟨⟨update group (fun _ row => { row with state := .restored }) locals.components,
    locals.missing⟩, ?_, rfl⟩
  simp only [act, Merging.finalize, bind_ok, require_ok, pure_ok, exists_const]
  exact ⟨_, ⟨.verified, h.sameCheckpoint hne, rfl, hsave⟩, rfl⟩

end Progress

section Stranding

variable {ι : Type} [DecidableEq ι] {slices : Slices ι} {attempt : Attempt ι} {group : List ι}
  {components after : Components ι} {locals : Locals ι} {c : ι} {row : Component ι} {ids : List ι}
  {attempts : List (Attempt ι)}

def registered (ids : List ι) : Components ι :=
  fun c => if c ∈ ids then some .initial else none

end Stranding

end Merging
end SpaceWorks
