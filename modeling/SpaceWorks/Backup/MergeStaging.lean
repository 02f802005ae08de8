import SpaceWorks.Backup.MergeAttempts

/-!
# The way to the rows

What the steps make of a group is known in advance (`evolve`), unless the table refuses one.
-/

namespace SpaceWorks
namespace Merging

open Checked TransactionalSystem List

section Staging

variable {ι : Type} [DecidableEq ι] {slices : Slices ι} {attempt : Attempt ι}
  {group : List ι} {components : Components ι}
  {step at_ : Step} {steps done rest : List Step} {locals last : Locals ι}
  {f g : ι → Component ι → Component ι} {value : MergeCheckpoint} {d : ι}

def atLeast (value current : MergeCheckpoint) : MergeCheckpoint :=
  if value.rank ≤ current.rank then current else value

omit [DecidableEq ι] in
theorem sameCheckpoint_of_aligned (hne : group ≠ [])
    (hregistered : ∀ c ∈ group, ∃ row, components c = some row)
    (h : Aligned components group value) :
    sameCheckpoint (rowsOf components group) = .ok value := by
  refine sameCheckpoint_ok.mpr ⟨?_, fun row hrow => ?_⟩
  · obtain ⟨c, hmem⟩ := exists_mem_of_ne_nil group hne
    obtain ⟨_, hrow⟩ := hregistered c hmem
    exact ne_nil_of_mem (mem_rowsOf.mpr ⟨c, hmem, hrow⟩)
  · obtain ⟨c, hmem, hrow⟩ := mem_rowsOf.mp hrow
    exact h c hmem row hrow

theorem checkpoint_of_aligned {current : MergeCheckpoint} (hne : group ≠ [])
    (hmerging : ∀ c ∈ group, ∃ row, components c = some row ∧ row.state = .merging)
    (h : Aligned components group current) (hrank : value.rank ≤ current.rank + 1) :
    checkpoint group value components =
      .ok (update group (fun _ row => { row with mergeCheckpoint := atLeast value current })
        components) := by
  have hsame := sameCheckpoint_of_aligned hne
    (fun c hmem => (hmerging c hmem).imp fun _ hrow => hrow.1) h
  simp only [checkpoint, bind_ok]
  refine ⟨current, hsame, ?_⟩
  by_cases hle : value.rank ≤ current.rank
  · have hupdate : update group (fun _ row => { row with mergeCheckpoint := atLeast value current })
        components = components := by
      funext c
      by_cases hmem : c ∈ group
      · obtain ⟨row, hrow, -⟩ := hmerging c hmem
        obtain rfl := h c hmem row hrow
        simp [update, hmem, hrow, atLeast, hle]
      · simp [update, hmem]
    rw [hupdate, if_pos hle]
    rfl
  · have hnext : value.rank = current.rank + 1 := by omega
    have hsave : save group (fun row => { row with mergeCheckpoint := value }) components =
        .ok (update group (fun _ row => { row with mergeCheckpoint := atLeast value current })
          components) := by
      rw [save_ok, atLeast, if_neg hle]
      refine ⟨fun c hmem row hrow => ?_, rfl⟩
      obtain ⟨_, hother, hstate⟩ := hmerging c hmem
      rw [hrow] at hother
      cases hother
      exact guard_checkpoint hstate (by rw [h c hmem row hrow]; exact hnext)
    rw [if_neg hle]
    simp only [bind_ok, require_ok, exists_const]
    exact ⟨hnext, hsave⟩

def Step.waits : Step → Bool
  | .work .discardStaging | .work .dropSchema | .work .replaceJournal | .dependencyWait => true
  | _ => false

/-- No fault stops the attempt at these steps. -/
def Passed (slices : Slices ι) (components : Components ι) (attempt : Attempt ι)
    (done : List Step) : Prop :=
  ∀ step ∈ done, OnPath slices components attempt.group step → ∀ i, attempt.fault ≠ some ⟨step, i⟩

end Staging

end Merging
end SpaceWorks
