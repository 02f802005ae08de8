import SpaceWorks.Host.PointerCutover

/-!
# What the pointer of a restore goes through

What the two journalled effects reach over crashes, repeated runs and other writers: a pointer is
found again by its generation, and in an external store by its version.
-/

namespace SpaceWorks
namespace Cutovers

open Checked List

section Invariant

variable {γ : Type} {pointer : VersionedPointer} {effect : Effect} {swap : Swap} {version : String}
  {after : Store γ}

def Store.Seen (store : Store γ) (pointer : VersionedPointer) : Prop :=
  pointer ∈ store.current :: store.past

def Captured (restore : Restore γ) (store : Store γ) (detail : Detail γ) : Prop :=
  validateJournalDetail detail = .ok () ∧ detail.newDatabaseUrl = restore.runtimeUrl ∧
    ∃ pointer, store.Seen pointer ∧ pointer.record = detail.oldRecord ∧
      (restore.adapter = .external → detail.oldStoreVersion = some pointer.storeVersion)

/-- From the journalled pointer to the candidate, or back from it. -/
def Change.Justified (restore : Restore γ) (store : Store γ) (change : Change) : Prop :=
  match change.writer with
  | .run .cutover =>
    ∃ detail, attemptOf detail ∈ store.cutover ∧
      change.before.record = detail.oldRecord ∧
      (restore.adapter = .external → detail.oldStoreVersion = some change.before.storeVersion) ∧
      change.after.record = detail.newRecord
  | .run .rollback =>
    ∃ cutover, doneDetail store.cutover = some cutover ∧
      change.before.record = cutover.newRecord ∧
      change.after.record = ⟨cutover.oldDatabaseUrl, cutover.newGeneration + 1⟩
  | .other => True

def Change.Increases (change : Change) : Prop :=
  change.before.record.generation < change.after.record.generation

/-- What holds of the store between any two steps. -/
structure Sound (restore : Restore γ) (store : Store γ) : Prop where
  generations : (store.current :: store.past).Pairwise fun newer older =>
    older.record.generation < newer.record.generation
  versions : store.versions.Nodup
  cutover : Journal store.cutover
  rollback : Journal store.rollback
  captured : ∀ row ∈ store.cutover, Captured restore store row.detail
  increases : ∀ change ∈ store.changes, change.Increases
  justified : ∀ change ∈ store.changes, change.Justified restore store
  past : ∀ change ∈ store.changes,
    change.after.record.generation ≤ store.current.record.generation
  chained : store.changes.Pairwise fun newer older =>
    older.after.record.generation ≤ newer.before.record.generation

def Holds (restore : Restore γ) (store : Store γ) : Stage γ → Prop
  | .capture => store.cutover = []
  | .journal detail => store.cutover = [] ∧ Captured restore store detail
  | .resume begun => store.cutover = [begun]
  | .swap begun => store.cutover = [begun]
  | .replace begun => store.cutover = [begun] ∧
      (restore.adapter = .file → store.current.record.generation = begun.detail.oldGeneration)
  | .confirm begun => store.cutover = [begun]
  | .live begun => store.cutover = [begun]
  | .finish begun => store.cutover = [begun]
  | .journalRollback cutover => doneDetail store.cutover = some cutover ∧ store.rollback = []
  | .inspect cutover begun => doneDetail store.cutover = some cutover ∧ store.rollback = [begun]
  | .reverse cutover begun => doneDetail store.cutover = some cutover ∧ store.rollback = [begun]
  | .swapBack cutover begun seen =>
    (doneDetail store.cutover = some cutover ∧ store.rollback = [begun]) ∧
      store.Seen seen ∧ seen.record = cutover.newRecord
  | .replaceBack cutover begun seen =>
    (doneDetail store.cutover = some cutover ∧ store.rollback = [begun]) ∧
      (store.Seen seen ∧ seen.record = cutover.newRecord) ∧
      (restore.adapter = .file → store.current.record.generation = seen.record.generation)
  | .verify cutover begun => doneDetail store.cutover = some cutover ∧ store.rollback = [begun]
  | .reverseObjects cutover begun =>
    doneDetail store.cutover = some cutover ∧ store.rollback = [begun]
  | .finishRollback begun _ => store.rollback = [begun]
  | _ => True

variable {restore : Restore γ} {store : Store γ}

@[simp] theorem seen_write {writer : Writer} {other : VersionedPointer} :
    (store.write writer pointer).Seen other ↔ other = pointer ∨ store.Seen other := by
  simp [Store.Seen, Store.write]

theorem seen_current : store.Seen store.current := by
  simp [Store.Seen]

theorem generation_le_current (h : Sound restore store) (hseen : store.Seen pointer) :
    pointer.record.generation ≤ store.current.record.generation := by
  rcases mem_cons.mp hseen with rfl | hpast
  · exact Nat.le_refl _
  · exact Nat.le_of_lt (rel_of_pairwise_cons h.generations hpast)

theorem current_eq_of_generation (h : Sound restore store) (hseen : store.Seen pointer)
    (hsame : store.current.record.generation = pointer.record.generation) :
    store.current = pointer := by
  rcases mem_cons.mp hseen with rfl | hpast
  · rfl
  · have holder := rel_of_pairwise_cons h.generations hpast
    omega

theorem current_eq_of_version (h : Sound restore store)
    (hseen : store.Seen pointer) (hsame : store.current.storeVersion = pointer.storeVersion) :
    store.current = pointer := by
  rcases mem_cons.mp hseen with rfl | hpast
  · rfl
  · have hnew := (nodup_cons.mp (show (store.current.storeVersion ::
      store.past.map VersionedPointer.storeVersion).Nodup from h.versions)).1
    exact absurd (mem_map.mpr ⟨pointer, hpast, hsame.symm⟩) hnew

theorem Captured.write {detail : Detail γ} (h : Captured restore store detail) (writer : Writer)
    (pointer : VersionedPointer) : Captured restore (store.write writer pointer) detail := by
  obtain ⟨hnew, hurl, old, hseen, hold⟩ := h
  exact ⟨hnew, hurl, old, seen_write.mpr (.inr hseen), hold⟩

theorem Sound.write (h : Sound restore store) {writer : Writer} {pointer : VersionedPointer}
    (haccepts : store.Accepts pointer)
    (hjustified : (Change.mk writer store.current pointer).Justified restore store) :
    Sound restore (store.write writer pointer) where
  generations := by
    refine pairwise_cons.mpr ⟨fun other hseen => ?_, h.generations⟩
    have hle := generation_le_current h hseen
    have hlt := haccepts.1
    show other.record.generation < pointer.record.generation
    omega
  versions := nodup_cons.mpr ⟨haccepts.2, h.versions⟩
  cutover := h.cutover
  rollback := h.rollback
  captured := fun row hrow => (h.captured row hrow).write writer pointer
  increases := by
    intro change hchange
    rcases mem_cons.mp hchange with rfl | hold
    · exact haccepts.1
    · exact h.increases change hold
  justified := by
    intro change hchange
    rcases mem_cons.mp hchange with rfl | hold
    · exact hjustified
    · exact h.justified change hold
  past := by
    intro change hchange
    rcases mem_cons.mp hchange with rfl | hold
    · exact Nat.le_refl _
    · have hle := h.past change hold
      have hlt := haccepts.1
      show change.after.record.generation ≤ pointer.record.generation
      omega
  chained := pairwise_cons.mpr ⟨h.past, h.chained⟩

theorem after_of_replace {adapter : Adapter}
    (h : replacePointer adapter store effect swap version = .ok after) :
    after = store.write (.run effect) ⟨swap.record, version⟩ ∧
      (adapter = .external → some store.current.storeVersion = swap.expectedVersion) := by
  cases adapter with
  | file =>
    simp [replacePointer] at h
    obtain ⟨_, _, rfl⟩ := h
    exact ⟨rfl, fun hexternal => by cases hexternal⟩
  | external =>
    simp only [replacePointer, bind_ok, require_ok, pure_ok] at h
    obtain ⟨_, hsame, rfl⟩ := h
    exact ⟨rfl, fun _ => hsame⟩

theorem replaced (h : Sound restore store)
    (hreplace : replacePointer restore.adapter store effect swap version = .ok after)
    (hseen : store.Seen pointer) (hfile : restore.adapter = .file →
      store.current.record.generation = pointer.record.generation)
    (hexternal : restore.adapter = .external →
      swap.expectedVersion = some pointer.storeVersion) :
    after = store.write (.run effect) ⟨swap.record, version⟩ ∧ store.current = pointer := by
  obtain ⟨hafter, hversion⟩ := after_of_replace hreplace
  refine ⟨hafter, ?_⟩
  cases hadapter : restore.adapter with
  | file => exact current_eq_of_generation h hseen (hfile hadapter)
  | external =>
    have hsame := hversion hadapter
    rw [hexternal hadapter, Option.some.injEq] at hsame
    exact current_eq_of_version h hseen hsame

end Invariant

section Steps

variable {γ : Type} {restore : Restore γ} {store : Store γ}
  {detail : Detail γ} {stage : Stage γ} {version : String} {after : Store γ}
  {change : Change}

theorem Sound.beginCutover (h : Sound restore store) (hnone : store.cutover = [])
    (hcaptured : Captured restore store detail) :
    Sound restore { store with cutover := [attemptOf detail] } where
  generations := h.generations
  versions := h.versions
  cutover := .begun detail
  rollback := h.rollback
  captured := by
    intro row hrow
    rw [mem_singleton.mp hrow]
    exact hcaptured
  increases := h.increases
  justified := by
    intro change hchange
    have hjustified := h.justified change hchange
    -- nothing was swapped before the attempt was journalled
    rcases change with ⟨⟨_ | _⟩ | _, _, _⟩
    · obtain ⟨_, hmem, _⟩ := hjustified
      rw [hnone] at hmem
      cases hmem
    · obtain ⟨_, hdone, _⟩ := hjustified
      rw [hnone] at hdone
      cases hdone
    · trivial
  past := h.past
  chained := h.chained

theorem Sound.finishCutover (h : Sound restore store)
    (hbegun : store.cutover = [attemptOf detail]) :
    Sound restore { store with cutover := [attemptOf detail, endOf detail] } where
  generations := h.generations
  versions := h.versions
  cutover := .done detail detail
  rollback := h.rollback
  captured := by
    have hcaptured : Captured restore store detail :=
      h.captured (attemptOf detail) (by simp [hbegun])
    intro row hrow
    rcases mem_cons.mp hrow with rfl | hend
    · exact hcaptured
    · rw [mem_singleton.mp hend]
      exact hcaptured
  increases := h.increases
  justified := by
    intro change hchange
    have hjustified := h.justified change hchange
    rcases change with ⟨⟨_ | _⟩ | _, _, _⟩
    · obtain ⟨other, hmem, hrest⟩ := hjustified
      rw [hbegun] at hmem
      exact ⟨other, mem_cons.mpr (.inl (mem_singleton.mp hmem)), hrest⟩
    · obtain ⟨_, hdone, _⟩ := hjustified
      rw [hbegun] at hdone
      cases hdone
    · trivial
  past := h.past
  chained := h.chained

theorem Sound.setRollback (h : Sound restore store) {rows : List (Row (RollbackDetail γ))}
    (hrows : Journal rows) : Sound restore { store with rollback := rows } where
  generations := h.generations
  versions := h.versions
  cutover := h.cutover
  rollback := hrows
  captured := h.captured
  increases := h.increases
  justified := h.justified
  past := h.past
  chained := h.chained

theorem holds_proceed {result : Except String Unit}
    (h : result = .ok () → Holds restore store stage) :
    Holds restore store (proceed result stage) := by
  cases result with
  | ok => exact h rfl
  | error => trivial

theorem captured_cutoverDetail
    (h : validateJournalDetail (cutoverDetail restore store.current) = .ok ()) :
    Captured restore store (cutoverDetail restore store.current) := by
  refine ⟨h, rfl, store.current, seen_current, rfl, fun hexternal => ?_⟩
  simp [cutoverDetail, hexternal]

theorem holds_startCutover (h : Sound restore store) :
    Holds restore store (startCutover store) := by
  have hjournal := h.cutover
  generalize hrows : store.cutover = rows at hjournal
  cases hjournal with
  | nil =>
    simp only [startCutover, hrows, doneDetail_nil, incomplete_nil]
    exact hrows
  | begun =>
    simp only [startCutover, hrows, doneDetail_begun, incomplete_begun]
    exact holds_proceed fun _ => hrows
  | done =>
    simp only [startCutover, hrows, doneDetail_done]
    exact holds_proceed fun _ => trivial

theorem holds_startRollback (h : Sound restore store) :
    Holds restore store (startRollback restore store) := by
  unfold startRollback
  cases hdone : doneDetail store.cutover with
  | none => trivial
  | some =>
    refine holds_proceed fun _ => ?_
    have hjournal := h.rollback
    generalize hrows : store.rollback = rows at hjournal
    cases hjournal with
    | nil | begun => exact ⟨hdone, hrows⟩
    | done => trivial

theorem generation_of_checkSwap {swap : Swap} (hfile : restore.adapter = .file)
    (h : checkSwap restore.adapter store.current swap = .ok ()) :
    store.current.record.generation = swap.expectedGeneration := by
  simp only [checkSwap, hfile, bind_ok, require_ok] at h
  obtain ⟨_, _, _, hgeneration, _⟩ := h
  exact hgeneration

theorem replaced_cutover (h : Sound restore store) {begun : Row (Detail γ)}
    (hholds : Holds restore store (.replace begun))
    (hreplace : replacePointer restore.adapter store .cutover begun.detail.swap version = .ok after) :
    after = store.write (.run .cutover) ⟨begun.detail.newRecord, version⟩ ∧
      store.current.record = begun.detail.oldRecord ∧
      (restore.adapter = .external →
        begun.detail.oldStoreVersion = some store.current.storeVersion) := by
  obtain ⟨hrows, hfile⟩ := hholds
  obtain ⟨_, _, pointer, hseen, hrecord, hversion⟩ := h.captured begun (by simp [hrows])
  have hgeneration : pointer.record.generation = begun.detail.oldGeneration := by
    rw [hrecord]
    rfl
  obtain ⟨hafter, hcurrent⟩ := replaced h hreplace hseen
    (fun hadapter => (hfile hadapter).trans hgeneration.symm) hversion
  rw [hcurrent]
  exact ⟨hafter, hrecord, hversion⟩

theorem replaced_rollback (h : Sound restore store) {cutover : Detail γ}
    {begun : Row (RollbackDetail γ)} {seen : VersionedPointer}
    (hholds : Holds restore store (.replaceBack cutover begun seen))
    (hreplace : replacePointer restore.adapter store .rollback (cutover.reversal seen) version =
      .ok after) :
    after = store.write (.run .rollback)
        ⟨⟨cutover.oldDatabaseUrl, cutover.newGeneration + 1⟩, version⟩ ∧
      store.current.record = cutover.newRecord := by
  obtain ⟨_, ⟨hseen, hrecord⟩, hfile⟩ := hholds
  obtain ⟨hafter, hcurrent⟩ := replaced h hreplace hseen hfile fun _ => rfl
  have hgeneration : seen.record.generation = cutover.newGeneration := by
    rw [hrecord]
    rfl
  rw [hcurrent, hafter]
  refine ⟨?_, hrecord⟩
  simp [Detail.reversal, hgeneration]

theorem sound_advance [DecidableEq γ] (h : Sound restore store)
    (hholds : Holds restore store stage) (hversion : stage.Replaces → version ∉ store.versions) :
    Sound restore (advance restore version store stage).1 ∧
      Holds restore (advance restore version store stage).1
        (advance restore version store stage).2 := by
  cases stage with
  | idle | returned | refused => exact ⟨h, hholds⟩
  | start effect =>
    cases effect with
    | cutover => exact ⟨h, holds_startCutover h⟩
    | rollback => exact ⟨h, holds_startRollback h⟩
  | completed | acknowledge => exact ⟨h, holds_proceed fun _ => trivial⟩
  | capture => exact ⟨h, holds_proceed fun hvalid => ⟨hholds, captured_cutoverDetail hvalid⟩⟩
  | journal =>
    obtain ⟨hnone, hcaptured⟩ := hholds
    simp only [advance, hnone, begin_nil]
    exact ⟨h.beginCutover hnone hcaptured, rfl⟩
  | resume begun =>
    refine ⟨h, ?_⟩
    show Holds restore store (if store.recordMatches begun.detail then _ else _)
    split <;> exact hholds
  | swap =>
    refine ⟨h, holds_proceed fun hcheck => ⟨hholds, fun hfile => ?_⟩⟩
    exact generation_of_checkSwap hfile hcheck
  | replace begun =>
    cases hreplace : replacePointer restore.adapter store .cutover begun.detail.swap version with
    | error => simpa only [advance, hreplace] using ⟨h, trivial⟩
    | ok =>
      obtain ⟨rfl, hrecord, hstore⟩ := replaced_cutover h hholds hreplace
      have hnew := newGeneration_of_validate (h.captured begun (by simp [hholds.1])).1
      have hgeneration : store.current.record.generation = begun.detail.oldGeneration := by
        rw [hrecord]
        rfl
      have hbegun : begun = attemptOf begun.detail := Journal.eq_attemptOf (hholds.1 ▸ h.cutover)
      simp only [advance, hreplace]
      refine ⟨h.write ⟨?_, hversion trivial⟩ ⟨begun.detail, ?_, hrecord, hstore, rfl⟩, hholds.1⟩
      · show store.current.record.generation < begun.detail.newGeneration
        omega
      · rw [← hbegun, hholds.1]
        exact mem_singleton.mpr rfl
  | confirm | live | verify => exact ⟨h, holds_proceed fun _ => hholds⟩
  | finish begun =>
    have hrows : store.cutover = [begun] := hholds
    have hbegun : begun = attemptOf begun.detail := Journal.eq_attemptOf (hrows ▸ h.cutover)
    rw [hbegun] at hrows ⊢
    simp only [advance, hrows, detail_attemptOf, finish_begun]
    exact ⟨h.finishCutover hrows, trivial⟩
  | journalRollback =>
    obtain ⟨hdone, hnone⟩ := hholds
    simp only [advance, hnone, begin_nil]
    exact ⟨h.setRollback (.begun _), hdone, rfl⟩
  | inspect cutover =>
    refine ⟨h, ?_⟩
    show Holds restore store (if store.rolledBack cutover then _ else _)
    split <;> exact hholds
  | reverse cutover =>
    refine ⟨h, holds_proceed fun hmatches => ⟨hholds, seen_current, ?_⟩⟩
    show store.recordMatches cutover
    simpa only [require_ok] using hmatches
  | swapBack =>
    refine ⟨h, holds_proceed fun hcheck => ⟨hholds.1, hholds.2, fun hfile => ?_⟩⟩
    exact generation_of_checkSwap hfile hcheck
  | replaceBack cutover _ seen =>
    cases hreplace : replacePointer restore.adapter store .rollback (cutover.reversal seen)
        version with
    | error => simpa only [advance, hreplace] using ⟨h, trivial⟩
    | ok =>
      obtain ⟨rfl, hrecord⟩ := replaced_rollback h hholds hreplace
      have hgeneration : store.current.record.generation = cutover.newGeneration := by
        rw [hrecord]
        rfl
      simp only [advance, hreplace]
      refine ⟨h.write ⟨?_, hversion trivial⟩ ⟨cutover, hholds.1.1, hrecord, rfl⟩, hholds.1⟩
      show store.current.record.generation < cutover.newGeneration + 1
      omega
  | reverseObjects => exact ⟨h, hholds.2⟩
  | finishRollback begun =>
    have hrows : store.rollback = [begun] := hholds
    have hbegun : begun = attemptOf begun.detail := Journal.eq_attemptOf (hrows ▸ h.rollback)
    rw [hbegun] at hrows ⊢
    simp only [advance, hrows, detail_attemptOf, finish_begun]
    exact ⟨h.setRollback (.done _ _), trivial⟩

theorem holds_move {pointer : VersionedPointer} (hholds : Holds restore store stage)
    (happart : ¬ (restore.adapter = .file ∧ stage.Replaces)) :
    Holds restore (store.write .other pointer) stage := by
  cases stage with
  | journal => exact ⟨hholds.1, hholds.2.write _ _⟩
  | replace => exact ⟨hholds.1, fun hfile => absurd ⟨hfile, trivial⟩ happart⟩
  | swapBack =>
    exact ⟨hholds.1, seen_write.mpr (.inr hholds.2.1), hholds.2.2⟩
  | replaceBack =>
    obtain ⟨hrows, ⟨hseen, hrecord⟩, _⟩ := hholds
    exact ⟨hrows, ⟨seen_write.mpr (.inr hseen), hrecord⟩,
      fun hfile => absurd ⟨hfile, trivial⟩ happart⟩
  | _ => exact hholds

theorem sound_fresh (pointer : VersionedPointer) : Sound restore (Store.fresh pointer) where
  generations := by simp [Store.fresh]
  versions := by simp [Store.fresh, Store.versions]
  cutover := .nil
  rollback := .nil
  captured := by simp [Store.fresh]
  increases := by simp [Store.fresh]
  justified := by simp [Store.fresh]
  past := by simp [Store.fresh]
  chained := by simp [Store.fresh]

theorem swap_of_cutover (h : Sound restore store)
    (hchange : change ∈ store.changes) (hwriter : change.writer = .run .cutover) :
    ∃ detail, attemptOf detail ∈ store.cutover ∧
      change.before.record = detail.oldRecord ∧
      (restore.adapter = .external → detail.oldStoreVersion = some change.before.storeVersion) ∧
      change.after.record = detail.newRecord := by
  have hjustified := h.justified change hchange
  rw [Change.Justified, hwriter] at hjustified
  exact hjustified

theorem swap_of_rollback (h : Sound restore store)
    (hchange : change ∈ store.changes) (hwriter : change.writer = .run .rollback) :
    ∃ cutover, doneDetail store.cutover = some cutover ∧
      change.before.record = cutover.newRecord ∧
      change.after.record = ⟨cutover.oldDatabaseUrl, cutover.newGeneration + 1⟩ := by
  have hjustified := h.justified change hchange
  rw [Change.Justified, hwriter] at hjustified
  exact hjustified

theorem swapped_at_most_once {store : Store γ} (h : Sound restore store) {effect : Effect}
    {generation : Nat} (hfrom : ∀ change ∈ store.changes, change.writer = .run effect →
      change.before.record.generation = generation) :
    (store.changes.filter fun change => change.writer = .run effect).length ≤ 1 := by
  have hpairwise := h.chained.filter fun change => decide (change.writer = .run effect)
  generalize hswaps : (store.changes.filter fun change => change.writer = .run effect) = swaps
  rw [hswaps] at hpairwise
  rcases swaps with _ | ⟨newer, _ | ⟨older, _⟩⟩
  · exact Nat.zero_le 1
  · exact Nat.le_refl 1
  · have hmem : ∀ change ∈ [newer, older], change ∈ store.changes ∧ change.writer = .run effect := by
      intro change hchange
      have hswap : change ∈ store.changes.filter fun change => change.writer = .run effect := by
        rw [hswaps]
        simp only [mem_cons] at hchange ⊢
        exact hchange.imp_right fun hold => .inl (hold.resolve_right not_mem_nil)
      obtain ⟨hin, hwriter⟩ := mem_filter.mp hswap
      exact ⟨hin, of_decide_eq_true hwriter⟩
    have hchained := rel_of_pairwise_cons hpairwise (mem_cons_self)
    obtain ⟨hnewer, hnewerWriter⟩ := hmem newer (by simp)
    obtain ⟨holder, holderWriter⟩ := hmem older (by simp)
    have hup := h.increases older holder
    have hsame := hfrom newer hnewer hnewerWriter
    have hsame' := hfrom older holder holderWriter
    unfold Change.Increases at hup
    omega

end Steps

section Runs

variable {γ : Type} [DecidableEq γ] {restore : Restore γ} {world after : World γ}

/-- Writers of pointer files hold the host operation lock. -/
def Apart (restore : Restore γ) (world : World γ) (event : Event) : Prop :=
  ∀ pointer, event = .move pointer → ¬ (restore.adapter = .file ∧ world.stage.Replaces)

theorem sound_next {event : Event} (h : Sound restore world.store)
    (hholds : Holds restore world.store world.stage) (happart : Apart restore world event)
    (hnext : next restore world event = some after) :
    Sound restore after.store ∧ Holds restore after.store after.stage := by
  cases event with
  | start =>
    simp only [next] at hnext
    split at hnext
    · cases hnext
      exact ⟨h, trivial⟩
    · cases hnext
  | step =>
    simp only [next] at hnext
    split at hnext
    · rename_i hversion
      cases hnext
      exact sound_advance h hholds hversion
    · cases hnext
  | stop =>
    cases hnext
    exact ⟨h, trivial⟩
  | move pointer =>
    simp only [next] at hnext
    split at hnext
    · rename_i haccepts
      cases hnext
      exact ⟨h.write haccepts trivial, holds_move hholds (happart pointer rfl)⟩
    · cases hnext

variable (restore) in
/-- What a restore gets to from a fresh ledger at `pointer`. -/
inductive Reached (pointer : VersionedPointer) : World γ → Prop
  | fresh : Reached pointer ⟨Store.fresh pointer, .idle⟩
  | next {world after : World γ} {event : Event} (hreached : Reached pointer world)
      (happart : Apart restore world event) (hnext : next restore world event = some after) :
      Reached pointer after

theorem reached_sound {pointer : VersionedPointer} (h : Reached restore pointer world) :
    Sound restore world.store ∧ Holds restore world.store world.stage := by
  induction h with
  | fresh => exact ⟨sound_fresh pointer, trivial⟩
  | next _ happart hnext ih => exact sound_next ih.1 ih.2 happart hnext

end Runs

end Cutovers
end SpaceWorks
