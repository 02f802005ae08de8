import SpaceWorks.Host.CutoverResumption

/-!
# Running a rollback again

The reversal of a cutover, cut off and run again, against one run once.
-/

namespace SpaceWorks
namespace Cutovers

open Checked

section Rollback

variable {γ : Type}

/-- An uninterrupted rollback waits where the ledger's rows stand. -/
structure Reversible (restore : Restore γ) (waits : Stage γ → Prop) (store : Store γ) : Prop where
  fresh : store.rollback = [] → waits .idle
  admitted : store.rollback ≠ [] → ∃ cutover, doneDetail store.cutover = some cutover ∧
    admitRollback restore cutover = .ok ()
  begun : ∀ cutover begun, doneDetail store.cutover = some cutover → store.rollback = [begun] →
    waits (.inspect cutover begun) ∨
      cutover.newGeneration < store.current.record.generation ∧ waits (.verify cutover begun)
  done : doneDetail store.rollback ≠ none → ∃ stage : Stage γ, stage.Over ∧ waits stage

/-- An uninterrupted rollback keeps up; one restarted after a committed reversal may refuse. -/
def Keeps (restore : Restore γ) (waits : Stage γ → Prop) (store : Store γ) : Stage γ → Prop
  | .idle => True
  | .start effect => effect = .rollback ∧ (store.rollback = [] → waits (.start .rollback))
  | .journalRollback cutover =>
    waits (.journalRollback cutover) ∧ admitRollback restore cutover = .ok ()
  | .inspect _ _ => True
  | .reverse cutover begun => waits (.reverse cutover begun) ∨
      cutover.newGeneration < store.current.record.generation ∧
        ∃ stage : Stage γ, stage.Over ∧ waits stage
  | .swapBack cutover begun seen => waits (.swapBack cutover begun seen)
  | .replaceBack cutover begun seen => waits (.replaceBack cutover begun seen)
  | .verify cutover begun => waits (.verify cutover begun)
  | .reverseObjects cutover begun => waits (.reverseObjects cutover begun)
  | .finishRollback begun reversed => waits (.finishRollback begun reversed)
  | .returned => ∃ stage : Stage γ, stage.Over ∧ waits stage
  | .refused _ => ∃ stage : Stage γ, stage.Over ∧ waits stage
  | _ => False

variable {restore : Restore γ} {first : World γ} {moves : List VersionedPointer}
  {store : Store γ} {stage : Stage γ}

theorem keeps_proceed {waits : Stage γ → Prop} {result : Except String Unit}
    (hwaits : waits (proceed result stage))
    (h : result = .ok () → waits stage → Keeps restore waits store stage) :
    Keeps restore waits store (proceed result stage) := by
  cases result with
  | ok => exact h rfl hwaits
  | error message => exact ⟨.refused message, trivial, hwaits⟩

variable [DecidableEq γ]

theorem single_of_keeps
    (h : Keeps restore (fun stage => Attempts restore .rollback false first moves ⟨store, stage⟩)
      store stage) (hover : stage.Over) :
    ∃ single : World γ, Attempts restore .rollback false first moves single ∧
      single.stage.Over ∧ single.store = store := by
  cases stage with
  | returned | refused =>
    obtain ⟨_, hstage, hwaits⟩ := h
    exact ⟨_, hwaits, hstage, rfl⟩
  | _ => exact hover.elim

theorem keeps_start (h : Sound restore store) (hreversible : Reversible restore (fun stage =>
      Attempts restore .rollback false first moves ⟨store, stage⟩) store)
    (hwaits : store.rollback = [] →
      Attempts restore .rollback false first moves ⟨store, .start .rollback⟩) :
    Keeps restore (fun stage => Attempts restore .rollback false first moves ⟨store, stage⟩) store
      (startRollback restore store) := by
  have hjournal := h.rollback
  generalize hrows : store.rollback = rows at hjournal
  cases hjournal with
  | nil =>
    have hgoes := (hwaits hrows).advance "" nofun
    simp only [advance] at hgoes
    cases hdone : doneDetail store.cutover with
    | none =>
      simp only [startRollback, hdone] at hgoes ⊢
      exact ⟨.refused _, trivial, hgoes⟩
    | some =>
      simp only [startRollback, hdone, hrows, doneDetail_nil, incomplete_nil] at hgoes ⊢
      exact keeps_proceed hgoes fun hadmit hjournals => ⟨hjournals, hadmit⟩
  | begun =>
    obtain ⟨_, hdone, hadmit⟩ := hreversible.admitted (by simp [hrows])
    simp only [startRollback, hdone, hadmit, hrows, doneDetail_begun, incomplete_begun, proceed]
    trivial
  | done =>
    obtain ⟨_, hdone, hadmit⟩ := hreversible.admitted (by simp [hrows])
    simp only [startRollback, hdone, hadmit, hrows, doneDetail_done, proceed]
    exact hreversible.done (by simp [hrows])

theorem keeps_advance {version : String} (h : Sound restore store)
    (hholds : Holds restore store stage) (hversion : stage.Replaces → version ∉ store.versions)
    (hreversible : Reversible restore (fun stage =>
      Attempts restore .rollback false first moves ⟨store, stage⟩) store)
    (hkeeps : Keeps restore (fun stage =>
      Attempts restore .rollback false first moves ⟨store, stage⟩) store stage) :
    Reversible restore (fun stage' => Attempts restore .rollback false first moves
        ⟨(advance restore version store stage).1, stage'⟩)
      (advance restore version store stage).1 ∧
    Keeps restore (fun stage' => Attempts restore .rollback false first moves
        ⟨(advance restore version store stage).1, stage'⟩)
      (advance restore version store stage).1 (advance restore version store stage).2 := by
  cases stage with
  | idle | returned | refused => exact ⟨hreversible, hkeeps⟩
  | start =>
    obtain ⟨rfl, hwaits⟩ := hkeeps
    exact ⟨hreversible, keeps_start h hreversible hwaits⟩
  | journalRollback cutover =>
    have hgoes := Attempts.advance hkeeps.1 "" False.elim
    simp only [advance, hholds.2, begin_nil] at hgoes ⊢
    refine ⟨⟨fun hnone => (by cases hnone), fun _ => ⟨cutover, hholds.1, hkeeps.2⟩,
      fun other begun hother hbegun => ?_, fun hdone => absurd rfl hdone⟩, trivial⟩
    cases hbegun
    rw [hholds.1, Option.some.injEq] at hother
    subst hother
    exact .inl hgoes
  | inspect cutover begun =>
    refine ⟨hreversible, ?_⟩
    show Keeps restore _ store (if store.rolledBack cutover then _ else _)
    rcases hreversible.begun cutover begun hholds.1 hholds.2 with hwaits | ⟨hovertaken, hwaits⟩
    · have hgoes := hwaits.advance "" False.elim
      simp only [advance] at hgoes
      by_cases hback : store.rolledBack cutover
      · simp only [hback, if_true] at hgoes ⊢
        exact hgoes
      · simp only [hback, if_false] at hgoes ⊢
        exact .inl hgoes
    · by_cases hback : store.rolledBack cutover
      · rw [if_pos hback]
        exact hwaits
      · rw [if_neg hback]
        have hrefuses := hwaits.advance "" False.elim
        simp [advance, require, hback, proceed] at hrefuses
        exact .inr ⟨hovertaken, .refused _, trivial, hrefuses⟩
  | reverse cutover =>
    refine ⟨hreversible, ?_⟩
    rcases hkeeps with hwaits | ⟨_, hover⟩
    · exact keeps_proceed (hwaits.advance "" False.elim) fun _ hswaps => hswaps
    · have hmoved : ¬ store.recordMatches cutover := by
        intro hmatches
        have hgeneration : store.current.record.generation = cutover.newGeneration := by
          rw [hmatches]
          rfl
        omega
      simp only [advance, require, hmoved, if_false, proceed]
      exact hover
  | swapBack =>
    exact ⟨hreversible, keeps_proceed (Attempts.advance hkeeps "" False.elim)
      fun _ hreplaces => hreplaces⟩
  | replaceBack cutover begun seen =>
    have hgoes := Attempts.advance hkeeps version hversion
    cases hreplace : replacePointer restore.adapter store .rollback (cutover.reversal seen)
        version with
    | error message =>
      simp only [advance, hreplace] at hgoes ⊢
      exact ⟨hreversible, .refused message, trivial, hgoes⟩
    | ok =>
      obtain ⟨rfl, _⟩ := replaced_rollback h hholds hreplace
      obtain ⟨⟨hdone, hrows⟩, _⟩ := hholds
      simp only [advance, hreplace] at hgoes ⊢
      refine ⟨⟨fun hnone => ?_, fun _ => ?_, fun other begun' hother hbegun => .inr ?_,
        fun hfinished => ?_⟩, hgoes⟩
      · change store.rollback = [] at hnone
        rw [hrows] at hnone
        cases hnone
      · exact hreversible.admitted (by simp [hrows])
      · change doneDetail store.cutover = some other at hother
        change store.rollback = [begun'] at hbegun
        rw [hdone, Option.some.injEq] at hother
        rw [hrows] at hbegun
        cases hbegun
        subst hother
        exact ⟨Nat.lt_succ_self _, hgoes⟩
      · have hbegun : begun = attemptOf begun.detail := Journal.eq_attemptOf (hrows ▸ h.rollback)
        change doneDetail store.rollback ≠ none at hfinished
        rw [hrows, hbegun] at hfinished
        exact absurd rfl hfinished
  | verify =>
    exact ⟨hreversible, keeps_proceed (Attempts.advance hkeeps "" False.elim)
      fun _ hobjects => hobjects⟩
  | reverseObjects =>
    exact ⟨hreversible, Attempts.advance hkeeps "" False.elim⟩
  | finishRollback begun =>
    have hgoes := Attempts.advance hkeeps "" False.elim
    have hrows : store.rollback = [begun] := hholds
    have hbegun : begun = attemptOf begun.detail := Journal.eq_attemptOf (hrows ▸ h.rollback)
    have hadmitted := hreversible.admitted (by simp [hrows])
    rw [hbegun] at hrows hgoes ⊢
    simp only [advance, hrows, detail_attemptOf, finish_begun] at hgoes ⊢
    exact ⟨⟨fun hnone => (by cases hnone), fun _ => hadmitted, fun _ _ _ hother => (by cases hother),
      fun _ => ⟨.returned, trivial, hgoes⟩⟩, .returned, trivial, hgoes⟩
  | _ => exact hkeeps.elim

theorem keeps_move {pointer : VersionedPointer} (haccepts : store.Accepts pointer)
    (happart : ¬ (restore.adapter = .file ∧ stage.Replaces))
    (hreversible : Reversible restore (fun stage =>
      Attempts restore .rollback false first moves ⟨store, stage⟩) store)
    (hkeeps : Keeps restore (fun stage =>
      Attempts restore .rollback false first moves ⟨store, stage⟩) store stage) :
    Reversible restore (fun stage' => Attempts restore .rollback false first (moves ++ [pointer])
        ⟨store.write .other pointer, stage'⟩) (store.write .other pointer) ∧
      Keeps restore (fun stage' => Attempts restore .rollback false first (moves ++ [pointer])
        ⟨store.write .other pointer, stage'⟩) (store.write .other pointer) stage := by
  have hwait : ∀ stage' : Stage γ, ¬ stage'.Replaces →
      Attempts restore .rollback false first moves ⟨store, stage'⟩ →
      Attempts restore .rollback false first (moves ++ [pointer])
        ⟨store.write .other pointer, stage'⟩ := fun stage' hplain hwaits =>
    hwaits.wait haccepts fun hreplaces => hplain hreplaces.2
  have hover : (∃ stage' : Stage γ, stage'.Over ∧
        Attempts restore .rollback false first moves ⟨store, stage'⟩) →
      ∃ stage' : Stage γ, stage'.Over ∧ Attempts restore .rollback false first (moves ++ [pointer])
          ⟨store.write .other pointer, stage'⟩ := by
    rintro ⟨stage', hstage, hwaits⟩
    refine ⟨stage', hstage, hwait stage' ?_ hwaits⟩
    cases stage' <;> first | exact id | exact hstage.elim
  refine ⟨⟨fun hnone => hwait _ id (hreversible.fresh hnone), hreversible.admitted,
    fun cutover begun hdone hbegun => ?_, fun hdone => hover (hreversible.done hdone)⟩, ?_⟩
  · rcases hreversible.begun cutover begun hdone hbegun with hwaits | ⟨hovertaken, hwaits⟩
    · exact .inl (hwait _ id hwaits)
    · exact .inr ⟨Nat.lt_trans hovertaken haccepts.1, hwait _ id hwaits⟩
  · cases stage with
    | start => exact ⟨hkeeps.1, fun hnone => hwait _ id (hkeeps.2 hnone)⟩
    | journalRollback => exact ⟨hwait _ id hkeeps.1, hkeeps.2⟩
    | reverse =>
      rcases hkeeps with hwaits | ⟨hovertaken, hrefused⟩
      · exact .inl (hwait _ id hwaits)
      · exact .inr ⟨Nat.lt_trans hovertaken haccepts.1, hover hrefused⟩
    | swapBack => exact hwait _ id hkeeps
    | replaceBack => exact Attempts.wait hkeeps haccepts happart
    | verify | reverseObjects | finishRollback => exact hwait _ id hkeeps
    | returned | refused => exact hover hkeeps
    | idle | inspect _ _ => exact hkeeps
    | _ => exact hkeeps.elim

theorem rollback_tracked {initial : VersionedPointer} {world : World γ}
    (hfirst : Reached restore initial first) (hidle : first.stage = .idle)
    (hnone : first.store.rollback = []) (h : Attempts restore .rollback true first moves world) :
    Reversible restore
        (fun stage => Attempts restore .rollback false first moves ⟨world.store, stage⟩)
        world.store ∧
      Keeps restore (fun stage => Attempts restore .rollback false first moves ⟨world.store, stage⟩)
        world.store world.stage := by
  induction h with
  | first =>
    have hbase : Attempts restore .rollback false first [] ⟨first.store, .idle⟩ := by
      rw [← hidle]
      exact .first
    refine ⟨⟨fun _ => hbase, fun hrows => absurd hnone hrows, fun _ begun _ hbegun => ?_,
      fun hdone => ?_⟩, ?_⟩
    · rw [hnone] at hbegun
      cases hbegun
    · rw [hnone] at hdone
      exact absurd rfl hdone
    · rw [hidle]
      trivial
  | start _ hnext ih =>
    simp only [next] at hnext
    split at hnext
    · cases hnext
      exact ⟨ih.1, rfl, fun hrows => (ih.1.fresh hrows).begin⟩
    · cases hnext
  | step hruns hnext ih =>
    obtain ⟨hsound, hholds⟩ := reached_sound (hruns.reached hfirst)
    simp only [next] at hnext
    split at hnext
    · rename_i hversion
      cases hnext
      exact keeps_advance hsound hholds hversion ih.1 ih.2
    · cases hnext
  | stop _ _ hnext ih =>
    cases hnext
    exact ⟨ih.1, trivial⟩
  | move _ happart hnext ih =>
    simp only [next] at hnext
    split at hnext
    · rename_i haccepts
      cases hnext
      exact keeps_move haccepts (happart _ rfl) ih.1 ih.2
    · cases hnext

end Rollback

end Cutovers
end SpaceWorks
