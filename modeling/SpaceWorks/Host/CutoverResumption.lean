import SpaceWorks.Host.CutoverSafety

/-!
# Running a cutover again

An effect that is cut off and run again any number of times, against one that is run once.
-/

namespace SpaceWorks
namespace Cutovers

open Checked

section Attempts

variable {γ : Type} [DecidableEq γ]

/-- Runs of an effect from `first` on, where `cut` allows cut off and started again. -/
inductive Attempts (restore : Restore γ) (effect : Effect) (cut : Bool) (first : World γ) :
    List VersionedPointer → World γ → Prop
  | first : Attempts restore effect cut first [] first
  | start {moves : List VersionedPointer} {world after : World γ}
      (hruns : Attempts restore effect cut first moves world)
      (hnext : next restore world (.start effect) = some after) :
      Attempts restore effect cut first moves after
  | step {moves : List VersionedPointer} {world after : World γ} {version : String}
      (hruns : Attempts restore effect cut first moves world)
      (hnext : next restore world (.step version) = some after) :
      Attempts restore effect cut first moves after
  | stop {moves : List VersionedPointer} {world after : World γ} (hcut : cut = true)
      (hruns : Attempts restore effect cut first moves world)
      (hnext : next restore world .stop = some after) :
      Attempts restore effect cut first moves after
  | move {moves : List VersionedPointer} {world after : World γ} {pointer : VersionedPointer}
      (hruns : Attempts restore effect cut first moves world)
      (happart : Apart restore world (.move pointer))
      (hnext : next restore world (.move pointer) = some after) :
      Attempts restore effect cut first (moves ++ [pointer]) after

variable {restore : Restore γ} {effect : Effect} {cut : Bool} {first world after : World γ}
  {moves : List VersionedPointer} {store : Store γ} {stage : Stage γ} {pointer : VersionedPointer}

theorem Attempts.reached {initial : VersionedPointer} (hfirst : Reached restore initial first)
    (h : Attempts restore effect cut first moves world) : Reached restore initial world := by
  induction h with
  | first => exact hfirst
  | start _ hnext ih | step _ hnext ih | stop _ _ hnext ih =>
    exact .next ih (fun _ hevent => by cases hevent) hnext
  | move _ happart hnext ih => exact .next ih happart hnext

theorem Attempts.advance (h : Attempts restore effect cut first moves ⟨store, stage⟩)
    (version : String) (hversion : stage.Replaces → version ∉ store.versions) :
    Attempts restore effect cut first moves
      ⟨(advance restore version store stage).1, (advance restore version store stage).2⟩ := by
  have hnext : next restore ⟨store, stage⟩ (.step version) = some
      ⟨(Cutovers.advance restore version store stage).1,
        (Cutovers.advance restore version store stage).2⟩ := by
    simp only [next]
    rw [if_pos hversion]
  exact .step h hnext

theorem Attempts.begin (h : Attempts restore effect cut first moves ⟨store, .idle⟩) :
    Attempts restore effect cut first moves ⟨store, .start effect⟩ :=
  .start h rfl

theorem Attempts.wait (h : Attempts restore effect cut first moves ⟨store, stage⟩)
    (haccepts : store.Accepts pointer) (happart : ¬ (restore.adapter = .file ∧ stage.Replaces)) :
    Attempts restore effect cut first (moves ++ [pointer]) ⟨store.write .other pointer, stage⟩ := by
  refine .move h (fun _ _ => happart) ?_
  simp only [next]
  rw [if_pos haccepts]

end Attempts

section Cutover

variable {γ : Type} {waits : Stage γ → Prop} {detail : Detail γ} {pointer : VersionedPointer}

/-- An uninterrupted run waits where the ledger's cutover rows stand. -/
structure Resumable (waits : Stage γ → Prop) (store : Store γ) : Prop where
  fresh : store.cutover = [] → waits .idle
  begun : ∀ begun, store.cutover = [begun] →
    (¬ store.recordMatches begun.detail ∧ waits (.swap begun)) ∨
      (∃ ours, store.Seen ours ∧ ours.record = begun.detail.newRecord) ∧ waits (.confirm begun)
  done : ∀ finished, doneDetail store.cutover = some finished →
    ∃ stage : Stage γ, stage.Over ∧ waits stage

/-- An uninterrupted run keeps up; one restarted after a committed swap finds out when it swaps. -/
def Tracks (waits : Stage γ → Prop) (store : Store γ) : Stage γ → Prop
  | .idle => True
  | .start effect => effect = .cutover ∧ (store.cutover = [] → waits (.start .cutover))
  | .completed _ => doneDetail store.cutover ≠ none
  | .acknowledge _ => doneDetail store.cutover ≠ none
  | .capture => waits .capture
  | .journal detail => waits (.journal detail) ∧ ¬ store.recordMatches detail
  | .resume _ => True
  | .swap begun => waits (.swap begun) ∨
      begun.detail.newGeneration < store.current.record.generation ∧ waits (.confirm begun)
  | .replace begun => waits (.replace begun) ∨
      begun.detail.newGeneration < store.current.record.generation ∧ waits (.confirm begun)
  | .confirm begun => waits (.confirm begun)
  | .live begun => waits (.live begun)
  | .finish begun => waits (.finish begun)
  | .returned => ∃ stage : Stage γ, stage.Over ∧ waits stage
  | .refused _ => ∃ stage : Stage γ, stage.Over ∧ waits stage
  | _ => False

variable {restore : Restore γ} {first : World γ} {moves : List VersionedPointer}
  {store : Store γ} {stage : Stage γ}

theorem Resumable.over (h : Resumable waits store)
    (hdone : doneDetail store.cutover ≠ none) : ∃ stage : Stage γ, stage.Over ∧ waits stage := by
  obtain ⟨finished, hfinished⟩ := Option.ne_none_iff_exists'.mp hdone
  exact h.done finished hfinished

theorem tracks_proceed {result : Except String Unit} (hwaits : waits (proceed result stage))
    (h : result = .ok () → waits stage → Tracks waits store stage) :
    Tracks waits store (proceed result stage) := by
  cases result with
  | ok => exact h rfl hwaits
  | error message => exact ⟨.refused message, trivial, hwaits⟩

theorem newGeneration_lt_of_moved (h : Sound restore store)
    (hours : ∃ ours, store.Seen ours ∧ ours.record = detail.newRecord)
    (hmoved : ¬ store.recordMatches detail) :
    detail.newGeneration < store.current.record.generation := by
  obtain ⟨ours, hseen, hrecord⟩ := hours
  have hle := generation_le_current h hseen
  have hgeneration : ours.record.generation = detail.newGeneration := by
    rw [hrecord]
    rfl
  have hne : store.current.record.generation ≠ ours.record.generation := by
    intro hsame
    refine hmoved ?_
    rw [Store.recordMatches, current_eq_of_generation h hseen hsame]
    exact hrecord
  omega

theorem single_of_tracks [DecidableEq γ]
    (h : Tracks (fun stage => Attempts restore .cutover false first moves ⟨store, stage⟩) store stage)
    (hover : stage.Over) :
    ∃ single : World γ, Attempts restore .cutover false first moves single ∧
      single.stage.Over ∧ single.store = store := by
  cases stage with
  | returned | refused =>
    obtain ⟨_, hstage, hwaits⟩ := h
    exact ⟨_, hwaits, hstage, rfl⟩
  | _ => exact hover.elim

variable [DecidableEq γ]

theorem over_of_confirm {begun : Row (Detail γ)} {effect : Effect} {cut : Bool}
    (hovertaken : begun.detail.newGeneration < store.current.record.generation)
    (h : Attempts restore effect cut first moves ⟨store, .confirm begun⟩) :
    ∃ stage : Stage γ, stage.Over ∧ Attempts restore effect cut first moves ⟨store, stage⟩ := by
  have hmoved : ¬ store.recordMatches begun.detail := by
    intro hmatches
    have hgeneration : store.current.record.generation = begun.detail.newGeneration := by
      rw [hmatches]
      rfl
    omega
  have hrefuses := Attempts.advance h "" nofun
  simp [advance, require, hmoved, proceed] at hrefuses
  exact ⟨.refused _, trivial, hrefuses⟩

theorem tracks_start (h : Sound restore store) (hwaits : store.cutover = [] →
      Attempts restore .cutover false first moves ⟨store, .start .cutover⟩) :
    Tracks (fun stage => Attempts restore .cutover false first moves ⟨store, stage⟩) store
      (startCutover store) := by
  have hjournal := h.cutover
  generalize hrows : store.cutover = rows at hjournal
  cases hjournal with
  | nil =>
    have hgoes := (hwaits hrows).advance "" nofun
    have hcapture : startCutover store = .capture := by
      simp [startCutover, hrows]
    simp only [advance, hcapture] at hgoes
    rw [hcapture]
    exact hgoes
  | begun detail =>
    have hvalid := (h.captured (attemptOf detail) (by simp [hrows])).1
    simp only [startCutover, hrows, doneDetail_begun, incomplete_begun, hvalid, proceed]
    trivial
  | done _ finished =>
    have hvalid := (h.captured (endOf finished) (by simp [hrows])).1
    have hdone : doneDetail store.cutover ≠ none := by simp [hrows]
    simp only [startCutover, hrows, doneDetail_done]
    change validateJournalDetail finished = _ at hvalid
    rw [hvalid]
    exact hdone

theorem tracks_advance {version : String} (h : Sound restore store)
    (hholds : Holds restore store stage) (hversion : stage.Replaces → version ∉ store.versions)
    (hresumable : Resumable (fun stage =>
      Attempts restore .cutover false first moves ⟨store, stage⟩) store)
    (htracks : Tracks (fun stage =>
      Attempts restore .cutover false first moves ⟨store, stage⟩) store stage) :
    Resumable (fun stage' => Attempts restore .cutover false first moves
        ⟨(advance restore version store stage).1, stage'⟩)
      (advance restore version store stage).1 ∧
    Tracks (fun stage' => Attempts restore .cutover false first moves
        ⟨(advance restore version store stage).1, stage'⟩)
      (advance restore version store stage).1 (advance restore version store stage).2 := by
  cases stage with
  | idle | returned | refused => exact ⟨hresumable, htracks⟩
  | start =>
    obtain ⟨rfl, hwaits⟩ := htracks
    exact ⟨hresumable, tracks_start h hwaits⟩
  | completed detail =>
    refine ⟨hresumable, ?_⟩
    simp only [advance]
    cases hmatches : require (store.recordMatches detail) _ with
    | ok => exact htracks
    | error => exact hresumable.over htracks
  | acknowledge detail =>
    refine ⟨hresumable, ?_⟩
    simp only [advance]
    cases hlive : assertLiveCandidate restore detail with
    | ok | error => exact hresumable.over htracks
  | capture =>
    refine ⟨hresumable, tracks_proceed (htracks.advance "" False.elim) ?_⟩
    intro _ hjournal
    refine ⟨hjournal, fun hmatches => ?_⟩
    have hsame : store.current.record.generation = store.current.record.generation + 1 :=
      congrArg PointerRecord.generation hmatches
    omega
  | journal =>
    have hgoes := htracks.1.advance "" False.elim
    simp only [advance, hholds.1, begin_nil] at hgoes ⊢
    refine ⟨⟨fun hnone => (by cases hnone), fun begun hbegun => ?_, fun _ hdone => (by cases hdone)⟩,
      .inl hgoes⟩
    cases hbegun
    exact .inl ⟨htracks.2, hgoes⟩
  | resume begun =>
    refine ⟨hresumable, ?_⟩
    show Tracks _ store (if store.recordMatches begun.detail then _ else _)
    rcases hresumable.begun begun hholds with ⟨hunlike, hwaits⟩ | ⟨hours, hwaits⟩
    · rw [if_neg hunlike]
      exact .inl hwaits
    · by_cases hmatches : store.recordMatches begun.detail
      · rw [if_pos hmatches]
        have hgoes := hwaits.advance "" False.elim
        simp [advance, require, hmatches, proceed] at hgoes
        exact hgoes
      · rw [if_neg hmatches]
        exact .inr ⟨newGeneration_lt_of_moved h hours hmatches, hwaits⟩
  | swap begun =>
    refine ⟨hresumable, ?_⟩
    rcases htracks with hwaits | ⟨hovertaken, hwaits⟩
    · exact tracks_proceed (hwaits.advance "" False.elim) fun _ hreplace => .inl hreplace
    · simp only [advance]
      cases checkSwap restore.adapter store.current begun.detail.swap with
      | ok => exact .inr ⟨hovertaken, hwaits⟩
      | error => exact over_of_confirm hovertaken hwaits
  | replace begun =>
    rcases htracks with hwaits | ⟨hovertaken, hwaits⟩
    · have hgoes := hwaits.advance version hversion
      cases hreplace : replacePointer restore.adapter store .cutover begun.detail.swap version with
      | error message =>
        simp only [advance, hreplace] at hgoes ⊢
        exact ⟨hresumable, .refused message, trivial, hgoes⟩
      | ok =>
        obtain ⟨rfl, _⟩ := replaced_cutover h hholds hreplace
        simp only [advance, hreplace] at hgoes ⊢
        refine ⟨⟨fun hnone => ?_, fun other hother => .inr ?_, fun finished hdone => ?_⟩, hgoes⟩
        · change store.cutover = [] at hnone
          rw [hholds.1] at hnone
          cases hnone
        · change store.cutover = [other] at hother
          rw [hholds.1] at hother
          cases hother
          exact ⟨⟨_, seen_current, rfl⟩, hgoes⟩
        · change doneDetail store.cutover = some finished at hdone
          have hbegun : begun = attemptOf begun.detail :=
            Journal.eq_attemptOf (hholds.1 ▸ h.cutover)
          rw [hholds.1, hbegun] at hdone
          cases hdone
    · cases hreplace : replacePointer restore.adapter store .cutover begun.detail.swap version with
      | error =>
        simp only [advance, hreplace]
        exact ⟨hresumable, over_of_confirm hovertaken hwaits⟩
      | ok =>
        -- the pointer that the swap starts from is gone
        obtain ⟨_, hrecord, _⟩ := replaced_cutover h hholds hreplace
        have hnew := newGeneration_of_validate (h.captured begun (by simp [hholds.1])).1
        have hgeneration : store.current.record.generation = begun.detail.oldGeneration := by
          rw [hrecord]
          rfl
        omega
  | confirm =>
    exact ⟨hresumable, tracks_proceed (Attempts.advance htracks "" False.elim)
      fun _ hlive => hlive⟩
  | live =>
    exact ⟨hresumable, tracks_proceed (Attempts.advance htracks "" False.elim)
      fun _ hfinish => hfinish⟩
  | finish begun =>
    have hgoes := Attempts.advance htracks "" False.elim
    have hrows : store.cutover = [begun] := hholds
    have hbegun : begun = attemptOf begun.detail := Journal.eq_attemptOf (hrows ▸ h.cutover)
    rw [hbegun] at hrows hgoes ⊢
    simp only [advance, hrows, detail_attemptOf, finish_begun] at hgoes ⊢
    exact ⟨⟨fun hnone => (by cases hnone), fun _ hother => (by cases hother),
      fun _ _ => ⟨.returned, trivial, hgoes⟩⟩, .returned, trivial, hgoes⟩
  | _ => exact htracks.elim

omit [DecidableEq γ] in
theorem not_matches_write (hurl : detail.newDatabaseUrl = restore.runtimeUrl)
    (hother : pointer.record.databaseUrl ≠ restore.runtimeUrl) :
    ¬ (store.write .other pointer).recordMatches detail := by
  intro hmatches
  refine hother (Eq.trans ?_ hurl)
  exact congrArg PointerRecord.databaseUrl hmatches

theorem tracks_move (h : Sound restore store)
    (hholds : Holds restore store stage) (haccepts : store.Accepts pointer)
    (hother : pointer.record.databaseUrl ≠ restore.runtimeUrl)
    (happart : ¬ (restore.adapter = .file ∧ stage.Replaces)) (hresumable : Resumable (fun stage =>
      Attempts restore .cutover false first moves ⟨store, stage⟩) store)
    (htracks : Tracks (fun stage =>
      Attempts restore .cutover false first moves ⟨store, stage⟩) store stage) :
    Resumable (fun stage' => Attempts restore .cutover false first (moves ++ [pointer])
        ⟨store.write .other pointer, stage'⟩) (store.write .other pointer) ∧
      Tracks (fun stage' => Attempts restore .cutover false first (moves ++ [pointer])
        ⟨store.write .other pointer, stage'⟩) (store.write .other pointer) stage := by
  have hwait : ∀ stage' : Stage γ, ¬ stage'.Replaces →
      Attempts restore .cutover false first moves ⟨store, stage'⟩ →
      Attempts restore .cutover false first (moves ++ [pointer])
        ⟨store.write .other pointer, stage'⟩ := fun stage' hplain hwaits =>
    hwaits.wait haccepts fun hreplaces => hplain hreplaces.2
  have hover : (∃ stage' : Stage γ, stage'.Over ∧
        Attempts restore .cutover false first moves ⟨store, stage'⟩) →
      ∃ stage' : Stage γ, stage'.Over ∧ Attempts restore .cutover false first (moves ++ [pointer])
          ⟨store.write .other pointer, stage'⟩ := by
    rintro ⟨stage', hstage, hwaits⟩
    refine ⟨stage', hstage, hwait stage' ?_ hwaits⟩
    cases stage' <;> first | exact id | exact hstage.elim
  refine ⟨⟨fun hnone => hwait _ id (hresumable.fresh hnone), fun begun hbegun => ?_,
    fun finished hdone => hover (hresumable.done finished hdone)⟩, ?_⟩
  · have hurl := (h.captured begun (by rw [show store.cutover = [begun] from hbegun]; simp)).2.1
    rcases hresumable.begun begun hbegun with ⟨_, hwaits⟩ | ⟨⟨ours, hseen, hours⟩, hwaits⟩
    · exact .inl ⟨not_matches_write hurl hother, hwait _ id hwaits⟩
    · exact .inr ⟨⟨ours, seen_write.mpr (.inr hseen), hours⟩, hwait _ id hwaits⟩
  · cases stage with
    | start => exact ⟨htracks.1, fun hnone => hwait _ id (htracks.2 hnone)⟩
    | capture => exact hwait _ id htracks
    | journal =>
      exact ⟨hwait _ id htracks.1, not_matches_write hholds.2.2.1 hother⟩
    | swap =>
      rcases htracks with hwaits | ⟨hovertaken, hwaits⟩
      · exact .inl (hwait _ id hwaits)
      · exact .inr ⟨Nat.lt_trans hovertaken haccepts.1, hwait _ id hwaits⟩
    | replace =>
      rcases htracks with hwaits | ⟨hovertaken, hwaits⟩
      · exact .inl (hwaits.wait haccepts happart)
      · exact .inr ⟨Nat.lt_trans hovertaken haccepts.1, hwait _ id hwaits⟩
    | confirm | live | finish => exact hwait _ id htracks
    | returned | refused => exact hover htracks
    | idle | completed _ | acknowledge _ | resume _ => exact htracks
    | _ => exact htracks.elim

theorem cutover_tracked {initial : VersionedPointer} {world : World γ}
    (hfirst : Reached restore initial first) (hidle : first.stage = .idle)
    (hnone : first.store.cutover = []) (h : Attempts restore .cutover true first moves world)
    (hothers : ∀ pointer ∈ moves, pointer.record.databaseUrl ≠ restore.runtimeUrl) :
    Resumable (fun stage => Attempts restore .cutover false first moves ⟨world.store, stage⟩)
        world.store ∧
      Tracks (fun stage => Attempts restore .cutover false first moves ⟨world.store, stage⟩)
        world.store world.stage := by
  induction h with
  | first =>
    have hbase : Attempts restore .cutover false first [] ⟨first.store, .idle⟩ := by
      rw [← hidle]
      exact .first
    refine ⟨⟨fun _ => hbase, fun begun hbegun => ?_, fun finished hdone => ?_⟩, ?_⟩
    · rw [hnone] at hbegun
      cases hbegun
    · rw [hnone] at hdone
      cases hdone
    · rw [hidle]
      trivial
  | start _ hnext ih =>
    simp only [next] at hnext
    split at hnext
    · cases hnext
      exact ⟨(ih hothers).1, rfl, fun hrows => ((ih hothers).1.fresh hrows).begin⟩
    · cases hnext
  | step hruns hnext ih =>
    obtain ⟨hsound, hholds⟩ := reached_sound (hruns.reached hfirst)
    simp only [next] at hnext
    split at hnext
    · rename_i hversion
      cases hnext
      exact tracks_advance hsound hholds hversion (ih hothers).1 (ih hothers).2
    · cases hnext
  | stop _ _ hnext ih =>
    cases hnext
    exact ⟨(ih hothers).1, trivial⟩
  | @move _ _ _ pointer hruns happart hnext ih =>
    have hother := hothers pointer (by simp)
    have hearlier := ih fun p hp => hothers p (List.mem_append_left _ hp)
    obtain ⟨hsound, hholds⟩ := reached_sound (hruns.reached hfirst)
    simp only [next] at hnext
    split at hnext
    · rename_i haccepts
      cases hnext
      exact tracks_move hsound hholds haccepts hother (happart _ rfl) hearlier.1 hearlier.2
    · cases hnext

end Cutover

end Cutovers
end SpaceWorks
