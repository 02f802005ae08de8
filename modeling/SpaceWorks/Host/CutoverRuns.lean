import SpaceWorks.Host.RollbackResumption

/-!
# The pointer over all runs of a restore

`pointer_journalled` says what the pointer and the ledger go through, `pointer_is_overtaken` which
writers are not told from the run itself.
-/

namespace SpaceWorks
namespace Cutovers

open Checked List Option

section Journalled

variable {γ : Type} [DecidableEq γ]

/-- Changes increase the generation, the cutover swaps once from the journalled pointer, the
rollback from the cutover's, and a resumed effect leaves what an uninterrupted one does. -/
theorem pointer_journalled (restore : Restore γ) (initial : VersionedPointer) (world : World γ)
    (h : Reached restore initial world) :
    (∀ change ∈ world.store.changes, change.Increases) ∧
    (world.store.changes.filter fun change => change.writer = .run .cutover).length ≤ 1 ∧
    (∀ change ∈ world.store.changes, change.writer = .run .cutover →
      ∃ detail, attemptOf detail ∈ world.store.cutover ∧
        change.before.record = detail.oldRecord ∧
        (restore.adapter = .external → detail.oldStoreVersion = some change.before.storeVersion) ∧
        change.after.record = detail.newRecord) ∧
    (∀ change ∈ world.store.changes, change.writer = .run .rollback →
      ∃ cutover, doneDetail world.store.cutover = some cutover ∧
        change.before.record = cutover.newRecord ∧
        change.after.record = ⟨cutover.oldDatabaseUrl, cutover.newGeneration + 1⟩) ∧
    (∀ moves after, world.stage = .idle → world.store.cutover = [] →
      Attempts restore .cutover true world moves after → after.stage.Over →
      (∀ pointer ∈ moves, pointer.record.databaseUrl ≠ restore.runtimeUrl) →
      ∃ single : World γ, Attempts restore .cutover false world moves single ∧
        single.stage.Over ∧ single.store = after.store) ∧
    (∀ moves after, world.stage = .idle → world.store.rollback = [] →
      Attempts restore .rollback true world moves after → after.stage.Over →
      ∃ single : World γ, Attempts restore .rollback false world moves single ∧
        single.stage.Over ∧ single.store = after.store) := by
  have hsound := (reached_sound h).1
  refine ⟨hsound.increases, ?_, ?_, ?_, ?_, ?_⟩
  · have hjournal := hsound.cutover
    generalize hrows : world.store.cutover = rows at hjournal
    -- the swaps of the run start from the generation of the one journalled attempt
    have hfrom : ∃ generation, ∀ change ∈ world.store.changes, change.writer = .run .cutover →
        change.before.record.generation = generation := by
      cases hjournal with
      | nil =>
        refine ⟨0, fun change hchange hwriter => ?_⟩
        obtain ⟨_, hmem, _⟩ := swap_of_cutover hsound hchange hwriter
        rw [hrows] at hmem
        cases hmem
      | begun detail =>
        refine ⟨detail.oldGeneration, fun change hchange hwriter => ?_⟩
        obtain ⟨_, hmem, hbefore, _⟩ := swap_of_cutover hsound hchange hwriter
        rw [hrows] at hmem
        cases mem_singleton.mp hmem
        rw [hbefore]
        rfl
      | done detail =>
        refine ⟨detail.oldGeneration, fun change hchange hwriter => ?_⟩
        obtain ⟨_, hmem, hbefore, _⟩ := swap_of_cutover hsound hchange hwriter
        rw [hrows] at hmem
        rcases mem_cons.mp hmem with hsame | hend
        · cases hsame
          rw [hbefore]
          rfl
        · cases mem_singleton.mp hend
    obtain ⟨_, hfrom⟩ := hfrom
    exact swapped_at_most_once hsound hfrom
  · exact fun change hchange hwriter => swap_of_cutover hsound hchange hwriter
  · exact fun change hchange hwriter => swap_of_rollback hsound hchange hwriter
  · intro moves after hidle hnone hruns hover hothers
    have htracked := cutover_tracked h hidle hnone hruns hothers
    exact single_of_tracks htracked.2 hover
  · intro moves after hidle hnone hruns hover
    have htracked := rollback_tracked h hidle hnone hruns
    exact single_of_keeps htracked.2 hover

theorem Reached.of_run {restore : Restore γ} {initial : VersionedPointer} {events : List Event}
    (hquiet : ∀ pointer, Event.move pointer ∉ events) {before world : World γ}
    (h : Reached restore initial before) (hrun : run restore before events = some world) :
    Reached restore initial world := by
  induction events generalizing before with
  | nil =>
    cases hrun
    exact h
  | cons _ _ ih =>
    simp only [run, foldlM_cons, bind_eq_bind, bind_eq_some_iff] at hrun
    obtain ⟨_, hnext, hrest⟩ := hrun
    refine ih (fun pointer hmem => hquiet pointer (mem_cons_of_mem _ hmem)) ?_ hrest
    refine .next h (fun pointer hevent => ?_) hnext
    exact absurd (hevent ▸ mem_cons_self) (hquiet pointer)

def drillRestore (adapter : Adapter) : Restore Bool where
  adapter := adapter
  runtimeUrl := "db://candidate"
  identity := ⟨"db", "candidate", "c0ffee", 5, ""⟩
  ownershipProof := ⟨⟨"db", "candidate", "c0ffee", 5, ""⟩, true, "run", true, true⟩
  grantState := [("writable", true)]
  objectEffects := []
  queryIdentity := ⟨"db", "candidate", "c0ffee", 5, ""⟩
  dropCandidate := false
  owns := fun _ => true
  reverse := fun _ => []

def drillStart : World Bool :=
  ⟨Store.fresh ⟨⟨"db://main", 1⟩, "first"⟩, .idle⟩

def uncut : List Event :=
  [.start .cutover, .step "", .step "", .step "", .step "", .step "second", .step "", .step "",
    .step ""]

theorem drill_is_journalled :
    ∃ world, run (drillRestore .file) drillStart uncut = some world ∧
      (∃ change ∈ world.store.changes, change.writer = .run .cutover) ∧
      ∀ change ∈ world.store.changes, change.Increases := by
  have hchanges : (run (drillRestore .file) drillStart uncut).map
      (fun world => world.store.changes.map Change.writer) = some [.run .cutover] := by
    decide +kernel
  obtain ⟨world, hrun, hwriters⟩ := map_eq_some_iff.mp hchanges
  have hreached : Reached (drillRestore .file) drillStart.store.current world :=
    Reached.of_run (by simp [uncut]) .fresh hrun
  have hswap : Writer.run .cutover ∈ world.store.changes.map Change.writer := by simp [hwriters]
  obtain ⟨change, hchange, hwriter⟩ := mem_map.mp hswap
  exact ⟨world, hrun, ⟨change, hchange, hwriter⟩, (pointer_journalled _ _ _ hreached).1⟩

end Journalled

section Overtaken

variable {γ : Type} {restore : Restore γ} {first world : World γ} {store : Store γ}
  {stage : Stage γ} {moves : List VersionedPointer}

def Store.Swapped (store : Store γ) : Prop :=
  ∃ change ∈ store.changes, change.writer = .run .cutover

/-- What an uninterrupted cutover knows of its swap. -/
def Earned (store : Store γ) : Stage γ → Prop
  | .idle => store.cutover = []
  | .start effect => effect = .cutover ∧ store.cutover = []
  | .capture => True
  | .journal _ => True
  | .swap _ => True
  | .replace _ => True
  | .confirm _ => store.Swapped
  | .live _ => store.Swapped
  | .finish _ => store.Swapped
  | .returned => True
  | .refused _ => True
  | _ => False

/-- Only a swap leads to a completed row. -/
def Settled (store : Store γ) : Prop :=
  ∀ row ∈ store.cutover, row.state = .done → store.Swapped

theorem Store.Swapped.write {writer : Writer} {pointer : VersionedPointer} (h : store.Swapped) :
    (store.write writer pointer).Swapped := by
  obtain ⟨change, hchange, hwriter⟩ := h
  exact ⟨change, mem_cons_of_mem _ hchange, hwriter⟩

theorem earned_proceed {result : Except String Unit} (h : Earned store stage) :
    Earned store (proceed result stage) := by
  cases result with
  | ok => exact h
  | error => trivial

theorem settled_begin {detail : Detail γ} {begun : Row (Detail γ)} {rows : List (Row (Detail γ))}
    (h : Settled store) (hbegin : begin store.cutover detail = .ok (begun, rows)) :
    Settled { store with cutover := rows } := by
  simp [begin] at hbegin
  obtain ⟨_, _, hrows⟩ := hbegin
  cases hrows
  intro row hrow hdone
  rcases mem_append.mp hrow with hold | hnew
  · exact h row hold hdone
  · rw [mem_singleton.mp hnew] at hdone
    cases hdone

variable [DecidableEq γ]

theorem earned_advance {version : String} (hsettled : Settled store) (h : Earned store stage) :
    Settled (advance restore version store stage).1 ∧
      Earned (advance restore version store stage).1 (advance restore version store stage).2 := by
  cases stage with
  | idle | returned | refused => exact ⟨hsettled, h⟩
  | start =>
    obtain ⟨rfl, hnone⟩ := h
    refine ⟨hsettled, ?_⟩
    simp only [advance, startCutover, hnone, doneDetail_nil, incomplete_nil]
    trivial
  | capture | swap => exact ⟨hsettled, earned_proceed trivial⟩
  | journal detail =>
    simp only [advance]
    cases hbegin : begin store.cutover detail with
    | error => exact ⟨hsettled, trivial⟩
    | ok => exact ⟨settled_begin hsettled hbegin, trivial⟩
  | replace begun =>
    simp only [advance]
    cases hreplace : replacePointer restore.adapter store .cutover begun.detail.swap version with
    | error => exact ⟨hsettled, trivial⟩
    | ok =>
      obtain ⟨rfl, _⟩ := after_of_replace hreplace
      exact ⟨fun _ _ _ => ⟨_, mem_cons_self, rfl⟩, _, mem_cons_self, rfl⟩
  | confirm | live => exact ⟨hsettled, earned_proceed h⟩
  | finish begun =>
    simp only [advance]
    cases hfinish : finish store.cutover begun begun.detail with
    | error => exact ⟨hsettled, trivial⟩
    | ok => exact ⟨fun _ _ _ => h, trivial⟩
  | _ => exact h.elim

omit [DecidableEq γ] in
theorem earned_move {pointer : VersionedPointer} (h : Earned store stage) :
    Earned (store.write .other pointer) stage := by
  cases stage with
  | confirm | live | finish => exact Store.Swapped.write h
  | _ => exact h

/-- An uninterrupted cutover is completed by its own swap. -/
theorem swapped_of_done (hidle : first.stage = .idle) (hnone : first.store.cutover = [])
    (h : Attempts restore .cutover false first moves world) :
    Settled world.store ∧ Earned world.store world.stage := by
  induction h with
  | first =>
    refine ⟨fun row hrow => ?_, ?_⟩
    · rw [hnone] at hrow
      cases hrow
    · rw [hidle]
      exact hnone
  | start _ hnext ih =>
    simp only [next] at hnext
    split at hnext
    · rename_i hstage
      cases hnext
      have hearned := ih.2
      rw [hstage] at hearned
      exact ⟨ih.1, rfl, hearned⟩
    · cases hnext
  | step _ hnext ih =>
    simp only [next] at hnext
    split at hnext
    · cases hnext
      exact earned_advance ih.1 ih.2
    · cases hnext
  | stop hcut => cases hcut
  | move _ _ hnext ih =>
    simp only [next] at hnext
    split at hnext
    · cases hnext
      exact ⟨fun row hrow hdone => (ih.1 row hrow hdone).write, earned_move ih.2⟩
    · cases hnext

def movesOf (events : List Event) : List VersionedPointer :=
  events.filterMap fun event =>
    match event with
    | .move pointer => some pointer
    | _ => none

theorem Attempts.of_run {effect : Effect} (hadapter : restore.adapter = .external)
    {events : List Event} (honly : ∀ other, Event.start other ∈ events → other = effect)
    {before : World γ} (h : Attempts restore effect true first moves before)
    (hrun : run restore before events = some world) :
    Attempts restore effect true first (moves ++ movesOf events) world := by
  induction events generalizing before moves with
  | nil =>
    cases hrun
    simpa only [movesOf, filterMap_nil, append_nil] using h
  | cons event events ih =>
    simp only [run, foldlM_cons, bind_eq_bind, bind_eq_some_iff] at hrun
    obtain ⟨_, hnext, hrest⟩ := hrun
    have hlater : ∀ other, Event.start other ∈ events → other = effect := fun other hmem =>
      honly other (mem_cons_of_mem _ hmem)
    cases event with
    | start other =>
      rw [honly other mem_cons_self] at hnext
      exact ih hlater (.start h hnext) hrest
    | step => exact ih hlater (.step h hnext) hrest
    | stop => exact ih hlater (.stop rfl h hnext) hrest
    | move pointer =>
      have hapart : Apart restore before (.move pointer) := by
        rintro _ _ ⟨hfile, _⟩
        rw [hadapter] at hfile
        cases hfile
      have hmoves := ih hlater (.move h hapart hnext) hrest
      simpa only [movesOf, filterMap_cons, append_assoc, singleton_append] using hmoves

/-- Another writer replaces the checked pointer file. -/
def overtaken : List Event :=
  [.start .cutover, .step "", .step "", .step "", .step "", .move ⟨⟨"db://other", 2⟩, "second"⟩,
    .step "third"]

/-- Cut off before its swap, another writer puts the candidate. -/
def impersonated : List Event :=
  [.start .cutover, .step "", .step "", .step "", .stop, .move ⟨⟨"db://candidate", 2⟩, "second"⟩,
    .start .cutover, .step "", .step "", .step "", .step ""]

/-- A pointer nobody journalled is replaced; a resumed cutover completes a swap that is not its own.
-/
theorem pointer_is_overtaken :
    (∃ world, run (drillRestore .file) drillStart overtaken = some world ∧
      ∃ change ∈ world.store.changes, change.writer = .run .cutover ∧ ¬ change.Increases ∧
        change.before.record ≠ drillStart.store.current.record) ∧
    ∃ world, Attempts (drillRestore .external) .cutover true drillStart
        [⟨⟨"db://candidate", 2⟩, "second"⟩] world ∧ world.stage.Over ∧
      ∀ single, Attempts (drillRestore .external) .cutover false drillStart
          [⟨⟨"db://candidate", 2⟩, "second"⟩] single → single.store ≠ world.store := by
  constructor
  · have hchanges : (run (drillRestore .file) drillStart overtaken).map
          (fun world => world.store.changes.head?) =
        some (some ⟨.run .cutover, ⟨⟨"db://other", 2⟩, "second"⟩,
          ⟨⟨"db://candidate", 2⟩, "third"⟩⟩) := by
      decide +kernel
    obtain ⟨world, hrun, hhead⟩ := map_eq_some_iff.mp hchanges
    refine ⟨world, hrun, _, mem_of_mem_head? hhead, rfl, ?_, ?_⟩
    · unfold Change.Increases
      decide
    · decide
  · have hends : (run (drillRestore .external) drillStart impersonated).map (fun world =>
          (decide (world.stage.Over), world.store.cutover.map Row.state,
            world.store.changes.map Change.writer)) =
        some (true, [.begun, .done], [.other]) := by
      decide +kernel
    obtain ⟨world, hrun, hend⟩ := map_eq_some_iff.mp hends
    simp only [Prod.mk.injEq, decide_eq_true_eq] at hend
    obtain ⟨hover, hrows, hwriters⟩ := hend
    have honly : ∀ other, Event.start other ∈ impersonated → other = .cutover := by
      intro other hmem
      simpa [impersonated] using hmem
    refine ⟨world, Attempts.of_run rfl honly .first hrun, hover, fun single hsingle hsame => ?_⟩
    -- the only change is the other writer's
    have hdone : Host.State.done ∈ world.store.cutover.map Row.state := by simp [hrows]
    obtain ⟨row, hrow, hstate⟩ := mem_map.mp hdone
    rw [← hsame] at hrow hwriters
    obtain ⟨change, hchange, hwriter⟩ := (swapped_of_done rfl rfl hsingle).1 row hrow hstate
    have hother : change.writer ∈ single.store.changes.map Change.writer := mem_map_of_mem hchange
    rw [hwriters, hwriter] at hother
    cases mem_singleton.mp hother

end Overtaken

end Cutovers
end SpaceWorks
