import SpaceWorks.Library.Checked
import SpaceWorks.Library.Runs
import SpaceWorks.Library.Table

/-!
# The backup artifact ledger

`artifact_ledger.py` and `promotion.py`.  Every function is one transaction under the lock of its
artifact; a promotion takes its ids from earlier facts.  What is written and not read is left out.
-/

namespace SpaceWorks
namespace ArtifactLedger

open Checked TransactionalSystem Table List Option

abbrev UUID := String

inductive ArtifactState where
  | pending
  | stagingVerified
  | finalVerified
  | available
  | failed
  | superseded
  | bytesDeleted
  deriving DecidableEq

inductive ActivationState where
  | on
  | offPending
  | offEffective
  deriving DecidableEq

inductive ArchiveStatus where
  | pending
  | running
  | promoting
  | available
  | failed
  | expired
  deriving DecidableEq

inductive Kind where
  | main
  | slice
  deriving DecidableEq

/-- `BackupArtifactComponent`, as `component_specs` declares it. -/
structure BackupArtifactComponent where
  componentId : UUID
  kind : Kind
  makerspaceIdSnapshot : Option Nat
  ciphertextPath : String
  ciphertextSha256 : String
  sizeBytes : Nat
  deriving DecidableEq

structure Manifest where
  captureId : UUID
  format : String
  componentSpecs : List (BackupArtifactComponent × List String)
  signed : String
  deriving DecidableEq

structure Snapshot where
  retained : List (Nat × Bool)
  predecessorArtifactId : Option UUID
  predecessorSuccessAt : Option String
  frozen : String
  deriving DecidableEq

structure ArtifactFacts where
  captureId : UUID
  archive : Option UUID
  archiveUuidSnapshot : UUID
  outerSha256 : String
  outerManifestSha256 : String
  format : String
  outerManifest : Manifest
  frozenPromotionSnapshot : Snapshot
  expectedSizeBytes : Nat
  stagingLocator : String
  finalLocator : String
  predecessorArtifactIdSnapshot : Option UUID
  predecessorSuccessAtSnapshot : Option Nat

structure BackupComponentRecipient where
  component : UUID
  fingerprint : String
  tombstoned : Bool := false

structure ComponentRows where
  components : List BackupArtifactComponent := []
  associations : List BackupComponentRecipient := []

inductive Stage where
  | staging
  | final
  deriving DecidableEq

/-- The verified size and digest, empty before the verification. -/
structure Verification where
  sizeBytes : Option Nat := none
  sha256 : String := ""

structure BackupArtifactLedger extends ArtifactFacts where
  artifactId : UUID
  rows : ComponentRows := {}
  state : ArtifactState := .pending
  verified : Stage → Verification := fun _ => {}
  failureCode : String := ""
  cleanupPending : Bool := false

instance : Keyed BackupArtifactLedger UUID := ⟨BackupArtifactLedger.artifactId⟩

structure B1ActivationState where
  makerspace : Nat
  state : ActivationState
  effectiveArtifactId : Option UUID
  deriving DecidableEq

instance : Keyed B1ActivationState Nat := ⟨B1ActivationState.makerspace⟩

structure BackupArchive where
  id : UUID
  status : ArchiveStatus

instance : Keyed BackupArchive UUID := ⟨BackupArchive.id⟩

/-- The tables; `others` are those that only checks read. -/
structure World where
  activations : Table B1ActivationState
  archives : Table BackupArchive
  others : String

structure Database extends World where
  ledgers : Table BackupArtifactLedger

inductive LedgerError where
  | mismatch (message : String)
  | doesNotExist
  | keyError
  | typeError
  | integrityError
  | invalidManifest

/-- Checks outside the two modules, and `parse_datetime`. -/
structure Checks where
  verifySignedManifest : Manifest → Bool
  manifestDigest : Manifest → String
  parseDatetime : String → Option Nat
  lockFullPublication : World → ArtifactFacts → Except LedgerError PUnit
  validate : World → BackupArtifactLedger → BackupArchive → Except LedgerError PUnit

section Persist

def compareDigest (a b : String) : Except LedgerError Bool := do
  require ((a.toList ++ b.toList).all fun c => c.toNat < 128) .typeError
  return a = b

def same {α : Type} [DecidableEq α] (a b : α) : Except LedgerError Bool :=
  .ok (a = b)

def requireEqual (label : String) (fields : List (String × Except LedgerError Bool)) :
    Except LedgerError PUnit :=
  forM fields fun (field, equal) => do
    require (← equal) (.mismatch s!"The durable {label} {field} fact differs.")

def requireFacts (actual expected : ArtifactFacts) : Except LedgerError PUnit :=
  requireEqual "backup.backupartifactledger" [
    ("capture_id", same actual.captureId expected.captureId),
    ("archive", same actual.archive expected.archive),
    ("archive_uuid_snapshot", same actual.archiveUuidSnapshot expected.archiveUuidSnapshot),
    ("outer_sha256", compareDigest actual.outerSha256 expected.outerSha256),
    ("outer_manifest_sha256",
      compareDigest actual.outerManifestSha256 expected.outerManifestSha256),
    ("format", same actual.format expected.format),
    ("outer_manifest", same actual.outerManifest expected.outerManifest),
    ("frozen_promotion_snapshot",
      same actual.frozenPromotionSnapshot expected.frozenPromotionSnapshot),
    ("expected_size_bytes", same actual.expectedSizeBytes expected.expectedSizeBytes),
    ("staging_locator", same actual.stagingLocator expected.stagingLocator),
    ("final_locator", same actual.finalLocator expected.finalLocator),
    ("predecessor_artifact_id_snapshot",
      same actual.predecessorArtifactIdSnapshot expected.predecessorArtifactIdSnapshot),
    ("predecessor_success_at_snapshot",
      same actual.predecessorSuccessAtSnapshot expected.predecessorSuccessAtSnapshot)]

def BackupComponentRecipient.pair (row : BackupComponentRecipient) : UUID × String :=
  (row.component, row.fingerprint)

/-- `get_or_create` of every recipient of a component. -/
def associate (component : UUID) (rows : List BackupComponentRecipient)
    (recipients : List String) : List BackupComponentRecipient :=
  recipients.foldl (fun rows fingerprint =>
    if (component, fingerprint) ∈ rows.map (·.pair) then rows
    else rows ++ [⟨component, fingerprint, false⟩]) rows

/-- `get_or_create` of a component, under an unused id. -/
def persistRow (others : List UUID) (components : List BackupArtifactComponent)
    (spec : BackupArtifactComponent) : Except LedgerError (List BackupArtifactComponent) :=
  match components.find? (·.componentId = spec.componentId) with
  | some row => do
    requireEqual "backup.backupartifactcomponent" [
      ("component_id", same row.componentId spec.componentId),
      ("kind", same row.kind spec.kind),
      ("makerspace_id_snapshot", same row.makerspaceIdSnapshot spec.makerspaceIdSnapshot),
      ("ciphertext_path", same row.ciphertextPath spec.ciphertextPath),
      ("ciphertext_sha256", compareDigest row.ciphertextSha256 spec.ciphertextSha256),
      ("size_bytes", same row.sizeBytes spec.sizeBytes)]
    pure components
  | none => do
    require (spec.componentId ∉ others ∧ ∀ row ∈ components,
      ¬ (row.kind = spec.kind ∧ row.makerspaceIdSnapshot = spec.makerspaceIdSnapshot))
      .integrityError
    pure (components ++ [spec])

def persistComponent (others : List UUID) (rows : ComponentRows)
    (item : BackupArtifactComponent × List String) : Except LedgerError ComponentRows := do
  let components ← persistRow others rows.components item.1
  let associations := associate item.1.componentId rows.associations item.2
  let live := (associations.filter fun row =>
    row.component = item.1.componentId ∧ !row.tombstoned).map (·.fingerprint)
  require ((∀ f ∈ live, f ∈ item.2) ∧ ∀ f ∈ item.2, f ∈ live)
    (.mismatch "The durable component recipient set differs from the manifest.")
  return { components, associations }

def persistComponents (others : List UUID) (rows : ComponentRows) (manifest : Manifest) :
    Except LedgerError ComponentRows := do
  let rows ← manifest.componentSpecs.foldlM (persistComponent others) rows
  require (rows.components.length = manifest.componentSpecs.length)
    (.mismatch "The durable component set differs from the manifest.")
  return rows

structure Build where
  manifest : Manifest
  promotionSnapshot : Option Snapshot
  archiveSha256 : String

def stagingLocator (artifact : UUID) : String :=
  "backup-archives/staging/" ++ artifact ++ ".tar.age"

def finalLocator (artifact : UUID) : String :=
  "backup-archives/deployment/" ++ artifact ++ ".tar.age"

variable (checks : Checks) (db : Database)

def pendingFacts (archive : UUID) (stagingObjectKey : Option String) (build : Build)
    (snapshot : Snapshot) (sizeBytes : Nat) : ArtifactFacts where
  captureId := build.manifest.captureId
  archive := some archive
  archiveUuidSnapshot := archive
  outerSha256 := build.archiveSha256
  outerManifestSha256 := checks.manifestDigest build.manifest
  format := build.manifest.format
  outerManifest := build.manifest
  frozenPromotionSnapshot := snapshot
  expectedSizeBytes := sizeBytes
  stagingLocator := (stagingObjectKey.filter (· ≠ "")).getD (stagingLocator archive)
  finalLocator := finalLocator archive
  predecessorArtifactIdSnapshot := snapshot.predecessorArtifactId
  predecessorSuccessAtSnapshot :=
    (snapshot.predecessorSuccessAt.filter (· ≠ "")).bind checks.parseDatetime

def persistPending (archive : UUID) (stagingObjectKey : Option String) (build : Build)
    (sizeBytes : Nat) : Except LedgerError Database := do
  let snapshot ← orRefuse build.promotionSnapshot
    (.mismatch "A compound artifact has no frozen promotion snapshot.")
  require (checks.verifySignedManifest build.manifest) .invalidManifest
  let facts := pendingFacts checks archive stagingObjectKey build snapshot sizeBytes
  let others := (db.ledgers.rows.filter (·.artifactId ≠ archive)).flatMap
    (·.rows.components.map (·.componentId))
  match db.ledgers.get? archive with
  | some row => do
    requireFacts row.toArtifactFacts facts
    let rows ← persistComponents others row.rows build.manifest
    pure { db with ledgers := db.ledgers.put { row with rows } }
  | none => do
    require (∀ row ∈ db.ledgers.rows, row.captureId ≠ facts.captureId ∧
      row.archive ≠ facts.archive ∧ row.archiveUuidSnapshot ≠ facts.archiveUuidSnapshot ∧
      row.stagingLocator ≠ facts.stagingLocator ∧ row.finalLocator ≠ facts.finalLocator)
      .integrityError
    let rows ← persistComponents others {} build.manifest
    let ledgers ← db.ledgers.insertNew { facts with artifactId := archive, rows } .integrityError
    pure { db with ledgers }

end Persist

section Transitions

def ArtifactState.promoted (state : ArtifactState) : Bool :=
  state ∈ [.available, .superseded, .bytesDeleted]

variable (db : Database)

def Database.locked (artifactId : UUID) : Except LedgerError BackupArtifactLedger :=
  orRefuse (db.ledgers.get? artifactId) .doesNotExist

def Database.save (row : BackupArtifactLedger) : Database :=
  { db with ledgers := db.ledgers.put row }

def requireVerification (stage : String) (verified : Verification) (sizeBytes : Nat)
    (sha256 : String) : Except LedgerError PUnit := do
  let differ := LedgerError.mismatch s!"The repeated {stage} verification facts differ."
  require (verified.sizeBytes = some sizeBytes) differ
  require (← compareDigest verified.sha256 sha256) differ

def markVerified (stage : Stage) (name title : String) (state : ArtifactState)
    (before : List ArtifactState) (artifactId : UUID) (sizeBytes : Nat) (sha256 : String) :
    Except LedgerError Database := do
  let row ← db.locked artifactId
  if row.state = state then do
    requireVerification name (row.verified stage) sizeBytes sha256
    pure db
  else do
    require (row.state ∈ before) (.mismatch s!"{title} verification conflicts with artifact state.")
    pure (db.save { row with
      state, verified := Function.update row.verified stage ⟨some sizeBytes, sha256⟩ })

def markStagingVerified :=
  markVerified db .staging "staging" "Staging" .stagingVerified [.pending]

def markFinalVerified :=
  markVerified db .final "final" "Final" .finalVerified [.pending, .stagingVerified]

/-- `mark_failed`; a repeated failure keeps the first code. -/
def markFailed (artifactId : UUID) (code : String) : Bool × Database :=
  match db.ledgers.get? artifactId with
  | none => (false, db)
  | some row =>
    if row.state.promoted then (false, db)
    else if row.state = .failed then (true, db)
    else (true, db.save { row with
      state := .failed
      failureCode := String.ofList (code.toList.take 64)
      cleanupPending := true })

def markCleanupComplete (artifactId : UUID) : Except LedgerError Database := do
  let row ← db.locked artifactId
  pure (if row.cleanupPending then db.save { row with cleanupPending := false } else db)

def ComponentRows.tombstone (rows : ComponentRows) : ComponentRows :=
  { rows with associations := rows.associations.map ({ · with tombstoned := true }) }

def markManagedBytesDeleted (artifactId : UUID) : Except LedgerError Database := do
  let row ← db.locked artifactId
  if row.state = .bytesDeleted then pure db
  else do
    require row.state.promoted (.mismatch "Only promoted managed bytes can be deleted.")
    pure (db.save { row with
      rows := row.rows.tombstone
      state := .bytesDeleted
      cleanupPending := false })

end Transitions

def enterPromotionState (archive : BackupArchive) : Except LedgerError BackupArchive := do
  require (archive.status = .running ∨ archive.status = .promoting)
    (.mismatch "The archive is not owned for promotion.")
  return { archive with status := .promoting }

def activate (artifactId : UUID) (activations : Table B1ActivationState) (makerspace : Nat) :
    Except LedgerError (Table B1ActivationState) := do
  let activation ← orRefuse (activations.get? makerspace) .keyError
  pure (if activation.state = .offPending then
    activations.put { activation with
      state := .offEffective, effectiveArtifactId := some artifactId }
  else activations)

def ArtifactFacts.sovereignIds (facts : ArtifactFacts) : List Nat :=
  ((facts.frozenPromotionSnapshot.retained.filter (!·.2)).map (·.1)).mergeSort

/-- `_promote_atomic` with the ids of `facts`. -/
def promoteAtomic (checks : Checks) (db : Database) (artifactId : UUID) (facts : ArtifactFacts) :
    Except LedgerError Database := do
  checks.lockFullPublication db.toWorld facts
  let artifact ← orRefuse (db.ledgers.get? artifactId)
    (.mismatch "The durable artifact disappeared before promotion.")
  let archive ← orRefuse (db.archives.get? artifact.archiveUuidSnapshot) .doesNotExist
  if artifact.state.promoted then pure db
  else do
    require (artifact.state = .finalVerified)
      (.mismatch "Only a stream-verified final artifact can be promoted.")
    require ((artifact.verified .final).sizeBytes = some artifact.expectedSizeBytes ∧
      (artifact.verified .final).sha256 = artifact.outerSha256)
      (.mismatch "The verified final storage facts changed.")
    let archive ← enterPromotionState archive
    let predecessor := artifact.predecessorArtifactIdSnapshot.bind fun id =>
      if some id = facts.predecessorArtifactIdSnapshot ∨ id = artifactId then db.ledgers.get? id
      else none
    require (artifact.predecessorArtifactIdSnapshot = none ∨ predecessor.any (·.state = .available))
      (.mismatch "The predecessor artifact state changed.")
    checks.validate db.toWorld artifact archive
    let activations ← facts.sovereignIds.foldlM (activate artifactId) db.activations
    let ledgers := db.ledgers.put { artifact with state := .available, cleanupPending := true }
    return { db with
      activations
      ledgers := match predecessor with
        | some row => ledgers.put { row with state := .superseded }
        | none => ledgers
      archives := db.archives.put { archive with status := .available } }

/-- One transaction; `elsewhere` makes no exclusion effective. -/
inductive Request where
  | persistPending (archive : UUID) (stagingObjectKey : Option String) (build : Build)
      (sizeBytes : Nat)
  | markStagingVerified (artifactId : UUID) (sizeBytes : Nat) (sha256 : String)
  | markFinalVerified (artifactId : UUID) (sizeBytes : Nat) (sha256 : String)
  | markFailed (artifactId : UUID) (code : String)
  | markCleanupComplete (artifactId : UUID)
  | markManagedBytesDeleted (artifactId : UUID)
  | promote (artifactId : UUID) (facts : ArtifactFacts)
  | elsewhere (world : World)

def step (checks : Checks) (db : Database) : Request → Except LedgerError Database
  | .persistPending archive key build size => persistPending checks db archive key build size
  | .markStagingVerified id size sha256 => markStagingVerified db id size sha256
  | .markFinalVerified id size sha256 => markFinalVerified db id size sha256
  | .markFailed id code => .ok (markFailed db id code).2
  | .markCleanupComplete id => markCleanupComplete db id
  | .markManagedBytesDeleted id => markManagedBytesDeleted db id
  | .promote id facts => promoteAtomic checks db id facts
  | .elsewhere world => do
    require (∀ row ∈ world.activations.rows, row.state = .offEffective →
      row ∈ db.activations.rows) .integrityError
    return { db with toWorld := world }

def Database.initial (world : World) : Database :=
  { world with ledgers := ∅ }

section Persisting

@[simp] theorem same_ok {α : Type} [DecidableEq α] {a b : α} {c : Bool} :
    same a b = .ok c ↔ decide (a = b) = c := by
  simp [same]

@[simp] theorem compareDigest_eq_true {a b : String} :
    compareDigest a b = .ok true ↔
      ((a.toList ++ b.toList).all fun c => c.toNat < 128) ∧ a = b := by
  simp [compareDigest]

theorem eq_of_requireFacts {actual expected : ArtifactFacts} {u : PUnit}
    (h : requireFacts actual expected = .ok u) : actual = expected := by
  simp [requireFacts, requireEqual, forall_mem_cons] at h
  cases actual
  cases expected
  simp_all

def ComponentRows.Recorded (rows : ComponentRows)
    (item : BackupArtifactComponent × List String) : Prop :=
  item.1.componentId ∈ rows.components.map (·.componentId) ∧
    ∀ fingerprint ∈ item.2, (item.1.componentId, fingerprint) ∈ rows.associations.map (·.pair)

theorem associate_spec (component : UUID) (recipients : List String)
    (rows : List BackupComponentRecipient) :
    (∀ pair ∈ rows.map (·.pair), pair ∈ (associate component rows recipients).map (·.pair)) ∧
    (∀ f ∈ recipients, (component, f) ∈ (associate component rows recipients).map (·.pair)) ∧
    ((∀ f ∈ recipients, (component, f) ∈ rows.map (·.pair)) →
      associate component rows recipients = rows) := by
  induction recipients generalizing rows with
  | nil => simp [associate]
  | cons f _ ih =>
    rw [associate, foldl_cons, ← associate]
    split_ifs with hf
    · obtain ⟨hkept, hadded, hsame⟩ := ih rows
      exact ⟨hkept, forall_mem_cons.mpr ⟨hkept _ hf, hadded⟩,
        fun h => hsame fun g hg => h g (mem_cons_of_mem f hg)⟩
    · obtain ⟨hkept, hadded, -⟩ := ih (rows ++ [⟨component, f, false⟩])
      refine ⟨fun pair hpair => hkept pair (by simp_all), forall_mem_cons.mpr
        ⟨hkept _ (by simp [BackupComponentRecipient.pair]), hadded⟩, fun h => ?_⟩
      exact absurd (h f mem_cons_self) hf

theorem persistRow_cases {others : List UUID} {rows rows' : List BackupArtifactComponent}
    {spec : BackupArtifactComponent} (h : persistRow others rows spec = .ok rows') :
    (rows' = rows ∧ spec.componentId ∈ rows.map (·.componentId)) ∨
      (spec.componentId ∉ rows.map (·.componentId) ∧ rows' = rows ++ [spec]) := by
  unfold persistRow at h
  split at h
  case h_1 row hfound =>
      simp at h
      obtain ⟨-, -, rfl⟩ := h
      have hid : row.componentId = spec.componentId := by simpa using find?_some hfound
      exact .inl ⟨rfl, hid ▸ mem_map_of_mem (mem_of_find?_eq_some hfound)⟩
  case h_2 hnone =>
      simp at h
      obtain ⟨-, -, rfl⟩ := h
      exact .inr ⟨by simpa using hnone, rfl⟩

variable {others : List UUID} {rows rows' : ComponentRows}

theorem persistComponent_spec {item : BackupArtifactComponent × List String}
    (h : persistComponent others rows item = .ok rows') :
    (∀ other, rows.Recorded other → rows'.Recorded other) ∧ rows'.Recorded item ∧
      (rows.Recorded item → rows' = rows) := by
  obtain ⟨_, hcomponents, hrest⟩ := bind_ok.mp h
  obtain ⟨-, -, hrows⟩ := bind_ok.mp hrest
  obtain rfl := pure_ok.mp hrows
  obtain ⟨hkept, hadded, hsame⟩ := associate_spec item.1.componentId item.2 rows.associations
  rcases persistRow_cases hcomponents with ⟨rfl, hmem⟩ | ⟨hnew, rfl⟩
  · exact ⟨fun other ho => ⟨ho.1, fun f hf => hkept _ (ho.2 f hf)⟩, ⟨hmem, hadded⟩,
      fun ho => by rw [hsame ho.2]⟩
  · exact ⟨fun other ho => ⟨by simp_all [ComponentRows.Recorded], fun f hf => hkept _ (ho.2 f hf)⟩,
      ⟨by simp, hadded⟩, fun ho => absurd ho.1 hnew⟩

theorem persistComponents_spec {manifest : Manifest}
    (h : persistComponents others rows manifest = .ok rows') :
    (∀ other, rows.Recorded other → rows'.Recorded other) ∧
      (∀ item ∈ manifest.componentSpecs, rows'.Recorded item) ∧
      ((∀ item ∈ manifest.componentSpecs, rows.Recorded item) → rows' = rows) := by
  simp only [persistComponents, bind_ok, pure_ok] at h
  obtain ⟨_, h, -, -, rfl⟩ := h
  generalize manifest.componentSpecs = items at h ⊢
  induction items generalizing rows with
  | nil =>
    obtain rfl := pure_ok.mp h
    simp
  | cons item _ ih =>
    rw [foldlM_cons, bind_ok] at h
    obtain ⟨_, hitem, hrest⟩ := h
    obtain ⟨hkept, hadded, hsame⟩ := persistComponent_spec hitem
    obtain ⟨hkept', hadded', hsame'⟩ := ih hrest
    refine ⟨fun other ho => hkept' other (hkept other ho),
      forall_mem_cons.mpr ⟨hkept' item hadded, hadded'⟩, fun ho => ?_⟩
    obtain ⟨hhead, htail⟩ := forall_mem_cons.mp ho
    obtain rfl := hsame hhead
    exact hsame' htail

end Persisting

section

/-- The moves of an artifact; staging verification may be skipped. -/
def ArtifactState.Follows : ArtifactState → ArtifactState → Bool
  | .pending, .stagingVerified | .pending, .finalVerified | .stagingVerified, .finalVerified
  | .finalVerified, .available | .available, .superseded
  | .available, .bytesDeleted | .superseded, .bytesDeleted
  | .pending, .failed | .stagingVerified, .failed | .finalVerified, .failed => true
  | _, _ => false

/-- Its components are recorded; promoted, so are its size and digest. -/
structure BackupArtifactLedger.Sound (row : BackupArtifactLedger) : Prop where
  recorded : ∀ item ∈ row.outerManifest.componentSpecs, row.rows.Recorded item
  verified : row.state.promoted → (row.verified .final).sizeBytes = some row.expectedSizeBytes ∧
    (row.verified .final).sha256 = row.outerSha256

structure RowMoves (row row' : BackupArtifactLedger) : Prop where
  state : row'.state = row.state ∨ row.state.Follows row'.state
  sound : row.Sound → row'.Sound

structure Moves (t t' : Table BackupArtifactLedger) : Prop where
  kept : ∀ id row, t.get? id = some row → ∃ row', t'.get? id = some row' ∧ RowMoves row row'
  fresh : ∀ id row', t.get? id = none → t'.get? id = some row' → row'.state = .pending ∧ row'.Sound

theorem RowMoves.refl (row : BackupArtifactLedger) : RowMoves row row :=
  ⟨.inl rfl, id⟩

theorem Moves.refl (t : Table BackupArtifactLedger) : Moves t t where
  kept id row h := ⟨row, h, .refl row⟩
  fresh id row' hnone h := by simp [hnone] at h

variable {t t' : Table BackupArtifactLedger}
  {row : BackupArtifactLedger} {stagingObjectKey : Option String} {build : Build}
  {size : Nat} {stage : Stage} {name title sha256 : String} {state : ArtifactState}
  {before : List ArtifactState} {facts : ArtifactFacts}

theorem Moves.put (h : Moves t t') {id : UUID} {row new : BackupArtifactLedger}
    (hrow : t.get? id = some row) (hid : new.artifactId = row.artifactId)
    (hmove : RowMoves row new) : Moves t (t'.put new) where
  kept other old hold := by
    obtain ⟨old', hold', hmoves⟩ := h.kept other old hold
    have hkey : key new = id := hid.trans (key_of_get? hrow)
    rw [get?_put, hkey]
    split_ifs with hother
    · subst hother
      obtain rfl := some.inj (hold.symm.trans hrow)
      exact ⟨new, by simp [hold'], hmove⟩
    · exact ⟨old', hold', hmoves⟩
  fresh other row' hnone hrow' := by
    have hother : other ≠ key new := by
      have hkey : key new = id := hid.trans (key_of_get? hrow)
      rintro rfl
      cases hnone.symm.trans (hkey ▸ hrow)
    exact h.fresh other row' hnone ((get?_put_of_ne _ hother).symm.trans hrow')

variable {checks : Checks} {db db' : Database} {id : UUID}

/-- What one transaction can do; an exclusion becomes effective with a promotion. -/
structure Transacts (db db' : Database) : Prop where
  moves : Moves db.ledgers db'.ledgers
  effective : ∀ row ∈ db'.activations, row.state = .offEffective → row ∈ db.activations ∨
    ∃ id old new, row.effectiveArtifactId = some id ∧ db.ledgers.get? id = some old ∧
      old.state = .finalVerified ∧ db'.ledgers.get? id = some new ∧ new.state = .available

theorem Transacts.of_moves (h : Moves db.ledgers db'.ledgers)
    (hactivations : db'.activations = db.activations) : Transacts db db' :=
  ⟨h, fun _ hrow _ => .inl (hactivations ▸ hrow)⟩

theorem Transacts.refl (db : Database) : Transacts db db :=
  .of_moves (.refl _) rfl

theorem Transacts.save {new : BackupArtifactLedger} (hrow : db.ledgers.get? id = some row)
    (hid : new.artifactId = row.artifactId) (hmove : RowMoves row new) :
    Transacts db (db.save new) :=
  .of_moves ((Moves.refl _).put hrow hid hmove) rfl

@[simp] theorem locked_ok :
    db.locked id = .ok row ↔ db.ledgers.get? id = some row :=
  orRefuse_ok

/-- The artifact was there with the same facts, or is new. -/
theorem persistPending_cases
    (h : persistPending checks db id stagingObjectKey build size = .ok db') :
    ∃ snapshot others rows, build.promotionSnapshot = some snapshot ∧
      let facts := pendingFacts checks id stagingObjectKey build snapshot size
      (∃ row, db.ledgers.get? id = some row ∧ row.toArtifactFacts = facts ∧
        persistComponents others row.rows row.outerManifest = .ok rows ∧
        db' = db.save { row with rows }) ∨
      (db.ledgers.get? id = none ∧ persistComponents others {} facts.outerManifest = .ok rows ∧
        ∃ h, db' = { db with
          ledgers := db.ledgers.insert { facts with artifactId := id, rows } h }) := by
  simp only [persistPending, bind_ok, orRefuse_ok, require_ok] at h
  obtain ⟨snapshot, hsnapshot, -, -, h⟩ := h
  split at h
  case h_1 row hrow =>
      simp only [bind_ok, pure_ok] at h
      obtain ⟨_, hfacts, rows, hrows, rfl⟩ := h
      have heq := eq_of_requireFacts hfacts
      have hmanifest : row.outerManifest = build.manifest := by rw [heq]; rfl
      rw [← hmanifest] at hrows
      exact ⟨snapshot, _, rows, hsnapshot, .inl ⟨row, hrow, heq, hrows, rfl⟩⟩
  case h_2 hnone =>
      simp only [bind_ok, pure_ok] at h
      obtain ⟨-, -, rows, hrows, _, hledgers, rfl⟩ := h
      obtain ⟨hnew, rfl⟩ := insertNew_ok.mp hledgers
      exact ⟨snapshot, _, rows, hsnapshot, .inr ⟨hnone, hrows, hnew, rfl⟩⟩

theorem persistPending_transacts
    (h : persistPending checks db id stagingObjectKey build size = .ok db') :
    Transacts db db' := by
  obtain ⟨_, _, _, -, ⟨row, hrow, _, hrows, rfl⟩ |
    ⟨_, hrows, hnew, rfl⟩⟩ := persistPending_cases h
  · exact .save hrow rfl ⟨.inl rfl, fun hs => ⟨(persistComponents_spec hrows).2.1, hs.2⟩⟩
  · refine .of_moves ⟨fun other row hrow => ⟨row, ?_, .refl row⟩,
      fun other row' hother hrow' => ?_⟩ rfl
    · rw [get?_insert hnew, if_neg, hrow]
      rintro rfl
      cases hnew.symm.trans hrow
    · rw [get?_insert hnew] at hrow'
      split_ifs at hrow'
      · cases hrow'
        exact ⟨rfl, (persistComponents_spec hrows).2.1, nofun⟩
      · simp [hother] at hrow'

theorem markVerified_transacts
    (hfollows : ∀ old ∈ before, old.Follows state) (hstate : state.promoted = false)
    (h : markVerified db stage name title state before id size sha256 = .ok db') :
    Transacts db db' := by
  obtain ⟨row, hrow, h⟩ := bind_ok.mp h
  rw [locked_ok] at hrow
  split at h
  case isTrue =>
      simp at h
      obtain ⟨-, -, rfl⟩ := h
      exact .refl db
  case isFalse =>
      simp at h
      obtain ⟨hbefore, rfl⟩ := h
      exact .save hrow rfl ⟨.inr (hfollows row.state hbefore), fun hs =>
        ⟨hs.1, fun hpromoted => by simp [hstate] at hpromoted⟩⟩

theorem markFailed_transacts (db : Database) (id : UUID) (code : String) :
    Transacts db (markFailed db id code).2 := by
  unfold markFailed
  split
  case h_1 => exact .refl db
  case h_2 row hrow =>
      split_ifs with hpromoted hfailed
      · exact .refl db
      · exact .refl db
      · refine .save hrow rfl ⟨.inr ?_, fun hs => ⟨hs.1, nofun⟩⟩
        cases hstate : row.state <;> simp_all [ArtifactState.promoted, ArtifactState.Follows]

theorem recorded_tombstone {rows : ComponentRows} {item : BackupArtifactComponent × List String}
    (h : rows.Recorded item) : rows.tombstone.Recorded item := by
  simpa [ComponentRows.Recorded, ComponentRows.tombstone, BackupComponentRecipient.pair] using h

theorem markManagedBytesDeleted_transacts (h : markManagedBytesDeleted db id = .ok db') :
    Transacts db db' := by
  obtain ⟨row, hrow, h⟩ := bind_ok.mp h
  rw [locked_ok] at hrow
  split at h
  case isTrue => exact pure_ok.mp h ▸ .refl db
  case isFalse hdeleted =>
      simp at h
      obtain ⟨hpromoted, rfl⟩ := h
      refine .save hrow rfl ⟨.inr ?_, fun hs =>
        ⟨fun item hitem => recorded_tombstone (hs.1 item hitem),
          fun _ => hs.2 hpromoted⟩⟩
      cases hstate : row.state <;> simp_all [ArtifactState.promoted, ArtifactState.Follows]

theorem activate_spec {makerspaces : List Nat} {rows rows' : Table B1ActivationState}
    (h : makerspaces.foldlM (activate id) rows = .ok rows') :
    ∀ row ∈ rows', row.state = .offEffective → row ∈ rows ∨ row.effectiveArtifactId = some id := by
  refine foldlM_preserves (I := fun t => ∀ row ∈ t, row.state = .offEffective →
    row ∈ rows ∨ row.effectiveArtifactId = some id) ?_ (fun _ hr _ => .inl hr) h
  intro t makerspace t' _ ht hstep row hrow hstate
  obtain ⟨_, -, hput⟩ := bind_ok.mp hstep
  obtain rfl := pure_ok.mp hput
  split at hrow
  · rcases mem_of_mem_put hrow with rfl | ⟨hold, -⟩
    · exact .inr rfl
    · exact ht row hold hstate
  · exact ht row hrow hstate

/-- A promotion makes available one finally verified artifact and supersedes another. -/
theorem promoteAtomic_cases
    (h : promoteAtomic checks db id facts = .ok db') :
    db' = db ∨ ∃ row : BackupArtifactLedger, db.ledgers.get? id = some row ∧
      row.state = .finalVerified ∧ ((row.verified .final).sizeBytes = some row.expectedSizeBytes ∧
      (row.verified .final).sha256 = row.outerSha256) ∧
      facts.sovereignIds.foldlM (activate id) db.activations = .ok db'.activations ∧
      let ledgers := db.ledgers.put { row with state := .available, cleanupPending := true }
      (db'.ledgers = ledgers ∨ ∃ other old, other ≠ id ∧ db.ledgers.get? other = some old ∧
        old.state = .available ∧ db'.ledgers = ledgers.put { old with state := .superseded }) := by
  simp only [promoteAtomic, bind_ok, orRefuse_ok] at h
  obtain ⟨-, -, row, hrow, _, -, h⟩ := h
  split at h
  case isTrue => exact .inl (pure_ok.mp h).symm
  case isFalse =>
      simp only [bind_ok, require_ok, pure_ok] at h
      obtain ⟨-, hstate, -, hfinal, _, -, -, hold, -, -, _, hactivations, rfl⟩ := h
      refine .inr ⟨row, hrow, hstate, hfinal, hactivations, ?_⟩
      split
      case h_2 => exact .inl rfl
      case h_1 old hpredecessor =>
          obtain ⟨other, hother, hget⟩ := bind_eq_some_iff.mp hpredecessor
          split_ifs at hget
          have havailable : old.state = .available := by
            rw [hpredecessor] at hold
            simpa [hother] using hold
          refine .inr ⟨other, old, ?_, hget, havailable, rfl⟩
          rintro rfl
          simp_all

theorem promoteAtomic_transacts
    (h : promoteAtomic checks db id facts = .ok db') : Transacts db db' := by
  rcases promoteAtomic_cases h with rfl | ⟨row, hrow, hstate, hfinal, hactivations, hledgers⟩
  · exact .refl db'
  · let new := { row with state := .available, cleanupPending := true }
    have hpromoted : Moves db.ledgers (db.ledgers.put new) :=
      (Moves.refl _).put hrow rfl ⟨.inr (by rw [hstate]; rfl), fun hs =>
        ⟨hs.1, fun _ => hfinal⟩⟩
    have hkey : key new = id := (key_of_get? hrow :)
    have hnew : (db.ledgers.put new).get? id = some new := hkey ▸ get?_put_self (hkey ▸ hrow)
    have heffective : db'.ledgers.get? id = some new → Moves db.ledgers db'.ledgers →
        Transacts db db' := fun hget hmoves =>
      ⟨hmoves, fun activation hmem heffective =>
        (activate_spec hactivations activation hmem heffective).imp_right fun hid =>
          ⟨id, row, new, hid, hrow, hstate, hget, rfl⟩⟩
    rcases hledgers with hledgers | ⟨_, old, hother, hold, havailable, hledgers⟩
    · exact heffective (hledgers ▸ hnew) (hledgers ▸ hpromoted)
    · have hne : id ≠ key { old with state := .superseded } := fun heq =>
        hother (heq.trans (key_of_get? hold :)).symm
      refine heffective ?_ ?_
      · rw [hledgers, get?_put_of_ne _ hne]
        exact hnew
      · rw [hledgers]
        exact hpromoted.put hold rfl ⟨.inr (by rw [havailable]; rfl), fun hs =>
          ⟨hs.1, fun _ => hs.2 (by rw [havailable]; rfl)⟩⟩

/-- **Step.** Every transaction moves rows along allowed moves. -/
theorem step_transacts {request : Request} (h : step checks db request = .ok db') :
    Transacts db db' := by
  cases request with
  | persistPending => exact persistPending_transacts h
  | markStagingVerified | markFinalVerified => exact markVerified_transacts (by decide) rfl h
  | markFailed id code => exact Except.ok.inj h ▸ markFailed_transacts db id code
  | markCleanupComplete =>
    obtain ⟨_, hrow, h⟩ := bind_ok.mp h
    obtain rfl := pure_ok.mp h
    split
    · exact .save (locked_ok.mp hrow) rfl ⟨.inl rfl, fun hs => ⟨hs.1, hs.2⟩⟩
    · exact .refl db
  | markManagedBytesDeleted => exact markManagedBytesDeleted_transacts h
  | promote => exact promoteAtomic_transacts h
  | elsewhere =>
    obtain ⟨_, hworld, h⟩ := bind_ok.mp h
    obtain rfl := pure_ok.mp h
    exact ⟨.refl _, fun row hrow hstate => .inl (require_ok.mp hworld row hrow hstate)⟩

variable {db : Database}

/-- A repeated step is answered with equal facts and changes nothing. -/
structure Repeats (checks : Checks) (db : Database) : Prop where
  persist : ∀ {id key build size row db'}, db.ledgers.get? id = some row →
    step checks db (.persistPending id key build size) = .ok db' → db' = db ∧
      ∃ snapshot, build.promotionSnapshot = some snapshot ∧
        row.toArtifactFacts = pendingFacts checks id key build snapshot size
  staging : ∀ {id size sha256 row db'}, db.ledgers.get? id = some row → row.state ∉ [.pending] →
    step checks db (.markStagingVerified id size sha256) = .ok db' →
      db' = db ∧ row.verified .staging = ⟨some size, sha256⟩
  final : ∀ {id size sha256 row db'}, db.ledgers.get? id = some row →
    row.state ∉ [.pending, .stagingVerified] →
    step checks db (.markFinalVerified id size sha256) = .ok db' →
      db' = db ∧ row.verified .final = ⟨some size, sha256⟩
  failed : ∀ {id code row}, db.ledgers.get? id = some row → row.state = .failed →
    markFailed db id code = (true, db)
  promoted : ∀ {id facts row db'}, db.ledgers.get? id = some row → row.state ≠ .finalVerified →
    step checks db (.promote id facts) = .ok db' → db' = db
  deleted : ∀ {id row}, db.ledgers.get? id = some row → row.state = .bytesDeleted →
    step checks db (.markManagedBytesDeleted id) = .ok db

theorem eq_of_requireVerification {stage : String} {verified : Verification}
    {u : PUnit} (h : requireVerification stage verified size sha256 = .ok u) :
    verified = ⟨some size, sha256⟩ := by
  simp [requireVerification] at h
  cases verified
  simp_all

theorem markVerified_repeated
    {db' : Database} {id : UUID}
    (hrow : db.ledgers.get? id = some row) (hstate : row.state ∉ before)
    (h : markVerified db stage name title state before id size sha256 = .ok db') :
    db' = db ∧ row.verified stage = ⟨some size, sha256⟩ := by
  simp [markVerified] at h
  obtain ⟨_, hold, h⟩ := h
  obtain rfl := some.inj (hold.symm.trans hrow)
  split_ifs at h
  · obtain ⟨_, hverified, h⟩ := bind_ok.mp h
    exact ⟨(pure_ok.mp h).symm, eq_of_requireVerification hverified⟩
  · simp [hstate] at h

theorem save_self {id : UUID} (h : db.ledgers.get? id = some row) :
    db.save row = db := by
  have hput : db.ledgers.put row = db.ledgers := by
    apply Table.ext
    refine (map_congr_left fun other hother => ?_).trans (List.map_id _)
    split_ifs with hkey
    · exact (eq_of_key_eq hother (mem_of_get? h) hkey).symm
    · rfl
  rw [Database.save, hput]

theorem repeats (hsound : ∀ id row, db.ledgers.get? id = some row → row.Sound) :
    Repeats checks db where
  persist {id _ _ _ row _} hrow h := by
    obtain ⟨snapshot, _, _, hsnapshot, ⟨old, hold, hfacts, hrows, rfl⟩ | ⟨hnone, -⟩⟩ :=
      persistPending_cases h
    · obtain rfl := some.inj (hold.symm.trans hrow)
      obtain rfl := (persistComponents_spec hrows).2.2 (hsound id old hrow).recorded
      exact ⟨save_self hrow, snapshot, hsnapshot, hfacts⟩
    · simp [hrow] at hnone
  staging hrow hstate h := markVerified_repeated hrow hstate h
  final hrow hstate h := markVerified_repeated hrow hstate h
  failed hrow hstate := by simp [markFailed, hrow, hstate, ArtifactState.promoted]
  promoted hrow hnot h := by
    rcases promoteAtomic_cases h with rfl | ⟨_, hold, hstate, -⟩
    · rfl
    · obtain rfl := some.inj (hold.symm.trans hrow)
      exact absurd hstate hnot
  deleted hrow hstate := by
    simp only [step, markManagedBytesDeleted, bind_ok, locked_ok]
    exact ⟨_, hrow, by rw [if_pos hstate]; rfl⟩

def Promotes (checks : Checks) (db : Database) (request : Request) (id : UUID) : Prop :=
  (∃ row, db.ledgers.get? id = some row ∧ row.state = .finalVerified) ∧
    ∃ row, (settle (step checks) db request).ledgers.get? id = some row ∧ row.state = .available

theorem settle_transacts (checks : Checks) (db : Database) (request : Request) :
    Transacts db (settle (step checks) db request) := by
  cases h : step checks db request with
  | ok => exact settle_ok h ▸ step_transacts h
  | error => exact (settle_error h).symm ▸ .refl db

theorem sound_preserved : Preserves (step checks)
    fun db => ∀ id row, db.ledgers.get? id = some row → row.Sound := by
  intro db request db' hsound h id row' hrow'
  have hmoves := (step_transacts h).moves
  cases hrow : db.ledgers.get? id with
  | none => exact (hmoves.fresh id row' hrow hrow').2
  | some row =>
    obtain ⟨_, hnew, hmove⟩ := hmoves.kept id row hrow
    obtain rfl := some.inj (hnew.symm.trans hrow')
    exact hmove.sound (hsound id row hrow)

theorem promoted_preserved (id : UUID) : Preserves (step checks)
    fun db => ∃ row, db.ledgers.get? id = some row ∧ row.state.promoted := by
  rintro _ _ _ ⟨row, hrow, _⟩ h
  obtain ⟨row', hrow', hmove⟩ := (step_transacts h).moves.kept id row hrow
  refine ⟨row', hrow', ?_⟩
  rcases hmove.state with hstate | _
  · rwa [hstate]
  · cases hold : row.state <;> cases hnew : row'.state <;>
      simp_all [ArtifactState.promoted, ArtifactState.Follows]

/-- **The life of an artifact.** It moves along allowed moves, is promoted once with its verified
bytes, repeats change nothing, and exclusions become effective in promotions only. -/
theorem artifact_ledger_lifecycle (checks : Checks) (world : World) (requests : List Request)
    (request : Request) :
    let db := run (step checks) (.initial world) requests
    let db' := settle (step checks) db request
    (∀ id row, db.ledgers.get? id = some row → row.Sound ∧ ∃ row', db'.ledgers.get? id = some row' ∧
      (row'.state = row.state ∨ row.state.Follows row'.state)) ∧
    (∀ id row', db.ledgers.get? id = none → db'.ledgers.get? id = some row' →
      row'.state = .pending) ∧
    Repeats checks db ∧
    (∀ id later again, Promotes checks db request id →
      ¬ Promotes checks (run (step checks) db' later) again id) ∧
    ∀ row ∈ db'.activations, row.state = .offEffective → row ∈ db.activations ∨
      ∃ id, row.effectiveArtifactId = some id ∧ Promotes checks db request id := by
  intro db db'
  have hsound : ∀ id row, db.ledgers.get? id = some row → row.Sound :=
    run_preserves sound_preserved (fun id row hrow => by simp [Database.initial] at hrow) requests
  have htransacts := settle_transacts checks db request
  refine ⟨fun id row hrow => ?_, fun id row' hnone hrow' =>
    (htransacts.moves.fresh id row' hnone hrow').1, repeats hsound, ?_, fun row hrow hstate => ?_⟩
  · obtain ⟨row', hrow', hmove⟩ := htransacts.moves.kept id row hrow
    exact ⟨hsound id row hrow, row', hrow', hmove.state⟩
  · rintro id later _ ⟨-, new, hnew, hstate⟩ ⟨⟨_, hrow, hfinal⟩, -⟩
    obtain ⟨_, hold, hpromoted⟩ := run_preserves (promoted_preserved id)
      ⟨new, hnew, by rw [hstate]; rfl⟩ later
    obtain rfl := some.inj (hold.symm.trans hrow)
    simp [hfinal, ArtifactState.promoted] at hpromoted
  · refine (htransacts.effective row hrow hstate).imp_right ?_
    rintro ⟨id, old, new, hid, hold, hfinal, hnew, havailable⟩
    exact ⟨id, hid, ⟨old, hold, hfinal⟩, new, hnew, havailable⟩

/-- Staging verification is skipped, and a failure is repeated with another code. -/
theorem staging_verification_skipped :
    let checks : Checks := ⟨fun _ => true, fun _ => "digest", fun _ => none, fun _ _ => .ok ⟨⟩,
      fun _ _ _ => .ok ⟨⟩⟩
    let main : BackupArtifactComponent := ⟨"main", .main, none, "main.age", "sha", 1⟩
    let manifest : Manifest := ⟨"capture", "compound", [(main, ["key"])], ""⟩
    let db := run (step checks) (.initial ⟨∅, ∅, ""⟩)
      [.persistPending "artifact" none ⟨manifest, some ⟨[], none, none, ""⟩, "sha"⟩ 1]
    let final := settle (step checks) db (.markFinalVerified "artifact" 1 "sha")
    let failed := settle (step checks) db (.markFailed "artifact" "upload")
    (db.ledgers.get? "artifact").map (·.state) = some .pending ∧
      (final.ledgers.get? "artifact").map (·.state) = some .finalVerified ∧
      (failed.ledgers.get? "artifact").map (·.failureCode) = some "upload" ∧
      (markFailed failed "artifact" "timeout").1 = true := by
  decide +kernel

end

end ArtifactLedger
end SpaceWorks
