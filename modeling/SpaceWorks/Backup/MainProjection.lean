import SpaceWorks.Backup.BoundaryRules

/-!
# The readable main keeps its foreign keys

`_apply_projection` of `main_projection.py`, with the rules of `main_projection_registry.py` and the
foreign keys checked at the end of the transaction.
-/

namespace SpaceWorks
namespace Mains

open Checked Table List Option
open Slices (Value Row Database)

section

variable (registry : Registry) (db : Database)

def fieldsOf (label : String) : List Field :=
  ((ruleOf registry label).map TableRule.fields).getD []

def targetOf (label name : String) : Option String :=
  ((fieldsOf registry label).find? fun field => field.name = name).bind Field.target

/-- The makerspace that a lookup path leads to. -/
def ownerOf : List String → Row → Option Nat
  | [], row => some row.pk
  | [name], row => (row.fields name).id?
  | name :: path, row =>
    (row.fields name).id?.bind fun id =>
      (targetOf registry row.label name).bind fun target =>
        (db.get? (target, id)).bind (ownerOf path)

def sovereignQ (paths : List (List String)) (makerspaceIds : List Nat) (row : Row) : Bool :=
  paths.any fun path => (ownerOf registry db path row).any (· ∈ makerspaceIds)

def sovereign (makerspaceIds : List Nat) (row : Row) : Bool :=
  sovereignQ registry db (slicedPaths registry row.label) makerspaceIds row

def boundaryAffects (rule : BoundaryRule) (makerspaceIds : List Nat) (row : Row) : Bool :=
  row.label = rule.sourceRule.label &&
    (((row.fields rule.field.name).id?.bind fun id => db.get? (rule.targetRule.label, id)).any
      (sovereignQ registry db rule.targetPaths makerspaceIds)) &&
    !sovereign registry db makerspaceIds row

variable (boundaries : List BoundaryRule)

def dropped (makerspaceIds : List Nat) (row : Row) : Bool :=
  boundaries.any fun rule =>
    rule.disposition = .dropRowToSlice && boundaryAffects registry db rule makerspaceIds row

/-- A boundary rule sets the field to null. -/
def nulled (makerspaceIds : List Nat) (row : Row) (name : String) : Bool :=
  boundaries.any fun rule =>
    rule.disposition = .projectNullToSlice && rule.field.name = name &&
      boundaryAffects registry db rule makerspaceIds row

def operational (row : Row) : Bool :=
  (ruleOf registry row.label).any fun rule => rule.disposition = .omitOperational

def removed (makerspaceIds : List Nat) (row : Row) : Bool :=
  sovereign registry db makerspaceIds row || dropped registry db boundaries makerspaceIds row ||
    operational registry row

def projectedRow (makerspaceIds : List Nat) (row : Row) : Row :=
  { row with
    fields := fun name =>
      if nulled registry db boundaries makerspaceIds row name then .null else row.fields name }

/-- The rows after all markers are applied. -/
def projected (makerspaceIds : List Nat) : Database :=
  (db.restrict fun row => !removed registry db boundaries makerspaceIds row).mapRows
    (projectedRow registry db boundaries makerspaceIds) (fun _ => rfl)

def ForeignKeysHold : Prop :=
  ∀ row ∈ db.rows, ∀ field ∈ fieldsOf registry row.label,
    (field.target.all fun target => (row.fields field.name).id?.all fun id =>
      (db.get? (target, id)).isSome) = true

instance : Decidable (ForeignKeysHold registry db) := by
  unfold ForeignKeysHold
  infer_instance

/-- `_apply_projection`, with deferred constraints. -/
def applyProjection (rounds : Nat) (makerspaceIds : List Nat) :
    Option (Except Refusal Database) :=
  (boundaryRules registry rounds).map fun result => do
    let boundaries ← result
    require (ForeignKeysHold registry (projected registry db boundaries makerspaceIds))
      .deferredConstraint
    pure (projected registry db boundaries makerspaceIds)

variable {registry : Registry} {db : Database} {boundaries : List BoundaryRule}
variable {makerspaceIds : List Nat} {row : Row}

theorem mem_projected {main : Row} :
    main ∈ projected registry db boundaries makerspaceIds ↔
      ∃ row ∈ db, removed registry db boundaries makerspaceIds row = false ∧
        projectedRow registry db boundaries makerspaceIds row = main := by
  refine mem_mapRows.trans ?_
  simp [mem_restrict, and_assoc]

variable (registry db boundaries makerspaceIds row) in
theorem projectedRow_fields (name : String) :
    (projectedRow registry db boundaries makerspaceIds row).fields name = .null ∨
      nulled registry db boundaries makerspaceIds row name = false ∧
        (projectedRow registry db boundaries makerspaceIds row).fields name = row.fields name := by
  unfold projectedRow
  cases hnulled : nulled registry db boundaries makerspaceIds row name with
  | true => exact .inl (by simp [hnulled])
  | false => exact .inr ⟨rfl, by simp [hnulled]⟩

theorem id_projectedRow {name : String} {id : Nat}
    (h : ((projectedRow registry db boundaries makerspaceIds row).fields name).id? = some id) :
    (row.fields name).id? = some id := by
  rcases projectedRow_fields registry db boundaries makerspaceIds row name with
    hnull | ⟨_, hsame⟩
  · rw [hnull] at h
    cases h
  · rwa [hsame] at h

theorem get?_projected {key' : String × Nat} {main : Row}
    (h : (projected registry db boundaries makerspaceIds).get? key' = some main) :
    ∃ row, db.get? key' = some row ∧ removed registry db boundaries makerspaceIds row = false ∧
      projectedRow registry db boundaries makerspaceIds row = main := by
  obtain ⟨row, hrow, hstays, rfl⟩ := mem_projected.mp (mem_of_get? h)
  have hkey : (row.label, row.pk) = key' := key_of_get? h
  subst hkey
  exact ⟨row, get?_key hrow, hstays, rfl⟩

theorem ownerOf_projected (path : List String) {owner : Nat}
    (h : ownerOf registry (projected registry db boundaries makerspaceIds) path
      (projectedRow registry db boundaries makerspaceIds row) = some owner) :
    ownerOf registry db path row = some owner := by
  induction path generalizing row with
  | nil => exact h
  | cons _ path ih =>
    cases path with
    | nil => exact id_projectedRow h
    | cons =>
      simp only [ownerOf, bind_eq_some_iff] at h ⊢
      obtain ⟨id, hid, target, htarget, _, hmain, howner⟩ := h
      obtain ⟨source, hsource, _, rfl⟩ := get?_projected hmain
      exact ⟨id, id_projectedRow hid, target, htarget, source, hsource, ih howner⟩

theorem sovereign_projected {main : Row}
    (hmain : main ∈ projected registry db boundaries makerspaceIds) :
    sovereign registry (projected registry db boundaries makerspaceIds) makerspaceIds main =
      false := by
  obtain ⟨row, _, hstays, rfl⟩ := mem_projected.mp hmain
  have hfree : sovereign registry db makerspaceIds row = false := by
    simp only [removed, Bool.or_eq_false_iff] at hstays
    exact hstays.1.1
  rw [Bool.eq_false_iff] at hfree ⊢
  intro howned
  refine hfree ?_
  simp only [sovereign, sovereignQ, List.any_eq_true, Option.any_eq_true] at howned ⊢
  obtain ⟨path, hpath, owner, howner, hmem⟩ := howned
  exact ⟨path, hpath, owner, ownerOf_projected path howner, hmem⟩

end

section Completeness

variable (registry : Registry) (db : Database) (makerspaceIds : List Nat)
  {boundary : BoundaryRule} {rounds : Nat}

/-- Only rows without sovereign owners and lost references stay, changed in boundary columns that
are null. -/
def Projects : Prop :=
  ∃ rounds boundaries main, boundaryRules registry rounds = some (.ok boundaries) ∧
    applyProjection registry db rounds makerspaceIds = some (.ok main) ∧
    (∀ row ∈ main, sovereign registry main makerspaceIds row = false) ∧
    ForeignKeysHold registry main ∧
    ∀ row ∈ main, ∃ source ∈ db, source.label = row.label ∧ source.pk = row.pk ∧
      ∀ name, row.fields name = source.fields name ∨
        row.fields name = .null ∧ ∃ rule ∈ boundaries, rule.sourceRule.label = row.label ∧
          rule.field.name = name ∧ rule.disposition = .projectNullToSlice

/-- `boundary_rules` does not refuse the registry. -/
def Declared : Prop :=
  ∀ rounds paths, ownerPaths registry rounds = some paths →
    checkGlobal registry (boundariesOf registry paths) = .ok ()

/-- A row stays without one that it refers to, through its own owner path or past any sovereign
owner. -/
structure Stray (paths : OwnerPaths) (row : Row) (rule : TableRule) (field : Field)
    (target : Row) : Prop where
  row_mem : row ∈ db
  stays : removed registry db (boundariesOf registry paths) makerspaceIds row = false
  ruleOf_row : ruleOf registry row.label = some rule
  field_mem : field ∈ rule.fields
  refers : field.target = some target.label ∧ (row.fields field.name).id? = some target.pk
  target_mem : target ∈ db
  gone : removed registry db (boundariesOf registry paths) makerspaceIds target = true
  missed : isCanonicalOwner rule field = true ∨
    sovereignQ registry db (paths target.label) makerspaceIds target = false

variable {registry db makerspaceIds} {paths : OwnerPaths} {row target : Row} {rule : TableRule}
  {field : Field}

theorem mem_boundariesOf :
    boundary ∈ boundariesOf registry paths ↔ ∃ rule field, (rule, field) ∈ entries registry ∧
        boundaryOf registry paths (rule, field) = some boundary := by
  simp [boundariesOf]

theorem boundaryOf_eq_some :
    boundaryOf registry paths (rule, field) = some boundary ↔
      ∃ targetRule, field.target.bind (ruleOf registry) = some targetRule ∧
        (paths targetRule.label ≠ [] ∧ isCanonicalOwner rule field = false) ∧
        { sourceRule := rule, field := field, targetRule := targetRule,
          targetPaths := paths targetRule.label,
          disposition := boundaryDisposition registry rule field } = boundary := by
  simp [boundaryOf, bind_eq_some_iff]

/-- A rule marks what refers to marked rows, but for its owner. -/
theorem affects_of_reference (hpaths : ownerPaths registry rounds = some paths)
    (hrow : sovereign registry db makerspaceIds row = false)
    (hrule : ruleOf registry row.label = some rule) (hfield : field ∈ rule.fields)
    (hrefers : field.target = some target.label ∧ (row.fields field.name).id? = some target.pk)
    (htarget : target ∈ db) (hcanonical : isCanonicalOwner rule field = false)
    (hmarked : sovereignQ registry db (paths target.label) makerspaceIds target = true) :
    ∃ boundary ∈ boundariesOf registry paths, boundary.field = field ∧
      boundaryAffects registry db boundary makerspaceIds row = true := by
  have hne : paths target.label ≠ [] := by
    intro hempty
    simp [sovereignQ, hempty] at hmarked
  obtain ⟨targetRule, htargetRule⟩ := ruled_ownerPaths hpaths _ hne
  obtain ⟨hmem, hlabel⟩ := ruleOf_eq_some.mp hrule
  have htargetLabel := (ruleOf_eq_some.mp htargetRule).2
  refine ⟨_, mem_boundariesOf.mpr ⟨rule, field, mem_entries.mpr ⟨hmem, hfield⟩,
    boundaryOf_eq_some.mpr ⟨targetRule, ?_, ⟨?_, hcanonical⟩, rfl⟩⟩, rfl, ?_⟩
  · rw [hrefers.1]
    exact htargetRule
  · rw [htargetLabel]
    exact hne
  · have hget : db.get? (target.label, target.pk) = some target := get?_key htarget
    simp [boundaryAffects, hlabel, hrefers.2, htargetLabel, hget, hmarked, hrow]

theorem nulled_cases (hrule : ruleOf registry row.label = some rule) (hfield : field ∈ rule.fields)
    (hrefers : field.target = some target.label ∧ (row.fields field.name).id? = some target.pk)
    (htarget : target ∈ db)
    (hnulled : nulled registry db (boundariesOf registry paths) makerspaceIds row field.name =
      true) :
    isCanonicalOwner rule field = false ∧
      sovereignQ registry db (paths target.label) makerspaceIds target = true := by
  simp [nulled] at hnulled
  obtain ⟨_, hboundary, ⟨_, hname⟩, haffects⟩ := hnulled
  obtain ⟨source, named, hentry, hboundary⟩ := mem_boundariesOf.mp hboundary
  obtain ⟨targetRule, htargetRule, ⟨_, hcanonical⟩, rfl⟩ := boundaryOf_eq_some.mp hboundary
  simp [boundaryAffects] at haffects
  obtain ⟨⟨hlabel, hmarks⟩, _⟩ := haffects
  obtain ⟨hmem, hrowLabel⟩ := ruleOf_eq_some.mp hrule
  obtain ⟨hsource, hnamed⟩ := mem_entries.mp hentry
  -- the rule is about this field of this table
  have hsame : source = rule :=
    inj_on_of_nodup_map registry.labels hsource hmem (hlabel.symm.trans hrowLabel.symm)
  subst hsame
  have hsameField : named = field :=
    inj_on_of_nodup_map (registry.names source hsource) hnamed hfield hname
  subst hsameField
  have htargetLabel : targetRule.label = target.label := by
    rw [hrefers.1] at htargetRule
    exact (ruleOf_eq_some.mp htargetRule).2
  have hget : db.get? (target.label, target.pk) = some target := get?_key htarget
  simp only [hrefers.2, htargetLabel, bind_some, hget, any_some] at hmarks
  exact ⟨hcanonical, hmarks⟩

theorem foreignKeysHold_iff {db : Database} :
    ForeignKeysHold registry db ↔ ∀ row ∈ db, ∀ rule, ruleOf registry row.label = some rule →
      ∀ field ∈ rule.fields, ∀ label id, field.target = some label →
        (row.fields field.name).id? = some id → ∃ target, db.get? (label, id) = some target := by
  constructor
  · intro h row hrow rule hrule field hfield label id htarget hid
    have hholds := h row hrow field (by simpa [fieldsOf, hrule] using hfield)
    simp only [htarget, hid, all_some] at hholds
    exact isSome_iff_exists.mp hholds
  · intro h row hrow field hfield
    cases hrule : ruleOf registry row.label with
    | none => simp [fieldsOf, hrule] at hfield
    | some rule =>
      cases htarget : field.target with
      | none => rfl
      | some label =>
        cases hid : (row.fields field.name).id? with
        | none => rfl
        | some id =>
          have hfound := h row hrow rule hrule field (by simpa [fieldsOf, hrule] using hfield)
            label id htarget hid
          simpa using isSome_iff_exists.mpr hfound

theorem foreignKeysHold_projected (hpaths : ownerPaths registry rounds = some paths)
    (hdb : ForeignKeysHold registry db) :
    ForeignKeysHold registry (projected registry db (boundariesOf registry paths) makerspaceIds) ↔
      ∀ row rule field target, ¬ Stray registry db makerspaceIds paths row rule field target := by
  constructor
  · intro hmain row rule field target h
    have hin := mem_projected.mpr ⟨row, h.row_mem, h.stays, rfl⟩
    have hkept : nulled registry db (boundariesOf registry paths) makerspaceIds row field.name =
        false := by
      rw [Bool.eq_false_iff]
      intro hnulled
      obtain ⟨hcanonical, hmarked⟩ :=
        nulled_cases h.ruleOf_row h.field_mem h.refers h.target_mem hnulled
      rcases h.missed with howner | hunmarked
      · rw [hcanonical] at howner
        cases howner
      · rw [hmarked] at hunmarked
        cases hunmarked
    have hid : ((projectedRow registry db (boundariesOf registry paths) makerspaceIds
        row).fields field.name).id? = some target.pk := by
      simp only [projectedRow, hkept, Bool.false_eq_true, if_false]
      exact h.refers.2
    obtain ⟨_, hmainRow⟩ := foreignKeysHold_iff.mp hmain _ hin rule h.ruleOf_row field
      h.field_mem target.label target.pk h.refers.1 hid
    obtain ⟨_, hsource, hstays, _⟩ := get?_projected hmainRow
    have hget : db.get? (target.label, target.pk) = some target := get?_key h.target_mem
    rw [hget, some.injEq] at hsource
    rw [← hsource, h.gone] at hstays
    cases hstays
  · intro hnone
    refine foreignKeysHold_iff.mpr fun main hin rule hrule field hfield label id htarget hid => ?_
    obtain ⟨row, hrow, hstays, rfl⟩ := mem_projected.mp hin
    have hkept : nulled registry db (boundariesOf registry paths) makerspaceIds row field.name =
        false := by
      rcases projectedRow_fields registry db (boundariesOf registry paths) makerspaceIds row
        field.name with hnull | ⟨hkept, _⟩
      · rw [hnull] at hid
        cases hid
      · exact hkept
    have hsource := id_projectedRow hid
    obtain ⟨target, hget⟩ := foreignKeysHold_iff.mp hdb row hrow rule hrule field hfield label id
      htarget hsource
    have hkey : (target.label, target.pk) = (label, id) := key_of_get? hget
    cases hkey
    have htargetMem := mem_of_get? hget
    have hfree : sovereign registry db makerspaceIds row = false ∧
        dropped registry db (boundariesOf registry paths) makerspaceIds row = false := by
      simp only [removed, Bool.or_eq_false_iff] at hstays
      exact hstays.1
    have hstaysTarget :
        removed registry db (boundariesOf registry paths) makerspaceIds target = false := by
      rw [Bool.eq_false_iff]
      intro hgone
      refine hnone row rule field target
        ⟨hrow, hstays, hrule, hfield, ⟨htarget, hsource⟩, htargetMem, hgone, ?_⟩
      by_contra hseen
      simp at hseen
      obtain ⟨boundary, hboundary, hname, haffects⟩ := affects_of_reference hpaths hfree.1 hrule
        hfield ⟨htarget, hsource⟩ htargetMem hseen.1 hseen.2
      cases hdisposition : boundary.disposition with
      | dropRowToSlice =>
        have hdropped : dropped registry db (boundariesOf registry paths) makerspaceIds row =
            true := by
          simp only [dropped, List.any_eq_true]
          exact ⟨boundary, hboundary, by simp [hdisposition, haffects]⟩
        rw [hfree.2] at hdropped
        cases hdropped
      | projectNullToSlice =>
        have hnulled : nulled registry db (boundariesOf registry paths) makerspaceIds row
            field.name = true := by
          simp only [nulled, List.any_eq_true]
          exact ⟨boundary, hboundary, by simp [hdisposition, hname, haffects]⟩
        rw [hkept] at hnulled
        cases hnulled
    have hfound : projectedRow registry db (boundariesOf registry paths) makerspaceIds target ∈
        projected registry db (boundariesOf registry paths) makerspaceIds :=
      mem_projected.mpr ⟨target, htargetMem, hstaysTarget, rfl⟩
    exact ⟨_, get?_eq_some.mpr ⟨hfound, rfl⟩⟩

theorem boundaryRules_of_declared (hdeclared : Declared registry)
    (hpaths : ownerPaths registry rounds = some paths) :
    boundaryRules registry rounds = some (.ok (boundariesOf registry paths)) := by
  simp only [boundaryRules, hpaths, map_some, hdeclared rounds paths hpaths]
  rfl

theorem applyProjection_ok (hdeclared : Declared registry)
    (hpaths : ownerPaths registry rounds = some paths) {main : Database} :
    applyProjection registry db rounds makerspaceIds = some (.ok main) ↔
      ForeignKeysHold registry (projected registry db (boundariesOf registry paths) makerspaceIds) ∧
        projected registry db (boundariesOf registry paths) makerspaceIds = main := by
  simp [applyProjection, boundaryRules_of_declared hdeclared hpaths]

theorem projectedRow_boundary (name : String) :
    (projectedRow registry db (boundariesOf registry paths) makerspaceIds row).fields name =
        row.fields name ∨
      (projectedRow registry db (boundariesOf registry paths) makerspaceIds row).fields name =
          .null ∧
        ∃ boundary ∈ boundariesOf registry paths, boundary.sourceRule.label = row.label ∧
          boundary.field.name = name ∧ boundary.disposition = .projectNullToSlice := by
  cases hnulled : nulled registry db (boundariesOf registry paths) makerspaceIds row name with
  | false => exact .inl (by simp [projectedRow, hnulled])
  | true =>
    refine .inr ⟨by simp [projectedRow, hnulled], ?_⟩
    simp [nulled] at hnulled
    obtain ⟨boundary, hboundary, ⟨hdisposition, hname⟩, haffects⟩ := hnulled
    simp [boundaryAffects] at haffects
    exact ⟨boundary, hboundary, haffects.1.1.symm, hname, hdisposition⟩

variable (registry db makerspaceIds) in
/-- A projection goes through exactly when no makerspace depends on another and no row is stray. -/
theorem projects_iff (hdeclared : Declared registry) (hdb : ForeignKeysHold registry db) :
    Projects registry db makerspaceIds ↔ ¬ SelfOwned registry ∧
        ∀ rounds paths, ownerPaths registry rounds = some paths → ∀ row rule field target,
            ¬ Stray registry db makerspaceIds paths row rule field target := by
  constructor
  · rintro ⟨rounds, _, _, hrules, happly, _, _, _⟩
    have hends : ∃ paths, ownerPaths registry rounds = some paths := by
      cases hpaths : ownerPaths registry rounds with
      | none => simp [boundaryRules, hpaths] at hrules
      | some paths => exact ⟨paths, rfl⟩
    obtain ⟨_, hpaths⟩ := hends
    refine ⟨fun hself => ?_, fun rounds' paths' hpaths' => ?_⟩
    · rw [ownerPaths_selfOwned hself] at hpaths
      cases hpaths
    · rw [← Rounds.loop_unique hpaths hpaths']
      exact (foreignKeysHold_projected hpaths hdb).mp
        ((applyProjection_ok hdeclared hpaths).mp happly).1
  · rintro ⟨hself, hnone⟩
    obtain ⟨rounds, paths, hpaths⟩ := ownerPaths_total hself
    have hmain := (foreignKeysHold_projected hpaths hdb).mpr (hnone rounds paths hpaths)
    refine ⟨rounds, _, _, boundaryRules_of_declared hdeclared hpaths,
      (applyProjection_ok hdeclared hpaths).mpr ⟨hmain, rfl⟩,
      fun row hrow => sovereign_projected hrow, hmain, fun row hrow => ?_⟩
    obtain ⟨source, hsource, _, rfl⟩ := mem_projected.mp hrow
    exact ⟨source, hsource, rfl, rfl, projectedRow_boundary⟩

end Completeness

def machineType : String := "machines.MachineType"

def machine : String := "machines.Machine"

def usageEntry : String := "machines.MachineUsageEntry"

def slicedTable (label : String) (path : List String) (fields : List Field) : TableRule where
  label := label
  fields := fields
  disposition := .copyToSlice
  predicate := some path

def machineRegistry : Registry where
  rules :=
    [slicedTable makerspace [] [],
      slicedTable machineType ["makerspace"] [⟨"makerspace", some makerspace, true⟩],
      slicedTable machine ["makerspace"]
        [⟨"makerspace", some makerspace, false⟩, ⟨"machine_type", some machineType, false⟩],
      slicedTable usageEntry ["machine", "makerspace"] [⟨"machine", some machine, false⟩]]
  projectGlobalBoundaries := []
  labels := by decide
  names := by decide
  predicates := by decide
  sovereigns := ⟨_, mem_cons_self, rfl, rfl⟩

/-- A row with some references, the other fields null. -/
def rowWith (label : String) (pk : Nat) (references : List (String × Nat)) : Row :=
  ⟨label, pk, fun name => ((references.lookup name).map Value.key).getD .null⟩

/-- A machine of makerspace 2 with a type of `owner`, and its use. -/
def machineDatabase (owner : Nat) : Database where
  rows :=
    [rowWith makerspace 1 [], rowWith makerspace 2 [],
      rowWith machineType 5 [("makerspace", owner)],
      rowWith machine 7 [("makerspace", 2), ("machine_type", 5)],
      rowWith usageEntry 9 [("machine", 7)]]
  nodup := by
    simp only [map_cons, map_nil, rowWith, Slices.key_row]
    decide

theorem declared_machineRegistry : Declared machineRegistry := by
  intro rounds paths hpaths
  have hdeclared : ∀ paths, checkGlobal machineRegistry (boundariesOf machineRegistry paths) =
      .ok () := by
    intro paths
    have hnone : projectedGlobal (boundariesOf machineRegistry paths) = [] := by
      refine filter_eq_nil_iff.mpr fun boundary hboundary => ?_
      obtain ⟨rule, _, hentry, hboundary⟩ := mem_boundariesOf.mp hboundary
      obtain ⟨_, _, _, rfl⟩ := boundaryOf_eq_some.mp hboundary
      have hrule := (mem_entries.mp hentry).1
      have hsliced : ∀ rule ∈ machineRegistry.rules, rule.disposition = .copyToSlice := by decide
      simp [hsliced rule hrule]
    simp only [checkGlobal, hnone]
    rfl
  exact hdeclared paths

theorem machine_paths (owner : Nat) (holds : Bool)
    (h : (ownerPaths machineRegistry 2).map (fun paths => decide (ForeignKeysHold machineRegistry
      (projected machineRegistry (machineDatabase owner) (boundariesOf machineRegistry paths)
        [1]))) = some holds)
    {rounds : Nat} {paths : OwnerPaths} (hpaths : ownerPaths machineRegistry rounds = some paths) :
    decide (ForeignKeysHold machineRegistry (projected machineRegistry (machineDatabase owner)
      (boundariesOf machineRegistry paths) [1])) = holds := by
  obtain ⟨_, hpaths', hholds⟩ := map_eq_some_iff.mp h
  rw [Rounds.loop_unique hpaths hpaths']
  exact hholds

theorem machine_use_is_stranded :
    Declared machineRegistry ∧ ForeignKeysHold machineRegistry (machineDatabase 1) ∧
      ¬ Projects machineRegistry (machineDatabase 1) [1] := by
  refine ⟨declared_machineRegistry, by decide +kernel, ?_⟩
  rintro ⟨rounds, _, _, hrules, happly, _⟩
  cases hpaths : ownerPaths machineRegistry rounds with
  | none => simp [boundaryRules, hpaths] at hrules
  | some =>
    have hholds := ((applyProjection_ok declared_machineRegistry hpaths).mp happly).1
    have hfails := machine_paths 1 false (by decide +kernel) hpaths
    exact of_decide_eq_false hfails hholds

/-- A type of the machine's own makerspace keeps it in the main. -/
theorem machine_use_stays : Projects machineRegistry (machineDatabase 2) [1] := by
  have hdb : ForeignKeysHold machineRegistry (machineDatabase 2) := by decide +kernel
  refine (projects_iff machineRegistry (machineDatabase 2) [1] declared_machineRegistry hdb).mpr
    ⟨?_, fun rounds paths hpaths => ?_⟩
  · unfold SelfOwned
    decide
  · have hholds := machine_paths 2 true (by decide +kernel) hpaths
    exact (foreignKeysHold_projected hpaths hdb).mp (of_decide_eq_true hholds)

end Mains
end SpaceWorks
