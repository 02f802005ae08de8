import SpaceWorks.Library.Checked
import SpaceWorks.Library.Table

/-!
# The readable main and the sovereign slices

The projection to the readable main (`main_projection.py`), the capture of slices
(`tenant_projection.py`, `main_projection_inverse.py`, `raw_projection.py`) and their merge
(`slice_merge_raw.py`, `slice_merge_staging.py`).  A database is one table of rows by model and
primary key; what the registries of `main_projection_registry.py` and `data_export/datasets.py` say
is a parameter.  The check of foreign keys is left out.
-/

namespace SpaceWorks
namespace Slices

open Checked

inductive Value
  | null
  | key (id : Nat)
  | instant (microseconds : Int)
  | text (value : String)
  deriving DecidableEq

def Value.id? : Value → Option Nat
  | .key id => some id
  | _ => none

/-- A value after JSON, which cuts times to milliseconds. -/
def Value.fixture : Value → Value
  | .instant microseconds => .instant (microseconds - microseconds % 1000)
  | value => value

structure Row where
  label : String
  pk : Nat
  fields : String → Value

instance : Keyed Row (String × Nat) := ⟨fun row => (row.label, row.pk)⟩

theorem key_row (row : Row) : key row = (row.label, row.pk) := rfl

abbrev Database := Table Row

def fixturePayload (row : Row) : Row :=
  { row with fields := fun field => (row.fields field).fixture }

def Row.clear (row : Row) (fieldNames : List String) : Row :=
  { row with fields := fun field => if field ∈ fieldNames then .null else row.fields field }

def Row.set (row : Row) (name : String) (value : Value) : Row :=
  { row with fields := fun field => if field = name then value else row.fields field }

inductive Refusal
  | ownerDisagrees
  | disagree
  | occupied
  | noRow

inductive BoundaryDisposition
  | dropRowToSlice
  | projectNullToSlice
  deriving DecidableEq

structure BoundaryRule where
  source : String
  field : String
  target : String
  targetPaths : List (List String)
  disposition : BoundaryDisposition

def eventCollaborator : String := "events.EventCollaborator"

def eventRegistration : String := "events.EventRegistration"

def payment : String := "payments.Payment"

def stockTransfer : String := "operations.StockTransfer"

def stockTransferLine : String := "operations.StockTransferLine"

/-- Datasets with references to other makerspaces set to null. -/
def externalized : List String := [eventRegistration, payment, stockTransfer]

/-- What the registries say about the models; dropping rules concern other tables than changed
fixtures. -/
structure Registry where
  owner : String → Option (List String)
  datasets : List String
  omitted : List String
  target : String → String → Option String
  columns : String → List String
  boundaries : List BoundaryRule
  datasets_owned : ∀ label ∈ datasets, (owner label).isSome = true
  sources_covered : ∀ rule ∈ boundaries, (owner rule.source).isSome = true → rule.source ∈ datasets
  omitted_uncovered : ∀ label ∈ omitted, label ∉ datasets ∧ ∀ rule ∈ boundaries, rule.source ≠ label
  dropped_whole : ∀ rule ∈ boundaries, rule.disposition = .dropRowToSlice →
    rule.source ∉ externalized
  transfers : owner stockTransfer = some ["makerspace"]
  lines : owner stockTransferLine = some ["transfer", "makerspace"]

variable (registry : Registry) (db : Database)

def ownerOf : List String → Row → Option Nat
  | [], row => some row.pk
  | [field], row => (row.fields field).id?
  | field :: path, row =>
    (row.fields field).id?.bind fun id =>
      (registry.target row.label field).bind fun target =>
        (db.get? (target, id)).bind (ownerOf path)

def sovereignQ (paths : List (List String)) (makerspaceIds : List Nat) (row : Row) : Bool :=
  paths.any fun path => (ownerOf registry db path row).any (· ∈ makerspaceIds)

def canonicalOwner (row : Row) : Option Nat :=
  (registry.owner row.label).bind fun path => ownerOf registry db path row

def sovereign (makerspaceIds : List Nat) (row : Row) : Bool :=
  (registry.owner row.label).any fun path => sovereignQ registry db [path] makerspaceIds row

/-- `boundary_queryset`: a row of no sovereign owner refers to a sovereign row. -/
def boundaryAffects (rule : BoundaryRule) (makerspaceIds : List Nat) (row : Row) : Bool :=
  row.label = rule.source &&
    (((row.fields rule.field).id?.bind fun id => db.get? (rule.target, id)).any
      (sovereignQ registry db rule.targetPaths makerspaceIds)) &&
    !sovereign registry db makerspaceIds row

def dropped (makerspaceIds : List Nat) (row : Row) : Bool :=
  registry.boundaries.any fun rule =>
    rule.disposition = .dropRowToSlice && boundaryAffects registry db rule makerspaceIds row

def nulled (makerspaceIds : List Nat) (row : Row) (field : String) : Bool :=
  registry.boundaries.any fun rule =>
    rule.disposition = .projectNullToSlice && rule.field = field &&
      boundaryAffects registry db rule makerspaceIds row

def removed (makerspaceIds : List Nat) (row : Row) : Bool :=
  sovereign registry db makerspaceIds row || dropped registry db makerspaceIds row ||
    row.label ∈ registry.omitted

def applyProjection (makerspaceIds : List Nat) : Database :=
  (db.restrict fun row => !removed registry db makerspaceIds row).mapRows
    (fun row => { row with
      fields := fun field => if nulled registry db makerspaceIds row field then .null
        else row.fields field })
    (fun _ => rfl)

/-- A recorded preimage: a whole row, or one field of a row. -/
inductive Preimage
  | row (record : Row)
  | field (label : String) (rowPk : Nat) (name : String) (value : Value)

def isExternal (makerspaceId : Nat) (row : Row) (field : String) : Bool :=
  (row.fields field).id?.any (· ≠ makerspaceId)

/-- `_null_external_makerspaces`, for one row. -/
def nullExternalMakerspaces (makerspaceId : Nat) (fieldNames : List String) (row : Row) :
    Row × List Preimage :=
  let external := fieldNames.filter (isExternal makerspaceId row)
  ((fixturePayload row).clear external,
    external.map fun name => .field row.label row.pk name (row.fields name))

def transferSides : List (String × String) :=
  [("source_makerspace", "source_container"), ("destination_makerspace", "destination_container")]

/-- `_null_transfer_counterparty` for one row. -/
def nullTransferCounterparty (makerspaceId : Nat) (row : Row) : Row × List Preimage :=
  let external := transferSides.filter fun side => isExternal makerspaceId row side.1
  ((fixturePayload row).clear (external.flatMap fun side => [side.1, side.2]),
    external.map fun side => .field row.label row.pk side.1 (row.fields side.1))

def projectRow (makerspaceId : Nat) (row : Row) : Row × List Preimage :=
  if row.label = eventRegistration then
    nullExternalMakerspaces makerspaceId ["registered_via_makerspace", "payment_via_makerspace"] row
  else if row.label = payment then
    nullExternalMakerspaces makerspaceId ["via_makerspace"] row
  else if row.label = stockTransfer then nullTransferCounterparty makerspaceId row
  else (fixturePayload row, [])

/-- The check of `_project_transfers`. -/
def sourceAgrees (row : Row) : Bool :=
  (row.fields "source_makerspace").id?.all fun id => (row.fields "makerspace").id? = some id

/-- `project_raw_dataset`: fixtures and preimages. -/
def projectRawDataset (label : String) (rows : List Row) (makerspaceId : Nat) :
    Except Refusal (List Row × List Preimage) := do
  if label = eventCollaborator then
    pure ([], rows.map fun row => .row (fixturePayload row))
  else if label = stockTransfer then
    require (∀ row ∈ rows, sourceAgrees row) .ownerDisagrees
    let owned := rows.filter fun row => (row.fields "makerspace").id? = some makerspaceId
    let projected := owned.map (projectRow makerspaceId)
    pure (projected.map Prod.fst, projected.flatMap Prod.snd)
  else if label = stockTransferLine then
    let owned := rows.filter fun row =>
      ownerOf registry db ["transfer", "makerspace"] row = some makerspaceId
    let projected := owned.map (projectRow makerspaceId)
    pure (projected.map Prod.fst, projected.flatMap Prod.snd)
  else
    let projected := rows.map (projectRow makerspaceId)
    pure (projected.map Prod.fst, projected.flatMap Prod.snd)

def ownedRows (label : String) (makerspaceId : Nat) : List Row :=
  db.rows.filter fun row =>
    row.label = label && canonicalOwner registry db row = some makerspaceId

/-- What one rule adds to `boundary_deltas`. -/
def boundaryStep (makerspaceId : Nat) (state : List (String × Nat) × List Preimage)
    (rule : BoundaryRule) : List (String × Nat) × List Preimage :=
  let rows := db.rows.filter (boundaryAffects registry db rule [makerspaceId])
  match rule.disposition with
  | .dropRowToSlice =>
    let fresh := rows.filter fun row => key row ∉ state.1
    (state.1 ++ fresh.map key, state.2 ++ fresh.map fun row => .row (fixturePayload row))
  | .projectNullToSlice =>
    (state.1, state.2 ++ rows.map fun row =>
      .field row.label row.pk rule.field (row.fields rule.field).fixture)

def boundaryDeltas (makerspaceId : Nat) : List Preimage :=
  (registry.boundaries.foldl (boundaryStep registry db makerspaceId) ([], [])).2

/-- A slice: the fixtures of its datasets, and the recorded preimages. -/
structure Slice where
  fixtures : List Row
  preimages : List Preimage

def captureSlice (makerspaceId : Nat) : Except Refusal Slice := do
  let payloads ← registry.datasets.mapM fun label =>
    projectRawDataset registry db label (ownedRows registry db label makerspaceId) makerspaceId
  pure
    { fixtures := payloads.flatMap Prod.fst
      preimages := boundaryDeltas registry db makerspaceId ++ payloads.flatMap Prod.snd }

def Preimage.record? : Preimage → Option Row
  | .row record => some record
  | .field .. => none

/-- A delta: the identity of a row, a field and its value. -/
structure Delta where
  identity : String × Nat
  field : String
  newValue : Value

def Preimage.delta? : Preimage → Option Delta
  | .row _ => none
  | .field label rowPk name value => some ⟨(label, rowPk), name, value⟩

def sliceFixtures (slice : Slice) : List Row :=
  slice.fixtures ++ slice.preimages.filterMap Preimage.record?

def sliceDeltas (slice : Slice) : List Delta :=
  slice.preimages.filterMap Preimage.delta?

def sameRecord (record record' : Row) : Bool :=
  (registry.columns record.label).all fun field => record.fields field = record'.fields field

def stageRecord (staged : Table Row) (record : Row) : Except Refusal (Table Row) :=
  match staged.get? (key record) with
  | some seen => do
    require (sameRecord registry seen record) .disagree
    pure staged
  | none => staged.insertNew record .disagree

def applyDelta (db : Database) (delta : Delta) : Except Refusal Database :=
  match db.get? delta.identity with
  | some row => .ok (db.put (row.set delta.field delta.newValue))
  | none => .error .noRow

/-- `stage_group` and `apply_staged`. -/
def mergeSlices (main : Database) (slices : List Slice) : Except Refusal Database := do
  let staged ← (slices.flatMap sliceFixtures).foldlM (stageRecord registry) (∅ : Table Row)
  let filled ← staged.rows.foldlM (fun db record => db.insertNew record Refusal.occupied) main
  (slices.flatMap sliceDeltas).foldlM applyDelta filled

end Slices
end SpaceWorks
