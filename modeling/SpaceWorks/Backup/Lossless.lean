import SpaceWorks.Backup.Capture

/-!
# When slices lose nothing

The readable main and the sovereign slices give a database back exactly when JSON keeps the values
that leave and no transfer loses its counterparty's container.
-/

namespace SpaceWorks
namespace Slices

open Checked Table List

section Restored

variable (registry : Registry) (db : Database) (makerspaceIds : List Nat)
  {row : Row} {ids : List Nat} {field : String} {makerspaceId : Nat}
  {side : String × String}

def Covered (label : String) : Prop :=
  label ∈ registry.datasets ∨ ∃ rule ∈ registry.boundaries, rule.source = label

/-- Main and slices give back every covered row. -/
def GivesBack : Prop :=
  ∃ slices restored, makerspaceIds.mapM (captureSlice registry db) = .ok slices ∧
      mergeSlices registry (applyProjection registry db makerspaceIds) slices = .ok restored ∧
      ∀ row, Covered registry row.label → (row ∈ restored ↔ row ∈ db)

def Named (row : Row) (field : String) : Prop :=
  ∃ makerspaceId ∈ makerspaceIds,
    (row.label ∈ registry.datasets ∧ canonicalOwner registry db row = some makerspaceId ∧
        field ∈ externalFields makerspaceId row) ∨
      nulled registry db [makerspaceId] row field = true

def original (identity : String × Nat) (field : String) : Value :=
  ((db.get? identity).map fun row => row.fields field).getD .null

/-- Every value of the row comes back from its way through JSON. -/
def Row.Exact (row : Row) : Prop :=
  ∀ field, (row.fields field).fixture = row.fields field

end Restored

def ForeignKeysHold (registry : Registry) (db : Database) : Prop :=
  ∀ row ∈ db.rows, ∀ field ∈ registry.columns row.label,
    ((row.fields field).id?.all fun id => (registry.target row.label field).all fun target =>
      (db.get? (target, id)).isSome) = true

def makerspace : String := "makerspaces.Makerspace"

def box : String := "boxes.Box"

def rowOf (label : String) (pk : Nat) (fields : List (String × Value)) : Row :=
  ⟨label, pk, fun field => (fields.lookup field).getD .null⟩

end Slices
end SpaceWorks
