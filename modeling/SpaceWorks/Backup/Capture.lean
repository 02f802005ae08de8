import SpaceWorks.Backup.Merge

/-!
# What a slice holds

Records are of the rows owned and dropped for the makerspace, deltas of their references and of the
fields set to null for it.
-/

namespace SpaceWorks
namespace Slices

open Checked List

variable (registry : Registry) (db : Database)
  {rule : BoundaryRule} {makerspaceIds : List Nat} {row : Row}

variable (makerspaceId : Nat) {state : List (String × Nat) × List Preimage} {preimage : Preimage}

def makerspaceFields (label : String) : List String :=
  if label = eventRegistration then ["registered_via_makerspace", "payment_via_makerspace"]
  else if label = payment then ["via_makerspace"]
  else if label = stockTransfer then transferSides.map Prod.fst
  else []

/-- The references to other makerspaces. -/
def externalFields (row : Row) : List String :=
  (makerspaceFields row.label).filter (isExternal makerspaceId row)

end Slices
end SpaceWorks
