import SpaceWorks.Backup.Projection

/-!
# Merging slices

When the records agree, are new to the main and the deltas name rows, the merged rows are those of
the main and the records, with the values of the deltas.
-/

namespace SpaceWorks
namespace Slices

open Checked Table List

section Merge

variable (registry : Registry)
  {records : List Row} {main : Database} {original : String × Nat → String → Value}
  {delta : Delta} {deltas : List Delta} {row : Row}

@[simp] theorem sameRecord_self (record : Row) : sameRecord registry record record = true := by
  simp [sameRecord]

end Merge

end Slices
end SpaceWorks
