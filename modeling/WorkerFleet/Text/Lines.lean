import WorkerFleet.OsString
import WorkerFleet.Text.Split

/-!
# Lines

What was printed, by lines, and in an order that does not depend on who printed first.
-/

namespace WorkerFleet.Text

/-- The lines of an output; the last one may lack its end. -/
def lines (bytes : List UInt8) : List OsString :=
  let parts := splitOn 10 bytes
  let parts := if parts.getLast? == some [] then parts.dropLast else parts
  parts.map (⟨·⟩)

/-- Lines by the order of their bytes. -/
def sortedLines (bytes : List UInt8) : List OsString :=
  (lines bytes).mergeSort fun a b => !decide (b.bytes < a.bytes)

end WorkerFleet.Text
