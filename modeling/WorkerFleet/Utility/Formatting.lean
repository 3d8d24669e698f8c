import WorkerFleet.Text.Format
import WorkerFleet.Utility.Quoting

/-!
# Formats of utilities
-/

namespace WorkerFleet.Utility

open Text

/-- How utilities read formats: with wide fractions and all the escapes there are. -/
def longDialect : Format.Dialect where
  format := { hasZero := false, hasHex := true, hasQuote := true, hasCode := true }
  argument := { hasZero := true, hasHex := true, hasCode := true }
  bits := 64
  lead := 4
  modifiers := "hlLjzt".toList
  quote? := some quotedIfNeeded
  minds := true

end WorkerFleet.Utility
