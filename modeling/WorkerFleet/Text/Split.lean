/-!
# Splitting at a separator
-/

namespace WorkerFleet.Text

/-- The parts between the separators, one more than there are separators. -/
def splitOn {α : Type} [DecidableEq α] (separator : α) : List α → List (List α)
  | [] => [[]]
  | c :: rest =>
    if c = separator then [] :: splitOn separator rest
    else
      match splitOn separator rest with
      | [] => [[c]]
      | part :: parts => (c :: part) :: parts

/-- What stands before the first separator and, if there is one, what stands after it. -/
def splitFirst {α : Type} [DecidableEq α] (separator : α) : List α → List α × Option (List α)
  | [] => ([], none)
  | c :: rest =>
    if c = separator then ([], some rest)
    else
      let found := splitFirst separator rest
      (c :: found.1, found.2)

end WorkerFleet.Text
