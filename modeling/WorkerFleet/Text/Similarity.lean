import WorkerFleet.Text.Binary64

/-!
# Jaro similarity

Two texts are compared by their common characters: each character of the first takes the first
character of the second that is equal, still free and not too far away. With `m` such pairs, of
which `d` stand at different places of the two sequences of matched characters, the similarity is
`(m / |a| + m / |b| + (m - d / 2) / m) / 3`, computed in double precision.
-/

namespace WorkerFleet.Text.Similarity

/-- The least place in `low … high` at which `b` has `c` and which is still free. -/
def place? (c : Char) (low high : Nat) (b : List (Char × Bool)) : Option Nat :=
  (b.zipIdx.find? fun e => low ≤ e.2 && e.2 ≤ high && !e.1.2 && e.1.1 == c).map (·.2)

/-- The characters of `a` that find a partner, in order, and `b` with the partners marked. -/
def pair (window : Nat) : Nat → List Char → List (Char × Bool) → List Char × List (Char × Bool)
  | _, [], b => ([], b)
  | i, c :: a, b =>
    match place? c (i - window) (i + window) b with
    | none => pair window (i + 1) a b
    | some j =>
      let rest := pair window (i + 1) a (b.set j (c, true))
      (c :: rest.1, rest.2)

def jaro (a b : List Char) : Ratio :=
  if a.isEmpty && b.isEmpty then ⟨1, 1⟩
  else
    let window := max a.length b.length / 2 - 1
    let found := pair window 0 a (b.map (·, false))
    let left := found.1
    let right := (found.2.filter (·.2)).map (·.1)
    let m := left.length
    if m = 0 then ⟨0, 1⟩
    else
      let moved := ((left.zip right).filter fun e => e.1 != e.2).length / 2
      let shares := (Ratio.quotient m a.length).add (.quotient m b.length)
      (shares.add (.quotient (m - moved) m)).divide 3

/-- A similarity must be greater than seven tenths to be worth a hint. -/
def threshold : Ratio := .quotient 7 10

/-- The candidate most similar to the text, the last one among equals. -/
def closest? (text : List Char) (candidates : List String) : Option String :=
  let score (candidate : String) := jaro text candidate.toList
  candidates.foldl (fun best candidate =>
    if !threshold.lt (score candidate) then best
    else
      match best with
      | none => some candidate
      | some other => if (score candidate).lt (score other) then best else some candidate) none

end WorkerFleet.Text.Similarity
