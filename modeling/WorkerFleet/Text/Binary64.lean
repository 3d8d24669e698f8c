/-!
# Fractions rounded to 53 binary digits

Sums and quotients of small positive fractions as binary floating point of double precision gives
them: each operation yields the exact value rounded to the nearest fraction with 53 significant
binary digits, and to the even one of two that are equally near.
-/

namespace WorkerFleet.Text

/-- A fraction with a positive denominator. -/
structure Ratio where
  num : Nat
  den : Nat
  deriving DecidableEq, Repr

namespace Ratio

def lt (p q : Ratio) : Bool := p.num * q.den < q.num * p.den

/-- The nearest natural number to `num / den`, the even one at a tie. -/
def nearest (num den : Nat) : Nat :=
  let q := num / den
  let r := num % den
  if 2 * r < den then q
  else if den < 2 * r then q + 1
  else if q % 2 = 0 then q else q + 1

/-- How many binary places a value below `2 ^ 52` keeps. -/
def places (p : Ratio) : Nat :=
  let k := 53 + Nat.log2 p.den - Nat.log2 p.num
  if p.num <<< k < p.den <<< 53 then k else k - 1

/-- The value with 53 significant binary digits nearest to a fraction below `2 ^ 52`. -/
def rounded (p : Ratio) : Ratio :=
  if p.num = 0 then ⟨0, 1⟩ else ⟨nearest (p.num <<< p.places) p.den, 1 <<< p.places⟩

def quotient (m n : Nat) : Ratio := rounded ⟨m, n⟩

def add (p q : Ratio) : Ratio := rounded ⟨p.num * q.den + q.num * p.den, p.den * q.den⟩

def divide (p : Ratio) (n : Nat) : Ratio := rounded ⟨p.num, p.den * n⟩

end Ratio

end WorkerFleet.Text
