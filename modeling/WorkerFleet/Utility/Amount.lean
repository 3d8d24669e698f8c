import WorkerFleet.Octets

/-!
# Amounts

Numbers that utilities take, with a unit behind them.
-/

namespace WorkerFleet.Utility

inductive AmountFault
  | invalid
  | tooLarge
  deriving DecidableEq, Repr

/-- The units of sizes; those with a B behind them count in thousands. -/
def units : List (String × Nat) :=
  [("", 1), ("b", 512), ("kB", 1000), ("KB", 1000), ("k", 1024), ("K", 1024), ("KiB", 1024),
   ("MB", 1000000), ("m", 1048576), ("M", 1048576), ("MiB", 1048576), ("GB", 1000000000),
   ("G", 1073741824), ("GiB", 1073741824), ("TB", 1000000000000), ("T", 1099511627776),
   ("TiB", 1099511627776)]

/-- The greatest amount. -/
def amountLimit : Nat := 18446744073709551615

/-- An amount with an optional unit. -/
def amount (text : Octets) : Except AmountFault Nat :=
  let text := text.dropWhile fun c => c == ' ' || c == '\t'
  let text := if text.head? == some '+' then text.drop 1 else text
  let digits := text.takeWhile Char.isDigit
  let unit := String.ofList (text.drop digits.length)
  match units.lookup unit with
  | none => .error .invalid
  | some factor =>
    if digits.isEmpty then .error .invalid
    else if amountLimit < Octets.number digits * factor then .error .tooLarge
    else .ok (Octets.number digits * factor)

end WorkerFleet.Utility
