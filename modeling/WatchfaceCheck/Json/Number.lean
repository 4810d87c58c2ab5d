namespace WatchfaceCheck.Json

structure Number where
  negative : Bool
  -- Decimal digits before the point, and after it.
  whole : List Nat
  fraction : List Nat
  exponent : Option Int
deriving DecidableEq, Repr

namespace Number

def decimal (digits : List Nat) : Nat := digits.foldl (fun value digit => value * 10 + digit) 0

def nat? (n : Number) : Option Nat :=
  if n.negative || !n.fraction.isEmpty || n.exponent.isSome then none else some (decimal n.whole)

-- Digits go into the integer until one no longer fits. The result tells how many went in.
def absorb (value : Nat) : List Nat → Nat × Nat
  | [] => (value, 0)
  | digit :: digits =>
    let next := value * 10 + digit
    if next < UInt64.size then ((absorb next digits).1, (absorb next digits).2 + 1) else (value, 0)

-- Digits before the point that were left out count for their place, those after it for nothing.
def significand (n : Number) : Nat := (absorb (absorb 0 n.whole).1 n.fraction).1

def power (n : Number) : Int :=
  let before := absorb 0 n.whole
  n.whole.length - before.2 - (absorb before.1 n.fraction).2 + n.exponent.getD 0

-- A natural number rounded to the 53 bits of a double, halves to the even neighbour.
def rounded (n : Nat) : Nat :=
  let unit := Nat.pow 2 (Nat.log2 n - 52)
  let above := n / unit
  let rest := n % unit
  if unit < 2 * rest || (unit == 2 * rest && above % 2 == 1) then (above + 1) * unit
  else above * unit

def infinite : Nat := Nat.pow 2 1024 - Nat.pow 2 970

def greatestPower : Nat := 308

def isFinite (n : Number) : Bool :=
  n.significand == 0 || n.power < 0
    || (n.power ≤ greatestPower
      && rounded n.significand * rounded (Nat.pow 10 n.power.toNat) < infinite)

end Number

end WatchfaceCheck.Json
