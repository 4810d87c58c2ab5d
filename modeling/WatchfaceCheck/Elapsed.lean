namespace WatchfaceCheck.Elapsed

-- A quotient to two decimals, halves upwards.
def decimals (amount unit : Nat) : String :=
  let hundredths := (200 * amount + unit) / (2 * unit)
  let fraction := toString (hundredths % 100)
  toString (hundredths / 100) ++ "." ++ (if fraction.length = 1 then "0" else "") ++ fraction

def text (nanoseconds : Nat) : String :=
  if 1000000000 ≤ nanoseconds then decimals nanoseconds 1000000000 ++ "s"
  else if 1000000 ≤ nanoseconds then decimals nanoseconds 1000000 ++ "ms"
  else if 1000 ≤ nanoseconds then decimals nanoseconds 1000 ++ "µs"
  else decimals nanoseconds 1 ++ "ns"

end WatchfaceCheck.Elapsed
