import ToolBootstrap.Decimal.Binary

/- How long something took, in words.

   From a minute on whole minutes and seconds are shown. Below that the binary64 number of seconds
   is asked: from one on its two decimals are shown, else whole milliseconds or microseconds. -/

namespace ToolBootstrap

/-- A span of time: whole seconds and nanoseconds below one second. -/
structure Elapsed where
  seconds : Nat
  nanos : Nat
  deriving DecidableEq, Repr

namespace Elapsed

/-- The binary64 number nearest to the seconds plus the binary64 number nearest to the fraction. -/
def toBinary (e : Elapsed) : Decimal.Binary :=
  Decimal.Binary.add (Decimal.Binary.ofNat e.seconds) (Decimal.Binary.ofQuotient e.nanos 1000000000)

def text (e : Elapsed) : String :=
  if 60 ≤ e.seconds then
    let minutes := toString (e.seconds / 60) ++ "m"
    if e.seconds % 60 = 0 then minutes else minutes ++ " " ++ toString (e.seconds % 60) ++ "s"
  else if e.toBinary.reaches 1 then
    Decimal.Binary.fixedText 2 e.toBinary ++ "s"
  else if 1000000 ≤ e.nanos then
    toString (e.nanos / 1000000) ++ "ms"
  else
    toString (e.nanos / 1000) ++ "µs"

end Elapsed

end ToolBootstrap
