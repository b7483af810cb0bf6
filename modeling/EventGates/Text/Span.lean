/-!
# Spans of time in messages

A span is counted in milliseconds. Spans below a second are written in milliseconds, longer ones in
seconds with at most three decimals.
-/

namespace EventGates.Text

/-- Decimals of a second for a number of milliseconds below one second, without trailing zeros. -/
def secondDecimals (ms : Nat) : String :=
  if ms = 0 then ""
  else
    let digits := [ms / 100, ms / 10 % 10, ms % 10]
    let kept := (digits.reverse.dropWhile (· == 0)).reverse
    "." ++ String.join (kept.map toString)

/-- The text of a span of time. -/
def span (ms : Nat) : String :=
  if ms = 0 then "0ns"
  else if ms < 1000 then toString ms ++ "ms"
  else toString (ms / 1000) ++ secondDecimals (ms % 1000) ++ "s"

end EventGates.Text
