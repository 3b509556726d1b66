/-!
# Durations

Timeouts are exact: whole seconds and a nanosecond part below one second. The written form uses the
largest unit with a non-zero integer part and as many decimals as the value needs.
-/

namespace BrokerRelay

/-- A length of time with nanosecond resolution. -/
structure Duration where
  secs : Nat
  nanos : Nat
deriving DecidableEq, Repr, Inhabited

namespace Duration

/-- No time at all. -/
def zero : Duration := ⟨0, 0⟩

/-- Whole seconds. -/
def ofSecs (n : Nat) : Duration := ⟨n, 0⟩

/-- Whole milliseconds. -/
def ofMillis (n : Nat) : Duration := ⟨n / 1000, n % 1000 * 1000000⟩

/-- The length in nanoseconds. -/
def toNanos (d : Duration) : Nat := d.secs * 1000000000 + d.nanos

/-- The duration has no length. -/
def isZero (d : Duration) : Bool := d.secs == 0 && d.nanos == 0

/-- Decimal digits of `n`, padded with zeros to `width`. -/
def paddedDigits (width n : Nat) : List Char :=
  let ds := Nat.toDigits 10 n
  List.replicate (width - ds.length) '0' ++ ds

/-- The fraction `part / 10 ^ width` after a point, without trailing zeros; nothing when it is zero. -/
def fraction (width part : Nat) : String :=
  let ds := ((paddedDigits width part).reverse.dropWhile (· == '0')).reverse
  if ds.isEmpty then "" else "." ++ String.ofList ds

/-- The written form: `10s`, `1.5s`, `300ms`, `1µs`, `0ns`. -/
def text (d : Duration) : String :=
  if 0 < d.secs then s!"{d.secs}" ++ fraction 9 d.nanos ++ "s"
  else if 1000000 ≤ d.nanos then s!"{d.nanos / 1000000}" ++ fraction 6 (d.nanos % 1000000) ++ "ms"
  else if 1000 ≤ d.nanos then s!"{d.nanos / 1000}" ++ fraction 3 (d.nanos % 1000) ++ "µs"
  else s!"{d.nanos}ns"

end Duration

end BrokerRelay
