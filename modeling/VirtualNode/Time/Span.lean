/-!
# Spans of time

A span is a number of nanoseconds.  It is shown in the largest unit of seconds, milliseconds,
microseconds and nanoseconds that is not below one, with as many decimals as it needs.
-/

set_option autoImplicit false

namespace VirtualNode.Time

/-- A length of time. -/
structure Span where
  /-- The number of nanoseconds. -/
  nanos : Nat
  deriving DecidableEq, Repr, Inhabited

namespace Span

/-- A number of milliseconds. -/
def millis (n : Nat) : Span := ⟨n * 1000000⟩

/-- A number of seconds. -/
def seconds (n : Nat) : Span := ⟨n * 1000000000⟩

/-- Exactly `width` decimal digits of a number. -/
def padded (width n : Nat) : List Char :=
  let ds := Nat.toDigits 10 n
  List.replicate (width - ds.length) '0' ++ ds

/-- The decimals of `n / 10 ^ places` after the point, without trailing zeros. -/
def decimals (places n : Nat) : List Char :=
  ((padded places n).reverse.dropWhile (· == '0')).reverse

/-- A quotient by a power of ten, written with the decimals it needs. -/
def fixed (n places : Nat) : String :=
  let whole := toString (n / Nat.pow 10 places)
  match decimals places (n % Nat.pow 10 places) with
  | [] => whole
  | ds => whole ++ "." ++ String.ofList ds

/-- The text that shows a span. -/
def text (s : Span) : String :=
  if 1000000000 ≤ s.nanos then fixed s.nanos 9 ++ "s"
  else if 1000000 ≤ s.nanos then fixed s.nanos 6 ++ "ms"
  else if 1000 ≤ s.nanos then fixed s.nanos 3 ++ "µs"
  else toString s.nanos ++ "ns"

end Span

end VirtualNode.Time
