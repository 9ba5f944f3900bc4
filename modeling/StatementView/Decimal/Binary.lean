namespace StatementView.Decimal

/-- The reals from `(num - below) / den` to `(num + above) / den`, with both ends or without them,
around the value `num / den`. -/
structure Interval where
  num : Nat
  den : Nat
  below : Nat
  above : Nat
  closed : Bool

namespace Interval

def fractionBound : Nat := 0x10000000000000

/-- The reals that round to the magnitude of a finite float. A value with an even significand also
attracts the two halfway points, and below a power of two the gap is half as wide. -/
def ofFloat (x : Float) : Interval :=
  let bits := x.toBits.toNat
  let field := bits / fractionBound % 2048
  let fraction := bits % fractionBound
  let significand := if field = 0 then fraction else fractionBound + fraction
  let shift := max field 1
  let scale := Nat.pow 2 (shift - 1075)
  { num := 4 * significand * scale
    den := 4 * Nat.pow 2 (1075 - shift)
    below := (if fraction = 0 ∧ field > 1 then 1 else 2) * scale
    above := 2 * scale
    closed := significand % 2 = 0 }

def scale (i : Interval) : Int → Interval
  | .ofNat power =>
    let factor := Nat.pow 10 power
    { i with num := i.num * factor, below := i.below * factor, above := i.above * factor }
  | .negSucc power => { i with den := i.den * Nat.pow 10 (power + 1) }

def holds (i : Interval) (n : Nat) : Bool :=
  if i.closed then i.num ≤ n * i.den + i.below ∧ n * i.den ≤ i.num + i.above
  else i.num < n * i.den + i.below ∧ n * i.den < i.num + i.above

end Interval

end StatementView.Decimal
