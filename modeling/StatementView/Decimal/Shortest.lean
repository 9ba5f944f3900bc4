import StatementView.Decimal.Binary
import StatementView.Decimal.Digits

namespace StatementView.Decimal

structure Scaled where
  digits : Nat
  exponent : Int

inductive Tie where
  | up
  | even

def nearer (tie : Tie) (i : Interval) (n : Nat) : Nat :=
  match compare (2 * i.num) ((2 * n + 1) * i.den), tie with
  | .lt, _ => n
  | .gt, _ => n + 1
  | .eq, .up => n + 1
  | .eq, .even => if n % 2 = 0 then n else n + 1

def gridPoint? (tie : Tie) (i : Interval) : Option Nat :=
  let n := i.num / i.den
  match i.holds n, i.holds (n + 1) with
  | true, true => some (nearer tie i n)
  | true, false => some n
  | false, true => some (n + 1)
  | false, false => none

def magnitude (i : Interval) : Int :=
  let k : Int := (natural i.num).length - (natural i.den).length
  let s := i.scale (-k)
  if s.num < s.den then k else k + 1

def Scaled.strip (digits : Nat) (exponent : Int) : Scaled :=
  if digits ≠ 0 ∧ digits % 10 = 0 then strip (digits / 10) (exponent + 1)
  else ⟨digits, exponent⟩
termination_by digits
decreasing_by omega

/-- The shortest decimal in the interval of the magnitude of a finite float other than zero.
Seventeen digits always suffice for one; the exact integer part stands in where none is found. -/
def shortest (tie : Tie) (x : Float) : Scaled :=
  let i := Interval.ofFloat x
  let k := magnitude i
  let found := (List.range 17).findSome? fun (count : Nat) ↦
    let exponent := k - (count + 1)
    (gridPoint? tie (i.scale (-exponent))).map fun n ↦ Scaled.strip n exponent
  found.getD ⟨i.num / i.den, 0⟩

def Scaled.positional (d : Scaled) : Text :=
  let ds := natural d.digits
  let point : Int := ds.length + d.exponent
  if point ≤ 0 then ['0', '.'] ++ List.replicate (-point).toNat '0' ++ ds
  else if point < ds.length then ds.take point.toNat ++ '.' :: ds.drop point.toNat
  else ds ++ List.replicate (point.toNat - ds.length) '0'

def Scaled.leading (d : Scaled) : Int := (natural d.digits).length - 1 + d.exponent

def Scaled.scientific (d : Scaled) : Text :=
  let exponent := d.leading
  let sign := if exponent < 0 then '-' else '+'
  let digits := match natural d.digits with
    | first :: second :: rest => first :: '.' :: second :: rest
    | ds => ds
  digits ++ 'e' :: sign :: natural exponent.natAbs

def isNegative (x : Float) : Bool := x.toBits.toNat ≥ signedBound

end StatementView.Decimal
