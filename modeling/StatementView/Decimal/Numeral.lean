import StatementView.Decimal.Digits

namespace StatementView.Decimal

/-- A written number. The whole part is `0` or begins with another digit; the fraction is empty when
no point is written. -/
structure Numeral where
  negative : Bool
  whole : Text
  fraction : Text
  exponent : Option Int

namespace Numeral

def exponent? : Text → Option Int
  | '-' :: t => (natural? t).map fun n ↦ -(n : Int)
  | '+' :: t => (natural? t).map fun n ↦ (n : Int)
  | t => (natural? t).map fun n ↦ (n : Int)

def exponentPart? : Text → Option (Option Int)
  | [] => some none
  | c :: t => if c = 'e' ∨ c = 'E' then (exponent? t).map some else none

def fractionPart? : Text → Option (Text × Option Int)
  | '.' :: t =>
    if (t.takeWhile Char.isDigit).isEmpty then none
    else (exponentPart? (t.dropWhile Char.isDigit)).map (t.takeWhile Char.isDigit, ·)
  | t => (exponentPart? t).map ([], ·)

def unsigned? (negative : Bool) (t : Text) : Option Numeral :=
  let whole := t.takeWhile Char.isDigit
  if whole.isEmpty ∨ (whole.head? = some '0' ∧ whole.length > 1) then none
  else (fractionPart? (t.dropWhile Char.isDigit)).map fun (fraction, exponent) ↦
    ⟨negative, whole, fraction, exponent⟩

def ofText? : Text → Option Numeral
  | '-' :: t => unsigned? true t
  | t => unsigned? false t

def digits (n : Numeral) : Nat := Nat.ofDigitChars 10 (n.whole ++ n.fraction) 0

def scale (n : Numeral) : Int := n.exponent.getD 0 - n.fraction.length

/-- The number with its magnitude read by `read digits negativeScale scale`. A magnitude far outside
the range of a float is brought to its edge first, where it still overflows or vanishes. -/
def readWith {α : Type} (read : Nat → Bool → Nat → α) (n : Numeral) : α :=
  let length : Int := (n.whole ++ n.fraction).length
  if n.digits = 0 then read 0 false 0
  else if n.scale > 400 then read 1 false 400
  else if n.scale + length < -400 then read 1 true 400
  else read n.digits (n.scale < 0) n.scale.natAbs

def toFloat (n : Numeral) : Float :=
  let x := n.readWith Float.ofScientific
  if n.negative then -x else x

def toNarrowFloat (n : Numeral) : Float :=
  let x := (n.readWith Float32.ofScientific).toFloat
  if n.negative then -x else x

end Numeral

end StatementView.Decimal
