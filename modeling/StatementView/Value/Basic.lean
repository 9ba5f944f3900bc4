import StatementView.Text.Utf8
import StatementView.Decimal.Shortest

namespace StatementView

/-- A bound value. A numeral is a number in its written form; a value may be wrapped as bound to a
column; an object is known by its text alone. -/
inductive Value where
  | null
  | bool (b : Bool)
  | integer (n : Int)
  | float (x : Float)
  | numeral (t : Text)
  | text (t : Text)
  | bytes (raw : List UInt8)
  | list (items : List Value)
  | bound (inner : Value)
  | object (t : Text)

namespace Value

def maxInteger : Nat := Decimal.signedBound - 1

def ofNat (n : Nat) : Value := if n ≤ maxInteger then .integer n else .numeral (Decimal.natural n)

def isNull : Value → Bool
  | .null => true
  | _ => false

/-- A float with the fewest digits that read back, of two equally near the upper ones, and never
with an exponent. Whole numbers have no point and zero keeps its sign. -/
def floatText (x : Float) : Text :=
  let sign := if Decimal.isNegative x then ['-'] else []
  if x.isNaN then "NaN".toList
  else if x.isInf then sign ++ "inf".toList
  else if x == 0 then sign ++ ['0']
  else sign ++ (Decimal.shortest .up x).positional

mutual

def plain : Value → Text
  | .null => []
  | .bool b => if b then ['1'] else []
  | .integer n => Decimal.integer n
  | .float x => floatText x
  | .numeral t => t
  | .text t => t
  | .bytes raw => Text.decodeLossy raw
  | .list items => Text.join [',', ' '] (plains items)
  | .bound inner => inner.plain
  | .object t => t

def plains : List Value → List Text
  | [] => []
  | item :: items => item.plain :: plains items

end

mutual

/-- Equality of values; floats compare as numbers, so that one that is no number equals nothing. -/
def same : Value → Value → Bool
  | .null, .null => true
  | .bool a, .bool b => a == b
  | .integer a, .integer b => a == b
  | .float a, .float b => a == b
  | .numeral a, .numeral b => a == b
  | .text a, .text b => a == b
  | .bytes a, .bytes b => a == b
  | .list a, .list b => sameItems a b
  | .bound a, .bound b => same a b
  | .object a, .object b => a == b
  | _, _ => false

def sameItems : List Value → List Value → Bool
  | [], [] => true
  | a :: as, b :: bs => same a b && sameItems as bs
  | _, _ => false

end

instance : BEq Value := ⟨same⟩

end Value

end StatementView
