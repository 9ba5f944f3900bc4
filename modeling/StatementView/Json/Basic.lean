import StatementView.Json.Written

namespace StatementView

inductive Json where
  | null
  | bool (b : Bool)
  | integer (n : Int)
  | float (x : Float)
  | string (t : Text)
  | array (items : List Json)
  | object (fields : List (Text × Json))

namespace Json

open Decimal (Numeral)

def put (key : Text) (value : Json) : List (Text × Json) → List (Text × Json)
  | [] => [(key, value)]
  | (k, v) :: fields =>
    if key < k then (key, value) :: (k, v) :: fields
    else if key = k then (key, value) :: fields
    else (k, v) :: put key value fields

def ofFields (fields : List (Text × Json)) : Json :=
  .object (fields.foldl (fun sorted (key, value) ↦ put key value sorted) [])

def takeDigits : Nat → Text → Nat × Text
  | n, [] => (n, [])
  | n, c :: t =>
    let next := 10 * n + (c.toNat - 48)
    if next < Decimal.wordBound then takeDigits next t else (n, c :: t)

def shrink (x : Float) (power : Nat) : Float :=
  if power ≤ 308 then x / Float.ofScientific 1 false power
  else if x == 0 then x
  else shrink (x / Float.ofScientific 1 false 308) (power - 308)
termination_by power
decreasing_by omega

def scaled? (n : Nat) (power : Int) : Option Float :=
  let x := Float.ofScientific n false 0
  if power < 0 then some (shrink x power.natAbs)
  else if power ≤ 308 then
    let y := x * Float.ofScientific 1 false power.toNat
    if y.isInf then none else some y
  else if n = 0 then some x
  else none

/-- The number that a numeral stands for. Of a long numeral the leading digits that fit 64 bits are
kept; the whole digits beyond them count as a power of ten and the fraction beyond them is dropped.
-/
def ofNumeral? (n : Numeral) : Option Json :=
  let (whole, excess) := takeDigits 0 n.whole
  let (significand, dropped) := takeDigits whole n.fraction
  let signed (x : Float) : Json := .float (if n.negative then -x else x)
  if n.fraction.isEmpty ∧ n.exponent.isNone ∧ excess.isEmpty then
    if n.negative then
      if whole = 0 ∨ whole > Decimal.signedBound then
        some (signed (Float.ofScientific whole false 0))
      else some (.integer (-whole))
    else some (.integer whole)
  else
    let power : Int := excess.length - (n.fraction.length - dropped.length) + n.exponent.getD 0
    (scaled? significand power).map signed

mutual

def ofWritten? (room : Nat) : Written → Option Json
  | .null => some .null
  | .bool b => some (.bool b)
  | .number n => ofNumeral? n
  | .string pieces => (text? pieces).map .string
  | .array items => if room = 0 then none else (ofItems? (room - 1) items).map .array
  | .object fields => if room = 0 then none else (ofPairs? (room - 1) fields).map ofFields

def ofItems? (room : Nat) : List Written → Option (List Json)
  | [] => some []
  | item :: items => do
    let first ← ofWritten? room item
    let rest ← ofItems? room items
    pure (first :: rest)

def ofPairs? (room : Nat) : List (List Piece × Written) → Option (List (Text × Json))
  | [] => some []
  | (key, value) :: fields => do
    let k ← text? key
    let v ← ofWritten? room value
    let rest ← ofPairs? room fields
    pure ((k, v) :: rest)

end

/-- The document that a text writes, at most 127 containers deep. -/
def ofText? (t : Text) : Option Json := (Written.ofText? t).bind (ofWritten? 127)

def read : Reader Json := .ofOption ofText?

theorem read_eq_ok {t : Text} {j : Json} (h : ofText? t = some j) : read t = .ok j := by
  rw [read, Reader.ofOption, h]

end Json

end StatementView
