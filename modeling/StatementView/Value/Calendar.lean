import StatementView.Value.Basic
import StatementView.Text.Hex

namespace StatementView.Value

structure Date where
  year : Int
  month : Nat
  day : Nat

structure Time where
  hour : Nat
  minute : Nat
  second : Nat
  nanosecond : Nat

def yearText (year : Int) : Text :=
  let sign := if year < 0 then ['-'] else if year > 9999 then ['+'] else []
  sign ++ Decimal.padded 4 year.natAbs

def Date.text (d : Date) : Text :=
  yearText d.year ++ '-' :: Decimal.padded 2 d.month ++ '-' :: Decimal.padded 2 d.day

def fractionText (nanosecond : Nat) : Text :=
  if nanosecond = 0 then []
  else if nanosecond % 1000000 = 0 then '.' :: Decimal.padded 3 (nanosecond / 1000000)
  else if nanosecond % 1000 = 0 then '.' :: Decimal.padded 6 (nanosecond / 1000)
  else '.' :: Decimal.padded 9 nanosecond

def Time.text (t : Time) : Text :=
  -- in a leap second the nanoseconds run on beyond a full second
  let leap := if t.nanosecond ≥ 1000000000 then 1 else 0
  Decimal.padded 2 t.hour ++ ':' :: Decimal.padded 2 t.minute ++
    ':' :: Decimal.padded 2 (t.second + leap) ++
    fractionText (t.nanosecond - leap * 1000000000)

def offsetText (seconds : Int) : Text :=
  let minutes := (seconds.natAbs + 30) / 60
  (if seconds < 0 then '-' else '+') ::
    Decimal.padded 2 (minutes / 60) ++ ':' :: Decimal.padded 2 (minutes % 60)

def ofDate (d : Date) : Value := .text d.text

def ofTime (t : Time) : Value := .text t.text

def ofDateTime (d : Date) (t : Time) : Value := .text (d.text ++ ' ' :: t.text)

def ofZonedDateTime (d : Date) (t : Time) (offset : Int) : Value :=
  .text (d.text ++ ' ' :: t.text ++ offsetText offset)

def ofDecimal (mantissa : Int) (scale : Nat) : Value :=
  let digits := Decimal.padded (scale + 1) mantissa.natAbs
  let sign := if mantissa < 0 then ['-'] else []
  if scale = 0 then .numeral (sign ++ digits)
  else .numeral (sign ++ digits.take (digits.length - scale) ++
    '.' :: digits.drop (digits.length - scale))

def ofUuid (raw : List UInt8) : Value :=
  let digits := Text.lowerHex raw
  .text (Text.join ['-'] [digits.take 8, (digits.drop 8).take 4, (digits.drop 12).take 4,
    (digits.drop 16).take 4, digits.drop 20])

end StatementView.Value
