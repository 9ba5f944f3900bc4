import StatementView.Text.Basic

namespace StatementView.Text

def upperHexDigit (n : Nat) : Char :=
  if n < 10 then Char.ofNat (48 + n) else Char.ofNat (55 + n)

def upperHex (bytes : List UInt8) : Text :=
  bytes.flatMap fun b ↦ [upperHexDigit (b.toNat / 16), upperHexDigit (b.toNat % 16)]

def lowerHex (bytes : List UInt8) : Text := lower (upperHex bytes)

def hexValue? (c : Char) : Option Nat :=
  if '0' ≤ c ∧ c ≤ '9' then some (c.toNat - 48)
  else if 'a' ≤ c ∧ c ≤ 'f' then some (c.toNat - 87)
  else if 'A' ≤ c ∧ c ≤ 'F' then some (c.toNat - 55)
  else none

def ofHex? : Text → Option (List UInt8)
  | [] => some []
  | [_] => none
  | high :: low :: t => do
    let h ← hexValue? high
    let l ← hexValue? low
    let bytes ← ofHex? t
    pure (UInt8.ofNat (16 * h + l) :: bytes)

end StatementView.Text
