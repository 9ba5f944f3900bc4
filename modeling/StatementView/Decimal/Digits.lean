import StatementView.Text.Basic

namespace StatementView.Decimal

/-- Words of 64 bits are below this number, `2 ^ 64`. -/
def wordBound : Nat := 0x10000000000000000

def signedBound : Nat := 0x8000000000000000

def natural (n : Nat) : Text := Nat.toDigits 10 n

def integer : Int → Text
  | .ofNat n => natural n
  | .negSucc n => '-' :: natural (n + 1)

def natural? (t : Text) : Option Nat :=
  if t ≠ [] ∧ t.all Char.isDigit then some (Nat.ofDigitChars 10 t 0) else none

def takeWord? : Nat → Text → Option Nat
  | n, [] => some n
  | n, c :: t =>
    let next := 10 * n + (c.toNat - 48)
    if c.isDigit ∧ next < wordBound then takeWord? next t else none

/-- The word that a text writes with at least one digit, behind a plus sign if there is one. -/
def word? : Text → Option Nat
  | [] => none
  | '+' :: t => if t = [] then none else takeWord? 0 t
  | t => takeWord? 0 t

def integer? : Text → Option Int
  | '-' :: t => (natural? t).map fun n ↦ -(n : Int)
  | t => (natural? t).map fun n ↦ (n : Int)

def padded (width n : Nat) : Text :=
  List.replicate (width - (natural n).length) '0' ++ natural n

end StatementView.Decimal
