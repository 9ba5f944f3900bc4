import StatementView.Text.Basic

namespace StatementView.Text

/-- The value that a lead byte contributes and the ranges of the bytes that have to follow it. -/
def lead? (b : Nat) : Option (Nat × List (Nat × Nat)) :=
  if b < 0x80 then some (b, [])
  else if b < 0xC2 then none
  else if b < 0xE0 then some (b - 0xC0, [(0x80, 0xBF)])
  else if b = 0xE0 then some (0, [(0xA0, 0xBF), (0x80, 0xBF)])
  else if b = 0xED then some (0xD, [(0x80, 0x9F), (0x80, 0xBF)])
  else if b < 0xF0 then some (b - 0xE0, [(0x80, 0xBF), (0x80, 0xBF)])
  else if b = 0xF0 then some (0, [(0x90, 0xBF), (0x80, 0xBF), (0x80, 0xBF)])
  else if b < 0xF4 then some (b - 0xF0, [(0x80, 0xBF), (0x80, 0xBF), (0x80, 0xBF)])
  else if b = 0xF4 then some (4, [(0x80, 0x8F), (0x80, 0xBF), (0x80, 0xBF)])
  else none

/-- Six bits from each following byte while it lies in its range. The value is complete when no
range is left; the count is that of the bytes read. -/
def follow : Nat → Nat → List (Nat × Nat) → List UInt8 → Option Nat × Nat
  | value, count, [], _ => (some value, count)
  | _, count, _ :: _, [] => (none, count)
  | value, count, (lo, hi) :: ranges, b :: bytes =>
    if lo ≤ b.toNat ∧ b.toNat ≤ hi then
      follow (64 * value + (b.toNat - 0x80)) (count + 1) ranges bytes
    else (none, count)

def front (b : UInt8) (bytes : List UInt8) : Option Char × Nat :=
  match lead? b.toNat with
  | none => (none, 0)
  | some (value, ranges) =>
    let (value?, count) := follow value 0 ranges bytes
    (value?.map Char.ofNat, count)

/-- The characters of a byte string in order, with none for each broken piece. -/
def scan : List UInt8 → List (Option Char)
  | [] => []
  | b :: bytes => (front b bytes).1 :: scan (bytes.drop (front b bytes).2)
termination_by bytes => bytes.length
decreasing_by simp only [List.length_drop, List.length_cons]; omega

def decode? (bytes : List UInt8) : Option Text := (scan bytes).mapM id

def decodeLossy (bytes : List UInt8) : Text := (scan bytes).map (·.getD '\uFFFD')

def encode (t : Text) : List UInt8 := t.flatMap String.utf8EncodeChar

end StatementView.Text
