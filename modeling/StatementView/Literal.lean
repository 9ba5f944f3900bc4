import StatementView.Text.Hex

namespace StatementView.Literal

def escapeChar (c : Char) : Text :=
  if c = '\'' ∨ c = '"' ∨ c = '\\' then ['\\', c]
  else if c = '\x00' then ['\\', '0']
  else [c]

def escape (t : Text) : Text := t.flatMap escapeChar

/-- The text that an escaped text stands for. A backslash at the very end stands for itself. -/
def unescape : Text → Text
  | '\\' :: c :: t => (if c = '0' then '\x00' else c) :: unescape t
  | c :: t => c :: unescape t
  | [] => []

def quoted (t : Text) : Text := '\'' :: escape t ++ ['\'']

def hex (bytes : List UInt8) : Text := '0' :: 'x' :: Text.upperHex bytes

theorem unescape_escapeChar_append (c : Char) (t : Text) :
    unescape (escapeChar c ++ t) = c :: unescape t := by
  unfold escapeChar
  split
  · next h => rcases h with rfl | rfl | rfl <;> rfl
  · next h =>
    obtain ⟨-, -, hb⟩ : c ≠ '\'' ∧ c ≠ '"' ∧ c ≠ '\\' := by simpa using h
    split
    · next h0 => subst h0; rfl
    · simp only [List.singleton_append]
      rw [unescape]
      rintro d r ⟨rfl⟩
      exact absurd rfl hb

theorem unescape_escape (t : Text) : unescape (escape t) = t := by
  induction t with
  | nil => rfl
  | cons c t ih =>
    rw [escape, List.flatMap_cons, unescape_escapeChar_append]
    exact congrArg (c :: ·) ih

end StatementView.Literal
