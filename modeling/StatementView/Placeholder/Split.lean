import StatementView.Text.Basic

namespace StatementView.Placeholder

def isNameChar (c : Char) : Bool := c.isAlphanum || c = '_'

def token? : Text → Option (Text × Text)
  | '?' :: t => some (['?'], t)
  | ':' :: t =>
    let colons := t.takeWhile (· = ':')
    let after := t.dropWhile (· = ':')
    let name := after.takeWhile isNameChar
    if name.isEmpty then none else some (':' :: colons ++ name, after.dropWhile isNameChar)
  | _ => none

theorem length_dropWhile_le (p : Char → Bool) (t : Text) : (t.dropWhile p).length ≤ t.length := by
  have h := congrArg List.length (List.takeWhile_append_dropWhile (p := p) (l := t))
  simp only [List.length_append] at h
  omega

theorem length_lt_of_token? {t token rest : Text} (h : token? t = some (token, rest)) :
    rest.length < t.length := by
  unfold token? at h
  split at h
  · next u =>
    obtain ⟨-, rfl⟩ := Prod.mk.inj (Option.some.inj h)
    simp
  · next u =>
    dsimp only at h
    split at h
    · exact absurd h (by simp)
    · obtain ⟨-, rfl⟩ := Prod.mk.inj (Option.some.inj h)
      have h₁ := length_dropWhile_le isNameChar (u.dropWhile (· = ':'))
      have h₂ := length_dropWhile_le (· = ':') u
      simp only [List.length_cons]
      omega
  · exact absurd h (by simp)

/-- A statement cut at its placeholders: each with the text before it, and the text behind the last.
-/
structure Split where
  pieces : List (Text × Text)
  rest : Text

namespace Split

def cons (c : Char) : Split → Split
  | ⟨[], rest⟩ => ⟨[], c :: rest⟩
  | ⟨(before, token) :: pieces, rest⟩ => ⟨(c :: before, token) :: pieces, rest⟩

/-- A statement cut at every placeholder, the longest at each place and the first one first. -/
def ofText (t : Text) : Split :=
  match _h : token? t with
  | some (token, after) => let s := ofText after; ⟨([], token) :: s.pieces, s.rest⟩
  | none =>
    match t with
    | [] => ⟨[], []⟩
    | c :: t => (ofText t).cons c
termination_by t.length
decreasing_by
  · exact length_lt_of_token? _h
  · simp

def tokens (s : Split) : List Text := s.pieces.map Prod.snd

def text (s : Split) : Text := s.pieces.flatMap (fun p ↦ p.1 ++ p.2) ++ s.rest

end Split

end StatementView.Placeholder
