import StatementView.Markup.Token

namespace StatementView.Markup

def IsMark (c : Char) : Prop := c = '\'' ∨ c = '"'

/-- What may stand inside a literal: characters for themselves, a backslash with the character behind
it, and doubled marks. -/
inductive Inside (mark : Char) : Text → Prop
  | nil : Inside mark []
  | plain {c : Char} {t : Text} : c ≠ '\\' → c ≠ mark → Inside mark t → Inside mark (c :: t)
  | escaped (c : Char) {t : Text} : Inside mark t → Inside mark ('\\' :: c :: t)
  | doubled {t : Text} : Inside mark t → Inside mark (mark :: mark :: t)

/-- The literal that a mark in front of the text opens has `n` characters of the text: those up to a
mark that is not doubled, or all of them where there is none. -/
inductive Closes (mark : Char) : Text → Nat → Prop
  | closed {body rest : Text} : Inside mark body → rest.head? ≠ some mark →
      Closes mark (body ++ mark :: rest) (body.length + 1)
  | unclosed {t : Text} : Inside mark t → Closes mark t t.length

/-- The literal is not closed, and its last backslash has no character behind it. -/
def Dangles (mark : Char) (t : Text) : Prop := ∃ body, Inside mark body ∧ t = body ++ ['\\']

variable {mark c : Char} {body t r : Text}

theorem IsMark.ne_backslash (h : IsMark mark) : mark ≠ '\\' := by
  rcases h with rfl | rfl
  · decide
  · decide

theorem quoteLength?_escaped (mark d : Char) (t : Text) :
    quoteLength? mark ('\\' :: d :: t) = (quoteLength? mark t).map (· + 2) := by
  rw [quoteLength?, if_pos rfl]

theorem quoteLength?_plain (hb : c ≠ '\\') (hm : c ≠ mark) (t : Text) :
    quoteLength? mark (c :: t) = (quoteLength? mark t).map (· + 1) := by
  cases t with
  | nil =>
    have hone : quoteLength? mark [c] = some 1 := by rw [quoteLength?, if_neg hb]
    exact hone
  | cons d t => rw [quoteLength?, if_neg hb, if_neg hm]

theorem quoteLength?_mark (hb : mark ≠ '\\') (hr : r.head? ≠ some mark) :
    quoteLength? mark (mark :: r) = some 1 := by
  cases r with
  | nil => rw [quoteLength?, if_neg hb]
  | cons d r =>
    have hd : d ≠ mark := by simpa using hr
    rw [quoteLength?, if_neg hb, if_pos rfl, if_neg hd]

theorem quoteLength?_doubled (hb : mark ≠ '\\') (t : Text) :
    quoteLength? mark (mark :: mark :: t) = some ((quoteLength? mark t).elim 1 (· + 2)) := by
  rw [quoteLength?, if_neg hb, if_pos rfl, if_pos rfl]
  cases quoteLength? mark t <;> rfl

theorem quoteLength?_append (hb : mark ≠ '\\') (h : Inside mark body) {n : Nat}
    (hr : quoteLength? mark r = some n) :
    quoteLength? mark (body ++ r) = some (body.length + n) := by
  induction h with
  | nil => rw [List.nil_append, hr, List.length_nil, Nat.zero_add]
  | plain hc hm _ ih =>
    rw [List.cons_append, quoteLength?_plain hc hm, ih, Option.map_some, List.length_cons,
      Nat.add_right_comm]
  | escaped c _ ih =>
    rw [List.cons_append, List.cons_append, quoteLength?_escaped, ih, Option.map_some,
      List.length_cons, List.length_cons, Nat.add_right_comm _ n]
  | doubled _ ih =>
    rw [List.cons_append, List.cons_append, quoteLength?_doubled hb, ih, Option.elim_some,
      List.length_cons, List.length_cons, Nat.add_right_comm _ n]

theorem quoteLength?_of_closes (hb : mark ≠ '\\') {n : Nat} (h : Closes mark t n) :
    quoteLength? mark t = some n := by
  cases h with
  | closed hbody hrest => exact quoteLength?_append hb hbody (quoteLength?_mark hb hrest)
  | unclosed ht =>
    have happ := quoteLength?_append hb ht (r := []) (by rw [quoteLength?])
    rwa [List.append_nil, Nat.add_zero] at happ

/-- Without an end the scan goes back to the last doubled mark, whose second half then stands before
the same end again. -/
theorem quoteLength?_of_dangles (hb : mark ≠ '\\') (h : Inside mark body) :
    quoteLength? mark (body ++ ['\\']) = none ∨
      ∃ front back, body = front ++ mark :: mark :: back ∧ Inside mark back ∧
        quoteLength? mark (body ++ ['\\']) = some (front.length + 1) := by
  induction h with
  | nil => exact .inl rfl
  | plain hc hm _ ih =>
    rw [List.cons_append, quoteLength?_plain hc hm]
    rcases ih with hnone | ⟨front, back, rfl, hback, hsome⟩
    · rw [hnone]
      exact .inl rfl
    · rw [hsome]
      exact .inr ⟨_ :: front, back, rfl, hback, rfl⟩
  | escaped c _ ih =>
    rw [List.cons_append, List.cons_append, quoteLength?_escaped]
    rcases ih with hnone | ⟨front, back, rfl, hback, hsome⟩
    · rw [hnone]
      exact .inl rfl
    · rw [hsome]
      exact .inr ⟨'\\' :: c :: front, back, rfl, hback, rfl⟩
  | @doubled t ht ih =>
    rw [List.cons_append, List.cons_append, quoteLength?_doubled hb]
    rcases ih with hnone | ⟨front, back, rfl, hback, hsome⟩
    · rw [hnone]
      exact .inr ⟨[], t, rfl, ht, rfl⟩
    · rw [hsome]
      exact .inr ⟨mark :: mark :: front, back, rfl, hback, rfl⟩

/-- Every text is passed up to its end, to a mark that is not doubled or to a last backslash. -/
theorem exists_inside (mark : Char) (t : Text) :
    ∃ body rest, Inside mark body ∧ t = body ++ rest ∧
      (rest = [] ∨ rest = ['\\'] ∨ ∃ r, rest = mark :: r ∧ r.head? ≠ some mark) := by
  induction t using quoteLength?.induct mark with
  | case1 => exact ⟨[], [], .nil, rfl, .inl rfl⟩
  | case2 => exact ⟨[], ['\\'], .nil, rfl, .inr (.inl rfl)⟩
  | case3 c hc =>
    by_cases hm : c = mark
    · exact ⟨[], [c], .nil, rfl, .inr (.inr ⟨[], by rw [hm], by simp⟩)⟩
    · exact ⟨[c], [], .plain hc hm .nil, rfl, .inl rfl⟩
  | case4 c t ih =>
    obtain ⟨body, rest, hbody, rfl, hrest⟩ := ih
    exact ⟨'\\' :: c :: body, rest, .escaped c hbody, rfl, hrest⟩
  | case5 t n _ hb ih =>
    obtain ⟨body, rest, hbody, rfl, hrest⟩ := ih
    exact ⟨mark :: mark :: body, rest, .doubled hbody, rfl, hrest⟩
  | case6 t _ hb ih =>
    obtain ⟨body, rest, hbody, rfl, hrest⟩ := ih
    exact ⟨mark :: mark :: body, rest, .doubled hbody, rfl, hrest⟩
  | case7 d t hd hb =>
    exact ⟨[], mark :: d :: t, .nil, rfl, .inr (.inr ⟨d :: t, rfl, by simpa using hd⟩)⟩
  | case8 c d t hc hm ih =>
    obtain ⟨body, rest, hbody, heq, hrest⟩ := ih
    exact ⟨c :: body, rest, .plain hc hm hbody, by rw [heq]; rfl, hrest⟩

theorem closes_or_dangles (mark : Char) (t : Text) : (∃ n, Closes mark t n) ∨ Dangles mark t := by
  obtain ⟨body, rest, hbody, rfl, hrest⟩ := exists_inside mark t
  rcases hrest with rfl | rfl | ⟨r, rfl, hr⟩
  · rw [List.append_nil]
    exact .inl ⟨body.length, .unclosed hbody⟩
  · exact .inr ⟨body, hbody, rfl⟩
  · exact .inl ⟨body.length + 1, .closed hbody hr⟩

theorem tokens_cons {kind : Kind} {n : Nat} (h : lexeme? c t = some (kind, n)) :
    tokens (c :: t) = ⟨kind, c :: t.take n⟩ :: tokens (t.drop n) := by
  rw [tokens, h]

theorem length?_of_isMark (hc : IsMark c) {kind : Kind} (hk : kind ≠ .quote) (t : Text) :
    kind.length? c t = none := by
  have hdigit : Text.isDecimalDigit c = false := by rcases hc with rfl | rfl <;> decide
  have hname : isNameStart c = false := by rcases hc with rfl | rfl <;> decide
  have hmarks : c ∉ marks := by rcases hc with rfl | rfl <;> decide
  have hblank : Text.isBlank c = false := by rcases hc with rfl | rfl <;> decide
  cases kind with
  | comment => rcases hc with rfl | rfl <;> rfl
  | quote => exact absurd rfl hk
  | backtickQuote => rcases hc with rfl | rfl <;> rfl
  | parameter => rcases hc with rfl | rfl <;> rfl
  | number =>
    have hpoint : c ≠ '.' := by rcases hc with rfl | rfl <;> decide
    simp [Kind.length?, number?, numberLengths, hdigit, hpoint]
  | word => simp [Kind.length?, word?, hname]
  | boundary =>
    have hcolon : c ≠ ':' := by rcases hc with rfl | rfl <;> decide
    simp [Kind.length?, boundary?, hmarks, hcolon]
  | space => simp [Kind.length?, space?, hblank]
  | stray => rfl

theorem lexeme?_mark (hc : IsMark c) (t : Text) :
    lexeme? c t = (quoteLength? c t).map (Kind.quote, ·) := by
  have hquote : Kind.quote.length? c t = quoteLength? c t := if_pos hc
  have hother {kind : Kind} (hk : kind ≠ .quote) : (kind.length? c t).map (kind, ·) = none := by
    rw [length?_of_isMark hc hk]
    rfl
  cases h : quoteLength? c t with
  | none =>
    rw [lexeme?, Option.map_none, List.findSome?_eq_none_iff]
    intro kind _
    by_cases hk : kind = .quote
    · rw [hk, hquote, h]
      rfl
    · exact hother hk
  | some n =>
    rw [lexeme?, Kind.order, List.findSome?_cons, hother (by decide)]
    dsimp only
    rw [List.findSome?_cons, hquote, h]
    rfl

end StatementView.Markup
