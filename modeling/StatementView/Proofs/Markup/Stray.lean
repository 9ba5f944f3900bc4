import Mathlib.Data.List.Basic
import Mathlib.Algebra.Ring.Parity
import StatementView.Proofs.Markup.Fragments
import StatementView.Proofs.Markup.Quotation

namespace StatementView.Markup

/-- The scan of the first text comes to the second one, outside of every token. -/
inductive Reaches : Text → Text → Prop
  | refl (t : Text) : Reaches t t
  | token {c : Char} {t s : Text} {kind : Kind} {n : Nat} :
      lexeme? c t = some (kind, n) → Reaches (t.drop n) s → Reaches (c :: t) s
  | stray {c : Char} {t s : Text} : lexeme? c t = none → Reaches t s → Reaches (c :: t) s

def EndsIn (n : Nat) (t : Text) : Prop :=
  ∃ front : Text, front.getLast? ≠ some '\\' ∧ t = front ++ List.replicate n '\\'

variable {c : Char} {t u : Text}

namespace Reaches

theorem trans {s : Text} (h : Reaches t u) (h' : Reaches u s) : Reaches t s := by
  induction h with
  | refl => exact h'
  | token hl _ ih => exact .token hl (ih h')
  | stray hl _ ih => exact .stray hl (ih h')

theorem suffix (h : Reaches t u) : u <:+ t := by
  induction h with
  | refl t => exact List.suffix_refl t
  | token _ _ ih => exact (ih.trans (List.drop_suffix _ _)).trans (List.suffix_cons _ _)
  | stray _ _ ih => exact ih.trans (List.suffix_cons _ _)

end Reaches

theorem kind_ne_stray {kind : Kind} {n : Nat} (h : lexeme? c t = some (kind, n)) :
    kind ≠ .stray := by
  rintro rfl
  cases length?_of_lexeme? h

theorem mem_stray_addStray {d : Char} {ts : List Token} :
    (∃ token ∈ addStray c ts, token.kind = .stray ∧ d ∈ token.text) ↔
      d = c ∨ ∃ token ∈ ts, token.kind = .stray ∧ d ∈ token.text := by
  unfold addStray
  split
  · rw [List.exists_mem_cons_iff, List.exists_mem_cons_iff]
    simp only [true_and, List.mem_cons, or_assoc]
  · rw [List.exists_mem_cons_iff]
    simp only [true_and, List.mem_singleton]

theorem mem_stray_iff :
    (∃ token ∈ tokens t, token.kind = .stray ∧ c ∈ token.text) ↔
      ∃ u, Reaches t (c :: u) ∧ lexeme? c u = none := by
  induction t using tokens.induct with
  | case1 =>
    rw [tokens]
    constructor
    · rintro ⟨token, ht, -⟩
      cases ht
    · rintro ⟨u, hu, -⟩
      cases hu
  | case2 d t kind n h ih =>
    rw [tokens_cons h]
    simp only [List.exists_mem_cons_iff, kind_ne_stray h, false_and, false_or, ih]
    constructor
    · rintro ⟨u, hu, hnone⟩
      exact ⟨u, .token h hu, hnone⟩
    · rintro ⟨u, hu, hnone⟩
      cases hu with
      | refl => cases h.symm.trans hnone
      | token h' hu =>
        obtain ⟨rfl, rfl⟩ := Prod.mk.inj (Option.some.inj (h.symm.trans h'))
        exact ⟨u, hu, hnone⟩
      | stray h' => cases h.symm.trans h'
  | case3 d t h ih =>
    rw [tokens, h]
    dsimp only
    rw [mem_stray_addStray, ih]
    constructor
    · rintro (rfl | ⟨u, hu, hnone⟩)
      · exact ⟨t, .refl _, h⟩
      · exact ⟨u, .stray h hu, hnone⟩
    · rintro ⟨u, hu, hnone⟩
      cases hu with
      | refl => exact .inl rfl
      | token h' => cases h.symm.trans h'
      | stray _ hu => exact .inr ⟨u, hu, hnone⟩

theorem exists_reaches_of_dangles (hc : IsMark c) (h : Dangles c u) :
    ∃ v, Reaches (c :: u) (c :: v) ∧ lexeme? c v = none := by
  obtain ⟨body, hbody, rfl⟩ := h
  induction hn : body.length using Nat.strongRecOn generalizing body with
  | ind n ih =>
    rcases quoteLength?_of_dangles hc.ne_backslash hbody with
      hnone | ⟨front, back, rfl, hback, hsome⟩
    · refine ⟨_, .refl _, ?_⟩
      rw [lexeme?_mark hc, hnone]
      rfl
    · -- the token ends within the last doubled mark, and the rest of it opens a shorter literal
      have hlexeme : lexeme? c (front ++ c :: c :: back ++ ['\\']) =
          some (.quote, front.length + 1) := by
        rw [lexeme?_mark hc, hsome]
        rfl
      have hdrop : (front ++ c :: c :: back ++ ['\\']).drop (front.length + 1) =
          c :: (back ++ ['\\']) := by
        rw [List.append_assoc, List.drop_append]
        simp
      have hlt : back.length < n := by
        rw [← hn, List.length_append, List.length_cons, List.length_cons]
        omega
      obtain ⟨v, hv, hnone⟩ := ih back.length hlt back hback rfl
      exact ⟨v, .token hlexeme (hdrop ▸ hv), hnone⟩

theorem EndsIn.append {n : Nat} (h : EndsIn n t) (front : Text)
    (hf : front.getLast? ≠ some '\\') : EndsIn n (front ++ t) := by
  obtain ⟨front', hf', rfl⟩ := h
  refine ⟨front ++ front', ?_, (List.append_assoc _ _ _).symm⟩
  rw [List.getLast?_append]
  cases hl : front'.getLast? with
  | none => exact hf
  | some d =>
    rw [hl] at hf'
    exact hf'

theorem EndsIn.concat {n : Nat} (h : EndsIn n t) : EndsIn (n + 1) (t ++ ['\\']) := by
  obtain ⟨front, hf, rfl⟩ := h
  exact ⟨front, hf, by rw [List.append_assoc, List.replicate_succ']⟩

/-- Inside a literal backslashes come in pairs, also at its end. -/
theorem exists_even_endsIn {mark : Char} (hb : mark ≠ '\\') (h : Inside mark t) :
    ∃ n, Even n ∧ EndsIn n t := by
  induction h with
  | nil => exact ⟨0, ⟨0, rfl⟩, [], by decide, rfl⟩
  | @plain c _ hc _ _ ih =>
    obtain ⟨n, hn, ht⟩ := ih
    exact ⟨n, hn, ht.append [c] (by simpa using hc)⟩
  | @escaped c t _ ih =>
    obtain ⟨n, hn, ht⟩ := ih
    by_cases hc : c = '\\'
    · obtain ⟨front, hf, rfl⟩ := ht
      subst hc
      by_cases hfront : front = []
      · exact ⟨n + 2, hn.add ⟨1, rfl⟩, [], hf ∘ (hfront ▸ ·), by rw [hfront]; rfl⟩
      · refine ⟨n, hn, '\\' :: '\\' :: front, ?_, rfl⟩
        rwa [List.getLast?_cons_of_ne_nil (List.cons_ne_nil _ _),
          List.getLast?_cons_of_ne_nil hfront]
    · exact ⟨n, hn, ht.append ['\\', c] (by simpa using hc)⟩
  | doubled _ ih =>
    obtain ⟨n, hn, ht⟩ := ih
    exact ⟨n, hn, ht.append [mark, mark] (by simpa using hb)⟩

theorem exists_odd_of_dangles (h : Reaches t (c :: u)) (hc : IsMark c) (hd : Dangles c u) :
    ∃ n, Odd n ∧ EndsIn n t := by
  obtain ⟨front, rfl⟩ := h.suffix
  obtain ⟨body, hbody, rfl⟩ := hd
  obtain ⟨n, hn, hend⟩ := exists_even_endsIn hc.ne_backslash hbody
  refine ⟨n + 1, hn.add_one, ?_⟩
  rw [List.append_cons]
  exact hend.concat.append (front ++ [c]) (by simpa using hc.ne_backslash)

/-- A quote is among the stray characters of a statement exactly if the scan comes to a quote whose
literal is left open behind a single backslash, for which the statement has to end in an odd number
of backslashes. At every other quote that the scan comes to, a quote token begins and runs to the end
of its literal. -/
theorem stray_quote_iff_dangles (t : Text) :
    ((∃ token ∈ tokens t, token.kind = .stray ∧ ∃ c ∈ token.text, IsMark c) ↔
        ∃ c u, Reaches t (c :: u) ∧ IsMark c ∧ Dangles c u) ∧
      (∀ c u, Reaches t (c :: u) → IsMark c → Dangles c u → ∃ n, Odd n ∧ EndsIn n t) ∧
      ∀ c u, Reaches t (c :: u) → IsMark c → Dangles c u ∨
        ∃ n, Closes c u n ∧ tokens (c :: u) = ⟨.quote, c :: u.take n⟩ :: tokens (u.drop n) := by
  refine ⟨⟨?_, ?_⟩, fun c u ↦ exists_odd_of_dangles, ?_⟩
  · rintro ⟨token, ht, hk, c, hc, hm⟩
    obtain ⟨u, hu, hnone⟩ := mem_stray_iff.mp ⟨token, ht, hk, hc⟩
    refine ⟨c, u, hu, hm, ?_⟩
    rcases closes_or_dangles c u with ⟨n, hn⟩ | hd
    · rw [lexeme?_mark hm, quoteLength?_of_closes hm.ne_backslash hn] at hnone
      cases hnone
    · exact hd
  · rintro ⟨c, u, hu, hm, hd⟩
    obtain ⟨v, hv, hnone⟩ := exists_reaches_of_dangles hm hd
    obtain ⟨token, ht, hk, hc⟩ := mem_stray_iff.mpr ⟨v, hu.trans hv, hnone⟩
    exact ⟨token, ht, hk, c, hc, hm⟩
  · intro c u _ hm
    rcases closes_or_dangles c u with ⟨n, hn⟩ | hd
    · refine .inr ⟨n, hn, tokens_cons ?_⟩
      rw [lexeme?_mark hm, quoteLength?_of_closes hm.ne_backslash hn]
      rfl
    · exact .inl hd

theorem stray_quote_backslash :
    tokens ['\'', '\\'] = [⟨.stray, ['\'', '\\']⟩] ∧
      tokenHtml .default ['\'', '\\'] = "<span class=\"error\">'\\</span>".toList ∧
      tokens ['\'', '\'', '\'', '\\'] = [⟨.quote, ['\'', '\'']⟩, ⟨.stray, ['\'', '\\']⟩] := by
  have hopen : lexeme? '\'' ['\\'] = none := by
    rw [lexeme?_mark (.inl rfl)]
    rfl
  have hback : lexeme? '\'' ['\'', '\'', '\\'] = some (.quote, 1) := by
    rw [lexeme?_mark (.inl rfl)]
    rfl
  have hend : lexeme? '\\' [] = none := by decide
  have hstray : tokens ['\'', '\\'] = [⟨.stray, ['\'', '\\']⟩] := by
    rw [tokens, hopen, tokens, hend, tokens]
    rfl
  refine ⟨hstray, ?_, ?_⟩
  · rw [tokenHtml, hstray]
    rfl
  · rw [tokens_cons hback]
    exact congrArg (_ :: ·) hstray

end StatementView.Markup
