import StatementView.Value.Literal
import StatementView.Proofs.Text.Utf8
import StatementView.Proofs.Literal
import StatementView.Proofs.Markup.Quotation

namespace StatementView

inductive Value.QuotesText : Value → Text → Prop
  | text (t : Text) : QuotesText (.text t) t
  | bytes (t : Text) : QuotesText (.bytes (Text.encode t)) t
  | bound (inner : Value) : QuotesText (.bound inner) inner.plain

theorem Value.QuotesText.literal_eq {v : Value} {t : Text} (h : v.QuotesText t) :
    v.literal = Literal.quoted t := by
  cases h with
  | text => rfl
  | bytes => rw [literal, bytesLiteral, Text.decode?_encode]
  | bound => rfl

namespace Markup

variable {t r : Text}

theorem inside_escape (t : Text) : Inside '\'' (Literal.escape t) := by
  induction t with
  | nil => exact .nil
  | cons c t ih =>
    rw [Literal.escape_cons]
    rcases Literal.escapeChar_cases c with ⟨hc, hb, hq⟩ | ⟨-, d, hd, -⟩
    · rw [hc]
      exact .plain hb hq ih
    · rw [hd]
      exact .escaped d ih

theorem tokens_quoted (t : Text) (hr : r.head? ≠ some '\'') :
    tokens (Literal.quoted t ++ r) = ⟨.quote, Literal.quoted t⟩ :: tokens r := by
  have hend := quoteLength?_of_closes (by decide) (.closed (inside_escape t) hr)
  have h : lexeme? '\'' (Literal.escape t ++ ['\''] ++ r) =
      some (.quote, (Literal.escape t ++ ['\'']).length) := by
    rw [lexeme?_mark (.inl rfl), List.append_assoc, List.singleton_append, hend,
      List.length_append]
    rfl
  change tokens ('\'' :: (Literal.escape t ++ ['\''] ++ r)) = _
  rw [tokens_cons h, List.take_left, List.drop_left]
  rfl

/-- The literal of a text, of the bytes of a text or of a bound value is one quote token, whatever
follows it but a quote, and what stands between its quotes reads back as the text. -/
theorem tokens_literal_append {v : Value} (h : v.QuotesText t) (hr : r.head? ≠ some '\'') :
    tokens (v.literal ++ r) = ⟨.quote, v.literal⟩ :: tokens r ∧
      ∃ body, v.literal = '\'' :: body ++ ['\''] ∧ Literal.unescape body = t := by
  rw [h.literal_eq]
  exact ⟨tokens_quoted t hr, Literal.escape t, rfl, Literal.unescape_escape t⟩

theorem tokens_literal_bound_list :
    let v : Value := .bound (.list [.text "it's".toList, .null, .object "-- \\".toList])
    v.QuotesText "it's, , -- \\".toList ∧ " OR 1".toList.head? ≠ some '\'' ∧
      tokens (v.literal ++ " OR 1".toList) = ⟨.quote, v.literal⟩ :: tokens " OR 1".toList ∧
      ∃ body, v.literal = '\'' :: body ++ ['\''] ∧
        Literal.unescape body = "it's, , -- \\".toList := by
  refine ⟨.bound _, by decide, ?_⟩
  exact tokens_literal_append (.bound _) (by decide)

end Markup

end StatementView
