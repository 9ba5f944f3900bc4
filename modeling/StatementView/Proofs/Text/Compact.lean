import StatementView.Proofs.Text.Runs

namespace StatementView.Text

def compact (t : Text) : Text := t.filter fun c ↦ !isBlank c

theorem compact_append (t u : Text) : compact (t ++ u) = compact t ++ compact u :=
  List.filter_append t u

theorem compact_cons_blank {c : Char} (h : isBlank c = true) (t : Text) :
    compact (c :: t) = compact t := by
  simp [compact, h]

theorem compact_eq_nil {t : Text} (h : ∀ c ∈ t, isBlank c = true) : compact t = [] := by
  apply List.filter_eq_nil_iff.mpr
  intro c hc
  simp [h c hc]

theorem compact_trim (t : Text) : compact (trim t) = compact t := by
  obtain ⟨front, back, hf, hb, ht⟩ := exists_trim t
  have h := congrArg compact ht
  rw [compact_append, compact_append, compact_eq_nil hf, compact_eq_nil hb, List.nil_append,
    List.append_nil] at h
  exact h.symm

theorem compact_join {separator : Text} (h : ∀ c ∈ separator, isBlank c = true)
    (ts : List Text) : compact (join separator ts) = ts.flatMap compact := by
  induction ts with
  | nil => rfl
  | cons t ts ih =>
    cases ts with
    | nil => rw [join, List.flatMap_singleton]
    | cons u ts =>
      rw [join, compact_append, compact_append, compact_eq_nil h, List.append_nil, ih]
      rfl

end StatementView.Text
