import Mathlib.Algebra.Order.BigOperators.Group.List
import Mathlib.Algebra.Group.Action.Defs
import Mathlib.Algebra.Order.Group.Nat
import Mathlib.Algebra.GroupWithZero.Nat
import StatementView.Proofs.Literal
import StatementView.Proofs.Summary.Finding
import StatementView.Proofs.Summary.Shape

namespace StatementView.Summary

open Clause (Pattern)

def backslashes (share : Nat) (c : Capture) : Nat := (kept share c.value).countP Literal.isEscaped

theorem backslashes_le (share : Nat) (c : Capture) : backslashes share c ≤ share :=
  List.countP_le_length.trans (length_kept_le share c.value)

theorem sum_backslashes_le (share : Nat) (captures : List Capture) :
    (captures.map (backslashes share)).sum ≤ captures.length * share := by
  have hsum := List.sum_le_card_nsmul (captures.map (backslashes share)) share
    (List.forall_mem_map.mpr fun c _ ↦ backslashes_le share c)
  rwa [List.length_map, smul_eq_mul] at hsum

theorem backslashes_eq_zero (share : Nat) {c : Capture}
    (h : ∀ d ∈ c.value, Literal.isEscaped d = false) : backslashes share c = 0 := by
  apply List.countP_eq_zero.mpr
  intro d hd
  rw [h d ((kept_isPrefix share c.value).subset hd)]
  exact Bool.false_ne_true

theorem length_part_le (share : Nat) (marker : Text) (c : Capture) :
    (part share marker c).length ≤
      c.keyword.length + (1 + share + marker.length) + backslashes share c := by
  have hkept := length_kept_le share c.value
  have hmark : (if c.value.length > share then marker else []).length ≤ marker.length := by
    split
    · exact le_rfl
    · exact Nat.zero_le _
  have hshorten : (shorten share marker c.value).length ≤
      share + marker.length + backslashes share c := by
    rw [shorten_eq, List.length_append, Literal.length_escape, backslashes]
    omega
  simp only [part]
  split
  · omega
  · rw [List.length_append, List.length_cons]
    omega

theorem length_join (separator : Text) (ts : List Text) :
    (Text.join separator ts).length =
      (ts.map List.length).sum + (ts.length - 1) * separator.length := by
  induction ts with
  | nil => simp [Text.join]
  | cons t ts ih =>
    cases ts with
    | nil => simp [Text.join]
    | cons u ts =>
      rw [Text.join, List.length_append, List.length_append, ih]
      simp only [List.map_cons, List.sum_cons, List.length_cons, Nat.add_sub_cancel, Nat.succ_mul]
      omega

theorem sum_length_part_le (share : Nat) (marker : Text) (captures : List Capture) :
    ((captures.map (part share marker)).map List.length).sum ≤
      (captures.map fun c ↦ c.keyword.length).sum +
        captures.length * (1 + share + marker.length) + (captures.map (backslashes share)).sum := by
  induction captures with
  | nil => exact Nat.zero_le _
  | cons c captures ih =>
    have hc := length_part_le share marker c
    simp only [List.map_cons, List.sum_cons, List.length_cons, Nat.add_mul, Nat.one_mul] at ih ⊢
    omega

theorem length_trim_le (t : Text) : (Text.trim t).length ≤ t.length := by
  obtain ⟨front, back, -, -, ht⟩ := Text.exists_trim t
  have h := congrArg List.length ht
  rw [List.length_append, List.length_append] at h
  omega

theorem length_shrink_le_sum (width : Nat) (marker : Text) (captures : List Capture) :
    (shrink width marker captures).length ≤
      (captures.map fun c ↦ c.keyword.length).sum +
        captures.length * (1 + budget width captures.length + marker.length) +
          (captures.map (backslashes (budget width captures.length))).sum +
            (captures.length - 1) := by
  have htrim := length_trim_le
    (Text.join [' '] (captures.map (part (budget width captures.length) marker)))
  have hsum := sum_length_part_le (budget width captures.length) marker captures
  rw [length_join, List.length_map, List.length_singleton, Nat.mul_one] at htrim
  unfold shrink
  omega

theorem length_shrink_le (width : Nat) (marker : Text) {captures : List Capture}
    (h : captures ≠ []) :
    (shrink width marker captures).length ≤
      (captures.map fun c ↦ c.keyword.length).sum +
        2 * captures.length * budget width captures.length + captures.length * marker.length +
          2 * captures.length - 1 := by
  have hpos := List.length_pos_iff.mpr h
  have hlen := length_shrink_le_sum width marker captures
  have hbackslashes := sum_backslashes_le (budget width captures.length) captures
  rw [Nat.mul_add, Nat.mul_add, Nat.mul_one] at hlen
  rw [Nat.mul_assoc]
  omega

theorem mul_budget_le (width count : Nat) :
    count * budget width count ≤ max (width - overhead * count) count := by
  unfold budget
  split
  · next hcount =>
    rw [hcount, Nat.zero_mul]
    exact Nat.zero_le _
  · rw [← Nat.mul_max_mul_left, Nat.mul_one]
    exact max_le_max (Nat.mul_div_le _ _) le_rfl

theorem length_shrink_le_width {width : Nat} (marker : Text) {captures : List Capture}
    (hw : 6 * captures.length ≤ width) :
    (shrink width marker captures).length ≤
      width + (captures.map fun c ↦ c.keyword.length).sum + captures.length * marker.length +
        (captures.map (backslashes (budget width captures.length))).sum := by
  have hlen := length_shrink_le_sum width marker captures
  have hbudget := mul_budget_le width captures.length
  rw [Nat.mul_add, Nat.mul_add, Nat.mul_one] at hlen
  simp only [overhead] at hbudget
  omega

/-- A line with six characters or more for each value is longer than its width by its keywords, one
marker for each value and one backslash for each character that is escaped in what is shown of the
values, and by nothing else. Where no value has such a character, keywords and markers are all. -/
theorem length_shrink_overrun (width : Nat) (marker : Text) (captures : List Capture)
    (hw : 6 * captures.length ≤ width) :
    (shrink width marker captures).length ≤
        width + (captures.map fun c ↦ c.keyword.length).sum + captures.length * marker.length +
          (captures.map (backslashes (budget width captures.length))).sum ∧
      ((∀ c ∈ captures, ∀ d ∈ c.value, Literal.isEscaped d = false) →
        (shrink width marker captures).length ≤
          width + (captures.map fun c ↦ c.keyword.length).sum +
            captures.length * marker.length) := by
  have hlen := length_shrink_le_width marker hw
  refine ⟨hlen, ?_⟩
  intro hplain
  have hnone : (captures.map (backslashes (budget width captures.length))).sum = 0 := by
    apply List.sum_eq_zero
    intro n hn
    obtain ⟨c, hc, rfl⟩ := List.mem_map.mp hn
    exact backslashes_eq_zero _ (hplain c hc)
  rwa [hnone, Nat.add_zero] at hlen

theorem length_shrink_overrun_two :
    6 * [(⟨"SELECT".toList, "'a', 'b'".toList⟩ : Capture), ⟨"FROM".toList, "\"t\"".toList⟩].length ≤
        20 ∧
      (shrink 20 " [...]".toList
        [⟨"SELECT".toList, "'a', 'b'".toList⟩, ⟨"FROM".toList, "\"t\"".toList⟩]).length ≤
          20 + (6 + 4) + 2 * 6 + (2 + 2) ∧
      (∀ c ∈ [(⟨"SELECT".toList, ['a', ',', 'b']⟩ : Capture), ⟨"FROM".toList, ['t']⟩],
        ∀ d ∈ c.value, Literal.isEscaped d = false) ∧
      (shrink 20 " [...]".toList
        [⟨"SELECT".toList, ['a', ',', 'b']⟩, ⟨"FROM".toList, ['t']⟩]).length ≤
          20 + (6 + 4) + 2 * 6 := by
  have hplain : ∀ c ∈ [(⟨"SELECT".toList, ['a', ',', 'b']⟩ : Capture), ⟨"FROM".toList, ['t']⟩],
      ∀ d ∈ c.value, Literal.isEscaped d = false := by simp [Literal.isEscaped]
  refine ⟨by decide, ?_, hplain, ?_⟩
  · exact (length_shrink_overrun 20 " [...]".toList
      [⟨"SELECT".toList, "'a', 'b'".toList⟩, ⟨"FROM".toList, "\"t\"".toList⟩] (by decide)).1
  · exact (length_shrink_overrun 20 " [...]".toList
      [⟨"SELECT".toList, ['a', ',', 'b']⟩, ⟨"FROM".toList, ['t']⟩] (by decide)).2 hplain

/-- A list of quoted letters fits its share and is longer than the line allows once its quotes are
escaped. -/
theorem shrink_overruns_quotes :
    6 * [(⟨"SELECT".toList, "'a', 'b', 'c', 'd', 'e', 'f'".toList⟩ : Capture)].length ≤ 33 ∧
      33 + 6 + 1 * 6 < (shrink 33 " [...]".toList
        [⟨"SELECT".toList, "'a', 'b', 'c', 'd', 'e', 'f'".toList⟩]).length := by
  decide

theorem keywords_bounds (f : Family) :
    f.vocabulary.keywords.length ≤ 6 ∧ (f.vocabulary.keywords.map List.length).sum ≤ 34 := by
  cases f <;> decide

theorem summarize_of_unmatched (s : Settings) {t : Text}
    (h : ∀ family pattern captures, find t ≠ .matched family pattern captures) :
    s.summarize t = t.take s.width := by
  unfold Settings.summarize
  split
  · next hf => exact absurd hf (h _ _ _)
  · rfl

section Matched

variable {t : Text} {family : Family} {pattern : Pattern} {captures : List Capture}

theorem summarize_of_find (s : Settings) (h : find t = .matched family pattern captures) :
    s.summarize t = shrink s.width s.marker captures := by
  rw [Settings.summarize, h]

theorem captures_ne_nil (h : find t = .matched family pattern captures) : captures ≠ [] := by
  obtain ⟨r, hr, hk, -⟩ := Family.exists_placement_of_firstMatch? (firstMatch?_of_find h)
  intro hnil
  subst hnil
  have hwords := hr.fits.words
  rw [← hk, List.map_nil] at hwords
  cases hwords

theorem captures_bounds (h : find t = .matched family pattern captures) :
    captures.length ≤ 6 ∧ (captures.map fun c ↦ c.keyword.length).sum ≤ 34 := by
  have hfirst := firstMatch?_of_find h
  obtain ⟨r, -, hk, -⟩ := Family.exists_placement_of_firstMatch? hfirst
  have hsub := Family.sublist_of_firstMatch? hfirst
  rw [← hk] at hsub
  obtain ⟨hcount, hsum⟩ := keywords_bounds family
  constructor
  · have hlen := hsub.length_le
    rw [List.length_map] at hlen
    exact hlen.trans hcount
  · have hle := (hsub.map List.length).sum_le_sum fun n _ ↦ Nat.zero_le n
    rw [List.map_map] at hle
    exact hle.trans hsum

end Matched

/-- A statement that is not shown clause by clause is cut to the width. Any other has a summary of
bounded length, linear in the width however long its clauses are. -/
theorem length_summarize (s : Settings) (t : Text) :
    (find t = .unclassified ∨ (∃ family, find t = .unmatched family) →
      s.summarize t = t.take (min s.width t.length)) ∧
    (∀ (family : Family) (pattern : Pattern) (captures : List Capture),
      find t = .matched family pattern captures →
        0 < captures.length ∧
        (s.summarize t).length ≤
          (captures.map fun c ↦ c.keyword.length).sum +
            2 * captures.length * budget s.width captures.length +
              captures.length * s.marker.length + 2 * captures.length - 1 ∧
        captures.length * budget s.width captures.length ≤
          max (s.width - 5 * captures.length) captures.length) ∧
    (s.summarize t).length ≤ 2 * s.width + 6 * s.marker.length + 57 := by
  refine ⟨?_, ?_, ?_⟩
  · intro h
    rw [summarize_of_unmatched, ← List.take_eq_take_min]
    intro family pattern captures hf
    rw [hf] at h
    rcases h with h | ⟨_, h⟩ <;> cases h
  · intro family pattern captures h
    have hne := captures_ne_nil h
    rw [summarize_of_find s h]
    exact ⟨List.length_pos_iff.mpr hne, length_shrink_le _ _ hne, mul_budget_le _ _⟩
  · by_cases h : ∃ family pattern captures, find t = .matched family pattern captures
    · obtain ⟨family, pattern, captures, h⟩ := h
      obtain ⟨hcount, hsum⟩ := captures_bounds h
      have hlen := length_shrink_le s.width s.marker (captures_ne_nil h)
      have hbudget := mul_budget_le s.width captures.length
      have hmarker := Nat.mul_le_mul_right s.marker.length hcount
      rw [summarize_of_find s h]
      rw [Nat.mul_assoc] at hlen
      simp only [overhead] at hbudget
      omega
    · rw [summarize_of_unmatched s fun family pattern captures hf ↦
        h ⟨family, pattern, captures, hf⟩]
      have := List.length_take_le s.width t
      omega

end StatementView.Summary
