import Mathlib.Data.List.TakeWhile
import Mathlib.Order.Bounds.Basic
import StatementView.Summary.Line

namespace StatementView.Summary

def untilFeed (t : Text) : Text := t.takeWhile (· ≠ '\n')

def breaks (room : Nat) (t : Text) : Set Nat := {i | i ≤ room ∧ t[i]? = some ' '}

variable {room i j : Nat} {c : Char} {line : Text}

theorem untilFeed_cons (hc : c ≠ '\n') (t : Text) : untilFeed (c :: t) = c :: untilFeed t :=
  List.takeWhile_cons_of_pos (by simp [hc])

theorem untilFeed_append {u : Text} (hu : '\n' ∉ u) (t : Text) :
    untilFeed (u ++ t) = u ++ untilFeed t := by
  apply List.takeWhile_append_of_pos
  intro d hd
  exact decide_eq_true (ne_of_mem_of_not_mem hd hu)

theorem untilFeed_isPrefix (t : Text) : untilFeed t <+: t := List.takeWhile_prefix _

theorem feed_not_mem_untilFeed (t : Text) : '\n' ∉ untilFeed t := by
  intro h
  have hne := List.mem_takeWhile_imp h
  exact absurd rfl (of_decide_eq_true hne)

theorem zero_mem_breaks_iff : 0 ∈ breaks room (c :: line) ↔ c = ' ' := by
  simp [breaks]

theorem succ_mem_breaks_iff : i + 1 ∈ breaks (room + 1) (c :: line) ↔ i ∈ breaks room line := by
  simp [breaks]

theorem succ_not_mem_breaks_zero : i + 1 ∉ breaks 0 line := by
  simp [breaks]

theorem isGreatest_breaks_succ (c : Char) (h : IsGreatest (breaks room line) j) :
    IsGreatest (breaks (room + 1) (c :: line)) (j + 1) := by
  refine ⟨succ_mem_breaks_iff.mpr h.1, ?_⟩
  intro i hi
  cases i with
  | zero => exact Nat.zero_le _
  | succ i => exact Nat.succ_le_succ (h.2 (succ_mem_breaks_iff.mp hi))

theorem isGreatest_breaks_zero (h : ∀ i, i + 1 ∉ breaks room (' ' :: line)) :
    IsGreatest (breaks room (' ' :: line)) 0 := by
  refine ⟨zero_mem_breaks_iff.mpr rfl, ?_⟩
  intro i hi
  cases i with
  | zero => exact le_rfl
  | succ i => exact absurd hi (h i)

theorem breaks_cons_eq_empty (hc : c ≠ ' ') (h : ∀ i, i + 1 ∉ breaks room (c :: line)) :
    breaks room (c :: line) = ∅ := by
  apply Set.eq_empty_of_forall_notMem
  intro i hi
  cases i with
  | zero => exact hc (zero_mem_breaks_iff.mp hi)
  | succ i => exact h i hi

/-- How a line fits some room: whole where it is no longer, and else broken at the room's end and at
its last blank within the room. -/
inductive Fit.IsFor (room : Nat) (line : Text) : Fit → Prop
  | whole : line.length ≤ room → IsFor room line (.whole line)
  | atEnd : room < line.length → breaks room line = ∅ →
      IsFor room line (.broken none (line.take room))
  | atBlank {j : Nat} : room < line.length → IsGreatest (breaks room line) j →
      IsFor room line (.broken (some (line.take j)) (line.take room))

theorem isFor_cons (hlong : room < (c :: line).length)
    (h : ∀ i, i + 1 ∉ breaks room (c :: line)) :
    Fit.IsFor room (c :: line)
      (.broken (if c = ' ' then some [] else none) ((c :: line).take room)) := by
  split
  · next hc =>
    subst hc
    exact .atBlank hlong (isGreatest_breaks_zero h)
  · next hc => exact .atEnd hlong (breaks_cons_eq_empty hc h)

theorem isFor_fit (room : Nat) (t : Text) : (fit room t).IsFor room (untilFeed t) := by
  induction t generalizing room with
  | nil => cases room <;> exact .whole (Nat.zero_le _)
  | cons c t ih =>
    by_cases hc : c = '\n'
    · subst hc
      cases room <;> exact .whole (Nat.zero_le _)
    rw [untilFeed_cons hc]
    cases room with
    | zero =>
      rw [fit, if_neg hc]
      exact isFor_cons (Nat.succ_pos _) fun _ ↦ succ_not_mem_breaks_zero
    | succ room =>
      have h := ih room
      rw [fit, if_neg hc]
      generalize fit room t = f at h
      cases h with
      | whole hle => exact .whole (Nat.succ_le_succ hle)
      | atEnd hlt hnone =>
        -- a blank behind `c` would be one of the line behind it
        refine isFor_cons (Nat.succ_lt_succ hlt) ?_
        intro i hi
        have hi := succ_mem_breaks_iff.mp hi
        rw [hnone] at hi
        exact hi
      | atBlank hlt hj => exact .atBlank (Nat.succ_lt_succ hlt) (isGreatest_breaks_succ c hj)

theorem firstLine_of_le {width : Nat} {t : Text} (h : (untilFeed t).length ≤ width) :
    firstLine width t = untilFeed t := by
  have hfit := isFor_fit width t
  rw [firstLine]
  generalize fit width t = f at hfit
  cases hfit with
  | whole hle => rfl
  | atEnd hlt hnone => exact absurd h (Nat.not_le.mpr hlt)
  | atBlank hlt hj => exact absurd h (Nat.not_le.mpr hlt)

theorem exists_firstLine_of_lt {width : Nat} {t : Text} (h : width < (untilFeed t).length) :
    ∃ j, firstLine width t = (untilFeed t).take j ∧
      (IsGreatest (breaks width (untilFeed t)) j ∨
        breaks width (untilFeed t) = ∅ ∧ j = width) := by
  have hfit := isFor_fit width t
  rw [firstLine]
  generalize fit width t = f at hfit
  cases hfit with
  | whole hle => exact absurd h (Nat.not_lt.mpr hle)
  | atEnd hlt hnone => exact ⟨width, rfl, .inr ⟨hnone, rfl⟩⟩
  | atBlank hlt hj => exact ⟨_, rfl, .inl hj⟩

theorem firstLine_isPrefix_untilFeed (width : Nat) (t : Text) :
    firstLine width t <+: untilFeed t := by
  rcases Nat.lt_or_ge width (untilFeed t).length with h | h
  · obtain ⟨j, hj, -⟩ := exists_firstLine_of_lt h
    rw [hj]
    exact List.take_prefix j _
  · exact (firstLine_of_le h).symm ▸ List.prefix_refl _

theorem firstLine_isPrefix (width : Nat) (t : Text) : firstLine width t <+: t :=
  (firstLine_isPrefix_untilFeed width t).trans (untilFeed_isPrefix t)

theorem newline_not_mem_firstLine (width : Nat) (t : Text) : '\n' ∉ firstLine width t :=
  fun h ↦ feed_not_mem_untilFeed t ((firstLine_isPrefix_untilFeed width t).subset h)

theorem length_firstLine_le (width : Nat) (t : Text) : (firstLine width t).length ≤ width := by
  rcases Nat.lt_or_ge width (untilFeed t).length with h | h
  · obtain ⟨j, hj, hplace⟩ := exists_firstLine_of_lt h
    have hle : j ≤ width := by
      rcases hplace with hj | ⟨-, rfl⟩
      · exact hj.1.1
      · exact le_rfl
    rw [hj]
    exact (List.length_take_le j _).trans hle
  · rw [firstLine_of_le h]
    exact h

theorem firstLine_ne_nil {c : Char} (hc : Text.isBlank c = false) (width : Nat) (t : Text) :
    firstLine (width + 1) (c :: t) ≠ [] := by
  have hnewline : c ≠ '\n' := by
    rintro rfl
    exact absurd hc (by decide)
  have hspace : c ≠ ' ' := by
    rintro rfl
    exact absurd hc (by decide)
  rw [firstLine, fit, if_neg hnewline, if_neg hspace]
  cases fit width t with
  | whole line => exact List.cons_ne_nil _ _
  | broken atBlank atEnd => cases atBlank <;> exact List.cons_ne_nil _ _

theorem space_not_mem_take {width : Nat} {t rest : Text} (ht : t = firstLine width t ++ c :: rest)
    (hc : c ≠ '\n') (hs : c ≠ ' ') : ' ' ∉ t.take (width + 1) := by
  have hline : untilFeed t = firstLine width t ++ c :: untilFeed rest := by
    have h := congrArg untilFeed ht
    rwa [untilFeed_append (newline_not_mem_firstLine width t), untilFeed_cons hc] at h
  have hlong : width < (untilFeed t).length := by
    by_contra h
    have hlen := congrArg List.length hline
    rw [firstLine_of_le (Nat.not_lt.mp h), List.length_append, List.length_cons] at hlen
    omega
  obtain ⟨j, hj, hbreak | ⟨hnone, -⟩⟩ := exists_firstLine_of_lt hlong
  · -- a line that is broken at a blank has this blank behind it
    have hlen : (firstLine width t).length = j := by
      rw [hj, List.length_take_of_le (hbreak.1.1.trans hlong.le)]
    have hspace := hbreak.1.2
    rw [hline, ← hlen, List.getElem?_append_right le_rfl, Nat.sub_self,
      List.getElem?_cons_zero] at hspace
    exact absurd (Option.some.inj hspace) hs
  · obtain ⟨back, hback⟩ := untilFeed_isPrefix t
    rw [← hback, List.take_append_of_le_length hlong]
    intro hmem
    obtain ⟨i, hi, hspace⟩ := List.mem_take_iff_getElem.mp hmem
    have hbreak : i ∈ breaks width (untilFeed t) :=
      ⟨by omega, List.getElem?_eq_some_iff.mpr ⟨by omega, hspace⟩⟩
    rw [hnone] at hbreak
    exact hbreak

/-- The first line of a text is what stands before its first line feed, where that is no longer than
the width. A longer one is broken at the last blank up to the width, and at the width if there is
none: it is a front of the text within the width and without a line feed, and it ends inside a word
only where the text has no blank up to the width. -/
theorem firstLine_breaks_at_last_blank (width : Nat) (t : Text) :
    ((untilFeed t).length ≤ width → firstLine width t = untilFeed t) ∧
      (width < (untilFeed t).length → ∃ j, firstLine width t = (untilFeed t).take j ∧
        (IsGreatest {i | i ≤ width ∧ (untilFeed t)[i]? = some ' '} j ∨
          (∀ i ≤ width, (untilFeed t)[i]? ≠ some ' ') ∧ j = width)) ∧
      firstLine width t <+: t ∧ (firstLine width t).length ≤ width ∧
      '\n' ∉ firstLine width t ∧
      ∀ c rest, t = firstLine width t ++ c :: rest → c ≠ '\n' → c ≠ ' ' →
        ' ' ∉ t.take (width + 1) := by
  refine ⟨firstLine_of_le, ?_, firstLine_isPrefix width t, length_firstLine_le width t,
    newline_not_mem_firstLine width t, fun c rest ↦ space_not_mem_take⟩
  intro h
  obtain ⟨j, hj, hplace⟩ := exists_firstLine_of_lt h
  refine ⟨j, hj, hplace.imp_right fun hnone ↦ ⟨?_, hnone.2⟩⟩
  intro i hi hspace
  exact Set.eq_empty_iff_forall_notMem.mp hnone.1 i ⟨hi, hspace⟩

example : firstLine 5 "hello world".toList = "hello".toList := by decide

end StatementView.Summary
