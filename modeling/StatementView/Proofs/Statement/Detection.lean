import Mathlib.Data.List.Infix
import StatementView.Proofs.Text.Casing
import StatementView.Proofs.Summary.Finding

namespace StatementView

theorem Text.holds_iff {word t : Text} : holds word t = true ↔ word <:+: t := by
  induction t with
  | nil => rw [holds, List.isEmpty_iff, List.infix_nil]
  | cons c t ih =>
    rw [holds, Bool.or_eq_true_iff, List.isPrefixOf_iff_prefix, ih, List.infix_cons_iff]

theorem exists_find?_idxOf_le {α : Type} [DecidableEq α] {l : List α} {p : α → Bool} {a : α}
    (ha : a ∈ l) (hp : p a = true) : ∃ b, l.find? p = some b ∧ l.idxOf b ≤ l.idxOf a := by
  induction l with
  | nil => cases ha
  | cons x l ih =>
    by_cases hx : p x = true
    · refine ⟨x, List.find?_cons_of_pos hx, ?_⟩
      rw [List.idxOf_cons_self]
      exact Nat.zero_le _
    · have hne : a ≠ x := by
        rintro rfl
        exact hx hp
      obtain ⟨b, hb, hle⟩ := ih ((List.mem_cons.mp ha).resolve_left hne)
      refine ⟨b, (List.find?_cons_of_neg hx).trans hb, ?_⟩
      have hbx : b ≠ x := by
        rintro rfl
        exact hx (List.find?_some hb)
      rw [List.idxOf_cons_ne _ hne.symm, List.idxOf_cons_ne _ hbx.symm]
      exact Nat.succ_le_succ hle

namespace Family

open Clause (Pattern Placement behind)

variable {f : Family} {t : Text}

theorem exists_detect_of_holds (h : Text.holds f.keyword t.upper = true) :
    ∃ g, detect t = some g ∧ all.idxOf g ≤ all.idxOf f := by
  have hf : f ∈ all := by cases f <;> decide
  exact exists_find?_idxOf_le hf h

theorem keyword_eq (f : Family) :
    f.keyword.all Char.isUpper = true ∧ 'K' ∉ f.keyword ∧
      ∃ keywords, f.vocabulary.mandatory = f.keyword :: keywords := by
  cases f
  · exact ⟨by decide, by decide, ["FROM".toList], rfl⟩
  · exact ⟨by decide, by decide, ["FROM".toList], rfl⟩
  · exact ⟨by decide, by decide, ["SET".toList], rfl⟩
  · exact ⟨by decide, by decide, ["INTO".toList], rfl⟩

theorem sameLetters_front (h : (f.firstMatch? t).isSome = true) :
    Text.SameLetters f.keyword ((Text.trimStart t).take f.keyword.length) := by
  obtain ⟨⟨p, captures⟩, hm⟩ := Option.isSome_iff_exists.mp h
  obtain ⟨r, hr, -⟩ := exists_placement_of_firstMatch? hm
  obtain ⟨s, hs, rfl, -⟩ := exists_of_firstMatch? hm
  obtain ⟨-, -, keywords, hk⟩ := f.keyword_eq
  have hfits := hr.fits
  rw [keywords_ofKeywords (sublist_keywords hs), hk, List.cons_append,
    Clause.Placement.fits_iff] at hfits
  obtain ⟨hlead, hword, -⟩ := hfits
  obtain ⟨c, k, hck⟩ : ∃ c k, f.keyword = c :: k := by cases f <;> exact ⟨_, _, rfl⟩
  have hblank : Text.isBlank c = false := by cases f <;> (cases hck; decide)
  have hfront := Clause.not_begins_isBlank hblank (hck ▸ hword) (behind r.later r.blank r.tail)
  rw [← hr.text_eq, Placement.text, List.append_assoc, Text.trimStart,
    Text.dropWhile_run hlead hfront, hword.length_eq, List.take_left]
  exact hword

theorem holds_keyword (h : (f.firstMatch? t).isSome = true)
    (hs : 'S' ∈ f.keyword → 'ſ' ∉ (Text.trimStart t).take f.keyword.length) :
    Text.holds f.keyword t.upper = true := by
  obtain ⟨hupper, hkelvin, -⟩ := f.keyword_eq
  have hw := Text.upper_eq_of_sameLetters (List.all_eq_true.mp hupper) hkelvin hs
    (sameLetters_front h)
  have hinfix : (Text.trimStart t).take f.keyword.length <:+: t :=
    (List.take_prefix _ _).isInfix.trans (List.dropWhile_suffix _).isInfix
  have hmap := hinfix.map Char.toUpper
  rw [Text.holds_iff, ← hw]
  exact hmap

/-- A statement that a family matches is detected as that family or as one before it, and so it is
never cut as unclassified, if the keyword at its front is written without a long s. The keywords of
deletions and updates have no S, so for them there is no exception. -/
theorem detect_of_firstMatch? (f : Family) (t : Text) (h : (f.firstMatch? t).isSome = true)
    (hs : 'S' ∈ f.keyword → 'ſ' ∉ (Text.trimStart t).take f.keyword.length) :
    (∃ g, detect t = some g ∧ all.idxOf g ≤ all.idxOf f) ∧
      Summary.find t ≠ .unclassified := by
  obtain ⟨g, hg, hle⟩ := exists_detect_of_holds (holds_keyword h hs)
  refine ⟨⟨g, hg, hle⟩, ?_⟩
  rw [Summary.find, hg]
  dsimp only
  split
  · exact fun h ↦ by cases h
  · exact fun h ↦ by cases h

theorem detect_of_firstMatch?_insert :
    (firstMatch? .insert "\n inSert into ſet values (1)".toList).isSome = true ∧
      'ſ' ∉ (Text.trimStart "\n inSert into ſet values (1)".toList).take 6 ∧
      (∃ g, detect "\n inSert into ſet values (1)".toList = some g ∧
        all.idxOf g ≤ all.idxOf Family.insert) ∧
      Summary.find "\n inSert into ſet values (1)".toList ≠ .unclassified := by
  have hm : (firstMatch? .insert "\n inSert into ſet values (1)".toList).isSome = true := by
    with_unfolding_all rfl
  have hs : 'ſ' ∉ (Text.trimStart "\n inSert into ſet values (1)".toList).take 6 := by decide
  exact ⟨hm, hs, detect_of_firstMatch? .insert _ hm fun _ ↦ hs⟩

/-- With a long s in the keyword the family matches the statement, but none is detected. -/
theorem detect_long_s :
    (firstMatch? .select "ſelect id from users".toList).isSome = true ∧
      (¬ ∃ g, detect "ſelect id from users".toList = some g ∧
        all.idxOf g ≤ all.idxOf Family.select) ∧
      Summary.find "ſelect id from users".toList = .unclassified := by
  have hm : (firstMatch? .select "ſelect id from users".toList).isSome = true := by
    with_unfolding_all rfl
  have hd : detect "ſelect id from users".toList = none := by decide
  refine ⟨hm, ?_, ?_⟩
  · intro h
    obtain ⟨g, hg, -⟩ := h
    rw [hd] at hg
    cases hg
  · rw [Summary.find, hd]

end Family

end StatementView
