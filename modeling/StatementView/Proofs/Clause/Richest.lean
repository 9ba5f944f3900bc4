import StatementView.Clause.Table
import StatementView.Proofs.Combination.Order

namespace StatementView

namespace Vocabulary

/-- A choice of optional keywords is richer than another one when it has more of them, or as many
and their places among the optional keywords come first in the lexicographic order. -/
def Richer (v : Vocabulary) (s s' : List Text) : Prop :=
  s'.length < s.length ∨
    s'.length = s.length ∧
      List.Lex (· < ·) (s.map (v.optional.idxOf ·)) (s'.map (v.optional.idxOf ·))

def choices (n : Nat) : List (List Nat) :=
  ((List.range' 1 n).reverse.flatMap fun k ↦ Combinations.positionsFrom n (List.range k)) ++ [[]]

def selections (v : Vocabulary) : List (List Text) :=
  (choices v.optional.length).map (Combinations.pick v.optional)

theorem mem_counts_iff {n k : Nat} : k ∈ (List.range' 1 n).reverse ↔ 0 < k ∧ k ≤ n := by
  rw [List.mem_reverse, List.mem_range'_1]
  omega

theorem mem_choices_iff {n : Nat} {is : List Nat} : is ∈ choices n ↔ IsAscent n is := by
  rw [choices, List.mem_append, List.mem_flatMap, List.mem_singleton]
  constructor
  · intro h
    rcases h with ⟨k, hk, his⟩ | rfl
    · exact ((Combinations.mem_positionsFrom_range (mem_counts_iff.mp hk).2).mp his).1
    · exact isAscent_nil
  · intro h
    cases is with
    | nil => exact .inr rfl
    | cons i is =>
      rcases h.length_le fun j _ ↦ Nat.zero_le j with he | hle
      · cases he
      · rw [Nat.zero_add] at hle
        exact .inl ⟨_, mem_counts_iff.mpr ⟨Nat.succ_pos _, hle⟩,
          (Combinations.mem_positionsFrom_range hle).mpr ⟨h, rfl⟩⟩

theorem pairwise_choices (n : Nat) :
    (choices n).Pairwise fun is js ↦
      js.length < is.length ∨ js.length = is.length ∧ List.Lex (· < ·) is js := by
  have hlen {k : Nat} (hk : k ∈ (List.range' 1 n).reverse) {is : List Nat}
      (his : is ∈ Combinations.positionsFrom n (List.range k)) : is.length = k :=
    ((Combinations.mem_positionsFrom_range (mem_counts_iff.mp hk).2).mp his).2
  rw [choices, List.pairwise_append, List.pairwise_flatMap]
  -- choices of one size, choices of two sizes, and the empty choice behind all others
  refine ⟨⟨?_, ?_⟩, List.pairwise_singleton _ _, ?_⟩
  · intro k hk
    have hascent := Combinations.isAscent_range (mem_counts_iff.mp hk).2
    refine (Combinations.pairwise_positionsFrom hascent).imp_of_mem ?_
    intro is js his hjs hlex
    exact .inr ⟨(hlen hk hjs).trans (hlen hk his).symm, hlex⟩
  · have hdesc : (List.range' 1 n).reverse.Pairwise (· > ·) :=
      List.pairwise_reverse.mpr List.pairwise_lt_range'
    refine hdesc.imp_of_mem ?_
    intro k m hk hm hkm is his js hjs
    rw [hlen hk his, hlen hm hjs]
    exact .inl hkm
  · intro is his js hjs
    obtain ⟨k, hk, his⟩ := List.mem_flatMap.mp his
    rw [List.mem_singleton.mp hjs, hlen hk his]
    exact .inl (mem_counts_iff.mp hk).1

theorem mem_selections_iff {v : Vocabulary} {s : List Text} :
    s ∈ v.selections ↔ s.Sublist v.optional := by
  rw [selections, List.mem_map, Combinations.sublist_iff_exists_pick]
  simp only [mem_choices_iff]

theorem pairwise_selections {v : Vocabulary} (hv : v.optional.Nodup) :
    v.selections.Pairwise v.Richer := by
  refine List.pairwise_map.mpr ((pairwise_choices _).imp_of_mem ?_)
  intro is js his hjs h
  have hpick {ks : List Nat} (hks : ks ∈ choices v.optional.length) :
      (Combinations.pick v.optional ks).map (v.optional.idxOf ·) = ks :=
    Combinations.map_idxOf_pick hv (mem_choices_iff.mp hks)
  have hlen {ks : List Nat} (hks : ks ∈ choices v.optional.length) :
      (Combinations.pick v.optional ks).length = ks.length := by
    simpa using congrArg List.length (hpick hks)
  rw [Richer, hlen his, hlen hjs, hpick his, hpick hjs]
  exact h

end Vocabulary

namespace Clause.Pattern

theorem captures?_eq_none_iff {p : Pattern} {t : Text} :
    p.captures? t = none ↔ p.isMatch t = false := by
  rw [captures?, isMatch, Option.map_eq_none_iff, Option.isSome_eq_false_iff,
    Option.isNone_iff_eq_none]

end Clause.Pattern

namespace Family

open Clause (Pattern)
open Clause.Pattern (captures?_eq_none_iff)

theorem nodup_optional (f : Family) : f.vocabulary.optional.Nodup := by
  cases f <;> decide

theorem upper_of_mem_keywords {f : Family} {k : Text} (h : k ∈ f.vocabulary.keywords) :
    k.upper = k := by
  have hall : ∀ k ∈ f.vocabulary.keywords, Text.upper k = k := by
    cases f <;> decide
  exact hall k h

theorem sequences_eq (f : Family) :
    f.sequences = f.vocabulary.selections.map (f.vocabulary.mandatory ++ ·) := by
  have hcombinations : ∀ k ∈ (List.range' 1 f.vocabulary.optional.length).reverse,
      combinations f.vocabulary.optional k =
        (Combinations.positionsFrom f.vocabulary.optional.length (List.range k)).map
          (Combinations.pick f.vocabulary.optional) := by
    intro k hk
    have hkn := Vocabulary.mem_counts_iff.mp hk
    exact combinations_eq (Nat.ne_of_gt hkn.1) hkn.2
  rw [sequences, Vocabulary.selections, Vocabulary.choices, List.map_append, List.map_append,
    List.map_flatMap, List.map_flatMap]
  congr 1
  · apply List.flatMap_congr
    intro k hk
    rw [hcombinations k hk]
  · exact congrArg ([·]) (List.append_nil _).symm

theorem firstMatch?_eq (f : Family) (t : Text) :
    f.firstMatch? t = f.vocabulary.selections.findSome? fun s ↦
      ((Pattern.ofKeywords (f.vocabulary.mandatory ++ s)).captures? t).map
        (Pattern.ofKeywords (f.vocabulary.mandatory ++ s), ·) := by
  rw [firstMatch?, patterns, sequences_eq, List.map_map, List.findSome?_map]
  rfl

theorem keywords_ofKeywords {f : Family} {keywords : List Text}
    (h : keywords.Sublist f.vocabulary.keywords) :
    (Pattern.ofKeywords keywords).keywords = keywords := by
  have hupper : ∀ k ∈ keywords, Text.upper k = id k := fun k hk ↦
    upper_of_mem_keywords (h.subset hk)
  exact (List.map_congr_left hupper).trans (List.map_id keywords)

theorem sublist_keywords {f : Family} {s : List Text} (h : s.Sublist f.vocabulary.optional) :
    (f.vocabulary.mandatory ++ s).Sublist f.vocabulary.keywords := by
  have hk : f.vocabulary.mandatory ++ f.vocabulary.optional = f.vocabulary.keywords :=
    List.take_append_drop ..
  exact hk ▸ h.append_left _

/-- A family's first match is the match of the richest choice of optional keywords, and there is
none exactly when no choice of them matches. -/
theorem firstMatch?_richest (f : Family) (t : Text) :
    (f.firstMatch? t = none ↔
      ∀ s : List Text, s.Sublist f.vocabulary.optional →
        (Pattern.ofKeywords (f.vocabulary.mandatory ++ s)).isMatch t = false) ∧
    ∀ (p : Pattern) (captures : List Capture), f.firstMatch? t = some (p, captures) →
      ∃ s : List Text, s.Sublist f.vocabulary.optional ∧
        p.keywords = f.vocabulary.mandatory ++ s ∧ p.captures? t = some captures ∧
        ∀ s' : List Text, s'.Sublist f.vocabulary.optional →
          (Pattern.ofKeywords (f.vocabulary.mandatory ++ s')).isMatch t = true →
            s' = s ∨ f.vocabulary.Richer s s' := by
  rw [firstMatch?_eq]
  constructor
  · rw [List.findSome?_eq_none_iff]
    simp only [Vocabulary.mem_selections_iff, Option.map_eq_none_iff, captures?_eq_none_iff]
  · intro p captures h
    obtain ⟨front, s, back, hsplit, hs, hfront⟩ := List.findSome?_eq_some_iff.mp h
    obtain ⟨_, hcaptures, he⟩ := Option.map_eq_some_iff.mp hs
    obtain ⟨rfl, rfl⟩ := Prod.mk.inj he
    have hmem : s ∈ f.vocabulary.selections := by simp [hsplit]
    have hsub := Vocabulary.mem_selections_iff.mp hmem
    refine ⟨s, hsub, keywords_ofKeywords (sublist_keywords hsub), hcaptures, ?_⟩
    intro s' hs' hmatch
    have hmem' := Vocabulary.mem_selections_iff.mpr hs'
    have hp := Vocabulary.pairwise_selections f.nodup_optional
    rw [hsplit] at hmem' hp
    obtain ⟨-, hback, -⟩ := List.pairwise_append.mp hp
    rcases List.mem_append.mp hmem' with hs' | hs'
    · -- what is tried before the first match does not match
      have hnone := hfront s' hs'
      rw [Option.map_eq_none_iff, captures?_eq_none_iff, hmatch] at hnone
      cases hnone
    · rcases List.mem_cons.mp hs' with rfl | hs'
      · exact .inl rfl
      · exact .inr ((List.pairwise_cons.mp hback).1 s' hs')

/-- Both optional keywords are found where the first one alone is not: only the last keyword of a
pattern must have a blank behind it. -/
theorem firstMatch?_two_optional_keywords :
    firstMatch? .insert "insert into t value(1) values (2)".toList =
        some (⟨["INSERT".toList, "INTO".toList, "VALUE".toList, "VALUES".toList]⟩,
          [⟨"INSERT".toList, []⟩, ⟨"INTO".toList, "t".toList⟩, ⟨"VALUE".toList, "(1)".toList⟩,
            ⟨"VALUES".toList, "(2)".toList⟩]) ∧
      (Pattern.ofKeywords ["INSERT".toList, "INTO".toList, "VALUE".toList]).isMatch
        "insert into t value(1) values (2)".toList = false ∧
      (Pattern.ofKeywords ["INSERT".toList, "INTO".toList, "VALUES".toList]).isMatch
        "insert into t value(1) values (2)".toList = true ∧
      ∃ s : List Text, s.Sublist (vocabulary .insert).optional ∧
        ["INSERT".toList, "INTO".toList, "VALUE".toList, "VALUES".toList] =
          (vocabulary .insert).mandatory ++ s ∧
        (["VALUES".toList] = s ∨ (vocabulary .insert).Richer s ["VALUES".toList]) := by
  have hfirst : firstMatch? .insert "insert into t value(1) values (2)".toList =
      some (⟨["INSERT".toList, "INTO".toList, "VALUE".toList, "VALUES".toList]⟩,
        [⟨"INSERT".toList, []⟩, ⟨"INTO".toList, "t".toList⟩, ⟨"VALUE".toList, "(1)".toList⟩,
          ⟨"VALUES".toList, "(2)".toList⟩]) := by
    with_unfolding_all rfl
  have hpoor : (Pattern.ofKeywords ["INSERT".toList, "INTO".toList, "VALUES".toList]).isMatch
      "insert into t value(1) values (2)".toList = true := rfl
  obtain ⟨s, hs, hk, -, hr⟩ := (firstMatch?_richest .insert _).2 _ _ hfirst
  exact ⟨hfirst, rfl, hpoor, s, hs, hk, hr ["VALUES".toList] (by decide) hpoor⟩

end Family

end StatementView
