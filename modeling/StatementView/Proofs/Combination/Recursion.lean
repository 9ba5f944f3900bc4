import Mathlib.Data.List.Lex
import Mathlib.Data.List.Sort
import Mathlib.Data.List.Sublists
import StatementView.Proofs.Combination.Order

namespace StatementView

/-- The positions below `n` in ascending order, by extending all shorter ones by each position that
is behind their last. -/
def extensions (n : Nat) : Nat → List (List Nat)
  | 0 => []
  | 1 => (List.range n).map ([·])
  | level + 2 => (extensions n (level + 1)).flatMap fun is ↦
      ((List.range n).filter fun j ↦ is.getLast?.all (· < j)).map (is ++ [·])

variable {n level : Nat} {is : List Nat}

theorem isAscent_concat {j : Nat} :
    IsAscent n (is ++ [j]) ↔ IsAscent n is ∧ j < n ∧ ∀ i ∈ is, i < j := by
  constructor
  · intro h
    obtain ⟨hpairs, -, hbehind⟩ := List.pairwise_append.mp h.ascends
    obtain ⟨hbelow, hj⟩ := List.forall_mem_append.mp h.below
    exact ⟨⟨hpairs, hbelow⟩, hj j (List.mem_singleton_self j),
      fun i hi ↦ hbehind i hi j (List.mem_singleton_self j)⟩
  · rintro ⟨his, hj, hbehind⟩
    refine ⟨List.pairwise_append.mpr ⟨his.ascends, List.pairwise_singleton _ j, ?_⟩,
      List.forall_mem_append.mpr ⟨his.below, List.forall_mem_singleton.mpr hj⟩⟩
    intro i hi k hk
    rw [List.mem_singleton.mp hk]
    exact hbehind i hi

theorem all_getLast?_iff (h : IsAscent n is) (j : Nat) :
    is.getLast?.all (· < j) = true ↔ ∀ i ∈ is, i < j := by
  induction is using List.reverseRecOn with
  | nil => simp
  | append_singleton is k ih =>
    obtain ⟨-, -, hbehind⟩ := isAscent_concat.mp h
    rw [List.getLast?_concat, Option.all_some, decide_eq_true_iff, List.forall_mem_append,
      List.forall_mem_singleton]
    constructor
    · intro hk
      exact ⟨fun i hi ↦ (hbehind i hi).trans hk, hk⟩
    · exact And.right

theorem mem_extensions_iff :
    is ∈ extensions n level ↔ 0 < level ∧ IsAscent n is ∧ is.length = level := by
  induction level using extensions.induct generalizing is with
  | case1 => simp [extensions]
  | case2 =>
    rw [extensions, List.mem_map]
    constructor
    · rintro ⟨i, hi, rfl⟩
      have hi := List.mem_range.mp hi
      exact ⟨Nat.one_pos, isAscent_cons.mpr ⟨hi, by simp, isAscent_nil⟩, rfl⟩
    · rintro ⟨-, his, hlen⟩
      obtain ⟨i, rfl⟩ := List.length_eq_one_iff.mp hlen
      exact ⟨i, List.mem_range.mpr (isAscent_cons.mp his).1, rfl⟩
  | case3 level ih =>
    simp only [extensions, List.mem_flatMap, List.mem_map, List.mem_filter, List.mem_range, ih]
    constructor
    · rintro ⟨js, ⟨-, hjs, hlen⟩, j, ⟨hj, hlast⟩, rfl⟩
      refine ⟨Nat.succ_pos _, isAscent_concat.mpr ⟨hjs, hj, (all_getLast?_iff hjs j).mp hlast⟩, ?_⟩
      rw [List.length_append, List.length_singleton, hlen]
    · rintro ⟨-, his, hlen⟩
      have hne : is ≠ [] := List.ne_nil_of_length_eq_add_one hlen
      rw [← List.dropLast_append_getLast hne] at his
      obtain ⟨hjs, hj, hbehind⟩ := isAscent_concat.mp his
      refine ⟨is.dropLast, ⟨Nat.succ_pos _, hjs, ?_⟩, is.getLast hne,
        ⟨hj, (all_getLast?_iff hjs _).mpr hbehind⟩, List.dropLast_append_getLast hne⟩
      rw [List.length_dropLast, hlen]
      rfl

theorem pick_range (h : ∀ i ∈ is, i < n) : Combinations.pick (List.range n) is = is := by
  have hget : ∀ i ∈ is, (List.range n)[i]? = some i := fun i hi ↦ List.getElem?_range (h i hi)
  rw [Combinations.pick, List.filterMap_congr hget, List.filterMap_some]

theorem sublist_range_iff : is.Sublist (List.range n) ↔ IsAscent n is := by
  rw [Combinations.sublist_iff_exists_pick, List.length_range]
  constructor
  · rintro ⟨js, hjs, rfl⟩
    rwa [pick_range hjs.below]
  · intro h
    exact ⟨is, h, pick_range h.below⟩

theorem lex_append_of_length_eq {is js : List Nat} (h : List.Lex (· < ·) is js)
    (hl : is.length = js.length) (ks ls : List Nat) :
    List.Lex (· < ·) (is ++ ks) (js ++ ls) := by
  induction h with
  | nil => cases hl
  | rel h => exact .rel h
  | cons h ih => exact .cons (ih (Nat.succ_inj.mp hl))

theorem pairwise_extensions (n level : Nat) :
    (extensions n level).Pairwise (List.Lex (· < ·)) := by
  induction level using extensions.induct with
  | case1 => exact .nil
  | case2 =>
    rw [extensions, List.pairwise_map]
    exact List.pairwise_lt_range.imp .rel
  | case3 level ih =>
    rw [extensions, List.pairwise_flatMap]
    constructor
    · intro is his
      rw [List.pairwise_map]
      exact (List.pairwise_lt_range.filter _).imp fun h ↦ .append_left _ (.rel h) is
    · refine ih.imp_of_mem ?_
      intro is js his hjs hlex ks hks ls hls
      obtain ⟨i, -, rfl⟩ := List.mem_map.mp hks
      obtain ⟨j, -, rfl⟩ := List.mem_map.mp hls
      -- all shorter ones have one length, so none of them is a front of another
      have hl : is.length = js.length :=
        (mem_extensions_iff.mp his).2.2.trans (mem_extensions_iff.mp hjs).2.2.symm
      exact lex_append_of_length_eq hlex hl [i] [j]

theorem nodup_of_pairwise_lex {l : List (List Nat)} (h : l.Pairwise (List.Lex (· < ·))) :
    l.Nodup := by
  refine h.imp ?_
  rintro is js hlex rfl
  exact List.lex_irrefl Nat.lt_irrefl is hlex

theorem extensions_eq_positionsFrom (h0 : 0 < level) (hl : level ≤ n) :
    extensions n level = Combinations.positionsFrom n (List.range level) := by
  have hpairs := Combinations.pairwise_positionsFrom (Combinations.isAscent_range hl)
  have hperm : (extensions n level).Perm (Combinations.positionsFrom n (List.range level)) := by
    refine (List.perm_ext_iff_of_nodup (nodup_of_pairwise_lex (pairwise_extensions n level))
      (nodup_of_pairwise_lex hpairs)).mpr ?_
    intro is
    rw [mem_extensions_iff, Combinations.mem_positionsFrom_range hl, and_iff_right h0]
  refine hperm.eq_of_pairwise ?_ (pairwise_extensions n level) hpairs
  intro is js _ _ hij hji
  have hii : List.Lex (· < ·) is is := List.lex_trans Nat.lt_trans hij hji
  exact absurd hii (List.lex_irrefl Nat.lt_irrefl is)

theorem extensions_eq_nil (h : level = 0 ∨ n < level) : extensions n level = [] := by
  refine List.eq_nil_iff_forall_not_mem.mpr ?_
  intro is his
  obtain ⟨h0, hascent, hlen⟩ := mem_extensions_iff.mp his
  rcases hascent.length_le fun i _ ↦ Nat.zero_le i with rfl | hroom
  · exact Nat.ne_of_gt h0 hlen.symm
  · omega

theorem length_extensions (h0 : 0 < level) : (extensions n level).length = n.choose level := by
  have hperm : (extensions n level).Perm ((List.range n).sublistsLen level) := by
    refine (List.perm_ext_iff_of_nodup (nodup_of_pairwise_lex (pairwise_extensions n level))
      (List.nodup_sublistsLen level List.nodup_range)).mpr ?_
    intro is
    rw [mem_extensions_iff, List.mem_sublistsLen, and_iff_right h0, sublist_range_iff]
  rw [hperm.length_eq, List.length_sublistsLen, List.length_range]

theorem combinations_eq_map_extensions {α : Type} (elements : List α) (level : Nat) :
    combinations elements level =
      (extensions elements.length level).map (Combinations.pick elements) := by
  by_cases h : level = 0 ∨ elements.length < level
  · rw [extensions_eq_nil h, combinations, Combinations.start, if_pos h]
    rfl
  · obtain ⟨h0, hl⟩ := not_or.mp h
    rw [extensions_eq_positionsFrom (Nat.pos_of_ne_zero h0) (Nat.not_lt.mp hl),
      combinations_eq h0 (Nat.not_lt.mp hl)]

end StatementView
