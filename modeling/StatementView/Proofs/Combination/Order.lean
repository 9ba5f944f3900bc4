import Mathlib.Data.List.Basic
import StatementView.Combination

namespace StatementView

structure IsAscent (n : Nat) (is : List Nat) : Prop where
  ascends : is.Pairwise (· < ·)
  below : ∀ i ∈ is, i < n

variable {n i : Nat} {is js ks : List Nat}

theorem isAscent_nil : IsAscent n [] := ⟨.nil, by simp⟩

theorem isAscent_cons :
    IsAscent n (i :: is) ↔ i < n ∧ (∀ j ∈ is, i < j) ∧ IsAscent n is := by
  constructor
  · intro h
    obtain ⟨hi, his⟩ := List.pairwise_cons.mp h.ascends
    obtain ⟨hn, hns⟩ := List.forall_mem_cons.mp h.below
    exact ⟨hn, hi, his, hns⟩
  · intro h
    obtain ⟨hn, hi, his⟩ := h
    exact ⟨List.pairwise_cons.mpr ⟨hi, his.ascends⟩, List.forall_mem_cons.mpr ⟨hn, his.below⟩⟩

theorem isAscent_range' {k : Nat} (h : i + k ≤ n) : IsAscent n (List.range' i k) := by
  refine ⟨List.pairwise_lt_range', ?_⟩
  intro j hj
  have := (List.mem_range'_1.mp hj).2
  omega

theorem IsAscent.length_le (h : IsAscent n is) (hi : ∀ j ∈ is, i ≤ j) :
    is = [] ∨ i + is.length ≤ n := by
  induction is generalizing i with
  | nil => exact .inl rfl
  | cons j is ih =>
    obtain ⟨hn, hj, his⟩ := isAscent_cons.mp h
    have hij := hi j (by simp)
    right
    rw [List.length_cons]
    rcases ih his (i := j + 1) hj with rfl | hl
    · simp only [List.length_nil]
      omega
    · omega

theorem range'_first (h : ks.Pairwise (· < ·)) (hi : ∀ j ∈ ks, i ≤ j) :
    List.range' i ks.length = ks ∨ List.Lex (· < ·) (List.range' i ks.length) ks := by
  induction ks generalizing i with
  | nil => exact .inl rfl
  | cons k ks ih =>
    obtain ⟨hk, hks⟩ := List.pairwise_cons.mp h
    rw [List.length_cons, List.range'_succ]
    rcases Nat.lt_or_eq_of_le (hi k (by simp)) with hlt | rfl
    · exact .inr (.rel hlt)
    · rcases ih hks hk with he | hlt
      · exact .inl (by rw [he])
      · exact .inr (.cons hlt)

theorem nextPositions?_cons_eq_none_iff :
    nextPositions? n (i :: is) = none ↔ nextPositions? n is = none ∧ n ≤ i + is.length + 1 := by
  cases h : nextPositions? n is with
  | some js => simp [nextPositions?, h]
  | none => simp [nextPositions?, h]

theorem nextPositions?_cons_eq_some_iff :
    nextPositions? n (i :: is) = some js ↔
      (∃ ks, nextPositions? n is = some ks ∧ js = i :: ks) ∨
        nextPositions? n is = none ∧ i + is.length + 1 < n ∧
          js = List.range' (i + 1) (is.length + 1) := by
  cases h : nextPositions? n is with
  | some ks => simp [nextPositions?, h, eq_comm]
  | none => simp [nextPositions?, h, eq_comm]

theorem le_of_mem_nextPositions? (h : nextPositions? n is = some js) (hi : ∀ j ∈ is, i ≤ j) :
    ∀ j ∈ js, i ≤ j := by
  induction is generalizing i js with
  | nil => cases h
  | cons a is ih =>
    obtain ⟨ha, his⟩ := List.forall_mem_cons.mp hi
    rcases nextPositions?_cons_eq_some_iff.mp h with ⟨ks, hks, rfl⟩ | ⟨-, -, rfl⟩
    · exact List.forall_mem_cons.mpr ⟨ha, ih hks his⟩
    · intro j hj
      have := (List.mem_range'_1.mp hj).1
      omega

theorem isAscent_nextPositions? (h : IsAscent n is) (hjs : nextPositions? n is = some js) :
    IsAscent n js := by
  induction is generalizing js with
  | nil => cases hjs
  | cons i is ih =>
    obtain ⟨hn, hi, his⟩ := isAscent_cons.mp h
    rcases nextPositions?_cons_eq_some_iff.mp hjs with ⟨ks, hks, rfl⟩ | ⟨-, hroom, rfl⟩
    · exact isAscent_cons.mpr ⟨hn, le_of_mem_nextPositions? hks hi, ih his hks⟩
    · exact isAscent_range' (by omega)

theorem lex_nextPositions? (h : nextPositions? n is = some js) : List.Lex (· < ·) is js := by
  induction is generalizing js with
  | nil => cases h
  | cons i is ih =>
    rcases nextPositions?_cons_eq_some_iff.mp h with ⟨ks, hks, rfl⟩ | ⟨-, -, rfl⟩
    · exact .cons (ih hks)
    · rw [List.range'_succ]
      exact .rel (Nat.lt_succ_self i)

theorem not_lex_of_nextPositions?_eq_none (h : nextPositions? n is = none) (hks : IsAscent n ks)
    (hl : ks.length = is.length) : ¬ List.Lex (· < ·) is ks := by
  induction is generalizing ks with
  | nil =>
    obtain rfl := List.length_eq_zero_iff.mp hl
    exact List.not_lex_nil
  | cons i is ih =>
    obtain ⟨k, ks, rfl⟩ := List.exists_cons_of_length_eq_add_one hl
    obtain ⟨hn, hk, hks'⟩ := isAscent_cons.mp hks
    obtain ⟨hnone, hfull⟩ := nextPositions?_cons_eq_none_iff.mp h
    have hlen : ks.length = is.length := Nat.succ_inj.mp hl
    intro hlex
    rcases List.cons_lex_cons_iff.mp hlex with hik | ⟨rfl, htail⟩
    · -- behind a greater first position there is no room for the others
      rcases hks'.length_le hk with rfl | hle
      · rw [List.length_nil] at hlen
        omega
      · omega
    · exact ih hnone hks' hlen htail

/-- No combination of the same length stands between one and the next. -/
theorem nextPositions?_first (h : nextPositions? n is = some js) (hks : IsAscent n ks)
    (hl : ks.length = is.length) (hlex : List.Lex (· < ·) is ks) :
    js = ks ∨ List.Lex (· < ·) js ks := by
  induction is generalizing js ks with
  | nil => cases h
  | cons i is ih =>
    obtain ⟨k, ks, rfl⟩ := List.exists_cons_of_length_eq_add_one hl
    obtain ⟨-, hk, hks'⟩ := isAscent_cons.mp hks
    have hlen : ks.length = is.length := Nat.succ_inj.mp hl
    rcases nextPositions?_cons_eq_some_iff.mp h with ⟨js, hjs, rfl⟩ | ⟨hnone, -, rfl⟩
    · rcases List.cons_lex_cons_iff.mp hlex with hik | ⟨rfl, htail⟩
      · exact .inr (.rel hik)
      · rcases ih hjs hks' hlen htail with rfl | hjk
        · exact .inl rfl
        · exact .inr (.cons hjk)
    · rcases List.cons_lex_cons_iff.mp hlex with hik | ⟨rfl, htail⟩
      · have hi : ∀ j ∈ k :: ks, i + 1 ≤ j :=
          List.forall_mem_cons.mpr ⟨hik, fun j hj ↦ Nat.le_of_lt (Nat.lt_of_le_of_lt hik (hk j hj))⟩
        rw [← List.length_cons, ← hl]
        exact range'_first hks.ascends hi
      · exact absurd htail (not_lex_of_nextPositions?_eq_none hnone hks' hlen)

namespace Combinations

theorem positionsFrom_some (h : nextPositions? n is = some js) :
    positionsFrom n is = is :: positionsFrom n js := by
  rw [positionsFrom]
  split
  · next h' => rw [Option.some.inj (h.symm.trans h')]
  · next h' => cases h.symm.trans h'

theorem positionsFrom_none (h : nextPositions? n is = none) : positionsFrom n is = [is] := by
  rw [positionsFrom]
  split
  · next h' => cases h.symm.trans h'
  · rfl

/-- The positions from some on are the ascending ones of their length that do not come before. -/
theorem mem_positionsFrom_iff (h : IsAscent n is) :
    ks ∈ positionsFrom n is ↔
      IsAscent n ks ∧ ks.length = is.length ∧ (is = ks ∨ List.Lex (· < ·) is ks) := by
  induction is using positionsFrom.induct n with
  | case1 is js hjs ih =>
    have hjsn := isAscent_nextPositions? h hjs
    have hlex := lex_nextPositions? hjs
    rw [positionsFrom_some hjs, List.mem_cons, ih hjsn, length_nextPositions hjs]
    constructor
    · intro hk
      rcases hk with rfl | ⟨hk, hl, rfl | hjk⟩
      · exact ⟨h, rfl, .inl rfl⟩
      · exact ⟨hk, hl, .inr hlex⟩
      · exact ⟨hk, hl, .inr (List.lex_trans Nat.lt_trans hlex hjk)⟩
    · intro hk
      obtain ⟨hk, hl, rfl | hik⟩ := hk
      · exact .inl rfl
      · exact .inr ⟨hk, hl, nextPositions?_first hjs hk hl hik⟩
  | case2 is hnone =>
    rw [positionsFrom_none hnone, List.mem_singleton]
    constructor
    · intro hk
      subst hk
      exact ⟨h, rfl, .inl rfl⟩
    · intro hk
      obtain ⟨hk, hl, rfl | hik⟩ := hk
      · rfl
      · exact absurd hik (not_lex_of_nextPositions?_eq_none hnone hk hl)

theorem pairwise_positionsFrom (h : IsAscent n is) :
    (positionsFrom n is).Pairwise (List.Lex (· < ·)) := by
  induction is using positionsFrom.induct n with
  | case1 is js hjs ih =>
    have hjsn := isAscent_nextPositions? h hjs
    have hlex := lex_nextPositions? hjs
    rw [positionsFrom_some hjs]
    refine List.pairwise_cons.mpr ⟨?_, ih hjsn⟩
    intro ks hks
    obtain ⟨-, -, rfl | hjk⟩ := (mem_positionsFrom_iff hjsn).mp hks
    · exact hlex
    · exact List.lex_trans Nat.lt_trans hlex hjk
  | case2 is hnone =>
    rw [positionsFrom_none hnone]
    exact List.pairwise_singleton _ _

theorem isAscent_range {k : Nat} (hk : k ≤ n) : IsAscent n (List.range k) := by
  rw [List.range_eq_range']
  exact isAscent_range' (by omega)

theorem mem_positionsFrom_range {k : Nat} (hk : k ≤ n) :
    ks ∈ positionsFrom n (List.range k) ↔ IsAscent n ks ∧ ks.length = k := by
  rw [mem_positionsFrom_iff (isAscent_range hk), List.length_range]
  constructor
  · intro hks
    exact ⟨hks.1, hks.2.1⟩
  · intro hks
    obtain ⟨hks, rfl⟩ := hks
    rw [List.range_eq_range']
    exact ⟨hks, rfl, range'_first hks.ascends fun j _ ↦ Nat.zero_le j⟩

section Pick

variable {α : Type} {l : List α}

theorem pick_cons (hi : i < l.length) (is : List Nat) : pick l (i :: is) = l[i] :: pick l is :=
  List.filterMap_cons_some (List.getElem?_eq_getElem hi)

theorem pick_sublist_drop {m : Nat} (h : IsAscent l.length is) (hm : ∀ i ∈ is, m ≤ i) :
    (pick l is).Sublist (l.drop m) := by
  induction is generalizing m with
  | nil => exact List.nil_sublist _
  | cons i is ih =>
    obtain ⟨hn, hi, his⟩ := isAscent_cons.mp h
    have hdrop : (l.drop i).Sublist (l.drop m) := List.drop_sublist_drop_left l (hm i (by simp))
    rw [pick_cons hn]
    rw [List.drop_eq_getElem_cons hn] at hdrop
    exact ((ih his hi).cons_cons l[i]).trans hdrop

/-- What stands at ascending positions keeps its order, and every sublist stands at such. -/
theorem sublist_iff_exists_pick {s : List α} :
    s.Sublist l ↔ ∃ is, IsAscent l.length is ∧ pick l is = s := by
  constructor
  · intro h
    obtain ⟨is, rfl, his⟩ := List.sublist_eq_map_getElem h
    refine ⟨is.map Fin.val, ⟨List.pairwise_map.mpr his, ?_⟩, ?_⟩
    · intro i hi
      obtain ⟨j, -, rfl⟩ := List.mem_map.mp hi
      exact j.isLt
    · rw [pick, List.filterMap_map, ← List.filterMap_eq_map]
      congr 1
      funext j
      exact List.getElem?_eq_getElem j.isLt
  · intro h
    obtain ⟨is, his, rfl⟩ := h
    exact pick_sublist_drop his fun i _ ↦ Nat.zero_le i

theorem map_idxOf_pick [BEq α] [LawfulBEq α] (hl : l.Nodup) (h : IsAscent l.length is) :
    (pick l is).map (l.idxOf ·) = is := by
  induction is with
  | nil => rfl
  | cons i is ih =>
    obtain ⟨hn, -, his⟩ := isAscent_cons.mp h
    rw [pick_cons hn, List.map_cons, ih his, hl.idxOf_getElem i hn]

end Pick

end Combinations

theorem combinations_eq {α : Type} {l : List α} {k : Nat} (h0 : k ≠ 0) (hk : k ≤ l.length) :
    combinations l k =
      (Combinations.positionsFrom l.length (List.range k)).map (Combinations.pick l) := by
  have hno : ¬ (k = 0 ∨ l.length < k) := by omega
  rw [combinations, Combinations.start, if_neg hno]
  rfl

end StatementView
