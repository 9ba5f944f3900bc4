import StatementView.Text.Folding
import StatementView.Text.Blank

namespace StatementView.Text

/-- Two texts that differ in nothing but the case of their letters. -/
def SameLetters (t u : Text) : Prop := t.map fold = u.map fold

theorem SameLetters.length_eq {t u : Text} (h : SameLetters t u) : t.length = u.length := by
  simpa using congrArg List.length h

theorem sameLetters_nil {u : Text} : SameLetters [] u ↔ u = [] := by
  simp [SameLetters, eq_comm]

theorem sameLetters_cons {c : Char} {t u : Text} :
    SameLetters (c :: t) u ↔ ∃ d v, u = d :: v ∧ fold c = fold d ∧ SameLetters t v := by
  constructor
  · intro h
    obtain ⟨d, v, rfl, hd, hv⟩ := List.map_eq_cons_iff.mp (Eq.symm h)
    exact ⟨d, v, rfl, hd.symm, hv.symm⟩
  · intro h
    obtain ⟨d, v, rfl, hd, hv⟩ := h
    rw [SameLetters, List.map_cons, List.map_cons, hd, hv]

theorem exists_range_of_inRanges {ranges : List (Nat × Nat)} {n : Nat}
    (h : inRanges ranges n = true) : ∃ r ∈ ranges, r.1 ≤ n ∧ n ≤ r.2 := by
  induction ranges with
  | nil => exact absurd h (by simp [inRanges])
  | cons r ranges ih =>
    obtain ⟨lo, hi⟩ := r
    simp only [inRanges] at h
    split at h
    · exact absurd h (by simp)
    · next hlo =>
      rcases Bool.or_eq_true_iff.mp h with h | h
      · exact ⟨(lo, hi), by simp, by omega, by simpa using h⟩
      · obtain ⟨r, hr, hn⟩ := ih h
        exact ⟨r, List.mem_cons_of_mem _ hr, hn⟩

theorem exists_run_of_foldShift? {runs : List (Nat × Nat × Nat × Int)} {n : Nat} {shift : Int}
    (h : foldShift? runs n = some shift) :
    ∃ first last step, (first, last, step, shift) ∈ runs ∧ first ≤ n ∧ n ≤ last := by
  induction runs with
  | nil => exact absurd h (by simp [foldShift?])
  | cons run runs ih =>
    obtain ⟨first, last, step, s⟩ := run
    simp only [foldShift?] at h
    split at h
    · exact absurd h (by simp)
    · next hf =>
      split at h
      · next hl =>
        obtain rfl := Option.some.inj h
        exact ⟨first, last, step, by simp, by omega, hl.1⟩
      · obtain ⟨f, l, st, hm, hn⟩ := ih h
        exact ⟨f, l, st, List.mem_cons_of_mem _ hm, hn⟩

theorem toNat_ofNat_or (n : Nat) : (Char.ofNat n).toNat = n ∨ (Char.ofNat n).toNat = 0 := by
  by_cases h : n.isValidChar
  · left
    rw [Char.ofNat, dif_pos h]
    rfl
  · right
    rw [Char.ofNat, dif_neg h]
    rfl

theorem foldRuns_blankRanges : ∀ run ∈ foldRuns, ∀ r ∈ blankRanges,
    (run.2.1 < r.1 ∨ r.2 < run.1) ∧
      (run.2.1 + run.2.2.2 < r.1 ∨ (r.2 : Int) < run.1 + run.2.2.2) := by
  decide +kernel

theorem isBlank_fold (c : Char) : isBlank (fold c) = isBlank c := by
  unfold fold
  split
  · next shift h =>
    obtain ⟨first, last, step, hm, hf, hl⟩ := exists_run_of_foldShift? h
    have hc : isBlank c = false := by
      rw [Bool.eq_false_iff]
      intro hb
      obtain ⟨r, hr, hlo, hhi⟩ := exists_range_of_inRanges hb
      have hd := (foldRuns_blankRanges _ hm r hr).1
      dsimp only at hd
      omega
    rw [hc, Bool.eq_false_iff]
    intro hb
    obtain ⟨r, hr, hlo, hhi⟩ := exists_range_of_inRanges hb
    have hd := (foldRuns_blankRanges _ hm r hr).2
    dsimp only at hd
    have hpos : ∀ r ∈ blankRanges, 0 < r.1 := by decide
    have h0 := hpos r hr
    rcases toNat_ofNat_or (c.toNat + shift).toNat with he | he <;> rw [he] at hlo hhi <;> omega
  · rfl

theorem fold_toUpper (c : Char) : fold c.toUpper = fold c := by
  have h : ∀ i < 26, fold (Char.ofNat (97 + i)).toUpper = fold (Char.ofNat (97 + i)) := by decide
  by_cases hc : 'a'.val ≤ c.val ∧ c.val ≤ 'z'.val
  · have hlo : 97 ≤ c.toNat := UInt32.le_iff_toNat_le.mp hc.1
    have hhi : c.toNat ≤ 122 := UInt32.le_iff_toNat_le.mp hc.2
    have hi := h (c.toNat - 97) (by omega)
    rwa [Nat.add_sub_cancel' hlo, Char.ofNat_toNat] at hi
  · have hu : c.toUpper = c := dif_neg hc
    rw [hu]

theorem isBlank_toUpper (c : Char) : isBlank c.toUpper = isBlank c := by
  rw [← isBlank_fold, fold_toUpper, isBlank_fold]

theorem sameLetters_upper {t u : Text} : SameLetters (upper t) u ↔ SameLetters t u := by
  have h : fold ∘ Char.toUpper = fold := funext fold_toUpper
  rw [SameLetters, upper, List.map_map, h, SameLetters]

end StatementView.Text
