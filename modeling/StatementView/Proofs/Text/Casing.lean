import Mathlib.Data.List.Basic
import StatementView.Proofs.Text.Folding

namespace StatementView.Text

theorem isUpper_iff {c : Char} : c.isUpper = true ↔ 65 ≤ c.toNat ∧ c.toNat ≤ 90 := by
  have h : c.isUpper = decide ('A'.val ≤ c.val ∧ c.val ≤ 'Z'.val) := rfl
  rw [h, decide_eq_true_iff]
  exact and_congr UInt32.le_iff_toNat_le UInt32.le_iff_toNat_le

theorem exists_of_isUpper {k : Char} (h : k.isUpper = true) :
    ∃ i < 26, k = Char.ofNat (65 + i) := by
  obtain ⟨hlo, hhi⟩ := isUpper_iff.mp h
  exact ⟨k.toNat - 65, by omega, by rw [Nat.add_sub_cancel' hlo, Char.ofNat_toNat]⟩

theorem toNat_fold_upper : ∀ i < 26, (fold (Char.ofNat (65 + i))).toNat = 97 + i := by
  decide

theorem toUpper_lower : ∀ i < 26, (Char.ofNat (97 + i)).toUpper = Char.ofNat (65 + i) := by
  decide

theorem toUpper_upper : ∀ i < 26, (Char.ofNat (65 + i)).toUpper = Char.ofNat (65 + i) := by
  decide

theorem isAlpha_letters : ∀ i < 26,
    (Char.ofNat (97 + i)).isAlpha = true ∧ (Char.ofNat (65 + i)).isAlpha = true := by
  decide

theorem toUpper_cases (c : Char) : c.toUpper = c ∨ ∃ i < 26, c = Char.ofNat (97 + i) := by
  by_cases hc : 'a'.val ≤ c.val ∧ c.val ≤ 'z'.val
  · have hlo : 97 ≤ c.toNat := UInt32.le_iff_toNat_le.mp hc.1
    have hhi : c.toNat ≤ 122 := UInt32.le_iff_toNat_le.mp hc.2
    exact .inr ⟨c.toNat - 97, by omega, by rw [Nat.add_sub_cancel' hlo, Char.ofNat_toNat]⟩
  · exact .inl (dif_neg hc)

theorem toUpper_eq_iff {c d : Char} (hd : d.isAlpha = false) : c.toUpper = d ↔ c = d := by
  rcases toUpper_cases c with h | ⟨i, hi, rfl⟩
  · rw [h]
  · obtain ⟨hlower, hupper⟩ := isAlpha_letters i hi
    rw [toUpper_lower i hi]
    constructor
    · rintro rfl
      exact absurd hd (by rw [hupper]; exact Bool.noConfusion)
    · rintro rfl
      exact absurd hd (by rw [hlower]; exact Bool.noConfusion)

/-- Apart from the ASCII letters only two characters are folded to one. -/
theorem foldRuns_letters : ∀ run ∈ foldRuns,
    run.2.1 + run.2.2.2 < 97 ∨ (122 : Int) < run.1 + run.2.2.2 ∨
      run = (0x41, 0x5A, 1, 32) ∨ run = (0x17F, 0x17F, 1, -268) ∨
        run = (0x212A, 0x212A, 1, -8383) := by
  decide +kernel

theorem toNat_of_toNat_fold {c : Char} {i : Nat} (hi : i < 26) (h : (fold c).toNat = 97 + i) :
    c.toNat = 97 + i ∨ c.toNat = 65 + i ∨ c.toNat = 0x17F ∧ i = 18 ∨
      c.toNat = 0x212A ∧ i = 10 := by
  unfold fold at h
  split at h
  · next shift hs =>
    obtain ⟨first, last, step, hm, hf, hl⟩ := exists_run_of_foldShift? hs
    have hn : c.toNat + shift = (97 + i : Nat) := by
      rcases toNat_ofNat_or (c.toNat + shift).toNat with he | he <;> omega
    rcases foldRuns_letters _ hm with hr | hr | hr | hr | hr
    · dsimp only at hr
      omega
    · dsimp only at hr
      omega
    · obtain ⟨rfl, rfl, rfl, rfl⟩ := by simpa only [Prod.mk.injEq] using hr
      exact .inr (.inl (by omega))
    · obtain ⟨rfl, rfl, rfl, rfl⟩ := by simpa only [Prod.mk.injEq] using hr
      exact .inr (.inr (.inl (by omega)))
    · obtain ⟨rfl, rfl, rfl, rfl⟩ := by simpa only [Prod.mk.injEq] using hr
      exact .inr (.inr (.inr (by omega)))
  · exact .inl h

theorem eq_ofNat_of_toNat {c : Char} {n : Nat} (h : c.toNat = n) : c = Char.ofNat n := by
  rw [← h, Char.ofNat_toNat]

theorem toUpper_of_fold_eq {k c : Char} (hk : k.isUpper = true) (h : fold k = fold c) :
    c.toUpper = k ∨ k = 'S' ∧ c = 'ſ' ∨ k = 'K' ∧ c = '\u212a' := by
  obtain ⟨i, hi, rfl⟩ := exists_of_isUpper hk
  have hc : (fold c).toNat = 97 + i := by rw [← h, toNat_fold_upper i hi]
  rcases toNat_of_toNat_fold hi hc with hn | hn | ⟨hn, rfl⟩ | ⟨hn, rfl⟩
  · rw [eq_ofNat_of_toNat hn, toUpper_lower i hi]
    exact .inl rfl
  · rw [eq_ofNat_of_toNat hn, toUpper_upper i hi]
    exact .inl rfl
  · exact .inr (.inl ⟨by decide, eq_ofNat_of_toNat hn⟩)
  · exact .inr (.inr ⟨by decide, eq_ofNat_of_toNat hn⟩)

/-- A word in the letters of an upper-case word without K has that word as its upper case, unless a
long s stands for an S. -/
theorem upper_eq_of_sameLetters {k w : Text} (hk : ∀ c ∈ k, c.isUpper = true) (hkelvin : 'K' ∉ k)
    (hs : 'S' ∈ k → 'ſ' ∉ w) (h : SameLetters k w) : upper w = k := by
  induction k generalizing w with
  | nil =>
    rw [sameLetters_nil.mp h]
    rfl
  | cons a k ih =>
    obtain ⟨c, w, rfl, hc, hw⟩ := sameLetters_cons.mp h
    obtain ⟨ha, hks⟩ := List.forall_mem_cons.mp hk
    rw [List.mem_cons, not_or] at hkelvin
    have hrest := ih hks hkelvin.2
      (fun hm hw ↦ hs (List.mem_cons_of_mem _ hm) (List.mem_cons_of_mem _ hw)) hw
    have hfirst : c.toUpper = a := by
      rcases toUpper_of_fold_eq ha hc with hu | ⟨rfl, rfl⟩ | ⟨rfl, -⟩
      · exact hu
      · exact absurd List.mem_cons_self (hs List.mem_cons_self)
      · exact absurd rfl hkelvin.1
    rw [upper, List.map_cons, hfirst]
    exact congrArg (a :: ·) hrest

end StatementView.Text
