import StatementView.Decimal.Digits

namespace StatementView.Decimal

/-- ASCII digits, at least one of them, and a zero in front only where it stands alone. -/
structure Canonical (t : Text) : Prop where
  ne_nil : t ≠ []
  digits : ∀ c ∈ t, c.isDigit = true
  lead : t.head? = some '0' → t = ['0']

def value (t : Text) : Nat := Nat.ofDigitChars 10 t 0

theorem value_natural (n : Nat) : value (natural n) = n := Nat.ofDigitChars_ten_toDigits

theorem natural_injective : Function.Injective natural :=
  Function.LeftInverse.injective value_natural

theorem digitChar_of_isDigit {c : Char} (h : c.isDigit = true) :
    c.toNat - 48 < 10 ∧ Nat.digitChar (c.toNat - 48) = c := by
  have hc : 48 ≤ c.toNat ∧ c.toNat ≤ 57 := Char.isDigit_iff_toNat.mp h
  refine ⟨by omega, ?_⟩
  apply Char.toNat_inj.mp
  rw [Nat.toNat_digitChar_of_lt_ten (by omega)]
  omega

theorem natural_append {n : Nat} (hn : 0 < n) {t : Text} (h : ∀ c ∈ t, c.isDigit = true) :
    natural n ++ t = natural (Nat.ofDigitChars 10 t n) := by
  induction t generalizing n with
  | nil => rw [List.append_nil, Nat.ofDigitChars_nil]
  | cons c t ih =>
    obtain ⟨hc, ht⟩ := List.forall_mem_cons.mp h
    obtain ⟨hlt, hchar⟩ := digitChar_of_isDigit hc
    have hstep : natural n ++ [c] = natural (10 * n + (c.toNat - 48)) := by
      have happ := Nat.toDigits_append_toDigits (b := 10) (by decide) hn hlt
      rwa [Nat.toDigits_of_lt_base hlt, hchar] at happ
    rw [Nat.ofDigitChars_cons, List.append_cons, hstep]
    exact ih (by omega) ht

theorem natural_value {t : Text} (h : Canonical t) : natural (value t) = t := by
  obtain ⟨c, u, rfl⟩ := List.exists_cons_of_ne_nil h.ne_nil
  obtain ⟨hc, hu⟩ := List.forall_mem_cons.mp h.digits
  by_cases hzero : c = '0'
  · subst hzero
    rw [h.lead rfl]
    rfl
  · obtain ⟨hlt, hchar⟩ := digitChar_of_isDigit hc
    have hpos : 0 < c.toNat - 48 := by
      apply Nat.pos_of_ne_zero
      intro h0
      rw [h0] at hchar
      exact hzero hchar.symm
    have happ := natural_append hpos hu
    rw [natural, Nat.toDigits_of_lt_base hlt, hchar] at happ
    rw [value, Nat.ofDigitChars_cons, Nat.mul_zero, Nat.zero_add]
    exact happ.symm

theorem head?_natural_ne_zero {n : Nat} (hn : 0 < n) : (natural n).head? ≠ some '0' := by
  induction n using Nat.strongRecOn with
  | ind n ih =>
    by_cases hlt : n < 10
    · rw [natural, Nat.toDigits_of_lt_base hlt, List.head?_cons]
      intro h
      have hdigit := Nat.toNat_digitChar_of_lt_ten hlt
      rw [Option.some.inj h] at hdigit
      have : '0'.toNat = 48 := rfl
      omega
    · have hge : 10 ≤ n := by omega
      obtain ⟨c, t, ht⟩ := List.exists_cons_of_ne_nil (Nat.toDigits_ne_nil (n := n / 10) (b := 10))
      have hfront := ih (n / 10) (by omega) (by omega)
      rw [natural, ht] at hfront
      rw [natural, Nat.toDigits_of_base_le (by decide) hge, ht]
      exact hfront

theorem canonical_natural (n : Nat) : Canonical (natural n) where
  ne_nil := Nat.toDigits_ne_nil
  digits _ hc := Nat.isDigit_of_mem_toDigits (by decide) (by decide) hc
  lead h := by
    rcases Nat.eq_zero_or_pos n with rfl | hn
    · rfl
    · exact absurd h (head?_natural_ne_zero hn)

theorem natural_eq_iff {n : Nat} {t : Text} : natural n = t ↔ Canonical t ∧ value t = n := by
  constructor
  · rintro rfl
    exact ⟨canonical_natural n, value_natural n⟩
  · rintro ⟨h, rfl⟩
    exact natural_value h

theorem le_ofDigitChars (t : Text) (n : Nat) : n ≤ Nat.ofDigitChars 10 t n := by
  induction t generalizing n with
  | nil => exact Nat.le_refl n
  | cons c t ih =>
    rw [Nat.ofDigitChars_cons]
    have := ih (10 * n + (c.toNat - '0'.toNat))
    omega

theorem takeWord?_eq_some_iff {n m : Nat} (hn : n < wordBound) {t : Text} :
    takeWord? n t = some m ↔
      (∀ c ∈ t, c.isDigit = true) ∧ Nat.ofDigitChars 10 t n = m ∧ m < wordBound := by
  induction t generalizing n with
  | nil =>
    rw [takeWord?, Option.some_inj, Nat.ofDigitChars_nil]
    constructor
    · rintro rfl
      exact ⟨List.forall_mem_nil _, rfl, hn⟩
    · rintro ⟨-, rfl, -⟩
      rfl
  | cons c t ih =>
    rw [takeWord?, Nat.ofDigitChars_cons, List.forall_mem_cons]
    split
    · next h =>
      rw [ih h.2, and_iff_right h.1]
      rfl
    · next h =>
      constructor
      · intro hnone
        cases hnone
      · rintro ⟨⟨hc, -⟩, rfl, hm⟩
        -- the digits behind `c` do not make the number smaller
        exact absurd ⟨hc, Nat.lt_of_le_of_lt (le_ofDigitChars t _) hm⟩ h

theorem lt_of_word? {t : Text} {n : Nat} (h : word? t = some n) : n < wordBound := by
  have hzero : 0 < wordBound := by decide
  unfold word? at h
  split at h
  · cases h
  · split at h
    · cases h
    · exact ((takeWord?_eq_some_iff hzero).mp h).2.2
  · exact ((takeWord?_eq_some_iff hzero).mp h).2.2

theorem word?_of_digits {t : Text} (hne : t ≠ []) (hdigits : ∀ c ∈ t, c.isDigit = true)
    (hlt : value t < wordBound) : word? t = some (value t) := by
  have htake : takeWord? 0 t = some (value t) :=
    (takeWord?_eq_some_iff (by decide)).mpr ⟨hdigits, rfl, hlt⟩
  unfold word?
  split
  · exact absurd rfl hne
  · exact absurd (hdigits '+' List.mem_cons_self) (by decide)
  · exact htake

theorem word?_natural {n : Nat} (hn : n < wordBound) : word? (natural n) = some n := by
  have hc := canonical_natural n
  have hread := word?_of_digits hc.ne_nil hc.digits (by rwa [value_natural])
  rwa [value_natural] at hread

end StatementView.Decimal
