import StatementView.Text.Utf8

namespace StatementView.Text

theorem lead?_one {n : Nat} (h : n < 0x80) : lead? n = some (n, []) := by
  rw [lead?, if_pos h]

theorem lead?_two {n : Nat} (hl : 0xC2 ≤ n) (hu : n < 0xE0) :
    lead? n = some (n - 0xC0, [(0x80, 0xBF)]) := by
  rw [lead?, if_neg (by omega), if_neg (by omega), if_pos hu]

theorem lead?_three {n : Nat} (hl : 0xE0 ≤ n) (hu : n < 0xF0) :
    lead? n = some (n - 0xE0,
      [(if n = 0xE0 then 0xA0 else 0x80, if n = 0xED then 0x9F else 0xBF), (0x80, 0xBF)]) := by
  rw [lead?, if_neg (by omega), if_neg (by omega), if_neg (by omega)]
  by_cases h₀ : n = 0xE0
  · subst h₀
    rfl
  · by_cases h₁ : n = 0xED
    · subst h₁
      rfl
    · rw [if_neg h₀, if_neg h₁, if_pos hu, if_neg h₀, if_neg h₁]

theorem lead?_four {n : Nat} (hl : 0xF0 ≤ n) (hu : n ≤ 0xF4) :
    lead? n = some (n - 0xF0,
      [(if n = 0xF0 then 0x90 else 0x80, if n = 0xF4 then 0x8F else 0xBF), (0x80, 0xBF),
        (0x80, 0xBF)]) := by
  rw [lead?, if_neg (by omega), if_neg (by omega), if_neg (by omega), if_neg (by omega),
    if_neg (by omega), if_neg (by omega)]
  by_cases h₀ : n = 0xF0
  · subst h₀
    rfl
  · by_cases h₁ : n = 0xF4
    · subst h₁
      rfl
    · rw [if_neg h₀, if_pos (by omega), if_neg h₀, if_neg h₁]

theorem lead?_none {n : Nat} (h : 0x80 ≤ n ∧ n < 0xC2 ∨ 0xF4 < n) : lead? n = none := by
  rcases h with h | h
  · rw [lead?, if_neg (by omega), if_pos h.2]
  · rw [lead?, if_neg (by omega), if_neg (by omega), if_neg (by omega), if_neg (by omega),
      if_neg (by omega), if_neg (by omega), if_neg (by omega), if_neg (by omega),
      if_neg (by omega)]

theorem toNat_ofNat_of_lt {n : Nat} (h : n < 256) : (UInt8.ofNat n).toNat = n := by
  rw [UInt8.toNat_ofNat', Nat.mod_eq_of_lt h]

theorem eq_ofNat_of_toNat_eq {b : UInt8} {n : Nat} (h : b.toNat = n) : b = UInt8.ofNat n := by
  rw [← h, UInt8.ofNat_toNat]

theorem follow_ofNat {value count lo hi m : Nat} {ranges : List (Nat × Nat)} {bytes : List UInt8}
    (hm : m < 0x40) (hlo : lo ≤ m + 0x80) (hhi : m + 0x80 ≤ hi) :
    follow value count ((lo, hi) :: ranges) (UInt8.ofNat (m + 0x80) :: bytes) =
      follow (64 * value + m) (count + 1) ranges bytes := by
  have hb : (UInt8.ofNat (m + 0x80)).toNat = m + 0x80 := toNat_ofNat_of_lt (by omega)
  rw [follow, hb, if_pos ⟨hlo, hhi⟩, Nat.add_sub_cancel]

theorem exists_of_follow {value count lo hi n k : Nat} {ranges : List (Nat × Nat)}
    {bytes : List UInt8} (h : follow value count ((lo, hi) :: ranges) bytes = (some n, k)) :
    ∃ b rest, bytes = b :: rest ∧ lo ≤ b.toNat ∧ b.toNat ≤ hi ∧
      follow (64 * value + (b.toNat - 0x80)) (count + 1) ranges rest = (some n, k) := by
  cases bytes with
  | nil => cases h
  | cons b rest =>
    rw [follow] at h
    split at h
    · next hb => exact ⟨b, rest, rfl, hb.1, hb.2, h⟩
    · cases h

theorem eq_of_follow_nil {value count n k : Nat} {bytes : List UInt8}
    (h : follow value count [] bytes = (some n, k)) : value = n ∧ count = k := by
  rw [follow] at h
  cases h
  exact ⟨rfl, rfl⟩

theorem front_of_lead? {b : UInt8} {bytes : List UInt8} {m value n count : Nat}
    {ranges : List (Nat × Nat)} (hb : b.toNat = m) (hl : lead? m = some (value, ranges))
    (hf : follow value 0 ranges bytes = (some n, count)) :
    front b bytes = (some (Char.ofNat n), count) := by
  simp only [front, hb, hl, hf, Option.map_some]

theorem exists_of_front {b : UInt8} {bytes : List UInt8} {c : Char} {k : Nat}
    (h : front b bytes = (some c, k)) :
    ∃ value ranges n, lead? b.toNat = some (value, ranges) ∧
      follow value 0 ranges bytes = (some n, k) ∧ c = Char.ofNat n := by
  unfold front at h
  split at h
  · cases h
  · next value ranges hl =>
    obtain ⟨hc, hk⟩ := Prod.mk.inj h
    obtain ⟨n, hn, rfl⟩ := Option.map_eq_some_iff.mp hc
    exact ⟨value, ranges, n, hl, Prod.ext hn hk, rfl⟩

/-- The bytes of a character are a front of that character, whatever follows them. -/
theorem front_utf8EncodeChar (c : Char) (rest : List UInt8) :
    ∃ b bytes, String.utf8EncodeChar c = b :: bytes ∧
      front b (bytes ++ rest) = (some c, bytes.length) := by
  have hc : Char.ofNat c.val.toNat = c := Char.ofNat_toNat c
  have hvalid : c.val.toNat < 0xD800 ∨ 0xDFFF < c.val.toNat ∧ c.val.toNat < 0x110000 := c.valid
  unfold String.utf8EncodeChar
  generalize c.val.toNat = v at hc hvalid
  dsimp only
  rw [← hc]
  split
  · have hb : (UInt8.ofNat v).toNat = v := toNat_ofNat_of_lt (by omega)
    exact ⟨_, _, rfl, front_of_lead? hb (lead?_one (by omega)) rfl⟩
  · split
    · have hb : (UInt8.ofNat (v / 64 % 0x20 + 0xc0)).toNat = v / 64 + 0xc0 := by
        rw [toNat_ofNat_of_lt (by omega)]
        omega
      refine ⟨_, _, rfl, front_of_lead? hb (lead?_two (by omega) (by omega)) ?_⟩
      have hv : 64 * (v / 64) + v % 0x40 = v := Nat.div_add_mod v 64
      rw [List.cons_append, follow_ofNat (by omega) (by omega) (by omega), Nat.add_sub_cancel, hv]
      rfl
    · split
      · have hb : (UInt8.ofNat (v / 4096 % 0x10 + 0xe0)).toNat = v / 4096 + 0xe0 := by
          rw [toNat_ofNat_of_lt (by omega)]
          omega
        refine ⟨_, _, rfl, front_of_lead? hb (lead?_three (by omega) (by omega)) ?_⟩
        have hv : 64 * (64 * (v / 4096) + v / 64 % 0x40) + v % 0x40 = v := by omega
        rw [List.cons_append, List.cons_append,
          follow_ofNat (by omega) (by split <;> omega) (by split <;> omega),
          follow_ofNat (by omega) (by omega) (by omega), Nat.add_sub_cancel, hv]
        rfl
      · have hb : (UInt8.ofNat (v / 262144 % 0x08 + 0xf0)).toNat = v / 262144 + 0xf0 := by
          rw [toNat_ofNat_of_lt (by omega)]
          omega
        refine ⟨_, _, rfl, front_of_lead? hb (lead?_four (by omega) (by omega)) ?_⟩
        have hv : 64 * (64 * (64 * (v / 262144) + v / 4096 % 0x40) + v / 64 % 0x40) + v % 0x40 =
            v := by omega
        rw [List.cons_append, List.cons_append, List.cons_append,
          follow_ofNat (by omega) (by split <;> omega) (by split <;> omega),
          follow_ofNat (by omega) (by omega) (by omega),
          follow_ofNat (by omega) (by omega) (by omega), Nat.add_sub_cancel, hv]
        rfl

theorem utf8EncodeChar_ofNat {v : Nat} (h : v.isValidChar) :
    String.utf8EncodeChar (Char.ofNat v) =
      if v ≤ 0x7F then [UInt8.ofNat v]
      else if v ≤ 0x7FF then
        [UInt8.ofNat (v / 64 % 0x20 + 0xC0), UInt8.ofNat (v % 0x40 + 0x80)]
      else if v ≤ 0xFFFF then
        [UInt8.ofNat (v / 4096 % 0x10 + 0xE0), UInt8.ofNat (v / 64 % 0x40 + 0x80),
          UInt8.ofNat (v % 0x40 + 0x80)]
      else
        [UInt8.ofNat (v / 262144 % 0x08 + 0xF0), UInt8.ofNat (v / 4096 % 0x40 + 0x80),
          UInt8.ofNat (v / 64 % 0x40 + 0x80), UInt8.ofNat (v % 0x40 + 0x80)] := by
  have hv : (Char.ofNat v).val.toNat = v := by
    rw [Char.ofNat, dif_pos h]
    rfl
  rw [String.utf8EncodeChar, hv]

section Lead

variable {b : UInt8} {bytes : List UInt8} {n k : Nat}

theorem bytes_of_follow_one (hb : b.toNat < 0x80)
    (h : follow b.toNat 0 [] bytes = (some n, k)) :
    b :: bytes = String.utf8EncodeChar (Char.ofNat n) ++ bytes.drop k := by
  obtain ⟨rfl, rfl⟩ := eq_of_follow_nil h
  rw [utf8EncodeChar_ofNat (.inl (by omega)), if_pos (by omega), UInt8.ofNat_toNat]
  rfl

theorem bytes_of_follow_two (hb : 0xC2 ≤ b.toNat) (hb' : b.toNat < 0xE0)
    (h : follow (b.toNat - 0xC0) 0 [(0x80, 0xBF)] bytes = (some n, k)) :
    b :: bytes = String.utf8EncodeChar (Char.ofNat n) ++ bytes.drop k := by
  obtain ⟨b₁, rest, rfl, hlo, hhi, h⟩ := exists_of_follow h
  obtain ⟨hn, rfl⟩ := eq_of_follow_nil h
  rw [utf8EncodeChar_ofNat (.inl (by omega)), if_neg (by omega), if_pos (by omega),
    ← eq_ofNat_of_toNat_eq (b := b) (by omega), ← eq_ofNat_of_toNat_eq (b := b₁) (by omega)]
  rfl

theorem bytes_of_follow_three (hb : 0xE0 ≤ b.toNat) (hb' : b.toNat < 0xF0)
    (h : follow (b.toNat - 0xE0) 0 [(if b.toNat = 0xE0 then 0xA0 else 0x80,
      if b.toNat = 0xED then 0x9F else 0xBF), (0x80, 0xBF)] bytes = (some n, k)) :
    b :: bytes = String.utf8EncodeChar (Char.ofNat n) ++ bytes.drop k := by
  obtain ⟨b₁, rest, rfl, hlo, hhi, h⟩ := exists_of_follow h
  obtain ⟨b₂, rest, rfl, hlo₂, hhi₂, h⟩ := exists_of_follow h
  obtain ⟨hn, rfl⟩ := eq_of_follow_nil h
  -- neither an overlong form nor a surrogate
  have hb₁ : 0x80 ≤ b₁.toNat ∧ b₁.toNat ≤ 0xBF ∧ (b.toNat = 0xE0 → 0xA0 ≤ b₁.toNat) ∧
      (b.toNat = 0xED → b₁.toNat ≤ 0x9F) := by
    split at hlo <;> split at hhi <;> omega
  have hvalid : n < 0xD800 ∨ 0xDFFF < n ∧ n < 0x110000 := by omega
  rw [utf8EncodeChar_ofNat hvalid, if_neg (by omega), if_neg (by omega), if_pos (by omega),
    ← eq_ofNat_of_toNat_eq (b := b) (by omega), ← eq_ofNat_of_toNat_eq (b := b₁) (by omega),
    ← eq_ofNat_of_toNat_eq (b := b₂) (by omega)]
  rfl

theorem bytes_of_follow_four (hb : 0xF0 ≤ b.toNat) (hb' : b.toNat ≤ 0xF4)
    (h : follow (b.toNat - 0xF0) 0 [(if b.toNat = 0xF0 then 0x90 else 0x80,
      if b.toNat = 0xF4 then 0x8F else 0xBF), (0x80, 0xBF), (0x80, 0xBF)] bytes = (some n, k)) :
    b :: bytes = String.utf8EncodeChar (Char.ofNat n) ++ bytes.drop k := by
  obtain ⟨b₁, rest, rfl, hlo, hhi, h⟩ := exists_of_follow h
  obtain ⟨b₂, rest, rfl, hlo₂, hhi₂, h⟩ := exists_of_follow h
  obtain ⟨b₃, rest, rfl, hlo₃, hhi₃, h⟩ := exists_of_follow h
  obtain ⟨hn, rfl⟩ := eq_of_follow_nil h
  -- neither an overlong form nor a number beyond the last character
  have hb₁ : 0x80 ≤ b₁.toNat ∧ b₁.toNat ≤ 0xBF ∧ (b.toNat = 0xF0 → 0x90 ≤ b₁.toNat) ∧
      (b.toNat = 0xF4 → b₁.toNat ≤ 0x8F) := by
    split at hlo <;> split at hhi <;> omega
  have hvalid : n < 0xD800 ∨ 0xDFFF < n ∧ n < 0x110000 := by omega
  rw [utf8EncodeChar_ofNat hvalid, if_neg (by omega), if_neg (by omega), if_neg (by omega),
    ← eq_ofNat_of_toNat_eq (b := b) (by omega), ← eq_ofNat_of_toNat_eq (b := b₁) (by omega),
    ← eq_ofNat_of_toNat_eq (b := b₂) (by omega), ← eq_ofNat_of_toNat_eq (b := b₃) (by omega)]
  rfl

theorem bytes_of_front {c : Char} (h : front b bytes = (some c, k)) :
    b :: bytes = String.utf8EncodeChar c ++ bytes.drop k := by
  obtain ⟨value, ranges, n, hl, hf, rfl⟩ := exists_of_front h
  have hcases : b.toNat < 0x80 ∨ (0x80 ≤ b.toNat ∧ b.toNat < 0xC2 ∨ 0xF4 < b.toNat) ∨
      (0xC2 ≤ b.toNat ∧ b.toNat < 0xE0) ∨ (0xE0 ≤ b.toNat ∧ b.toNat < 0xF0) ∨
      (0xF0 ≤ b.toNat ∧ b.toNat ≤ 0xF4) := by omega
  rcases hcases with hb | hb | ⟨hb, hb'⟩ | ⟨hb, hb'⟩ | ⟨hb, hb'⟩
  · obtain ⟨rfl, rfl⟩ := Prod.mk.inj (Option.some.inj ((lead?_one hb).symm.trans hl))
    exact bytes_of_follow_one hb hf
  · cases (lead?_none hb).symm.trans hl
  · obtain ⟨rfl, rfl⟩ := Prod.mk.inj (Option.some.inj ((lead?_two hb hb').symm.trans hl))
    exact bytes_of_follow_two hb hb' hf
  · obtain ⟨rfl, rfl⟩ := Prod.mk.inj (Option.some.inj ((lead?_three hb hb').symm.trans hl))
    exact bytes_of_follow_three hb hb' hf
  · obtain ⟨rfl, rfl⟩ := Prod.mk.inj (Option.some.inj ((lead?_four hb hb').symm.trans hl))
    exact bytes_of_follow_four hb hb' hf

end Lead

theorem scan_encode (t : Text) : scan (encode t) = t.map some := by
  induction t with
  | nil => rw [encode, List.flatMap_nil, scan, List.map_nil]
  | cons c t ih =>
    obtain ⟨b, bytes, hb, hf⟩ := front_utf8EncodeChar c (encode t)
    have he : encode (c :: t) = b :: (bytes ++ encode t) := by
      rw [encode, List.flatMap_cons, hb, List.cons_append]
      rfl
    rw [he, scan, hf, List.drop_left, ih, List.map_cons]

theorem encode_of_scan {bytes : List UInt8} {t : Text} (h : scan bytes = t.map some) :
    encode t = bytes := by
  induction bytes using scan.induct generalizing t with
  | case1 =>
    rw [scan] at h
    rw [List.map_eq_nil_iff.mp h.symm]
    rfl
  | case2 b bytes ih =>
    rw [scan] at h
    obtain ⟨c, u, rfl, hc, hu⟩ := List.map_eq_cons_iff.mp h.symm
    have hfront : front b bytes = (some c, (front b bytes).2) := Prod.ext hc.symm rfl
    rw [bytes_of_front hfront, ← ih hu.symm]
    rfl

theorem mapM_id_eq_some_iff {l : List (Option Char)} {t : Text} :
    l.mapM id = some t ↔ l = t.map some := by
  induction l generalizing t with
  | nil =>
    rw [List.mapM_nil, eq_comm (a := []), List.map_eq_nil_iff]
    exact ⟨fun h ↦ (Option.some.inj h).symm, fun h ↦ congrArg some h.symm⟩
  | cons c? l ih =>
    rw [List.mapM_cons, eq_comm (a := c? :: l), List.map_eq_cons_iff]
    constructor
    · intro h
      obtain ⟨c, hc, h⟩ := Option.bind_eq_some_iff.mp h
      obtain ⟨u, hu, h⟩ := Option.bind_eq_some_iff.mp h
      cases h
      exact ⟨c, u, rfl, hc.symm, (ih.mp hu).symm⟩
    · intro h
      obtain ⟨c, u, rfl, rfl, hu⟩ := h
      rw [ih.mpr hu.symm]
      rfl

/-- Bytes are read as a text exactly when they are the bytes of that text. -/
theorem decode?_eq_some_iff {bytes : List UInt8} {t : Text} :
    decode? bytes = some t ↔ bytes = encode t := by
  rw [decode?, mapM_id_eq_some_iff]
  constructor
  · intro h
    exact (encode_of_scan h).symm
  · intro h
    rw [h, scan_encode]

theorem decode?_encode (t : Text) : decode? (encode t) = some t := decode?_eq_some_iff.mpr rfl

end StatementView.Text
