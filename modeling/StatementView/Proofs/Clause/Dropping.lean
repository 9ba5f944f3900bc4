import StatementView.Proofs.Clause.Matching
import StatementView.Proofs.Text.Trimming

namespace StatementView.Clause

open Text (isBlank)

def Later.absorb (l next : Later) : Later := ⟨l.text ++ next.gap, next.blank, next.word⟩

theorem behind_absorb (l next : Later) (later : List Later) (blank : Char) (tail : Text) :
    behind (l.absorb next :: later) blank tail = behind (l :: next :: later) blank tail := by
  rw [behind_cons, behind_cons, behind_cons, Later.absorb, Later.text]
  simp only [List.append_assoc, List.cons_append]

section Behind

variable {keywords kept : List Text} {later later' : List Later} {blank blank' : Char}
  {tail tail' : Text}

theorem exists_fitsBehind_of_cons {k : Text} (hne : keywords ≠ [])
    (h : FitsBehind (k :: keywords) later blank) (tail : Text) :
    ∃ later', FitsBehind keywords later' blank ∧
      behind later' blank tail = behind later blank tail := by
  obtain ⟨l, rest, rfl, -, -, hrest⟩ := fitsBehind_cons.mp h
  obtain ⟨k', keywords, rfl⟩ := List.exists_cons_of_ne_nil hne
  obtain ⟨next, later, rfl, hw, hb, hf⟩ := fitsBehind_cons.mp hrest
  exact ⟨l.absorb next :: later, fitsBehind_cons.mpr ⟨_, _, rfl, hw, hb, hf⟩, behind_absorb ..⟩

theorem exists_fitsBehind_of_sublist {last : Text} (hs : kept.Sublist keywords)
    (h : FitsBehind (keywords ++ [last]) later blank) (tail : Text) :
    ∃ later', FitsBehind (kept ++ [last]) later' blank ∧
      behind later' blank tail = behind later blank tail := by
  induction hs generalizing later with
  | slnil => exact ⟨later, h, rfl⟩
  | cons k hs ih =>
    obtain ⟨later₁, hf₁, ht₁⟩ := exists_fitsBehind_of_cons (by simp) h tail
    obtain ⟨later', hf, ht⟩ := ih hf₁
    exact ⟨later', hf, ht.trans ht₁⟩
  | cons_cons k hs ih =>
    obtain ⟨l, rest, rfl, hw, hb, hrest⟩ := fitsBehind_cons.mp h
    obtain ⟨later', hf, ht⟩ := ih hrest
    refine ⟨l :: later', fitsBehind_cons.mpr ⟨l, later', rfl, hw, hb, hf⟩, ?_⟩
    rw [behind_cons, behind_cons, ht]

/-- Of two ways in which keywords fit one text, the one where they stand earlier leaves more behind
the last one. -/
theorem length_tail_le (hf : FitsBehind keywords later blank)
    (hf' : FitsBehind keywords later' blank') {n n' : Nat} (hle : n ≤ n')
    (hs : List.Forall₂ (· ≤ ·) (startsFrom n later) (startsFrom n' later'))
    (hlen : n + (behind later blank tail).length = n' + (behind later' blank' tail').length) :
    tail'.length ≤ tail.length := by
  induction keywords generalizing later later' n n' with
  | nil =>
    obtain ⟨rfl, -⟩ := fitsBehind_nil.mp hf
    obtain ⟨rfl, -⟩ := fitsBehind_nil.mp hf'
    simp only [behind, List.flatMap_nil, List.nil_append, List.length_cons] at hlen
    omega
  | cons k keywords ih =>
    obtain ⟨l, rest, rfl, hw, -, hr⟩ := fitsBehind_cons.mp hf
    obtain ⟨l', rest', rfl, hw', -, hr'⟩ := fitsBehind_cons.mp hf'
    -- both words are as long as the keyword
    have hwords : l.word.length = l'.word.length := hw.length_eq.symm.trans hw'.length_eq
    obtain ⟨hstart, hstarts⟩ := List.forall₂_cons.mp hs
    rw [behind_cons, behind_cons] at hlen
    simp only [List.length_append, List.length_cons] at hlen
    exact ih hr hr' (by omega) hstarts (by omega)

end Behind

namespace Placement

variable {r r' : Placement} {k last : Text} {keywords kept : List Text} {t : Text}

theorem tail_suffix (r : Placement) : r.tail <:+ r.text :=
  ⟨r.lead ++ r.word ++ (r.later.flatMap Later.text ++ [r.blank]), by simp [text, behind]⟩

theorem Fits.exists_of_sublist (h : r.Fits (k :: (keywords ++ [last])))
    (hs : kept.Sublist keywords) :
    ∃ r' : Placement, r'.Fits (k :: (kept ++ [last])) ∧ r'.text = r.text ∧ r'.tail = r.tail := by
  obtain ⟨hlead, hw, hf⟩ := fits_iff.mp h
  obtain ⟨later', hf', ht⟩ := exists_fitsBehind_of_sublist hs hf r.tail
  refine ⟨⟨r.lead, r.word, later', r.blank, r.tail⟩, fits_iff.mpr ⟨hlead, hw, hf'⟩, ?_, rfl⟩
  rw [text, text, ht]

theorem Earliest.tail_suffix (h : r.Earliest (k :: keywords) t) (hf : r'.Fits (k :: keywords))
    (ht : r'.text = t) : r'.tail <:+ r.tail := by
  obtain ⟨-, hw, hb⟩ := fits_iff.mp h.fits
  obtain ⟨-, hw', hb'⟩ := fits_iff.mp hf
  have hwords : r.word.length = r'.word.length := hw.length_eq.symm.trans hw'.length_eq
  obtain ⟨hlead, hstarts⟩ := List.forall₂_cons.mp (h.starts_le r' hf ht)
  have hlen := congrArg List.length (h.text_eq.trans ht.symm)
  simp only [text, List.length_append] at hlen
  have hle : r'.tail.length ≤ r.tail.length :=
    length_tail_le hb hb' (by omega) hstarts (by omega)
  have hsuffix : r'.tail <:+ t := ht ▸ r'.tail_suffix
  exact List.suffix_of_suffix_length_le hsuffix (h.text_eq ▸ r.tail_suffix) hle

end Placement

theorem getLast?_captures (keywords : List Text) {captures : List Capture} {last : Text}
    {r : Placement} (hk : captures.map Capture.keyword = (keywords ++ [last]).map Text.upper)
    (hv : captures.map Capture.value = r.gaps.map Text.trim) (hb : isBlank r.blank = true) :
    captures.getLast? = some ⟨last.upper, r.tail.trim⟩ := by
  have hkeyword := congrArg List.getLast? hk
  have hvalue := congrArg List.getLast? hv
  rw [Placement.gaps] at hvalue
  simp only [List.getLast?_map, List.getLast?_concat, Option.map_some] at hkeyword hvalue
  obtain ⟨x, hx, hxk⟩ := Option.map_eq_some_iff.mp hkeyword
  rw [hx, Option.map_some, trim_cons_of_isBlank hb] at hvalue
  rw [hx, ← hxk, ← Option.some.inj hvalue]

/-- A pattern with two keywords or more still matches when some between the first and the last one
are dropped, and the last keyword then governs the same text or more in front of it. -/
theorem isMatch_of_fewer_keywords (c : Char) (k : Text) (keywords : List Text) (last : Text)
    (hc : isBlank c = false) (kept : List Text) (hs : kept.Sublist keywords) (t : Text)
    (h : (Pattern.ofKeywords ((c :: k) :: (keywords ++ [last]))).isMatch t = true) :
    (Pattern.ofKeywords ((c :: k) :: (kept ++ [last]))).isMatch t = true ∧
      ∃ captures captures' x y,
        (Pattern.ofKeywords ((c :: k) :: (keywords ++ [last]))).captures? t = some captures ∧
        (Pattern.ofKeywords ((c :: k) :: (kept ++ [last]))).captures? t = some captures' ∧
        captures.getLast? = some ⟨last.upper, x⟩ ∧ captures'.getLast? = some ⟨last.upper, y⟩ ∧
        x <:+ y := by
  have hisMatch (p : Pattern) : p.isMatch t = (p.captures? t).isSome := Option.isSome_map.symm
  rw [hisMatch] at h
  obtain ⟨captures, hcaptures⟩ := Option.isSome_iff_exists.mp h
  obtain ⟨r, hr, hk, hv⟩ := exists_placement_of_captures? hc hcaptures
  -- the placement of all keywords shows that those left fit the text, if not where they are found
  obtain ⟨dropped, hdropped, ht, htail⟩ := hr.fits.exists_of_sublist hs
  have htext := ht.trans hr.text_eq
  have hmatch : ((Pattern.ofKeywords ((c :: k) :: (kept ++ [last]))).captures? t).isSome :=
    isSome_captures?_iff.mpr ⟨dropped, hdropped, htext⟩
  obtain ⟨captures', hcaptures'⟩ := Option.isSome_iff_exists.mp hmatch
  obtain ⟨r', hr', hk', hv'⟩ := exists_placement_of_captures? hc hcaptures'
  have hsuffix : r.tail <:+ r'.tail := htail ▸ hr'.tail_suffix hdropped htext
  refine ⟨(hisMatch _).trans hmatch, captures, captures', r.tail.trim, r'.tail.trim, hcaptures,
    hcaptures', ?_, ?_, Text.trim_suffix hsuffix⟩
  · exact getLast?_captures ((c :: k) :: keywords) hk hv hr.fits.blank
  · exact getLast?_captures ((c :: k) :: kept) hk' hv' hr'.fits.blank

theorem isMatch_of_fewer_keywords_limit :
    isBlank 'S' = false ∧ ["FROM".toList].Sublist ["FROM".toList, "WHERE".toList] ∧
      (Pattern.ofKeywords ["SELECT".toList, "FROM".toList, "WHERE".toList, "LIMIT".toList]).isMatch
        "select a from t limit 1 where x limit 2 ".toList = true ∧
      (Pattern.ofKeywords ["SELECT".toList, "FROM".toList, "LIMIT".toList]).isMatch
        "select a from t limit 1 where x limit 2 ".toList = true ∧
      "2".toList <:+ "1 where x limit 2".toList := by
  have hs : isBlank 'S' = false := by decide
  have hsublist : ["FROM".toList].Sublist ["FROM".toList, "WHERE".toList] := by decide
  have hmatch : (Pattern.ofKeywords ["SELECT".toList, "FROM".toList, "WHERE".toList,
      "LIMIT".toList]).isMatch "select a from t limit 1 where x limit 2 ".toList = true := by rfl
  have hall : (Pattern.ofKeywords ["SELECT".toList, "FROM".toList, "WHERE".toList,
      "LIMIT".toList]).captures? "select a from t limit 1 where x limit 2 ".toList =
      some [⟨"SELECT".toList, "a".toList⟩, ⟨"FROM".toList, "t limit 1".toList⟩,
        ⟨"WHERE".toList, "x".toList⟩, ⟨"LIMIT".toList, "2".toList⟩] := by rfl
  have hkept : (Pattern.ofKeywords ["SELECT".toList, "FROM".toList, "LIMIT".toList]).captures?
      "select a from t limit 1 where x limit 2 ".toList =
      some [⟨"SELECT".toList, "a".toList⟩, ⟨"FROM".toList, "t".toList⟩,
        ⟨"LIMIT".toList, "1 where x limit 2".toList⟩] := by rfl
  obtain ⟨hfewer, captures, captures', x, y, hx, hy, hlast, hlast', hsuffix⟩ :=
    isMatch_of_fewer_keywords 'S' "ELECT".toList ["FROM".toList, "WHERE".toList] "LIMIT".toList hs
      ["FROM".toList] hsublist "select a from t limit 1 where x limit 2 ".toList hmatch
  cases hall.symm.trans hx
  cases hkept.symm.trans hy
  cases hlast
  cases hlast'
  exact ⟨hs, hsublist, hmatch, hfewer, hsuffix⟩

end StatementView.Clause
