import StatementView.Proofs.Clause.Backtracking

namespace StatementView.Clause

open Text (SameLetters sameLetters_cons isBlank Begins begins_cons)

/-- The first keyword can only stand behind all blanks at the front. -/
theorem skipBlanks_eq {α : Type} {accept : Text → Option α} (t : Text)
    (h : ∀ c u, isBlank c = true → accept (c :: u) = none) :
    skipBlanks accept t = accept (t.dropWhile isBlank) := by
  induction t with
  | nil => rfl
  | cons c t ih =>
    rw [skipBlanks]
    by_cases hc : isBlank c = true
    · rw [if_pos hc, List.dropWhile_cons_of_pos hc, ih, h c t hc]
      cases accept (t.dropWhile isBlank) with
      | none => rfl
      | some answer => rfl
    · rw [if_neg hc, List.dropWhile_cons_of_neg hc]

namespace Placement

theorem fits_iff {r : Placement} {k : Text} {keywords : List Text} :
    r.Fits (k :: keywords) ↔
      (∀ c ∈ r.lead, isBlank c = true) ∧ SameLetters k r.word ∧
        FitsBehind keywords r.later r.blank := by
  constructor
  · intro h
    obtain ⟨hw, hws⟩ := List.forall₂_cons.mp h.words
    exact ⟨h.lead, hw, hws, h.blanks, h.blank⟩
  · intro h
    obtain ⟨hl, hw, hf⟩ := h
    exact ⟨hl, .cons hw hf.words, hf.blanks, hf.blank⟩

theorem fits_upper {r : Placement} {keywords : List Text} :
    r.Fits (keywords.map Text.upper) ↔ r.Fits keywords := by
  have h : List.Forall₂ SameLetters (keywords.map Text.upper) r.words ↔
      List.Forall₂ SameLetters keywords r.words := by
    rw [List.forall₂_map_left_iff]
    simp only [Text.sameLetters_upper]
  constructor
  · intro hr
    exact ⟨hr.lead, h.mp hr.words, hr.blanks, hr.blank⟩
  · intro hr
    exact ⟨hr.lead, h.mpr hr.words, hr.blanks, hr.blank⟩

end Placement

theorem not_begins_isBlank {c : Char} {k w : Text} (hc : isBlank c = false)
    (h : SameLetters (c :: k) w) (t : Text) : ¬ Begins isBlank (w ++ t) := by
  obtain ⟨d, v, rfl, hd, -⟩ := sameLetters_cons.mp h
  rw [List.cons_append, begins_cons, ← Text.isBlank_fold, ← hd, Text.isBlank_fold, hc]
  exact Bool.false_ne_true

namespace Pattern

variable {c : Char} {k : Text} {keywords : List Text} {t : Text}

theorem mem_ways_iff {gs : List Text} :
    gs ∈ (Pattern.mk (k :: keywords)).ways t ↔
      ∃ r : Placement, r.Fits (k :: keywords) ∧ r.text = t ∧
        gs = r.later.map Later.gap ++ [r.tail] := by
  simp only [ways, List.mem_flatMap, Option.mem_toList, mem_leads_iff, afterKeyword?_eq_some_iff,
    Clause.mem_ways_iff]
  constructor
  · intro h
    obtain ⟨u, ⟨lead, hl, rfl⟩, rest, ⟨w, rfl, hw⟩, later, blank, tail, hf, rfl, rfl⟩ := h
    exact ⟨⟨lead, w, later, blank, tail⟩, Placement.fits_iff.mpr ⟨hl, hw, hf⟩,
      List.append_assoc .., rfl⟩
  · intro h
    obtain ⟨r, hr, rfl, rfl⟩ := h
    obtain ⟨hl, hw, hf⟩ := Placement.fits_iff.mp hr
    exact ⟨r.word ++ behind r.later r.blank r.tail, ⟨r.lead, hl, List.append_assoc ..⟩,
      behind r.later r.blank r.tail, ⟨r.word, rfl, hw⟩, r.later, r.blank, r.tail, hf, rfl, rfl⟩

theorem isSome_gaps?_iff :
    ((Pattern.mk (k :: keywords)).gaps? t).isSome ↔
      ∃ r : Placement, r.Fits (k :: keywords) ∧ r.text = t := by
  rw [← head?_ways, List.isSome_head?]
  constructor
  · intro h
    obtain ⟨gs, hg⟩ := List.exists_mem_of_ne_nil _ h
    obtain ⟨r, hr, ht, -⟩ := mem_ways_iff.mp hg
    exact ⟨r, hr, ht⟩
  · intro h
    obtain ⟨r, hr, ht⟩ := h
    exact List.ne_nil_of_mem (mem_ways_iff.mpr ⟨r, hr, ht, rfl⟩)

theorem gaps?_cons (hc : isBlank c = false) (t : Text) :
    (Pattern.mk ((c :: k) :: keywords)).gaps? t =
      (afterKeyword? (c :: k) (t.dropWhile isBlank)).bind (Clause.gaps? keywords) := by
  rw [gaps?]
  apply skipBlanks_eq
  intro d u hd
  have h : afterKeyword? (c :: k) (d :: u) = none := by
    apply Option.eq_none_iff_forall_ne_some.mpr
    intro rest hr
    obtain ⟨w, hw, hk⟩ := afterKeyword?_eq_some_iff.mp hr
    have hb := not_begins_isBlank hc hk rest
    rw [← hw, begins_cons] at hb
    exact hb hd
  rw [h, Option.bind_none]

theorem exists_placement_of_gaps? {gs : List Text} (hc : isBlank c = false)
    (h : (Pattern.mk ((c :: k) :: keywords)).gaps? t = some gs) :
    ∃ r : Placement, r.Earliest ((c :: k) :: keywords) t ∧
      gs = r.later.map Later.gap ++ [r.tail] := by
  rw [gaps?_cons hc] at h
  obtain ⟨rest, hk, hg⟩ := Option.bind_eq_some_iff.mp h
  obtain ⟨w, hdrop, hw⟩ := afterKeyword?_eq_some_iff.mp hk
  obtain ⟨later, blank, tail, hf, hrest, rfl, hearly⟩ := exists_of_gaps? hg
  have hlead : ∀ d ∈ t.takeWhile isBlank, isBlank d = true := fun d hd ↦ List.mem_takeWhile_imp hd
  refine ⟨⟨t.takeWhile isBlank, w, later, blank, tail⟩,
    ⟨Placement.fits_iff.mpr ⟨hlead, hw, hf⟩, ?_, ?_⟩, rfl⟩
  · rw [Placement.text, hrest, List.append_assoc, ← hdrop, List.takeWhile_append_dropWhile]
  · intro r' hr' ht
    subst ht
    -- a keyword begins with no blank, so every placement has all the blanks at the front
    obtain ⟨hl', hw', hf'⟩ := Placement.fits_iff.mp hr'
    have hb := not_begins_isBlank hc hw' (behind r'.later r'.blank r'.tail)
    rw [Placement.text, List.append_assoc] at hdrop ⊢
    rw [Text.dropWhile_run hl' hb] at hdrop
    rw [Text.takeWhile_run hl' hb]
    have hlen := hw'.length_eq.symm.trans hw.length_eq
    obtain ⟨-, hbehind⟩ := List.append_inj hdrop hlen
    have hs : behind r'.later r'.blank r'.tail <:+ rest := hbehind ▸ List.suffix_refl rest
    simp only [Placement.starts]
    exact .cons le_rfl (hearly _ _ _ _ _ hf' hs (by rw [hbehind, hlen]))

end Pattern

theorem trim_cons_of_isBlank {c : Char} (h : isBlank c = true) (t : Text) :
    Text.trim (c :: t) = Text.trim t := by
  rw [Text.trim, Text.trimStart, List.dropWhile_cons_of_pos h]
  rfl

theorem map_keyword_zipWith {keywords gs : List Text} (h : keywords.length = gs.length) :
    (List.zipWith (fun k gap ↦ Capture.mk k (Text.trim gap)) keywords gs).map Capture.keyword =
      keywords := by
  have hz := List.map_fst_zip h.le
  rw [List.zip, List.map_zipWith] at hz
  rw [List.map_zipWith]
  exact hz

theorem map_value_zipWith {keywords gs : List Text} (h : keywords.length = gs.length) :
    (List.zipWith (fun k gap ↦ Capture.mk k (Text.trim gap)) keywords gs).map Capture.value =
      gs.map Text.trim := by
  have hz := congrArg (List.map Text.trim) (List.map_snd_zip h.ge)
  rw [List.zip, List.map_zipWith, List.map_zipWith] at hz
  rw [List.map_zipWith]
  exact hz

theorem exists_placement_of_captures? {c : Char} {k : Text} {keywords : List Text} {t : Text}
    {captures : List Capture} (hc : isBlank c = false)
    (h : (Pattern.ofKeywords ((c :: k) :: keywords)).captures? t = some captures) :
    ∃ r : Placement, r.Earliest ((c :: k) :: keywords) t ∧
      captures.map Capture.keyword = ((c :: k) :: keywords).map Text.upper ∧
      captures.map Capture.value = r.gaps.map Text.trim := by
  obtain ⟨gs, hg, rfl⟩ := Option.map_eq_some_iff.mp h
  obtain ⟨r, hr, rfl⟩ := Pattern.exists_placement_of_gaps? ((Text.isBlank_toUpper c).trans hc) hg
  have hupper (r' : Placement) :
      r'.Fits (((c :: k) :: keywords).map Text.upper) ↔ r'.Fits ((c :: k) :: keywords) :=
    Placement.fits_upper
  have hlen : (((c :: k) :: keywords).map Text.upper).length =
      (r.later.map Later.gap ++ [r.tail]).length := by
    simpa [Placement.words] using hr.fits.words.length_eq
  have htail : r.gaps.map Text.trim = (r.later.map Later.gap ++ [r.tail]).map Text.trim := by
    rw [Placement.gaps, List.map_append, List.map_append, List.map_singleton, List.map_singleton,
      trim_cons_of_isBlank hr.fits.blank]
  have hearliest : r.Earliest ((c :: k) :: keywords) t := by
    refine ⟨(hupper r).mp hr.fits, hr.text_eq, ?_⟩
    intro r' hr' ht
    exact hr.starts_le r' ((hupper r').mpr hr') ht
  refine ⟨r, hearliest, map_keyword_zipWith hlen, ?_⟩
  rw [htail]
  exact map_value_zipWith hlen

theorem isSome_captures?_iff {k : Text} {keywords : List Text} {t : Text} :
    ((Pattern.ofKeywords (k :: keywords)).captures? t).isSome ↔
      ∃ r : Placement, r.Fits (k :: keywords) ∧ r.text = t := by
  have hupper (r : Placement) :
      r.Fits ((k :: keywords).map Text.upper) ↔ r.Fits (k :: keywords) := Placement.fits_upper
  rw [Pattern.captures?, Option.isSome_map, Pattern.ofKeywords]
  refine (Pattern.isSome_gaps?_iff).trans ?_
  exact exists_congr fun r ↦ and_congr_left fun _ ↦ hupper r

/-- A pattern matches a text exactly when its keywords fit there, and it then reports the placement
where each of them stands as early as in any other. The captured values are the gaps of that
placement less the blanks at their ends, so that nothing else of the text is dropped. A matcher that
goes back and prefers short gaps finds the same gaps first. -/
theorem captures?_earliest_placement (c : Char) (k : Text) (keywords : List Text)
    (hc : isBlank c = false) (t : Text) :
    (((Pattern.ofKeywords ((c :: k) :: keywords)).captures? t).isSome ↔
      ∃ r : Placement, r.Fits ((c :: k) :: keywords) ∧ r.text = t) ∧
    (∀ captures, (Pattern.ofKeywords ((c :: k) :: keywords)).captures? t = some captures →
      ∃ r : Placement, r.Earliest ((c :: k) :: keywords) t ∧
        captures.map Capture.keyword = ((c :: k) :: keywords).map Text.upper ∧
        captures.map Capture.value = r.gaps.map Text.trim ∧
        ∀ gap ∈ r.gaps, ∃ front back : Text, (∀ d ∈ front, isBlank d = true) ∧
          (∀ d ∈ back, isBlank d = true) ∧ gap = front ++ gap.trim ++ back) ∧
    (Pattern.ofKeywords ((c :: k) :: keywords)).gaps? t =
      ((Pattern.ofKeywords ((c :: k) :: keywords)).ways t).head? := by
  refine ⟨isSome_captures?_iff, fun captures h ↦ ?_, (Pattern.head?_ways _ t).symm⟩
  obtain ⟨r, hr, hk, hv⟩ := exists_placement_of_captures? hc h
  exact ⟨r, hr, hk, hv, fun gap _ ↦ Text.exists_trim gap⟩

theorem earliest_placement_repeated :
    isBlank 'S' = false ∧
      ∃ r : Placement, r.Earliest ["SELECT".toList, "FROM".toList] " select from\tFROM\nb".toList ∧
        r.gaps.map Text.trim = [[], "FROM\nb".toList] := by
  have hs : isBlank 'S' = false := by decide
  obtain ⟨r, hr, -, hv, -⟩ := (captures?_earliest_placement 'S' "ELECT".toList ["FROM".toList] hs
    " select from\tFROM\nb".toList).2.1
      [⟨"SELECT".toList, []⟩, ⟨"FROM".toList, "FROM\nb".toList⟩] (by rfl)
  exact ⟨hs, r, hr, hv.symm⟩

end StatementView.Clause
