import StatementView.Proofs.Clause.Position
import StatementView.Proofs.Summary.Length
import StatementView.Proofs.Summary.Shape

namespace StatementView.Summary

open Clause (Pattern slice)
open Text (isBlank trim)

def IsLineBreak (b : Char) : Prop := b = '\n' ∨ b = '\r'

theorem IsLineBreak.isBlank {b : Char} (h : IsLineBreak b) : Text.isBlank b = true := by
  rcases h with rfl | rfl <;> decide

theorem IsLineBreak.ne_space {b : Char} (h : IsLineBreak b) : b ≠ ' ' := by
  rcases h with rfl | rfl <;> decide

theorem IsLineBreak.not_mem_keyword {b : Char} (h : IsLineBreak b) {f : Family} {k : Text}
    (hk : k ∈ f.vocabulary.keywords) : b ∉ k := by
  have hall : ∀ k ∈ f.vocabulary.keywords, '\n' ∉ k ∧ '\r' ∉ k := by
    cases f <;> decide
  obtain ⟨hfeed, hreturn⟩ := hall k hk
  rcases h with rfl | rfl
  · exact hfeed
  · exact hreturn

section Shrink

variable {b : Char} {share width : Nat} {marker : Text} {captures : List Capture}

theorem mem_shorten_iff (hb : isBlank b = true) (hm : b ∉ marker) (value : Text) :
    b ∈ shorten share marker value ↔ b ∈ kept share value := by
  have hmark : b ∉ (if value.length > share then marker else []) := by
    split
    · exact hm
    · exact List.not_mem_nil
  rw [shorten_eq, List.mem_append, Literal.mem_escape_iff hb, or_iff_left hmark]

theorem mem_part_iff (hb : isBlank b = true) (hs : b ≠ ' ') (hm : b ∉ marker) {c : Capture}
    (hk : b ∉ c.keyword) : b ∈ part share marker c ↔ b ∈ kept share c.value := by
  rw [← mem_shorten_iff hb hm]
  simp only [part]
  split
  · next hnil =>
    rw [List.isEmpty_iff.mp hnil]
    exact iff_of_false hk List.not_mem_nil
  · rw [List.mem_append, or_iff_right hk, List.mem_cons, or_iff_right hs]

theorem mem_kept_of_mem_shrink (hb : isBlank b = true) (hs : b ≠ ' ') (hm : b ∉ marker)
    (hk : ∀ c ∈ captures, b ∉ c.keyword) (h : b ∈ shrink width marker captures) :
    ∃ c ∈ captures, b ∈ kept (budget width captures.length) c.value := by
  rcases Text.mem_of_mem_join ((Text.trim_infix _).subset h) with hblank | ⟨t, ht, hbt⟩
  · exact absurd (List.mem_singleton.mp hblank) hs
  · obtain ⟨c, hc, rfl⟩ := List.mem_map.mp ht
    exact ⟨c, hc, (mem_part_iff hb hs hm (hk c hc)).mp hbt⟩

theorem escape_kept_infix_part (share : Nat) (marker : Text) (c : Capture) :
    Literal.escape (kept share c.value) <:+: part share marker c := by
  have hshorten : Literal.escape (kept share c.value) <:+: shorten share marker c.value := by
    rw [shorten_eq]
    exact (List.prefix_append _ _).isInfix
  simp only [part]
  split
  · next hnil =>
    rw [List.isEmpty_iff.mp hnil] at hshorten
    exact hshorten.trans (List.nil_infix)
  · exact hshorten.trans ((List.suffix_cons _ _).trans (List.suffix_append _ _)).isInfix

theorem mem_shrink_of_mem_kept (hb : isBlank b = true) {c : Capture} (hc : c ∈ captures)
    (h : b ∈ trim (kept (budget width captures.length) c.value)) :
    b ∈ shrink width marker captures := by
  have hescape := (Literal.mem_escape_iff hb).mpr h
  have hinfix : Literal.escape (trim (kept (budget width captures.length) c.value)) <:+:
      Text.join [' '] (captures.map (part (budget width captures.length) marker)) := by
    rw [← Literal.trim_escape]
    exact (Text.trim_infix _).trans ((escape_kept_infix_part _ marker c).trans
      (Text.infix_join _ (List.mem_map_of_mem hc)))
  have htrim : trim (Literal.escape (trim (kept (budget width captures.length) c.value))) =
      Literal.escape (trim (kept (budget width captures.length) c.value)) := by
    rw [Literal.trim_escape, Text.trim_trim]
  exact (Text.infix_trim (List.ne_nil_of_mem hescape) htrim hinfix).subset hescape

end Shrink

section Matched

variable {t : Text} {family : Family} {pattern : Pattern} {captures : List Capture}

theorem captures_of_find (h : find t = .matched family pattern captures) :
    ∀ c ∈ captures, c.keyword ∈ family.vocabulary.keywords ∧ trim c.value = c.value ∧
      c.value <:+: t := by
  have hfirst := firstMatch?_of_find h
  obtain ⟨r, hr, hk, hv⟩ := Family.exists_placement_of_firstMatch? hfirst
  have hsub := Family.sublist_of_firstMatch? hfirst
  intro c hc
  have hvalue : c.value ∈ captures.map Capture.value := List.mem_map_of_mem hc
  refine ⟨hsub.subset (hk ▸ List.mem_map_of_mem hc), ?_, ?_⟩
  · rw [hv] at hvalue
    obtain ⟨gap, -, hgap⟩ := List.mem_map.mp hvalue
    rw [← hgap, Text.trim_trim]
  · rw [hv, ← r.map_slice_spans, hr.text_eq] at hvalue
    obtain ⟨s, -, hs⟩ := List.mem_map.mp hvalue
    rw [← hs]
    exact (List.take_prefix _ _).isInfix.trans (List.drop_suffix _ _).isInfix

end Matched

/-- Under a marker without line breaks the breaks of a summary come from the statement. One that is
cut to the width keeps those at its front. One that is shown clause by clause keeps the line feeds
of the values that fit their share and no others; a carriage return is kept wherever it stands
between the ends of what is shown of a value. A statement on one line has a summary on one line. -/
theorem summarize_line_breaks (s : Settings) (t : Text)
    (hm : ∀ b, IsLineBreak b → b ∉ s.marker) :
    ((∀ family pattern captures, find t ≠ .matched family pattern captures) →
      s.summarize t = t.take s.width) ∧
    (∀ family pattern captures, find t = .matched family pattern captures →
      ('\n' ∈ s.summarize t ↔
        ∃ c ∈ captures, c.value.length ≤ budget s.width captures.length ∧ '\n' ∈ c.value) ∧
      ∀ b, IsLineBreak b →
        (b ∈ s.summarize t → ∃ c ∈ captures, b ∈ kept (budget s.width captures.length) c.value) ∧
        ((∃ c ∈ captures, b ∈ trim (kept (budget s.width captures.length) c.value)) →
          b ∈ s.summarize t)) ∧
    ((∀ b, IsLineBreak b → b ∉ t) → ∀ b, IsLineBreak b → b ∉ s.summarize t) := by
  have hfrom {family : Family} {pattern : Pattern} {captures : List Capture}
      (h : find t = .matched family pattern captures) {b : Char} (hb : IsLineBreak b)
      (hmem : b ∈ s.summarize t) :
      ∃ c ∈ captures, b ∈ kept (budget s.width captures.length) c.value := by
    rw [summarize_of_find s h] at hmem
    exact mem_kept_of_mem_shrink hb.isBlank hb.ne_space (hm b hb)
      (fun c hc ↦ hb.not_mem_keyword (captures_of_find h c hc).1) hmem
  have hto {family : Family} {pattern : Pattern} {captures : List Capture}
      (h : find t = .matched family pattern captures) {b : Char} (hb : IsLineBreak b)
      (hmem : ∃ c ∈ captures, b ∈ trim (kept (budget s.width captures.length) c.value)) :
      b ∈ s.summarize t := by
    obtain ⟨c, hc, hbc⟩ := hmem
    rw [summarize_of_find s h]
    exact mem_shrink_of_mem_kept hb.isBlank hc hbc
  refine ⟨summarize_of_unmatched s, ?_, ?_⟩
  · intro family pattern captures h
    refine ⟨⟨?_, ?_⟩, fun b hb ↦ ⟨hfrom h hb, hto h hb⟩⟩
    · intro hmem
      obtain ⟨c, hc, hfeed⟩ := hfrom h (.inl rfl) hmem
      -- a value that is cut has lost its first line feed and all behind it
      by_cases hlong : c.value.length > budget s.width captures.length
      · rw [kept, if_pos hlong] at hfeed
        exact absurd hfeed (newline_not_mem_firstLine _ _)
      · rw [kept, if_neg hlong] at hfeed
        exact ⟨c, hc, Nat.not_lt.mp hlong, hfeed⟩
    · rintro ⟨c, hc, hshort, hfeed⟩
      refine hto h (.inl rfl) ⟨c, hc, ?_⟩
      rwa [kept_eq_self_iff.mpr hshort, (captures_of_find h c hc).2.1]
  · intro ht b hb hmem
    by_cases h : ∃ family pattern captures, find t = .matched family pattern captures
    · obtain ⟨family, pattern, captures, h⟩ := h
      obtain ⟨c, hc, hkept⟩ := hfrom h hb hmem
      have hvalue := (captures_of_find h c hc).2.2
      exact ht b hb (hvalue.subset ((kept_isPrefix _ _).subset hkept))
    · rw [summarize_of_unmatched s fun family pattern captures hf ↦
        h ⟨family, pattern, captures, hf⟩] at hmem
      exact ht b hb (List.mem_of_mem_take hmem)

theorem summarize_line_breaks_list :
    (∀ b, IsLineBreak b → b ∉ Settings.default.marker) ∧
      find "select a,\nb from t".toList =
        .matched .select ⟨["SELECT".toList, "FROM".toList]⟩
          [⟨"SELECT".toList, "a,\nb".toList⟩, ⟨"FROM".toList, ['t']⟩] ∧
      '\n' ∈ Settings.default.summarize "select a,\nb from t".toList ∧
      '\r' ∉ Settings.default.summarize "select a,\nb from t".toList := by
  have hm : ∀ b, IsLineBreak b → b ∉ Settings.default.marker := by
    rintro b (rfl | rfl) <;> decide
  have hfind : find "select a,\nb from t".toList =
      .matched .select ⟨["SELECT".toList, "FROM".toList]⟩
        [⟨"SELECT".toList, "a,\nb".toList⟩, ⟨"FROM".toList, ['t']⟩] :=
    find_of_firstMatch? (by decide) (by with_unfolding_all rfl)
  obtain ⟨-, hmatched, -⟩ := summarize_line_breaks .default _ hm
  obtain ⟨hfeed, hreturn⟩ := hmatched _ _ _ hfind
  refine ⟨hm, hfind, hfeed.mpr ?_, fun h ↦ ?_⟩
  · exact ⟨_, List.mem_cons_self, by decide, by decide⟩
  · obtain ⟨c, hc, hmem⟩ := (hreturn '\r' (.inr rfl)).1 h
    revert c
    decide

/-- Summaries that take more than one line: one of a statement that is cut to the width, one that
keeps a value, and one that cuts a value. -/
theorem summarize_several_lines :
    (∀ b, IsLineBreak b → b ∉ Settings.default.marker) ∧
      '\n' ∈ Settings.default.summarize "SHOW\nTABLES".toList ∧
      '\n' ∈ Settings.default.summarize "SELECT id,\nname FROM users".toList ∧
      '\r' ∈ Settings.summarize ⟨20, " [...]".toList⟩ "SELECT a,\rb, c, d FROM t".toList := by
  have hshow : Family.detect "SHOW\nTABLES".toList = none := by decide
  have hkept : find "SELECT id,\nname FROM users".toList =
      .matched .select ⟨["SELECT".toList, "FROM".toList]⟩
        [⟨"SELECT".toList, "id,\nname".toList⟩, ⟨"FROM".toList, "users".toList⟩] :=
    find_of_firstMatch? (by decide) (by with_unfolding_all rfl)
  have hcut : find "SELECT a,\rb, c, d FROM t".toList =
      .matched .select ⟨["SELECT".toList, "FROM".toList]⟩
        [⟨"SELECT".toList, "a,\rb, c, d".toList⟩, ⟨"FROM".toList, ['t']⟩] :=
    find_of_firstMatch? (by decide) (by with_unfolding_all rfl)
  refine ⟨?_, ?_, ?_, ?_⟩
  · rintro b (rfl | rfl) <;> decide
  · rw [Settings.summarize, find, hshow]
    decide
  · rw [summarize_of_find _ hkept]
    decide
  · rw [summarize_of_find _ hcut]
    decide

end StatementView.Summary
