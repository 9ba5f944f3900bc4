import Mathlib.Data.List.Forall2
import StatementView.Proofs.Clause.Position

namespace StatementView

open Text (SameLetters isBlank)

namespace Clause

def Later.map (g : Char → Char) (l : Later) : Later := ⟨l.gap.map g, g l.blank, l.word.map g⟩

def Placement.map (g : Char → Char) (r : Placement) : Placement :=
  ⟨r.lead.map g, r.word.map g, r.later.map (Later.map g), g r.blank, r.tail.map g⟩

section Map

variable (g : Char → Char)

theorem startsFrom_map (n : Nat) (later : List Later) :
    startsFrom n (later.map (Later.map g)) = startsFrom n later := by
  induction later generalizing n with
  | nil => rfl
  | cons l later ih => simp only [List.map_cons, startsFrom, ih, Later.map, List.length_map]

theorem Placement.starts_map (r : Placement) : (r.map g).starts = r.starts := by
  simp only [starts, map, List.length_map, startsFrom_map]

variable {g}

theorem exists_of_map_behind {later : List Later} {blank : Char} {tail t : Text}
    (h : t.map g = (behind later blank tail).map g) :
    ∃ later' blank' tail', behind later' blank' tail' = t ∧
      later'.map (Later.map g) = later.map (Later.map g) ∧ g blank' = g blank ∧
        tail'.map g = tail.map g := by
  induction later generalizing t with
  | nil =>
    obtain ⟨d, u, rfl, hd, hu⟩ := List.map_eq_cons_iff.mp h
    exact ⟨[], d, u, rfl, rfl, hd, hu⟩
  | cons l later ih =>
    rw [behind_cons, List.map_append, List.map_cons, List.map_append] at h
    obtain ⟨gap, u, rfl, hgap, hu⟩ := List.map_eq_append_iff.mp h
    obtain ⟨d, v, rfl, hd, hv⟩ := List.map_eq_cons_iff.mp hu
    obtain ⟨w, x, rfl, hw, hx⟩ := List.map_eq_append_iff.mp hv
    obtain ⟨later', blank', tail', rfl, hlater, hblank, htail⟩ := ih hx
    refine ⟨⟨gap, d, w⟩ :: later', blank', tail', behind_cons .., ?_, hblank, htail⟩
    rw [List.map_cons, List.map_cons, hlater, Later.map, Later.map, hgap, hd, hw]

theorem Placement.exists_of_map_text {r : Placement} {t : Text} (h : t.map g = r.text.map g) :
    ∃ r' : Placement, r'.text = t ∧ r'.map g = r.map g := by
  rw [text, List.append_assoc, List.map_append, List.map_append] at h
  obtain ⟨lead, u, rfl, hlead, hu⟩ := List.map_eq_append_iff.mp h
  obtain ⟨w, v, rfl, hw, hv⟩ := List.map_eq_append_iff.mp hu
  obtain ⟨later, blank, tail, rfl, hlater, hblank, htail⟩ := exists_of_map_behind hv
  refine ⟨⟨lead, w, later, blank, tail⟩, List.append_assoc .., ?_⟩
  rw [map, map, hlead, hw, hlater, hblank, htail]

end Map

section Letters

variable {g : Char → Char} (hg : ∀ c, Text.fold (g c) = Text.fold c)
include hg

theorem isBlank_map (c : Char) : isBlank (g c) = isBlank c := by
  rw [← Text.isBlank_fold, hg, Text.isBlank_fold]

theorem sameLetters_map {k w : Text} : SameLetters k (w.map g) ↔ SameLetters k w := by
  have h : Text.fold ∘ g = Text.fold := funext hg
  rw [SameLetters, SameLetters, List.map_map, h]

theorem trim_map (t : Text) : Text.trim (t.map g) = (Text.trim t).map g := by
  have h : isBlank ∘ g = isBlank := funext (isBlank_map hg)
  simp only [Text.trim, Text.trimStart, Text.trimEnd, List.dropWhile_map, ← List.map_reverse, h]

theorem span_map (n : Nat) (gap : Text) : span n (gap.map g) = span n gap := by
  have h : isBlank ∘ g = isBlank := funext (isBlank_map hg)
  rw [span, span, trim_map hg, List.takeWhile_map, h, List.length_map, List.length_map]

theorem spansFrom_map (n : Nat) (later : List Later) (last : Text) :
    spansFrom n (later.map (Later.map g)) (last.map g) = spansFrom n later last := by
  induction later generalizing n with
  | nil => exact congrArg ([·]) (span_map hg n last)
  | cons l later ih =>
    simp only [List.map_cons, spansFrom, ih, Later.map, span_map hg, List.length_map]

namespace Placement

theorem spans_map (r : Placement) : (r.map g).spans = r.spans := by
  have h := spansFrom_map hg (r.lead.length + r.word.length) r.later (r.blank :: r.tail)
  simpa only [spans, map, List.length_map, List.map_cons] using h

theorem fits_map {r : Placement} {keywords : List Text} :
    (r.map g).Fits keywords ↔ r.Fits keywords := by
  have hwords : (r.map g).words = r.words.map (List.map g) := by
    simp only [words, map, List.map_cons, List.map_map]
    rfl
  have hlead : (∀ c ∈ r.lead.map g, isBlank c = true) ↔ ∀ c ∈ r.lead, isBlank c = true := by
    simp only [List.forall_mem_map, isBlank_map hg]
  have hblanks : (∀ l ∈ r.later.map (Later.map g), isBlank l.blank = true) ↔
      ∀ l ∈ r.later, isBlank l.blank = true := by
    simp only [List.forall_mem_map, Later.map, isBlank_map hg]
  have hsame : List.Forall₂ SameLetters keywords (r.map g).words ↔
      List.Forall₂ SameLetters keywords r.words := by
    rw [hwords, List.forall₂_map_right_iff]
    simp only [sameLetters_map hg]
  constructor
  · intro h
    exact ⟨hlead.mp h.lead, hsame.mp h.words, hblanks.mp h.blanks,
      (isBlank_map hg r.blank).symm.trans h.blank⟩
  · intro h
    exact ⟨hlead.mpr h.lead, hsame.mpr h.words, hblanks.mpr h.blanks,
      (isBlank_map hg r.blank).trans h.blank⟩

theorem Fits.of_map_eq {r r' : Placement} {keywords : List Text} (h : r.Fits keywords)
    (he : r'.map g = r.map g) : r'.Fits keywords :=
  (fits_map hg).mp (he ▸ (fits_map hg).mpr h)

omit hg in
theorem starts_of_map_eq {r r' : Placement} (he : r'.map g = r.map g) : r'.starts = r.starts := by
  rw [← starts_map g r', he, starts_map]

theorem exists_earliest_of_map_eq {r : Placement} {keywords : List Text} {t u : Text}
    (h : r.Earliest keywords t) (hu : u.map g = t.map g) :
    ∃ r' : Placement, r'.Earliest keywords u ∧ r'.map g = r.map g := by
  rw [← h.text_eq] at hu
  obtain ⟨r', hr', he⟩ := exists_of_map_text hu
  refine ⟨r', ⟨h.fits.of_map_eq hg he, hr', ?_⟩, he⟩
  intro s hs hst
  -- a placement of the other text that begins earlier would be one of this text, too
  obtain ⟨s', hs', hse⟩ := exists_of_map_text (r := s) (t := t) (by rw [hst, hu, h.text_eq])
  have hle := h.starts_le s' (hs.of_map_eq hg hse) hs'
  rwa [starts_of_map_eq hse, ← starts_of_map_eq he] at hle

end Placement

theorem isSome_captures?_of_map_eq {k : Text} {keywords : List Text} {t u : Text}
    (hu : u.map g = t.map g)
    (h : ((Pattern.ofKeywords (k :: keywords)).captures? t).isSome = true) :
    ((Pattern.ofKeywords (k :: keywords)).captures? u).isSome = true := by
  obtain ⟨r, hr, ht⟩ := isSome_captures?_iff.mp h
  obtain ⟨r', hr', he⟩ := Placement.exists_of_map_text (hu.trans (congrArg (List.map g) ht.symm))
  exact isSome_captures?_iff.mpr ⟨r', hr.of_map_eq hg he, hr'⟩

end Letters

/-- What a pattern captures in two texts: the earliest placements begin alike, and the values stand
in the same places. -/
structure Alike (keywords : List Text) (t u : Text) (captures captures' : List Capture)
    (r r' : Placement) : Prop where
  left : r.Earliest keywords t
  right : r'.Earliest keywords u
  starts_eq : r'.starts = r.starts
  spans_eq : r'.spans = r.spans
  captures_left : captures = capturesAt keywords r.spans t
  captures_right : captures' = capturesAt keywords r.spans u

end Clause

end StatementView
