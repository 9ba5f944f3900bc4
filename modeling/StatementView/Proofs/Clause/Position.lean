import Mathlib.Data.List.DropRight
import StatementView.Proofs.Clause.Matching

namespace StatementView.Clause

open Text (isBlank)

def slice (t : Text) (s : Nat × Nat) : Text := (t.drop s.1).take s.2

/-- Where a gap that begins at `n` stands when it is trimmed, and its length then. -/
def span (n : Nat) (gap : Text) : Nat × Nat :=
  (n + (gap.takeWhile isBlank).length, gap.trim.length)

def spansFrom : Nat → List Later → Text → List (Nat × Nat)
  | n, [], last => [span n last]
  | n, l :: later, last =>
    span n l.gap :: spansFrom (n + l.gap.length + 1 + l.word.length) later last

def Placement.spans (r : Placement) : List (Nat × Nat) :=
  spansFrom (r.lead.length + r.word.length) r.later (r.blank :: r.tail)

def capturesAt (keywords : List Text) (spans : List (Nat × Nat)) (t : Text) : List Capture :=
  List.zipWith (fun k s ↦ ⟨k, slice t s⟩) keywords spans

theorem slice_span (front gap back : Text) :
    slice (front ++ (gap ++ back)) (span front.length gap) = gap.trim := by
  obtain ⟨rest, hrest⟩ : gap.trim <+: gap.dropWhile isBlank := List.rdropWhile_prefix _ _
  have hgap : front ++ (gap ++ back) =
      front ++ gap.takeWhile isBlank ++ (gap.trim ++ (rest ++ back)) := by
    rw [← List.append_assoc gap.trim, hrest, List.append_assoc front,
      ← List.append_assoc (gap.takeWhile isBlank), List.takeWhile_append_dropWhile]
  rw [hgap, slice, span, List.drop_left' List.length_append, List.take_left]

theorem map_slice_spansFrom (front : Text) (later : List Later) (blank : Char) (tail : Text) :
    (spansFrom front.length later (blank :: tail)).map (slice (front ++ behind later blank tail)) =
      (later.map Later.gap ++ [blank :: tail]).map Text.trim := by
  induction later generalizing front with
  | nil =>
    have h := slice_span front (blank :: tail) []
    rw [List.append_nil] at h
    exact congrArg ([·]) h
  | cons l later ih =>
    have hsplit : front ++ behind (l :: later) blank tail =
        front ++ l.gap ++ [l.blank] ++ l.word ++ behind later blank tail := by
      rw [behind_cons]
      simp only [List.append_assoc, List.cons_append, List.nil_append]
    have hlen : front.length + l.gap.length + 1 + l.word.length =
        (front ++ l.gap ++ [l.blank] ++ l.word).length := by
      simp only [List.length_append, List.length_singleton]
    rw [spansFrom, List.map_cons, List.map_cons, List.cons_append, List.map_cons]
    congr 1
    · rw [behind_cons]
      exact slice_span front l.gap _
    · rw [hsplit, hlen]
      exact ih _

theorem Placement.map_slice_spans (r : Placement) :
    r.spans.map (slice r.text) = r.gaps.map Text.trim := by
  have h := map_slice_spansFrom (r.lead ++ r.word) r.later r.blank r.tail
  rw [List.length_append] at h
  exact h

theorem eq_capturesAt {keywords : List Text} {captures : List Capture} {r : Placement}
    (hk : captures.map Capture.keyword = keywords)
    (hv : captures.map Capture.value = r.gaps.map Text.trim) :
    captures = capturesAt keywords r.spans r.text := by
  have h : captures = List.zipWith Capture.mk keywords (r.spans.map (slice r.text)) := by
    rw [r.map_slice_spans, ← hk, ← hv, List.zipWith_map, List.zipWith_self]
    exact (List.map_id captures).symm
  rw [h, List.zipWith_map_right]
  rfl

theorem forall₂_le_antisymm {ns ms : List Nat} (h : List.Forall₂ (· ≤ ·) ns ms)
    (h' : List.Forall₂ (· ≤ ·) ms ns) : ns = ms := by
  induction h with
  | nil => rfl
  | cons hn _ ih =>
    obtain ⟨hm, hms⟩ := List.forall₂_cons.mp h'
    rw [le_antisymm hn hm, ih hms]

theorem behind_inj {keywords : List Text} {later later' : List Later} {blank blank' : Char}
    {tail tail' : Text} {n : Nat} (hf : FitsBehind keywords later blank)
    (hf' : FitsBehind keywords later' blank') (hs : startsFrom n later = startsFrom n later')
    (ht : behind later blank tail = behind later' blank' tail') :
    later = later' ∧ blank = blank' ∧ tail = tail' := by
  induction keywords generalizing later later' n with
  | nil =>
    obtain ⟨rfl, -⟩ := fitsBehind_nil.mp hf
    obtain ⟨rfl, -⟩ := fitsBehind_nil.mp hf'
    exact ⟨rfl, List.cons.inj ht⟩
  | cons k keywords ih =>
    obtain ⟨⟨gap, b, w⟩, rest, rfl, hw, -, hr⟩ := fitsBehind_cons.mp hf
    obtain ⟨⟨gap', b', w'⟩, rest', rfl, hw', -, hr'⟩ := fitsBehind_cons.mp hf'
    -- words in the letters of one keyword are equally long, so with equal starts the gaps are, too
    have hlen : w.length = w'.length := hw.length_eq.symm.trans hw'.length_eq
    obtain ⟨hn, hns⟩ := List.cons.inj hs
    dsimp only at hn hns
    have hgap : gap.length = gap'.length := by omega
    rw [behind_cons, behind_cons] at ht
    dsimp only at ht
    obtain ⟨rfl, hblank⟩ := List.append_inj ht hgap
    obtain ⟨rfl, hword⟩ := List.cons.inj hblank
    obtain ⟨rfl, hbehind⟩ := List.append_inj hword hlen
    obtain ⟨rfl, hb, htail⟩ := ih hr hr' hns hbehind
    exact ⟨rfl, hb, htail⟩

theorem Placement.Earliest.unique {r r' : Placement} {keywords : List Text} {t : Text}
    (h : r.Earliest keywords t) (h' : r'.Earliest keywords t) : r = r' := by
  have hs := forall₂_le_antisymm (h.starts_le r' h'.fits h'.text_eq)
    (h'.starts_le r h.fits h.text_eq)
  have ht := h.text_eq.trans h'.text_eq.symm
  obtain ⟨lead, w, later, blank, tail⟩ := r
  obtain ⟨lead', w', later', blank', tail'⟩ := r'
  cases keywords with
  | nil => cases h.fits.words
  | cons k keywords =>
    obtain ⟨-, hw, hf⟩ := fits_iff.mp h.fits
    obtain ⟨-, hw', hf'⟩ := fits_iff.mp h'.fits
    have hlen : w.length = w'.length := hw.length_eq.symm.trans hw'.length_eq
    obtain ⟨hlead, hlater⟩ := List.cons.inj hs
    rw [text, text, List.append_assoc, List.append_assoc] at ht
    obtain ⟨rfl, hword⟩ := List.append_inj ht hlead
    obtain ⟨rfl, hbehind⟩ := List.append_inj hword hlen
    obtain ⟨rfl, rfl, rfl⟩ := behind_inj hf hf' hlater hbehind
    rfl

end StatementView.Clause
