import StatementView.Proofs.Literal
import StatementView.Proofs.Text.Compact
import StatementView.Proofs.Summary.Finding

namespace StatementView

open Clause (Pattern Placement Later behind behind_cons)
open Text (isBlank compact compact_append compact_cons_blank compact_eq_nil compact_trim
  compact_join)

namespace Clause

def respellLater (keywords : List Text) (later : List Later) : List Later :=
  List.zipWith (fun k l ↦ { l with word := k }) keywords later

/-- The placement with its keywords in the spelling of `keywords`, and everything else as it is. -/
def Placement.respell (r : Placement) : List Text → Placement
  | [] => r
  | k :: keywords => { r with word := k, later := respellLater keywords r.later }

def shown (keyword gap : Text) : Text := compact keyword ++ compact gap

theorem compact_behind {k : Text} {keywords : List Text} {later : List Later} {blank : Char}
    (hl : keywords.length = later.length) (hb : ∀ l ∈ later, isBlank l.blank = true)
    (tail : Text) :
    compact (k ++ behind (respellLater keywords later) blank tail) =
      (List.zipWith shown (k :: keywords)
        (later.map Later.gap ++ [blank :: tail])).flatten := by
  induction later generalizing k keywords with
  | nil =>
    obtain rfl := List.length_eq_zero_iff.mp hl
    simp [respellLater, behind, shown, compact_append]
  | cons l later ih =>
    obtain ⟨k', keywords, rfl⟩ := List.exists_cons_of_length_eq_add_one hl
    obtain ⟨hlb, hbs⟩ := List.forall_mem_cons.mp hb
    have hrest := ih (k := k') (Nat.succ_inj.mp hl) hbs
    rw [respellLater, List.zipWith_cons_cons, ← respellLater, behind_cons, compact_append,
      compact_append, compact_cons_blank hlb, hrest, List.map_cons, List.cons_append,
      List.zipWith_cons_cons (a := k), List.flatten_cons, shown, List.append_assoc]

theorem Placement.compact_text_respell {r : Placement} {keywords : List Text}
    (h : r.Fits keywords) :
    compact (r.respell keywords).text = (List.zipWith shown keywords r.gaps).flatten := by
  have hl := h.words.length_eq
  cases keywords with
  | nil => cases h.words
  | cons k keywords =>
    have hlen : keywords.length = r.later.length := by
      simpa [Placement.words] using hl
    rw [respell, text, List.append_assoc, compact_append, compact_eq_nil h.lead, List.nil_append,
      compact_behind hlen h.blanks]
    rfl

end Clause

namespace Summary

open Clause (shown)

def whole (c : Capture) : Text :=
  if c.value.isEmpty then c.keyword else c.keyword ++ ' ' :: c.value

theorem compact_whole (c : Capture) : compact (whole c) = shown c.keyword c.value := by
  unfold whole
  split
  · next h =>
    rw [shown, List.isEmpty_iff.mp h]
    exact (List.append_nil _).symm
  · rw [compact_append, compact_cons_blank (by decide), shown]

theorem part_eq_escape {share : Nat} {c : Capture} (hk : Literal.escape c.keyword = c.keyword)
    (hv : c.value.length ≤ share) (marker : Text) :
    part share marker c = Literal.escape (whole c) := by
  have hshorten : shorten share marker c.value = Literal.escape c.value :=
    if_neg (Nat.not_lt.mpr hv)
  have hempty : (Literal.escape c.value).isEmpty = c.value.isEmpty := by
    rw [Bool.eq_iff_iff, List.isEmpty_iff, List.isEmpty_iff, Literal.escape_eq_nil_iff]
  simp only [part, whole, hshorten, hempty]
  split
  · exact hk.symm
  · rw [Literal.escape_append, Literal.escape_cons, hk]
    rfl

theorem shrink_eq_escape {width : Nat} {captures : List Capture}
    (hk : ∀ c ∈ captures, Literal.escape c.keyword = c.keyword)
    (hv : ∀ c ∈ captures, c.value.length ≤ budget width captures.length) (marker : Text) :
    shrink width marker captures =
      Literal.escape (Text.trim (Text.join [' '] (captures.map whole))) := by
  have hparts : captures.map (part (budget width captures.length) marker) =
      (captures.map whole).map Literal.escape := by
    rw [List.map_map]
    exact List.map_congr_left fun c hc ↦ part_eq_escape (hk c hc) (hv c hc) marker
  rw [shrink, hparts, ← Literal.escape_join (by decide), Literal.trim_escape]

theorem escape_keyword {f : Family} {k : Text} (h : k ∈ f.vocabulary.keywords) :
    Literal.escape k = k := by
  have hall : ∀ k ∈ f.vocabulary.keywords, Literal.escape k = k := by
    cases f <;> decide
  exact hall k h

theorem compact_join_whole (captures : List Capture) :
    compact (Text.join [' '] (captures.map whole)) =
      (List.zipWith shown (captures.map Capture.keyword) (captures.map Capture.value)).flatten := by
  have hblank : ∀ c ∈ [' '], isBlank c = true := by
    intro c hc
    obtain rfl := List.mem_singleton.mp hc
    decide
  rw [compact_join hblank, List.zipWith_map, List.zipWith_self, List.flatMap_map,
    List.flatMap_def]
  congr 1
  exact List.map_congr_left fun c _ ↦ compact_whole c

/-- Where every value fits its share, the summary less its escapes and blanks is the statement less
its blanks, except that the keywords found in it may differ in the case of their letters. -/
theorem summarize_shows_statement (s : Settings) (t : Text) (family : Family) (pattern : Pattern)
    (captures : List Capture) (h : find t = .matched family pattern captures)
    (hfit : ∀ c ∈ captures, c.value.length ≤ budget s.width captures.length) :
    ∃ r : Placement, r.Earliest pattern.keywords t ∧
      captures.map Capture.keyword = pattern.keywords ∧
      compact (Literal.unescape (s.summarize t)) = compact (r.respell pattern.keywords).text := by
  have hfirst := firstMatch?_of_find h
  obtain ⟨r, hr, hk, hv⟩ := Family.exists_placement_of_firstMatch? hfirst
  have hsub := Family.sublist_of_firstMatch? hfirst
  have hescape : ∀ c ∈ captures, Literal.escape c.keyword = c.keyword := by
    intro c hc
    apply escape_keyword
    exact hsub.subset (hk ▸ List.mem_map_of_mem hc)
  refine ⟨r, hr, hk, ?_⟩
  have hshown : ∀ k gap, shown k (Text.trim gap) = shown k gap := fun k gap ↦
    congrArg (compact k ++ ·) (compact_trim gap)
  rw [Settings.summarize, h]
  change compact (Literal.unescape (shrink s.width s.marker captures)) = _
  rw [shrink_eq_escape hescape hfit, Literal.unescape_escape, compact_trim, compact_join_whole, hk,
    hv, List.zipWith_map_right, Placement.compact_text_respell hr.fits]
  simp only [hshown]

theorem summarize_shows_insert :
    find "insert into t\n Values ('\\')".toList =
        .matched .insert ⟨["INSERT".toList, "INTO".toList, "VALUES".toList]⟩
          [⟨"INSERT".toList, []⟩, ⟨"INTO".toList, ['t']⟩, ⟨"VALUES".toList, "('\\')".toList⟩] ∧
      ∃ r : Placement,
        r.Earliest ["INSERT".toList, "INTO".toList, "VALUES".toList]
          "insert into t\n Values ('\\')".toList ∧
        compact (Literal.unescape
            (Settings.summarize .default "insert into t\n Values ('\\')".toList)) =
          compact (r.respell ["INSERT".toList, "INTO".toList, "VALUES".toList]).text := by
  have hdetect : Family.detect "insert into t\n Values ('\\')".toList = some .insert := by decide
  have hfirst : Family.firstMatch? .insert "insert into t\n Values ('\\')".toList =
      some (⟨["INSERT".toList, "INTO".toList, "VALUES".toList]⟩,
        [⟨"INSERT".toList, []⟩, ⟨"INTO".toList, ['t']⟩,
          ⟨"VALUES".toList, "('\\')".toList⟩]) := by
    with_unfolding_all rfl
  have hfind : find "insert into t\n Values ('\\')".toList =
      .matched .insert ⟨["INSERT".toList, "INTO".toList, "VALUES".toList]⟩
        [⟨"INSERT".toList, []⟩, ⟨"INTO".toList, ['t']⟩,
          ⟨"VALUES".toList, "('\\')".toList⟩] := by
    rw [find, hdetect]
    dsimp only
    rw [hfirst]
  obtain ⟨r, hr, -, hshown⟩ :=
    summarize_shows_statement .default _ _ _ _ hfind (by decide)
  exact ⟨hfind, r, hr, hshown⟩

end Summary

end StatementView
