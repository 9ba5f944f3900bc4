import StatementView.Proofs.Clause.Casing
import StatementView.Proofs.Text.Casing
import StatementView.Proofs.Summary.Finding

namespace StatementView

namespace Family

open Clause (Pattern Placement Alike)

variable {g : Char → Char} (hg : ∀ c, Text.fold (g c) = Text.fold c)
include hg

theorem isSome_captures?_of_map_eq {f : Family} {s : List Text} {t u : Text}
    (hu : u.map g = t.map g)
    (h : ((Pattern.ofKeywords (f.vocabulary.mandatory ++ s)).captures? t).isSome = true) :
    ((Pattern.ofKeywords (f.vocabulary.mandatory ++ s)).captures? u).isSome = true := by
  obtain ⟨c, k, keywords, hm, -⟩ := f.mandatory_eq
  rw [hm, List.cons_append] at h ⊢
  exact Clause.isSome_captures?_of_map_eq hg hu h

theorem exists_firstMatch?_of_map_eq {f : Family} {t u : Text} {p : Pattern}
    {captures : List Capture} (hu : u.map g = t.map g)
    (h : f.firstMatch? t = some (p, captures)) :
    ∃ captures', f.firstMatch? u = some (p, captures') := by
  rw [firstMatch?_eq] at h ⊢
  obtain ⟨front, s, back, hsplit, hs, hfront⟩ := List.findSome?_eq_some_iff.mp h
  obtain ⟨_, hc, he⟩ := Option.map_eq_some_iff.mp hs
  obtain ⟨rfl, rfl⟩ := Prod.mk.inj he
  obtain ⟨captures', hc'⟩ := Option.isSome_iff_exists.mp
    (isSome_captures?_of_map_eq hg hu (Option.isSome_of_mem hc))
  refine ⟨captures', List.findSome?_eq_some_iff.mpr ⟨front, s, back, hsplit, by rw [hc']; rfl, ?_⟩⟩
  intro s' hs'
  rw [Option.map_eq_none_iff, ← Option.not_isSome_iff_eq_none]
  intro hsome
  have hback := isSome_captures?_of_map_eq hg hu.symm hsome
  rw [Option.map_eq_none_iff.mp (hfront s' hs')] at hback
  cases hback

theorem firstMatch?_alike {f : Family} {t u : Text} {p : Pattern} {captures : List Capture}
    (hu : u.map g = t.map g) (h : f.firstMatch? t = some (p, captures)) :
    ∃ captures' r r', f.firstMatch? u = some (p, captures') ∧
      Alike p.keywords t u captures captures' r r' := by
  obtain ⟨captures', h'⟩ := exists_firstMatch?_of_map_eq hg hu h
  obtain ⟨r, hr, hk, hv⟩ := exists_placement_of_firstMatch? h
  obtain ⟨r', hr', hk', hv'⟩ := exists_placement_of_firstMatch? h'
  obtain ⟨s, hs, he⟩ := Placement.exists_earliest_of_map_eq hg hr hu
  obtain rfl := hs.unique hr'
  have hspans : s.spans = r.spans := by
    rw [← Placement.spans_map hg s, he, Placement.spans_map hg]
  refine ⟨captures', r, s, h', hr, hr', Placement.starts_of_map_eq he, hspans, ?_, ?_⟩
  · rw [← hr.text_eq]
    exact Clause.eq_capturesAt hk hv
  · rw [← hspans, ← hr'.text_eq]
    exact Clause.eq_capturesAt hk' hv'

end Family

namespace Literal

theorem escapeChar_toUpper (c : Char) : escapeChar c.toUpper = (escapeChar c).map Char.toUpper := by
  have hquote : c.toUpper = '\'' ↔ c = '\'' := Text.toUpper_eq_iff (by decide)
  have hdouble : c.toUpper = '"' ↔ c = '"' := Text.toUpper_eq_iff (by decide)
  have hslash : c.toUpper = '\\' ↔ c = '\\' := Text.toUpper_eq_iff (by decide)
  have hnul : c.toUpper = '\x00' ↔ c = '\x00' := Text.toUpper_eq_iff (by decide)
  simp only [escapeChar, hquote, hdouble, hslash, hnul]
  split
  · rfl
  · split <;> rfl

theorem escape_upper (t : Text) : escape t.upper = Text.upper (escape t) := by
  rw [escape, escape, Text.upper, Text.upper, List.flatMap_map, List.map_flatMap]
  simp only [escapeChar_toUpper]

end Literal

theorem Text.upper_join (separator : Text) (ts : List Text) :
    upper (join separator ts) = join (upper separator) (ts.map upper) := by
  induction ts with
  | nil => rfl
  | cons t ts ih =>
    cases ts with
    | nil => rfl
    | cons u ts =>
      rw [join, List.map_cons, List.map_cons, join, ← List.map_cons, ← ih]
      simp only [upper, List.map_append]

namespace Summary

open Text (upper)

def Fit.upper : Fit → Fit
  | .whole line => .whole (Text.upper line)
  | .broken atBlank atEnd => .broken (atBlank.map Text.upper) (Text.upper atEnd)

theorem fit_upper (room : Nat) (t : Text) : fit room (upper t) = (fit room t).upper := by
  induction t generalizing room with
  | nil => cases room <;> rfl
  | cons c t ih =>
    -- lines break at characters without case
    have hbreak : c.toUpper = '\n' ↔ c = '\n' := Text.toUpper_eq_iff (by decide)
    have hspace : c.toUpper = ' ' ↔ c = ' ' := Text.toUpper_eq_iff (by decide)
    have hcons : upper (c :: t) = c.toUpper :: upper t := rfl
    rw [hcons]
    cases room with
    | zero =>
      simp only [fit, hbreak, hspace]
      split
      · rfl
      · split <;> rfl
    | succ room =>
      simp only [fit, hbreak, hspace, ih]
      split
      · rfl
      · cases fit room t with
        | whole line => rfl
        | broken atBlank atEnd =>
          cases atBlank with
          | none => by_cases hc : c = ' ' <;> simp [Fit.upper, hc, upper]
          | some line => rfl

theorem firstLine_upper (width : Nat) (t : Text) :
    firstLine width (upper t) = upper (firstLine width t) := by
  rw [firstLine, firstLine, fit_upper]
  cases fit width t with
  | whole line => rfl
  | broken atBlank atEnd => cases atBlank <;> rfl

theorem shorten_upper (share : Nat) (marker value : Text) :
    shorten share (upper marker) (upper value) = upper (shorten share marker value) := by
  have hlen : (upper value).length = value.length := List.length_map ..
  rw [shorten, shorten, hlen, firstLine_upper, Literal.escape_upper, Literal.escape_upper]
  split
  · exact List.map_append.symm
  · rfl

end Summary

def Capture.upper (c : Capture) : Capture := ⟨c.keyword.upper, c.value.upper⟩

namespace Summary

open Text (upper)

theorem part_upper (share : Nat) (marker : Text) (c : Capture) :
    part share (upper marker) c.upper = upper (part share marker c) := by
  have hempty (t : Text) : (upper t).isEmpty = t.isEmpty := List.isEmpty_map
  simp only [part, Capture.upper, shorten_upper, hempty]
  split
  · rfl
  · simp only [upper, List.map_append, List.map_cons]
    rfl

theorem shrink_upper (width : Nat) (marker : Text) (captures : List Capture) :
    shrink width (upper marker) (captures.map Capture.upper) =
      upper (shrink width marker captures) := by
  have hparts : (captures.map Capture.upper).map
        (part (budget width captures.length) (upper marker)) =
      (captures.map (part (budget width captures.length) marker)).map upper := by
    rw [List.map_map, List.map_map]
    exact List.map_congr_left fun c _ ↦ part_upper _ marker c
  have hjoin := Text.upper_join [' ']
    (captures.map (part (budget width captures.length) marker))
  rw [shrink, List.length_map, hparts, shrink, upper, ← Clause.trim_map Text.fold_toUpper]
  exact congrArg Text.trim hjoin.symm

end Summary

namespace Clause

theorem map_upper_capturesAt {keywords : List Text} {spans : List (Nat × Nat)} {t u : Text}
    (h : t.upper = u.upper) :
    (capturesAt keywords spans t).map Capture.upper =
      (capturesAt keywords spans u).map Capture.upper := by
  have hslice (s : Nat × Nat) : (slice t s).upper = (slice u s).upper := by
    rw [slice, slice, Text.upper, Text.upper, List.map_take, List.map_take, List.map_drop,
      List.map_drop]
    exact congrArg (fun v ↦ (v.drop s.1).take s.2) h
  simp only [capturesAt, List.map_zipWith, Capture.upper, hslice]

end Clause

namespace Summary

open Clause (Placement Alike)
open Text (upper)

theorem Settings.summarize_eq (s : Settings) (t : Text) :
    s.summarize t = (((Family.detect t).bind (·.firstMatch? t)).map
      fun found ↦ shrink s.width s.marker found.2).getD (s.truncate t) := by
  rw [summarize, find]
  cases Family.detect t with
  | none => rfl
  | some f =>
    dsimp only [Option.bind_some]
    cases f.firstMatch? t <;> rfl

theorem upper_shrink_of_alike {keywords : List Text} {t u : Text}
    {captures captures' : List Capture} {r r' : Placement} (h : t.upper = u.upper)
    (ha : Alike keywords t u captures captures' r r') (width : Nat) (marker : Text) :
    upper (shrink width marker captures) = upper (shrink width marker captures') := by
  rw [← shrink_upper, ← shrink_upper, ha.captures_left, ha.captures_right,
    Clause.map_upper_capturesAt h]

theorem upper_truncate {t u : Text} (h : t.upper = u.upper) (s : Settings) :
    (s.truncate t).upper = (s.truncate u).upper := by
  rw [Settings.truncate, Settings.truncate, upper, upper, List.map_take, List.map_take]
  exact congrArg (List.take s.width) h

/-- Statements that differ only in the case of ASCII letters are of one family, have the same
pattern matched with captures in the same places, and have summaries that differ only in the case
of ASCII letters. -/
theorem summarize_same_case {t u : Text} (h : t.upper = u.upper) :
    Family.detect t = Family.detect u ∧
      (∀ f : Family, (f.firstMatch? t = none ↔ f.firstMatch? u = none) ∧
        ∀ p captures, f.firstMatch? t = some (p, captures) →
          ∃ captures' r r', f.firstMatch? u = some (p, captures') ∧
            Alike p.keywords t u captures captures' r r') ∧
      ∀ s : Settings, (s.summarize t).upper = (s.summarize u).upper := by
  have hdetect : Family.detect t = Family.detect u := by rw [Family.detect, Family.detect, h]
  have hnone (f : Family) {v w : Text} (hvw : v.upper = w.upper) (hv : f.firstMatch? v = none) :
      f.firstMatch? w = none := by
    rw [Option.eq_none_iff_forall_not_mem]
    intro found hw
    obtain ⟨captures, hsome⟩ := Family.exists_firstMatch?_of_map_eq Text.fold_toUpper hvw hw
    rw [hv] at hsome
    cases hsome
  refine ⟨hdetect, fun f ↦ ⟨⟨hnone f h, hnone f h.symm⟩, ?_⟩, fun s ↦ ?_⟩
  · intro p captures hmatch
    exact Family.firstMatch?_alike Text.fold_toUpper h.symm hmatch
  · rw [s.summarize_eq, s.summarize_eq, hdetect]
    cases Family.detect u with
    | none => exact upper_truncate h s
    | some f =>
      rw [Option.bind_some, Option.bind_some]
      cases hmatch : f.firstMatch? t with
      | none =>
        rw [hnone f h hmatch]
        exact upper_truncate h s
      | some found =>
        obtain ⟨p, captures⟩ := found
        obtain ⟨captures', r, r', hu, ha⟩ :=
          Family.firstMatch?_alike Text.fold_toUpper h.symm hmatch
        rw [hu]
        exact upper_shrink_of_alike h ha s.width s.marker

theorem summarize_same_case_insert :
    Text.upper "Insert into\tT values ('K')".toList =
        Text.upper "iNSERT INTO\tt Values ('k')".toList ∧
      Family.detect "iNSERT INTO\tt Values ('k')".toList = some .insert ∧
      (∃ captures r r',
        Family.firstMatch? .insert "iNSERT INTO\tt Values ('k')".toList =
          some (⟨["INSERT".toList, "INTO".toList, "VALUES".toList]⟩, captures) ∧
        Alike ["INSERT".toList, "INTO".toList, "VALUES".toList] "Insert into\tT values ('K')".toList
          "iNSERT INTO\tt Values ('k')".toList
          [⟨"INSERT".toList, []⟩, ⟨"INTO".toList, ['T']⟩, ⟨"VALUES".toList, "('K')".toList⟩]
          captures r r') ∧
      (Settings.summarize .default "Insert into\tT values ('K')".toList).upper =
        (Settings.summarize .default "iNSERT INTO\tt Values ('k')".toList).upper := by
  have h : Text.upper "Insert into\tT values ('K')".toList =
      Text.upper "iNSERT INTO\tt Values ('k')".toList := by decide
  have hdetect : Family.detect "Insert into\tT values ('K')".toList = some .insert := by decide
  have hmatch : Family.firstMatch? .insert "Insert into\tT values ('K')".toList =
      some (⟨["INSERT".toList, "INTO".toList, "VALUES".toList]⟩,
        [⟨"INSERT".toList, []⟩, ⟨"INTO".toList, ['T']⟩,
          ⟨"VALUES".toList, "('K')".toList⟩]) := by
    with_unfolding_all rfl
  obtain ⟨hd, hf, hs⟩ := summarize_same_case h
  exact ⟨h, hd.symm.trans hdetect, (hf .insert).2 _ _ hmatch, hs .default⟩

end Summary

end StatementView
