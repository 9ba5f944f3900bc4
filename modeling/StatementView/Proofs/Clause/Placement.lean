import Mathlib.Data.List.Forall2
import StatementView.Clause.Pattern
import StatementView.Proofs.Text.Folding
import StatementView.Proofs.Text.Runs

namespace StatementView.Clause

open Text (SameLetters sameLetters_nil sameLetters_cons isBlank)

/-- A keyword behind another one: the text between them up to a blank, the blank, and the keyword as
it is written there. -/
structure Later where
  gap : Text
  blank : Char
  word : Text

def Later.text (l : Later) : Text := l.gap ++ l.blank :: l.word

def behind (later : List Later) (blank : Char) (tail : Text) : Text :=
  later.flatMap Later.text ++ blank :: tail

/-- A text with keywords in it: blanks, the first keyword as it is written there, the later ones, a
blank and any text. -/
structure Placement where
  lead : Text
  word : Text
  later : List Later
  blank : Char
  tail : Text

def startsFrom : Nat → List Later → List Nat
  | _, [] => []
  | n, l :: later =>
    (n + l.gap.length + 1) :: startsFrom (n + l.gap.length + 1 + l.word.length) later

structure FitsBehind (keywords : List Text) (later : List Later) (blank : Char) : Prop where
  words : List.Forall₂ SameLetters keywords (later.map Later.word)
  blanks : ∀ l ∈ later, isBlank l.blank = true
  blank : isBlank blank = true

namespace Placement

def text (r : Placement) : Text := r.lead ++ r.word ++ behind r.later r.blank r.tail

def words (r : Placement) : List Text := r.word :: r.later.map Later.word

def starts (r : Placement) : List Nat :=
  r.lead.length :: startsFrom (r.lead.length + r.word.length) r.later

def gaps (r : Placement) : List Text := r.later.map Later.gap ++ [r.blank :: r.tail]

/-- The keywords stand in the placement, in any case, with blanks where they are required. -/
structure Fits (r : Placement) (keywords : List Text) : Prop where
  lead : ∀ c ∈ r.lead, isBlank c = true
  words : List.Forall₂ SameLetters keywords r.words
  blanks : ∀ l ∈ r.later, isBlank l.blank = true
  blank : isBlank r.blank = true

/-- A placement in which every keyword stands as early as in any other one of the text. -/
structure Earliest (r : Placement) (keywords : List Text) (t : Text) : Prop where
  fits : r.Fits keywords
  text_eq : r.text = t
  starts_le : ∀ r' : Placement, r'.Fits keywords → r'.text = t →
    List.Forall₂ (· ≤ ·) r.starts r'.starts

end Placement

theorem afterKeyword?_eq_some_iff {k t rest : Text} :
    afterKeyword? k t = some rest ↔ ∃ w, t = w ++ rest ∧ SameLetters k w := by
  induction k generalizing t with
  | nil => simp [afterKeyword?, sameLetters_nil, eq_comm]
  | cons a k ih =>
    cases t with
    | nil => simp [afterKeyword?, sameLetters_cons]
    | cons c t =>
      simp only [afterKeyword?, sameLetters_cons]
      by_cases hf : Text.fold a = Text.fold c
      · rw [if_pos hf, ih]
        constructor
        · intro h
          obtain ⟨w, rfl, hw⟩ := h
          exact ⟨c :: w, rfl, c, w, rfl, hf, hw⟩
        · intro h
          obtain ⟨_, ht, d, w, rfl, -, hw⟩ := h
          obtain ⟨-, rfl⟩ := List.cons.inj ht
          exact ⟨w, rfl, hw⟩
      · rw [if_neg hf]
        constructor
        · intro h
          cases h
        · intro h
          obtain ⟨_, ht, d, w, rfl, hd, -⟩ := h
          obtain ⟨rfl, -⟩ := List.cons.inj ht
          exact absurd hd hf

theorem afterBlank?_eq_some_iff {t rest : Text} :
    afterBlank? t = some rest ↔ ∃ c, t = c :: rest ∧ isBlank c = true := by
  cases t with
  | nil => simp [afterBlank?]
  | cons d t =>
    rw [afterBlank?]
    by_cases hd : isBlank d = true
    · rw [if_pos hd]
      constructor
      · intro h
        cases h
        exact ⟨d, rfl, hd⟩
      · intro h
        obtain ⟨c, hc, -⟩ := h
        rw [(List.cons.inj hc).2]
    · rw [if_neg hd]
      constructor
      · intro h
        cases h
      · intro h
        obtain ⟨c, hc, hb⟩ := h
        rw [(List.cons.inj hc).1] at hd
        exact absurd hb hd

section Seek

variable {α : Type} {accept : Text → Option α} {t gap u : Text} {c : Char}

theorem eq_of_seek {a : α} (h : seek accept t = some (gap, a)) :
    ∃ c u, t = gap ++ c :: u ∧ isBlank c = true ∧ accept u = some a ∧
      ∀ gap' c' u', t = gap' ++ c' :: u' → isBlank c' = true → (accept u').isSome →
        gap.length ≤ gap'.length := by
  induction t generalizing gap with
  | nil => exact absurd h (by simp [seek])
  | cons d t ih =>
    rw [seek] at h
    split at h
    · next answer hd =>
      obtain ⟨rfl, rfl⟩ := Prod.mk.inj (Option.some.inj h)
      split at hd
      · next hb => exact ⟨d, t, rfl, hb, hd, fun _ _ _ _ _ _ ↦ Nat.zero_le _⟩
      · exact absurd hd (by simp)
    · next hd =>
      obtain ⟨⟨gap₀, a₀⟩, hs, he⟩ := Option.map_eq_some_iff.mp h
      obtain ⟨rfl, rfl⟩ := Prod.mk.inj he
      obtain ⟨c, u, rfl, hb, hu, hmin⟩ := ih hs
      refine ⟨c, u, rfl, hb, hu, ?_⟩
      intro gap' c' u' ht hb' hu'
      cases gap' with
      | nil =>
        -- nothing is accepted behind the first character, blank or not
        obtain ⟨rfl, rfl⟩ := List.cons.inj ht
        rw [if_pos hb'] at hd
        simp [hd] at hu'
      | cons e gap' =>
        have ht' := (List.cons.inj ht).2
        exact Nat.succ_le_succ (hmin gap' c' u' ht' hb' hu')

theorem isSome_seek (ht : t = gap ++ c :: u) (hb : isBlank c = true) (hu : (accept u).isSome) :
    (seek accept t).isSome := by
  subst ht
  induction gap with
  | nil =>
    obtain ⟨a, ha⟩ := Option.isSome_iff_exists.mp hu
    simp [seek, hb, ha]
  | cons d gap ih =>
    rw [List.cons_append, seek]
    split
    · rfl
    · rwa [Option.isSome_map]

theorem start_le_of_seek {a : α} {n n' : Nat} (h : seek accept t = some (gap, a)) {gap' u' : Text}
    {c' : Char} (ht : gap' ++ c' :: u' <:+ t) (hc : isBlank c' = true) (hu : (accept u').isSome)
    (hn : n + t.length = n' + (gap' ++ c' :: u').length) : n + gap.length ≤ n' + gap'.length := by
  obtain ⟨front, rfl⟩ := ht
  obtain ⟨-, -, -, -, -, hmin⟩ := eq_of_seek h
  have hl := hmin (front ++ gap') c' u' (List.append_assoc ..).symm hc hu
  simp only [List.length_append] at hl hn
  omega

end Seek

theorem fitsBehind_nil {later : List Later} {blank : Char} :
    FitsBehind [] later blank ↔ later = [] ∧ isBlank blank = true := by
  constructor
  · intro h
    have hl := List.map_eq_nil_iff.mp (List.forall₂_nil_left_iff.mp h.words)
    exact ⟨hl, h.blank⟩
  · intro h
    obtain ⟨rfl, hb⟩ := h
    exact ⟨.nil, by simp, hb⟩

theorem fitsBehind_cons {k : Text} {keywords : List Text} {later : List Later} {blank : Char} :
    FitsBehind (k :: keywords) later blank ↔
      ∃ l rest, later = l :: rest ∧ SameLetters k l.word ∧ isBlank l.blank = true ∧
        FitsBehind keywords rest blank := by
  constructor
  · intro h
    cases later with
    | nil => exact absurd h.words (by simp)
    | cons l rest =>
      obtain ⟨hw, hws⟩ := List.forall₂_cons.mp h.words
      obtain ⟨hb, hbs⟩ := List.forall_mem_cons.mp h.blanks
      exact ⟨l, rest, rfl, hw, hb, hws, hbs, h.blank⟩
  · intro h
    obtain ⟨l, rest, rfl, hw, hb, hf⟩ := h
    exact ⟨.cons hw hf.words, List.forall_mem_cons.mpr ⟨hb, hf.blanks⟩, hf.blank⟩

theorem behind_cons (l : Later) (later : List Later) (blank : Char) (tail : Text) :
    behind (l :: later) blank tail = l.gap ++ l.blank :: (l.word ++ behind later blank tail) := by
  simp [behind, Later.text]

theorem lastKeyword_eq_some_iff {k u rest : Text} :
    (afterKeyword? k u).bind afterBlank? = some rest ↔
      ∃ w c, u = w ++ c :: rest ∧ SameLetters k w ∧ isBlank c = true := by
  rw [Option.bind_eq_some_iff]
  constructor
  · intro h
    obtain ⟨v, hv, hr⟩ := h
    obtain ⟨w, rfl, hw⟩ := afterKeyword?_eq_some_iff.mp hv
    obtain ⟨c, rfl, hc⟩ := afterBlank?_eq_some_iff.mp hr
    exact ⟨w, c, rfl, hw, hc⟩
  · intro h
    obtain ⟨w, c, rfl, hw, hc⟩ := h
    exact ⟨c :: rest, afterKeyword?_eq_some_iff.mpr ⟨w, rfl, hw⟩,
      afterBlank?_eq_some_iff.mpr ⟨c, rfl, hc⟩⟩

theorem isSome_lastKeyword {k w : Text} {c : Char} (h : SameLetters k w) (hc : isBlank c = true)
    (rest : Text) : ((afterKeyword? k (w ++ c :: rest)).bind afterBlank?).isSome := by
  apply Option.isSome_iff_exists.mpr
  exact ⟨rest, lastKeyword_eq_some_iff.mpr ⟨w, c, rfl, h, hc⟩⟩

theorem isSome_afterKeyword? {k w : Text} (h : SameLetters k w) (rest : Text) :
    (afterKeyword? k (w ++ rest)).isSome := by
  apply Option.isSome_iff_exists.mpr
  exact ⟨rest, afterKeyword?_eq_some_iff.mpr ⟨w, rfl, h⟩⟩

theorem suffix_of_seek {k t gap rest gap' w rest' : Text} {c : Char}
    (h : seek (afterKeyword? k) t = some (gap, rest)) (ht : gap' ++ c :: (w ++ rest') <:+ t)
    (hc : isBlank c = true) (hw : SameLetters k w) : rest' <:+ rest := by
  obtain ⟨front, rfl⟩ := ht
  obtain ⟨d, u, hd, -, hu, hmin⟩ := eq_of_seek h
  obtain ⟨v, rfl, hv⟩ := afterKeyword?_eq_some_iff.mp hu
  have hl := hmin (front ++ gap') c (w ++ rest') (List.append_assoc ..).symm hc
    (isSome_afterKeyword? hw rest')
  have hlen := congrArg List.length hd
  have hvw := hv.length_eq.symm.trans hw.length_eq
  simp only [List.length_append, List.length_cons] at hl hlen
  have hsuffix' : rest' <:+ front ++ (gap' ++ c :: (w ++ rest')) :=
    ⟨front ++ gap' ++ c :: w, by simp⟩
  have hsuffix : rest <:+ front ++ (gap' ++ c :: (w ++ rest')) := ⟨gap ++ d :: v, by simp [hd]⟩
  exact List.suffix_of_suffix_length_le hsuffix' hsuffix (by omega)

theorem isSome_gaps? {k : Text} {keywords : List Text} {later : List Later} {blank : Char}
    {tail t : Text} (hf : FitsBehind (k :: keywords) later blank)
    (ht : behind later blank tail <:+ t) : (gaps? (k :: keywords) t).isSome := by
  -- the text is left open: where the search stops, more text may be left than behind the keyword
  induction keywords generalizing k later t with
  | nil =>
    obtain ⟨l, rest, rfl, hw, hb, hr⟩ := fitsBehind_cons.mp hf
    obtain ⟨rfl, hblank⟩ := fitsBehind_nil.mp hr
    obtain ⟨front, rfl⟩ := ht
    have hd : front ++ behind [l] blank tail =
        (front ++ l.gap) ++ l.blank :: (l.word ++ blank :: tail) := by
      rw [behind_cons, List.append_assoc]
      rfl
    rw [gaps?, Option.isSome_map]
    exact isSome_seek hd hb (isSome_lastKeyword hw hblank tail)
  | cons k' keywords ih =>
    obtain ⟨l, rest, rfl, hw, hb, hr⟩ := fitsBehind_cons.mp hf
    rw [behind_cons] at ht
    have hs : (seek (afterKeyword? k) t).isSome := by
      obtain ⟨front, rfl⟩ := ht
      exact isSome_seek (List.append_assoc ..).symm hb (isSome_afterKeyword? hw _)
    obtain ⟨⟨gap, u⟩, hs⟩ := Option.isSome_iff_exists.mp hs
    have hu := suffix_of_seek hs ht hb hw
    obtain ⟨gs, hg⟩ := Option.isSome_iff_exists.mp (ih hr hu)
    simp [gaps?, hs, hg]

/-- The gaps that are found belong to keywords that fit, and no keyword stands earlier when they fit
a text at the end of this one. -/
theorem exists_of_gaps? {keywords : List Text} {t : Text} {gs : List Text}
    (h : gaps? keywords t = some gs) :
    ∃ later blank tail, FitsBehind keywords later blank ∧ behind later blank tail = t ∧
      gs = later.map Later.gap ++ [tail] ∧
      ∀ later' blank' tail' n n', FitsBehind keywords later' blank' →
        behind later' blank' tail' <:+ t →
        n + t.length = n' + (behind later' blank' tail').length →
        List.Forall₂ (· ≤ ·) (startsFrom n later) (startsFrom n' later') := by
  induction keywords generalizing t gs with
  | nil =>
    obtain ⟨tail, ht, rfl⟩ := Option.map_eq_some_iff.mp h
    obtain ⟨c, rfl, hc⟩ := afterBlank?_eq_some_iff.mp ht
    refine ⟨[], c, tail, fitsBehind_nil.mpr ⟨rfl, hc⟩, rfl, rfl, ?_⟩
    intro later' blank' tail' n n' hf _ _
    rw [(fitsBehind_nil.mp hf).1]
    exact .nil
  | cons k keywords ih =>
    cases keywords with
    | nil =>
      -- the last keyword is accepted only with a blank behind it
      obtain ⟨⟨gap, tail⟩, hs, rfl⟩ := Option.map_eq_some_iff.mp h
      obtain ⟨c, u, rfl, hc, hu, -⟩ := eq_of_seek hs
      obtain ⟨w, blank, rfl, hw, hblank⟩ := lastKeyword_eq_some_iff.mp hu
      have hf : FitsBehind [k] [⟨gap, c, w⟩] blank :=
        fitsBehind_cons.mpr ⟨_, _, rfl, hw, hc, fitsBehind_nil.mpr ⟨rfl, hblank⟩⟩
      refine ⟨[⟨gap, c, w⟩], blank, tail, hf, behind_cons .., rfl, ?_⟩
      intro later' blank' tail' n n' hf' ht hn
      obtain ⟨l, rest, rfl, hw', hc', hr⟩ := fitsBehind_cons.mp hf'
      obtain ⟨rfl, hblank'⟩ := fitsBehind_nil.mp hr
      rw [behind_cons] at ht hn
      have hl := start_le_of_seek hs ht hc' (isSome_lastKeyword hw' hblank' tail') hn
      exact .cons (Nat.succ_le_succ hl) .nil
    | cons k' keywords =>
      obtain ⟨⟨gap, rest⟩, hs, h⟩ := Option.bind_eq_some_iff.mp h
      obtain ⟨gs, hgs, rfl⟩ := Option.map_eq_some_iff.mp h
      obtain ⟨c, u, rfl, hc, hu, -⟩ := eq_of_seek hs
      obtain ⟨w, rfl, hw⟩ := afterKeyword?_eq_some_iff.mp hu
      obtain ⟨later, blank, tail, hf, rfl, rfl, hearly⟩ := ih hgs
      refine ⟨⟨gap, c, w⟩ :: later, blank, tail, fitsBehind_cons.mpr ⟨_, _, rfl, hw, hc, hf⟩,
        behind_cons .., rfl, ?_⟩
      intro later' blank' tail' n n' hf' ht hn
      obtain ⟨l, later', rfl, hw', hc', hf'⟩ := fitsBehind_cons.mp hf'
      rw [behind_cons] at ht hn
      have hl := start_le_of_seek hs ht hc' (isSome_afterKeyword? hw' _) hn
      have hrest := suffix_of_seek hs ht hc' hw'
      have hww := hw.length_eq.symm.trans hw'.length_eq
      simp only [List.length_append, List.length_cons] at hn
      refine .cons (Nat.succ_le_succ hl) (hearly later' blank' tail' _ _ hf' hrest ?_)
      dsimp only
      omega

end StatementView.Clause
