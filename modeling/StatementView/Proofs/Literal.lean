import Mathlib.Data.List.DropRight
import StatementView.Literal
import StatementView.Text.Blank

namespace StatementView.Literal

open Text (isBlank)

theorem escape_append (t u : Text) : escape (t ++ u) = escape t ++ escape u :=
  List.flatMap_append

theorem escape_cons (c : Char) (t : Text) : escape (c :: t) = escapeChar c ++ escape t :=
  List.flatMap_cons

theorem escapeChar_cases (c : Char) :
    escapeChar c = [c] ∧ c ≠ '\\' ∧ c ≠ '\'' ∨
      isBlank c = false ∧ ∃ d, escapeChar c = ['\\', d] ∧ isBlank d = false := by
  unfold escapeChar
  split
  · next h =>
    have hc : isBlank c = false := by rcases h with rfl | rfl | rfl <;> decide
    exact .inr ⟨hc, c, rfl, hc⟩
  · next h =>
    obtain ⟨hq, -, hb⟩ := not_or.mp h |>.imp_right not_or.mp
    split
    · next h0 =>
      subst h0
      exact .inr ⟨by decide, '0', rfl, by decide⟩
    · exact .inl ⟨rfl, hb, hq⟩

theorem escapeChar_of_isBlank {c : Char} (h : isBlank c = true) : escapeChar c = [c] := by
  rcases escapeChar_cases c with hc | hc
  · exact hc.1
  · cases h.symm.trans hc.1

theorem mem_escape_iff {b : Char} (hb : isBlank b = true) {t : Text} : b ∈ escape t ↔ b ∈ t := by
  have hchar (c : Char) : b ∈ escapeChar c ↔ b = c := by
    rcases escapeChar_cases c with ⟨h, -⟩ | ⟨hc, d, h, hd⟩
    · rw [h, List.mem_singleton]
    · -- an escaped character is no blank, and neither is what it is written with
      rw [h]
      refine iff_of_false ?_ ?_
      · intro hmem
        rcases List.mem_pair.mp hmem with rfl | rfl
        · exact absurd hb (by decide)
        · exact Bool.false_ne_true (hd.symm.trans hb)
      · rintro rfl
        exact Bool.false_ne_true (hc.symm.trans hb)
  rw [escape, List.mem_flatMap]
  simp only [hchar, exists_eq_right']

/-- The characters that take two places in an escaped text. -/
def isEscaped (c : Char) : Bool := c = '\'' || c = '"' || c = '\\' || c = '\x00'

theorem length_escapeChar (c : Char) :
    (escapeChar c).length = 1 + if isEscaped c then 1 else 0 := by
  unfold escapeChar
  split
  · next h => rcases h with rfl | rfl | rfl <;> rfl
  · next h =>
    obtain ⟨hq, hd, hb⟩ := not_or.mp h |>.imp_right not_or.mp
    split
    · next h0 =>
      subst h0
      rfl
    · next h0 => simp [isEscaped, hq, hd, hb, h0]

theorem length_escape (t : Text) : (escape t).length = t.length + t.countP isEscaped := by
  induction t with
  | nil => rfl
  | cons c t ih =>
    rw [escape_cons, List.length_append, length_escapeChar, ih, List.length_cons, List.countP_cons]
    omega

theorem escape_eq_nil_iff {t : Text} : escape t = [] ↔ t = [] := by
  constructor
  · intro h
    have hu := unescape_escape t
    rw [h] at hu
    exact hu.symm
  · intro h
    rw [h]
    rfl

theorem unescape_cons {c : Char} (hc : c ≠ '\\') (t : Text) :
    unescape (c :: t) = c :: unescape t := by
  rw [unescape]
  rintro d r ⟨rfl⟩
  exact absurd rfl hc

theorem unescape_append {t : Text} (ht : '\\' ∉ t) (u : Text) :
    unescape (t ++ u) = t ++ unescape u := by
  induction t with
  | nil => rfl
  | cons c t ih =>
    obtain ⟨hc, ht⟩ := not_or.mp (mt List.mem_cons.mpr ht)
    rw [List.cons_append, unescape_cons (Ne.symm hc), ih ht]
    rfl

theorem unescape_escape_append (t u : Text) : unescape (escape t ++ u) = t ++ unescape u := by
  induction t with
  | nil => rfl
  | cons c t ih =>
    rw [escape_cons, List.append_assoc, unescape_escapeChar_append, ih]
    rfl

/-- Parts that can be read back in front of any text can be read back joined with blanks. -/
theorem unescape_join {α : Type} {written plain : α → Text} {l : List α}
    (h : ∀ a ∈ l, ∀ rest, unescape (written a ++ rest) = plain a ++ unescape rest) :
    unescape (Text.join [' '] (l.map written)) = Text.join [' '] (l.map plain) := by
  induction l with
  | nil => rfl
  | cons a l ih =>
    obtain ⟨ha, hl⟩ := List.forall_mem_cons.mp h
    cases l with
    | nil =>
      have hlast := ha []
      rw [List.append_nil] at hlast
      exact hlast.trans (List.append_nil _)
    | cons b l =>
      have hjoin (f : α → Text) : Text.join [' '] ((a :: b :: l).map f) =
          f a ++ ' ' :: Text.join [' '] ((b :: l).map f) := List.append_assoc (f a) [' '] _
      rw [hjoin, ha, unescape_cons (by decide), ih hl, hjoin]

theorem escape_join {separator : Text} (h : escape separator = separator) (ts : List Text) :
    escape (Text.join separator ts) = Text.join separator (ts.map escape) := by
  induction ts with
  | nil => rfl
  | cons t ts ih =>
    cases ts with
    | nil => rfl
    | cons u ts =>
      rw [Text.join, escape_append, escape_append, h, ih]
      rfl

theorem trimStart_escape (t : Text) : Text.trimStart (escape t) = escape (Text.trimStart t) := by
  induction t with
  | nil => rfl
  | cons c t ih =>
    rw [escape_cons]
    cases hc : isBlank c with
    | true =>
      rw [escapeChar_of_isBlank hc, Text.trimStart, Text.trimStart, List.singleton_append,
        List.dropWhile_cons_of_pos hc, List.dropWhile_cons_of_pos hc]
      exact ih
    | false =>
      have hstay : Text.trimStart (c :: t) = c :: t :=
        List.dropWhile_cons_of_neg (by simp [hc])
      rw [hstay, escape_cons]
      rcases escapeChar_cases c with ⟨h, -⟩ | ⟨-, d, h, -⟩
      · rw [h]
        exact List.dropWhile_cons_of_neg (by simp [hc])
      · rw [h]
        exact List.dropWhile_cons_of_neg (by decide)

theorem trimEnd_escape (t : Text) : Text.trimEnd (escape t) = escape (Text.trimEnd t) := by
  change (escape t).rdropWhile isBlank = escape (t.rdropWhile isBlank)
  induction t using List.reverseRecOn with
  | nil => rfl
  | append_singleton t c ih =>
    have hlast : escape (t ++ [c]) = escape t ++ escapeChar c := by
      rw [escape_append, escape_cons]
      exact congrArg (escape t ++ ·) (List.append_nil _)
    rw [hlast]
    cases hc : isBlank c with
    | true =>
      rw [escapeChar_of_isBlank hc, List.rdropWhile_concat_pos _ _ _ hc,
        List.rdropWhile_concat_pos _ _ _ hc, ih]
    | false =>
      rw [List.rdropWhile_concat_neg _ _ _ (by simp [hc]), hlast]
      rcases escapeChar_cases c with ⟨h, -⟩ | ⟨-, d, h, hd⟩
      · rw [h, List.rdropWhile_concat_neg _ _ _ (by simp [hc])]
      · rw [h, List.append_cons, List.rdropWhile_concat_neg _ _ _ (by simp [hd])]

theorem trim_escape (t : Text) : Text.trim (escape t) = escape (Text.trim t) := by
  rw [Text.trim, Text.trim, trimStart_escape, trimEnd_escape]

end StatementView.Literal
