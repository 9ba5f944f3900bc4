import Mathlib.Data.List.TakeWhile
import StatementView.Json.Basic
import StatementView.Proofs.Decimal.Canonical

namespace StatementView

namespace Decimal

def Numeral.ofInteger (n : Int) : Numeral := ⟨decide (n < 0), natural n.natAbs, [], none⟩

theorem integer_eq (n : Int) :
    integer n = if n < 0 then '-' :: natural n.natAbs else natural n.natAbs := by
  cases n with
  | ofNat m => exact (if_neg (Int.not_lt.mpr (Int.natCast_nonneg m))).symm
  | negSucc m => exact (if_pos (Int.negSucc_lt_zero m)).symm

theorem unsigned?_natural (negative : Bool) (m : Nat) :
    Numeral.unsigned? negative (natural m) = some ⟨negative, natural m, [], none⟩ := by
  have hm := canonical_natural m
  have htake : (natural m).takeWhile Char.isDigit = natural m :=
    List.takeWhile_eq_self_iff.mpr hm.digits
  have hdrop : (natural m).dropWhile Char.isDigit = [] := List.dropWhile_eq_nil_iff.mpr hm.digits
  have hlead : ¬ ((natural m).isEmpty = true ∨
      (natural m).head? = some '0' ∧ (natural m).length > 1) := by
    rintro (h | ⟨h, hlen⟩)
    · exact hm.ne_nil (List.isEmpty_iff.mp h)
    · rw [hm.lead h] at hlen
      exact absurd hlen (by decide)
  rw [Numeral.unsigned?, htake, hdrop, if_neg hlead]
  rfl

theorem numeral_integer (n : Int) : Numeral.ofText? (integer n) = some (.ofInteger n) := by
  rw [integer_eq, Numeral.ofInteger]
  split
  · next h =>
    rw [decide_eq_true h]
    exact unsigned?_natural true _
  · next h =>
    rw [decide_eq_false h]
    have hsign : ∀ t, natural n.natAbs ≠ '-' :: t := by
      intro t ht
      have hdigit := (canonical_natural n.natAbs).digits '-' (ht ▸ List.mem_cons_self)
      exact absurd hdigit (by decide)
    rw [Numeral.ofText?]
    · exact unsigned?_natural false _
    · exact hsign

end Decimal

namespace Json

open Decimal (Numeral natural wordBound signedBound)

theorem takeDigits_eq {n : Nat} {t : Text} (h : Nat.ofDigitChars 10 t n < wordBound) :
    takeDigits n t = (Nat.ofDigitChars 10 t n, []) := by
  induction t generalizing n with
  | nil => rfl
  | cons c t ih =>
    rw [Nat.ofDigitChars_cons] at h ⊢
    -- the digits behind `c` do not make the number smaller
    have hstep := Nat.lt_of_le_of_lt (Decimal.le_ofDigitChars t _) h
    rw [takeDigits]
    exact (if_pos hstep).trans (ih h)

theorem takeDigits_natural {m : Nat} (h : m < wordBound) : takeDigits 0 (natural m) = (m, []) := by
  have hvalue : Nat.ofDigitChars 10 (natural m) 0 = m := Decimal.value_natural m
  have htake : takeDigits 0 (natural m) = (Nat.ofDigitChars 10 (natural m) 0, []) :=
    takeDigits_eq (by rwa [hvalue])
  rwa [hvalue] at htake

theorem ofNumeral?_integer {n : Int} (hlo : -(signedBound : Int) ≤ n) (hhi : n < wordBound) :
    ofNumeral? (.ofInteger n) = some (.integer n) := by
  have hbounds : signedBound < wordBound := by decide
  have htake : takeDigits 0 (Numeral.ofInteger n).whole = (n.natAbs, []) :=
    takeDigits_natural (by omega)
  have hrest : takeDigits n.natAbs (Numeral.ofInteger n).fraction = (n.natAbs, []) := rfl
  rw [ofNumeral?, htake]
  dsimp only
  rw [hrest, if_pos ⟨rfl, rfl, rfl⟩]
  by_cases hn : n < 0
  · have hsmall : ¬ (n.natAbs = 0 ∨ n.natAbs > signedBound) := by omega
    have hneg : (Numeral.ofInteger n).negative = true := decide_eq_true hn
    have hvalue : -(n.natAbs : Int) = n := by omega
    rw [if_pos hneg, if_neg hsmall, hvalue]
  · have hpos : ¬ (Numeral.ofInteger n).negative = true := by
      simpa [Numeral.ofInteger] using hn
    have hvalue : (n.natAbs : Int) = n := by omega
    rw [if_neg hpos, hvalue]

theorem isNumberChar_of_mem_integer {n : Int} {c : Char} (h : c ∈ Decimal.integer n) :
    isNumberChar c = true := by
  have hdigits {m : Nat} (h : c ∈ natural m) : isNumberChar c = true := by
    have hc := (Decimal.canonical_natural m).digits c h
    simp [isNumberChar, hc]
  rw [Decimal.integer_eq] at h
  split at h
  · rcases List.mem_cons.mp h with rfl | h
    · rfl
    · exact hdigits h
  · exact hdigits h

theorem exists_integer_eq_cons (n : Int) :
    ∃ c t, Decimal.integer n = c :: t ∧ (c.isDigit = true ∨ c = '-') := by
  rw [Decimal.integer_eq]
  split
  · exact ⟨'-', _, rfl, .inr rfl⟩
  · have hm := Decimal.canonical_natural n.natAbs
    obtain ⟨c, t, ht⟩ := List.exists_cons_of_ne_nil hm.ne_nil
    exact ⟨c, t, ht, .inl (hm.digits c (ht ▸ List.mem_cons_self))⟩

theorem begin?_number {c : Char} (h : c.isDigit = true ∨ c = '-') (tokens : List Token) :
    begin? tokens c = some (tokens, .number [c]) := by
  rw [begin?]
  · exact if_pos h
  all_goals
    rintro rfl
    exact absurd h (by decide)

theorem foldlM_scanChar_number (tokens : List Token) (seen : Text) {t : Text}
    (h : ∀ c ∈ t, isNumberChar c = true) :
    t.foldlM scanChar (tokens, .number seen) = some (tokens, .number (t.reverse ++ seen)) := by
  induction t generalizing seen with
  | nil => rfl
  | cons c t ih =>
    obtain ⟨hc, ht⟩ := List.forall_mem_cons.mp h
    have hstep : scanChar (tokens, .number seen) c = some (tokens, .number (c :: seen)) :=
      if_pos hc
    rw [List.foldlM_cons, hstep, List.reverse_cons, List.append_assoc]
    exact ih (c :: seen) ht

theorem foldlM_scanChar_integer (tokens : List Token) (n : Int) :
    (Decimal.integer n).foldlM scanChar (tokens, .between) =
      some (tokens, .number (Decimal.integer n).reverse) := by
  obtain ⟨c, t, ht, hc⟩ := exists_integer_eq_cons n
  have htail : ∀ d ∈ t, isNumberChar d = true := fun d hd ↦
    isNumberChar_of_mem_integer (ht ▸ List.mem_cons_of_mem c hd)
  have hstep : scanChar (tokens, .between) c = some (tokens, .number [c]) :=
    begin?_number hc tokens
  rw [ht, List.foldlM_cons, hstep, List.reverse_cons]
  exact foldlM_scanChar_number tokens [c] htail

/-- An integer is one token where a character follows that cannot stand in a number. -/
theorem foldlM_scanChar_integer_append (tokens : List Token) (n : Int) {c : Char}
    (hc : isNumberChar c = false) (t : Text) :
    (Decimal.integer n ++ c :: t).foldlM scanChar (tokens, .between) =
      (c :: t).foldlM scanChar (.number (.ofInteger n) :: tokens, .between) := by
  have hstep : scanChar (tokens, .number (Decimal.integer n).reverse) c =
      begin? (.number (.ofInteger n) :: tokens) c := by
    rw [scanChar, hc, List.reverse_reverse, Decimal.numeral_integer]
    rfl
  rw [List.foldlM_append, foldlM_scanChar_integer, List.foldlM_cons]
  exact congrArg (· >>= _) hstep

theorem tokens?_integer (n : Int) : tokens? (Decimal.integer n) = some [.number (.ofInteger n)] := by
  rw [tokens?, foldlM_scanChar_integer, Option.bind_some, endScan?, List.reverse_reverse,
    Decimal.numeral_integer]
  rfl

theorem ofText?_integer {n : Int} (hlo : -(signedBound : Int) ≤ n) (hhi : n < wordBound) :
    ofText? (Decimal.integer n) = some (.integer n) := by
  rw [ofText?, Written.ofText?, tokens?_integer]
  exact ofNumeral?_integer hlo hhi

def IsSpace (c : Char) : Prop := c = ' ' ∨ c = '\t' ∨ c = '\n' ∨ c = '\r'

/-- An integer as an item of an array, with blanks around it. -/
structure Item where
  before : Text
  number : Int
  after : Text
  isSpace_before : ∀ c ∈ before, IsSpace c
  isSpace_after : ∀ c ∈ after, IsSpace c

def Item.text (i : Item) : Text := i.before ++ Decimal.integer i.number ++ i.after

def arrayText (items : List Item) : Text :=
  '[' :: Text.join [','] (items.map Item.text) ++ [']']

def itemTokens (numbers : List Int) : List Token :=
  (numbers.map fun n ↦ .number (.ofInteger n)).intersperse .comma

theorem isNumberChar_of_isSpace {c : Char} (h : IsSpace c) : isNumberChar c = false := by
  rcases h with rfl | rfl | rfl | rfl <;> rfl

theorem foldlM_scanChar_space (tokens : List Token) {t : Text} (h : ∀ c ∈ t, IsSpace c) (u : Text) :
    (t ++ u).foldlM scanChar (tokens, .between) = u.foldlM scanChar (tokens, .between) := by
  induction t with
  | nil => rfl
  | cons c t ih =>
    obtain ⟨hc, ht⟩ := List.forall_mem_cons.mp h
    have hstep : scanChar (tokens, .between) c = some (tokens, .between) := by
      rcases hc with rfl | rfl | rfl | rfl <;> rfl
    rw [List.cons_append, List.foldlM_cons, hstep]
    exact ih ht

theorem foldlM_scanChar_item (tokens : List Token) (i : Item) {c : Char}
    (hc : isNumberChar c = false) (t : Text) :
    (i.text ++ c :: t).foldlM scanChar (tokens, .between) =
      (c :: t).foldlM scanChar (.number (.ofInteger i.number) :: tokens, .between) := by
  obtain ⟨before, n, after, hbefore, hafter⟩ := i
  rw [Item.text, List.append_assoc, List.append_assoc, foldlM_scanChar_space tokens hbefore]
  cases after with
  | nil => exact foldlM_scanChar_integer_append tokens n hc t
  | cons d after =>
    have hd := isNumberChar_of_isSpace (hafter d List.mem_cons_self)
    rw [List.cons_append, foldlM_scanChar_integer_append tokens n hd, ← List.cons_append]
    exact foldlM_scanChar_space _ hafter (c :: t)

theorem foldlM_scanChar_items (tokens : List Token) (items : List Item) :
    (Text.join [','] (items.map Item.text) ++ [']']).foldlM scanChar (tokens, .between) =
      some (.closeArray :: (itemTokens (items.map Item.number)).reverse ++ tokens, .between) := by
  induction items generalizing tokens with
  | nil => rfl
  | cons i items ih =>
    cases items with
    | nil => exact foldlM_scanChar_item tokens i (by decide) []
    | cons j items =>
      have hi := foldlM_scanChar_item tokens i (c := ',') (by decide)
        (Text.join [','] ((j :: items).map Item.text) ++ [']'])
      have hrest := ih (.comma :: .number (.ofInteger i.number) :: tokens)
      have htokens : (itemTokens ((i :: j :: items).map Item.number)).reverse ++ tokens =
          (itemTokens ((j :: items).map Item.number)).reverse ++
            .comma :: .number (.ofInteger i.number) :: tokens := by
        simp [itemTokens]
      rw [List.cons_append, htokens, List.map_cons, List.map_cons, Text.join, List.append_assoc,
        List.append_assoc]
      exact hi.trans hrest

theorem tokens?_arrayText (items : List Item) :
    tokens? (arrayText items) =
      some (.openArray :: itemTokens (items.map Item.number) ++ [.closeArray]) := by
  have hitems := foldlM_scanChar_items [.openArray] items
  have hscan : (arrayText items).foldlM scanChar ([], .between) =
      some (.closeArray :: (itemTokens (items.map Item.number)).reverse ++ [.openArray],
        .between) := hitems
  rw [tokens?, hscan, Option.bind_some, endScan?, Option.map_some]
  simp

theorem foldlM_take?_items (stack : List Written.Frame) (taken : List Written) (orClose : Bool)
    {numbers : List Int} (h : numbers ≠ []) :
    (itemTokens numbers ++ [Token.closeArray]).foldlM Written.take?
        (.array taken :: stack, .value orClose) =
      some (stack, .after (.array (taken.reverse ++
        numbers.map fun n ↦ Written.number (.ofInteger n)))) := by
  induction numbers generalizing taken orClose with
  | nil => exact absurd rfl h
  | cons n numbers ih =>
    cases numbers with
    | nil =>
      have hreverse : (Written.number (.ofInteger n) :: taken).reverse =
          taken.reverse ++ [.number (.ofInteger n)] := List.reverse_cons
      rw [List.map_cons, List.map_nil, ← hreverse]
      rfl
    | cons m numbers =>
      have hrest := ih (.number (.ofInteger n) :: taken) false (List.cons_ne_nil m numbers)
      rw [List.reverse_cons, List.append_assoc] at hrest
      exact hrest

theorem ofTokens?_array (numbers : List Int) :
    Written.ofTokens? (.openArray :: itemTokens numbers ++ [.closeArray]) =
      some (.array (numbers.map fun n ↦ .number (.ofInteger n))) := by
  by_cases h : numbers = []
  · subst h
    rfl
  · have hitems := foldlM_take?_items [] [] true h
    have hfold : (Token.openArray :: itemTokens numbers ++ [Token.closeArray]).foldlM Written.take?
        ([], .value false) =
      some ([], .after (.array (numbers.map fun n ↦ .number (.ofInteger n)))) := hitems
    rw [Written.ofTokens?, hfold]
    rfl

theorem ofItems?_integers (room : Nat) {numbers : List Int}
    (h : ∀ n ∈ numbers, -(signedBound : Int) ≤ n ∧ n < wordBound) :
    ofItems? room (numbers.map fun n ↦ .number (.ofInteger n)) =
      some (numbers.map .integer) := by
  induction numbers with
  | nil => rfl
  | cons n numbers ih =>
    obtain ⟨hn, hnumbers⟩ := List.forall_mem_cons.mp h
    have hfirst : ofWritten? room (.number (.ofInteger n)) = some (.integer n) :=
      ofNumeral?_integer hn.1 hn.2
    rw [List.map_cons, ofItems?, hfirst, ih hnumbers]
    rfl

theorem ofText?_arrayText {items : List Item}
    (h : ∀ i ∈ items, -(signedBound : Int) ≤ i.number ∧ i.number < wordBound) :
    ofText? (arrayText items) = some (.array (items.map fun i ↦ .integer i.number)) := by
  have hnumbers : ∀ n ∈ items.map Item.number, -(signedBound : Int) ≤ n ∧ n < wordBound :=
    List.forall_mem_map.mpr h
  have hread : ofWritten? 127 (.array ((items.map Item.number).map fun n ↦ .number (.ofInteger n))) =
      some (.array ((items.map Item.number).map .integer)) :=
    congrArg (Option.map Json.array) (ofItems?_integers 126 hnumbers)
  rw [ofText?, Written.ofText?, tokens?_arrayText, Option.bind_some, ofTokens?_array,
    Option.bind_some, hread, List.map_map]
  rfl

end Json

end StatementView
