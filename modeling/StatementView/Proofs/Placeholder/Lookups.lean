import StatementView.Placeholder.Substitution
import StatementView.Proofs.Binding.Insertion

namespace StatementView.Placeholder

def Names (token : Text) (key : Key) : Prop :=
  ∃ name : Text, token = ':' :: name ∧ name.head? ≠ some ':' ∧ Key.ofName name = key

/-- Two collections bind the same to every position and to every key that the placeholders name. -/
structure AgreeOn (tokens : List Text) (a b : Bindings) : Prop where
  index : ∀ n, a.getIndex? n = b.getIndex? n
  named : ∀ token ∈ tokens, ∀ key, Names token key → a.get? key = b.get? key

namespace AgreeOn

variable {a b : Bindings} {token : Text} {tokens : List Text}

theorem tail (h : AgreeOn (token :: tokens) a b) : AgreeOn tokens a b :=
  ⟨h.index, fun token' ht ↦ h.named token' (List.mem_cons_of_mem token ht)⟩

theorem read_eq (h : AgreeOn (token :: tokens) a b) (cursor : Nat) :
    read a cursor token = read b cursor token := by
  unfold read
  split
  · rw [h.index]
  · next name =>
    split
    · rfl
    · next hname =>
      have hget : a.getName? name = b.getName? name :=
        h.named _ List.mem_cons_self _ ⟨name, rfl, hname, rfl⟩
      rw [hget, h.index]
  · rfl

theorem place_eq (h : AgreeOn tokens a b) (cursor : Nat) :
    place a cursor tokens = place b cursor tokens := by
  induction tokens generalizing cursor with
  | nil => rfl
  | cons token tokens ih => rw [place, place, h.read_eq, ih h.tail]

theorem substitute_eq {t : Text} (h : AgreeOn (Split.ofText t).tokens a b) :
    substitute a t = substitute b t := by
  rw [substitute, substitute, Bindings.firstIndex_congr h.index, h.place_eq]

end AgreeOn

theorem agreeOn_put (b : Bindings) {s : Text} (value : Value) {tokens : List Text}
    (h : ∀ token ∈ tokens, ¬ Names token (.name s)) : AgreeOn tokens (b.put (.name s) value) b := by
  constructor
  · intro n
    rw [Bindings.getIndex?, Bindings.get?_put, if_neg Key.noConfusion]
    rfl
  · intro token ht key hkey
    rw [Bindings.get?_put]
    refine if_neg ?_
    rintro rfl
    exact h token ht hkey

theorem not_names_of_natural {n : Nat} (hn : n < Decimal.wordBound) (token : Text) :
    ¬ Names token (.name (Decimal.natural n)) := by
  intro h
  obtain ⟨name, -, -, hname⟩ := h
  obtain ⟨hs, hall⟩ := Key.ofName_eq_name_iff.mp hname
  exact hall n hn hs

/-- A value bound to a name that no placeholder of a statement stands for does not change what is
written; one bound to the digits of a position as a name, which are the name of that position, does
not change any statement. -/
theorem substitute_put_unused (b : Bindings) (s : Text) (value : Value) :
    (∀ t, (∀ token ∈ (Split.ofText t).tokens, ¬ Names token (.name s)) →
      substitute (b.put (.name s) value) t = substitute b t) ∧
    ∀ n < Decimal.wordBound, s = Decimal.natural n →
      ∀ t, substitute (b.put (.name s) value) t = substitute b t := by
  refine ⟨fun t h ↦ (agreeOn_put b value h).substitute_eq, ?_⟩
  intro n hn hs t
  subst hs
  exact (agreeOn_put b value fun token _ ↦ not_names_of_natural hn token).substitute_eq

theorem substitute_put_unused_cast :
    (∀ token ∈ (Split.ofText "a = ? :: id ::id :b".toList).tokens,
        ¬ Names token (.name "id".toList)) ∧
      substitute (Bindings.put (.positional [.integer 7]) (.name "id".toList) .null)
          "a = ? :: id ::id :b".toList =
        substitute (.positional [.integer 7]) "a = ? :: id ::id :b".toList ∧
      0 < Decimal.wordBound ∧
      substitute (Bindings.put (.positional [.integer 7]) (.name ['0']) .null) ":0".toList =
        substitute (.positional [.integer 7]) ":0".toList := by
  have htokens : (Split.ofText "a = ? :: id ::id :b".toList).tokens =
      [['?'], [':', ':', 'i', 'd'], [':', 'b']] := by
    with_unfolding_all rfl
  have hunused : ∀ token ∈ (Split.ofText "a = ? :: id ::id :b".toList).tokens,
      ¬ Names token (.name "id".toList) := by
    rw [htokens]
    intro token ht hnames
    obtain ⟨name, rfl, -, hkey⟩ := hnames
    obtain ⟨rfl, -⟩ := Key.ofName_eq_name_iff.mp hkey
    exact absurd ht (by decide)
  have hzero : 0 < Decimal.wordBound := by decide
  obtain ⟨hid, -⟩ := substitute_put_unused (.positional [.integer 7]) "id".toList .null
  obtain ⟨-, hdigits⟩ := substitute_put_unused (.positional [.integer 7]) ['0'] .null
  exact ⟨hunused, hid _ hunused, hzero, hdigits 0 hzero rfl _⟩

/-- The digits of a number beyond the positions are a name like any other, and a value bound to them
is written where they stand behind a colon. -/
theorem substitute_put_beyond_positions :
    Bindings.empty.get? (.name (Decimal.natural Decimal.wordBound)) = none ∧
      substitute (Bindings.empty.put (.name (Decimal.natural Decimal.wordBound)) (.integer 1))
          (':' :: Decimal.natural Decimal.wordBound) ≠
        substitute .empty (':' :: Decimal.natural Decimal.wordBound) := by
  have hbound : substitute
      (Bindings.empty.put (.name (Decimal.natural Decimal.wordBound)) (.integer 1))
      (':' :: Decimal.natural Decimal.wordBound) = ['1'] := by
    with_unfolding_all rfl
  have hempty : substitute .empty (':' :: Decimal.natural Decimal.wordBound) =
      ':' :: Decimal.natural Decimal.wordBound := by
    with_unfolding_all rfl
  refine ⟨rfl, ?_⟩
  rw [hbound, hempty]
  exact fun h ↦ by cases h

end StatementView.Placeholder
