import StatementView.Proofs.Binding.Insertion
import StatementView.Proofs.Placeholder.Resolution

namespace StatementView.Placeholder

def isCast (token : Text) : Bool := decide ([':', ':'] <+: token)

/-- What stands in the places of placeholders that take `values` in order. The value of one that is
no cast is known from the number of such placeholders before it. -/
def supplied (values : List Value) (tokens : List Text) : List Text :=
  tokens.mapIdx fun i token ↦
    if isCast token then token
    else written token values[(tokens.take i).countP fun t ↦ !isCast t]?

def NamesUnbound (b : Bindings) (tokens : List Text) : Prop :=
  ∀ name : Text, ':' :: name ∈ tokens → name.head? ≠ some ':' → b.getName? name = none

theorem supplied_cons_cast {token : Text} (h : isCast token = true) (values : List Value)
    (tokens : List Text) :
    supplied values (token :: tokens) = token :: supplied values tokens := by
  simp [supplied, List.mapIdx_cons, h]

theorem supplied_cons {token : Text} (h : isCast token = false) (values : List Value)
    (tokens : List Text) :
    supplied values (token :: tokens) =
      written token values.head? :: supplied values.tail tokens := by
  simp [supplied, List.mapIdx_cons, h, List.head?_eq_getElem?]

theorem valueAt?_cast {b : Bindings} {token : Text} (h : isCast token = true) (cursor : Nat) :
    valueAt? b cursor token = none := by
  have hp : [':', ':'] <+: token := of_decide_eq_true h
  have hm : token ≠ ['?'] := by
    intro hm
    subst hm
    exact absurd hp (by decide)
  rw [valueAt?, if_neg hm, if_pos hp]

theorem valueAt?_unnamed {b : Bindings} {tokens : List Text} (hb : NamesUnbound b tokens)
    {token : Text} (ht : token ∈ tokens) (hp : IsPlaceholder token) (h : isCast token = false)
    (cursor : Nat) : valueAt? b cursor token = b.getIndex? cursor := by
  have hc : ¬ [':', ':'] <+: token := of_decide_eq_false h
  rcases hp.cases_colons with rfl | ⟨t, rfl⟩ | ⟨t, rfl, hn⟩
  · rfl
  · exact absurd ⟨t, rfl⟩ hc
  · rw [valueAt?, if_neg (by simp), if_neg hc, List.tail_cons, hb t ht hn, Option.none_or]

theorem map_text_place_run {b : Bindings} {cursor : Nat} {values : List Value} {tokens : List Text}
    (hr : b.IsRun cursor values) (hp : ∀ token ∈ tokens, IsPlaceholder token)
    (hb : NamesUnbound b tokens) :
    (place b cursor tokens).map Placed.text = supplied values tokens := by
  induction tokens generalizing cursor values with
  | nil => rfl
  | cons token tokens ih =>
    obtain ⟨ht, hps⟩ := List.forall_mem_cons.mp hp
    have hbs : NamesUnbound b tokens := fun name hn ↦ hb name (List.mem_cons_of_mem _ hn)
    have hv := value?_read b cursor ht
    rw [place, List.map_cons, Placed.text_eq, Reading.advance_eq]
    change written token (read b cursor token).value? :: _ = _
    rw [hv]
    cases hc : isCast token with
    | true =>
      rw [valueAt?_cast hc, supplied_cons_cast hc]
      exact congrArg (token :: ·) (ih hr hps hbs)
    | false =>
      rw [valueAt?_unnamed hb (by simp) ht hc, supplied_cons hc]
      cases values with
      | nil =>
        -- the cursor stays behind the run, so nothing is found later either
        rw [Bindings.isRun_nil.mp hr]
        exact congrArg (token :: ·) (ih hr hps hbs)
      | cons value values =>
        obtain ⟨h0, hrs⟩ := Bindings.isRun_cons.mp hr
        rw [h0]
        exact congrArg (written token (some value) :: ·) (ih hrs hps hbs)

theorem substitute_run {b : Bindings} {s : Split} (hs : s.IsCut) {values : List Value}
    (hr : b.IsRun b.firstIndex values) (hb : NamesUnbound b s.tokens) :
    substitute b s.text = (s.refill (supplied values s.tokens)).text := by
  have hp : ∀ token ∈ s.tokens, IsPlaceholder token := by
    intro token ht
    obtain ⟨p, hp, rfl⟩ := List.mem_map.mp ht
    exact hs.placeholder p hp
  rw [substitute, Split.ofText_text hs, fill_append, map_text_place_run hr hp hb]

theorem namesUnbound_ofValues {tokens : List Text}
    (h : ∀ n, ':' :: Decimal.natural n ∉ tokens) (start : Nat) (values : List Value) :
    NamesUnbound (Bindings.ofValues start values) tokens := by
  intro name hn _
  apply Bindings.get?_ofValues_eq_none
  intro i hk
  obtain ⟨-, ht⟩ := Key.ofName_eq_index_iff.mp hk
  exact h _ (ht ▸ hn)

/-- A statement has one cut at its placeholders. Where it names nothing bound they are replaced in
order by the values at consecutive positions, as many as there are of both, and the others stay. So
it is the same whether the positions of the values begin with zero or with one. -/
theorem substitute_in_order :
    (∀ t : Text, ∃! s : Split, s.IsCut ∧ s.text = t) ∧
    (∀ (b : Bindings) (s : Split), s.IsCut → NamesUnbound b s.tokens →
      ∃ values : List Value, b.IsRun b.firstIndex values ∧
        substitute b s.text = (s.refill (supplied values s.tokens)).text) ∧
    ∀ (values : List Value) (s : Split), s.IsCut → (∀ n, ':' :: Decimal.natural n ∉ s.tokens) →
      substitute (Bindings.positional values) s.text =
        substitute (Bindings.oneBased values) s.text := by
  refine ⟨?_, ?_, ?_⟩
  · intro t
    exact ⟨Split.ofText t, Split.isCut_ofText t, fun s hs ↦ (Split.ofText_eq_iff.mpr hs).symm⟩
  · intro b s hs hb
    obtain ⟨values, hr⟩ := b.exists_isRun b.firstIndex
    exact ⟨values, hr, substitute_run hs hr hb⟩
  · intro values s hs h
    by_cases hv : values = []
    · subst hv
      rfl
    · have h0 := namesUnbound_ofValues h 0 values
      have h1 := namesUnbound_ofValues h 1 values
      have hr0 : (Bindings.positional values).IsRun
          (Bindings.positional values).firstIndex values := by
        rw [Bindings.firstIndex_positional hv]
        exact Bindings.isRun_ofValues 0 values
      have hr1 : (Bindings.oneBased values).IsRun
          (Bindings.oneBased values).firstIndex values := by
        rw [Bindings.firstIndex_oneBased hv]
        exact Bindings.isRun_ofValues 1 values
      exact (substitute_run hs hr0 h0).trans (substitute_run hs hr1 h1).symm

def sparseBindings : Bindings :=
  .ofEntries [(.index 1, .integer 7), (.index 2, .text ['?']), (.name ['x'], .null),
    (.index 4, .null)]

def sparseCut : Split :=
  ⟨[("a=".toList, ['?']), (" or ".toList, ":b".toList), ([], "::c".toList), (['='], ['?'])], []⟩

/-- Bindings with a gap: the run ends there, and a literal that looks like a placeholder takes no
value. -/
theorem substitute_sparse_in_order :
    sparseCut.IsCut ∧ sparseCut.text = "a=? or :b::c=?".toList ∧
      NamesUnbound sparseBindings sparseCut.tokens ∧
      (∃ values : List Value, sparseBindings.IsRun 1 values ∧
        substitute sparseBindings sparseCut.text =
          (sparseCut.refill (supplied values sparseCut.tokens)).text) ∧
      substitute sparseBindings "a=? or :b::c=?".toList = "a=7 or '?'::c=?".toList ∧
      (∀ n, ':' :: Decimal.natural n ∉ sparseCut.tokens) ∧
      substitute (.positional [.integer 7, .null]) sparseCut.text =
        substitute (.oneBased [.integer 7, .null]) sparseCut.text := by
  have hofText : Split.ofText "a=? or :b::c=?".toList = sparseCut := by
    with_unfolding_all rfl
  have hvalues : substitute sparseBindings "a=? or :b::c=?".toList = "a=7 or '?'::c=?".toList := by
    with_unfolding_all rfl
  obtain ⟨hcut, htext⟩ := Split.ofText_eq_iff.mp hofText
  have hname {name : Text} (h : ':' :: name ∈ sparseCut.tokens) :
      name = ['b'] ∨ name = [':', 'c'] := by
    simpa [sparseCut, Split.tokens] using h
  have hunbound : NamesUnbound sparseBindings sparseCut.tokens := by
    intro name hn hc
    rcases hname hn with rfl | rfl
    · rfl
    · exact absurd rfl hc
  have hnumbers : ∀ n, ':' :: Decimal.natural n ∉ sparseCut.tokens := by
    intro n hn
    have hdigits := (Decimal.canonical_natural n).digits
    rcases hname hn with h | h
    · exact absurd (hdigits 'b' (by simp [h])) (by decide)
    · exact absurd (hdigits ':' (by simp [h])) (by decide)
  obtain ⟨-, hrun, hbases⟩ := substitute_in_order
  refine ⟨hcut, htext, hunbound, hrun sparseBindings sparseCut hcut hunbound, hvalues, hnumbers, ?_⟩
  exact hbases [.integer 7, .null] sparseCut hcut hnumbers

end StatementView.Placeholder
