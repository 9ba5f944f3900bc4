import StatementView.Placeholder.Substitution
import StatementView.Proofs.Placeholder.Cut

namespace StatementView.Placeholder

/-- The value of a placeholder at a cursor. A name behind two colons or more has none; a name behind
one colon has its own value, or else that of the cursor, and a question mark that of the cursor. -/
def valueAt? (b : Bindings) (cursor : Nat) (token : Text) : Option Value :=
  if token = ['?'] then b.getIndex? cursor
  else if [':', ':'] <+: token then none
  else (b.getName? token.tail).or (b.getIndex? cursor)

/-- `values` are what the placeholders find, each at the cursor that the ones before it leave. -/
def Resolves (b : Bindings) (start : Nat) (tokens : List Text) (values : List (Option Value)) :
    Prop :=
  values.length = tokens.length ∧
    ∀ (i : Nat) (token : Text), tokens[i]? = some token →
      values[i]? = some (valueAt? b (start + (values.take i).countP Option.isSome) token)

def written (token : Text) (value? : Option Value) : Text := (value?.map Value.literal).getD token

def Split.refill (s : Split) (texts : List Text) : Split :=
  ⟨List.zipWith (fun p t ↦ (p.1, t)) s.pieces texts, s.rest⟩

def Reading.value? : Reading → Option Value
  | .found value => some value
  | _ => none

def Placed.value? (p : Placed) : Option Value := p.reading.value?

theorem Reading.value?_ofValue? (value? : Option Value) : (ofValue? value?).value? = value? := by
  cases value? <;> rfl

theorem Reading.advance_eq (r : Reading) (cursor : Nat) :
    r.advance cursor = cursor + if r.value?.isSome then 1 else 0 := by
  cases r <;> rfl

theorem Placed.text_eq (p : Placed) : p.text = written p.token p.value? := by
  obtain ⟨token, cursor, reading⟩ := p
  cases reading <;> rfl

theorem IsPlaceholder.cases_colons {token : Text} (h : IsPlaceholder token) :
    token = ['?'] ∨ (∃ t, token = ':' :: ':' :: t) ∨
      ∃ t, token = ':' :: t ∧ t.head? ≠ some ':' := by
  cases h with
  | mark => exact .inl rfl
  | @named colons name hc hcolons hn hname =>
    obtain ⟨c, colons, rfl⟩ := List.exists_cons_of_ne_nil hc
    obtain ⟨rfl, hcs⟩ := List.forall_mem_cons.mp hcolons
    cases colons with
    | cons d colons =>
      obtain rfl := hcs d (by simp)
      exact .inr (.inl ⟨colons ++ name, rfl⟩)
    | nil =>
      refine .inr (.inr ⟨name, rfl, ?_⟩)
      intro hd
      have h := hname ':' (List.mem_of_mem_head? hd)
      rw [isNameChar_colon] at h
      exact Bool.false_ne_true h

theorem value?_read (b : Bindings) (cursor : Nat) {token : Text} (h : IsPlaceholder token) :
    (read b cursor token).value? = valueAt? b cursor token := by
  rcases h.cases_colons with rfl | ⟨t, rfl⟩ | ⟨t, rfl, ht⟩
  · simp [read, valueAt?, Reading.value?_ofValue?]
  · simp [read, valueAt?, Reading.value?]
  · have hp : ¬ [':', ':'] <+: ':' :: t := by
      intro hu
      obtain ⟨u, hu⟩ := hu
      rw [List.cons_append, List.cons_append, List.cons.injEq] at hu
      exact ht (by rw [← hu.2]; rfl)
    simp [read, valueAt?, ht, hp, Reading.value?_ofValue?]

theorem resolves_cons {b : Bindings} {start : Nat} {token : Text} {tokens : List Text}
    {value? : Option Value} {values : List (Option Value)} :
    Resolves b start (token :: tokens) (value? :: values) ↔
      value? = valueAt? b start token ∧
        Resolves b (start + if value?.isSome then 1 else 0) tokens values := by
  -- the placeholder in front moves the cursor of all others
  have hcount (i : Nat) : ((value? :: values).take (i + 1)).countP Option.isSome =
      (if value?.isSome then 1 else 0) + (values.take i).countP Option.isSome := by
    rw [List.take_succ_cons, List.countP_cons, Nat.add_comm]
  constructor
  · intro h
    obtain ⟨hl, h⟩ := h
    refine ⟨by simpa using h 0 token rfl, by simpa using hl, ?_⟩
    intro i t ht
    have hi := h (i + 1) t ht
    rwa [hcount, ← Nat.add_assoc] at hi
  · intro h
    obtain ⟨hv, hl, h⟩ := h
    refine ⟨by simpa using hl, ?_⟩
    intro i t ht
    cases i with
    | zero =>
      obtain rfl : token = t := by simpa using ht
      simp [hv]
    | succ i =>
      rw [hcount, ← Nat.add_assoc]
      exact h i t ht

theorem resolves_place (b : Bindings) (cursor : Nat) {tokens : List Text}
    (h : ∀ token ∈ tokens, IsPlaceholder token) :
    Resolves b cursor tokens ((place b cursor tokens).map Placed.value?) := by
  induction tokens generalizing cursor with
  | nil => exact ⟨rfl, by simp⟩
  | cons token tokens ih =>
    have hv := value?_read b cursor (h token (by simp))
    have hr := ih ((read b cursor token).advance cursor) fun t ht ↦ h t (by simp [ht])
    rw [place, List.map_cons, resolves_cons]
    refine ⟨hv, ?_⟩
    rw [Reading.advance_eq] at hr ⊢
    exact hr

theorem map_text_place (b : Bindings) (cursor : Nat) (tokens : List Text) :
    (place b cursor tokens).map Placed.text =
      List.zipWith written tokens ((place b cursor tokens).map Placed.value?) := by
  induction tokens generalizing cursor with
  | nil => rfl
  | cons token tokens ih =>
    rw [place, List.map_cons, List.map_cons, List.zipWith_cons_cons, ih, Placed.text_eq]

theorem fill_append (s : Split) (ps : List Placed) :
    fill s.pieces ps ++ s.rest = (s.refill (ps.map Placed.text)).text := by
  have hfill (pieces : List (Text × Text)) (ps : List Placed) : fill pieces ps =
      (List.zipWith (fun p t ↦ (p.1, t)) pieces (ps.map Placed.text)).flatMap
        fun p ↦ p.1 ++ p.2 := by
    induction pieces generalizing ps with
    | nil => cases ps <;> rfl
    | cons p pieces ih =>
      cases ps with
      | nil => rfl
      | cons q ps =>
        rw [fill, ih, List.map_cons, List.zipWith_cons_cons, List.flatMap_cons]
  rw [hfill]
  rfl

/-- A substitution is one pass from left to right: the statement has one cut at its placeholders,
and each of them is replaced by what it finds at the first position of the bindings plus the number
of placeholders replaced before it. -/
theorem substitute_eq_refill (b : Bindings) (t : Text) :
    ∃ s : Split, (∀ s' : Split, s'.IsCut ∧ s'.text = t ↔ s' = s) ∧
      ∃ values : List (Option Value), Resolves b b.firstIndex s.tokens values ∧
        substitute b t = (s.refill (List.zipWith written s.tokens values)).text := by
  obtain ⟨hcut, -⟩ := Split.isCut_ofText t
  have htokens : ∀ token ∈ (Split.ofText t).tokens, IsPlaceholder token := by
    intro token ht
    obtain ⟨p, hp, rfl⟩ := List.mem_map.mp ht
    exact hcut.placeholder p hp
  refine ⟨Split.ofText t, ?_, _, resolves_place b b.firstIndex htokens, ?_⟩
  · intro s'
    rw [← Split.ofText_eq_iff, eq_comm]
  · rw [← map_text_place, ← fill_append]
    rfl

end StatementView.Placeholder
