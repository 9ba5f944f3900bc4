import StatementView.Placeholder.Split
import StatementView.Proofs.Text.Runs

namespace StatementView.Placeholder

open Text (Begins begins_cons)

/-- A question mark, or a run of colons with a word behind it. -/
inductive IsPlaceholder : Text → Prop
  | mark : IsPlaceholder ['?']
  | named {colons name : Text} : colons ≠ [] → (∀ c ∈ colons, c = ':') → name ≠ [] →
      (∀ c ∈ name, isNameChar c = true) → IsPlaceholder (colons ++ name)

structure IsPlain (t : Text) : Prop where
  no_mark : '?' ∉ t
  no_name : ∀ (u : Text) (c : Char) (v : Text), t = u ++ ':' :: c :: v → isNameChar c = false

namespace Split

/-- The pieces are placeholders and plain texts. The colons of a named placeholder are all that
stand there, and so are the characters of its name. -/
structure IsCut (s : Split) : Prop where
  placeholder : ∀ p ∈ s.pieces, IsPlaceholder p.2
  plain : ∀ p ∈ s.pieces, IsPlain p.1
  plain_rest : IsPlain s.rest
  maximal : ∀ (front back : List (Text × Text)) (before token : Text),
    s.pieces = front ++ (before, token) :: back → token ≠ ['?'] →
      (text ⟨front, before⟩).getLast? ≠ some ':' ∧ ¬ Begins isNameChar (text ⟨back, s.rest⟩)

end Split

theorem IsPlaceholder.ne_nil {token : Text} (h : IsPlaceholder token) : token ≠ [] := by
  cases h with
  | mark => simp
  | named hc => simp [hc]

theorem isNameChar_colon : isNameChar ':' = false := by decide

theorem isNameChar_mark : isNameChar '?' = false := by decide

theorem IsPlaceholder.getLast?_ne {token : Text} (h : IsPlaceholder token) :
    token.getLast? ≠ some ':' := by
  cases h with
  | mark => decide
  | @named colons name _ _ hn hname =>
    intro hl
    rw [List.getLast?_append, List.getLast?_eq_some_getLast hn, Option.some_or] at hl
    have h := hname _ (List.getLast_mem hn)
    rw [Option.some.inj hl, isNameChar_colon] at h
    exact Bool.false_ne_true h

theorem isPlain_nil : IsPlain [] := ⟨by simp, by simp⟩

theorem isPlain_cons {c : Char} {t : Text} :
    IsPlain (c :: t) ↔ IsPlain t ∧ c ≠ '?' ∧ (c = ':' → ¬ Begins isNameChar t) := by
  constructor
  · intro h
    have ht : IsPlain t := by
      refine ⟨fun hm ↦ h.no_mark (List.mem_cons_of_mem c hm), ?_⟩
      intro u d v ht
      exact h.no_name (c :: u) d v (by rw [ht, List.cons_append])
    refine ⟨ht, fun hc ↦ h.no_mark (by simp [hc]), ?_⟩
    intro hc hb
    subst hc
    obtain ⟨d, hd, hn⟩ := hb
    obtain ⟨v, rfl⟩ := List.head?_eq_some_iff.mp hd
    rw [h.no_name [] d v rfl] at hn
    exact Bool.false_ne_true hn
  · intro h
    obtain ⟨ht, hc, hb⟩ := h
    refine ⟨by simp [ht.no_mark, Ne.symm hc], ?_⟩
    intro u d v hu
    cases u with
    | nil =>
      obtain ⟨rfl, rfl⟩ := List.cons.inj hu
      simpa [begins_cons] using hb rfl
    | cons e u => exact ht.no_name u d v (List.cons.inj hu).2

/-- A placeholder begins behind a colon in front of this text. -/
def NameAhead (t : Text) : Prop := Begins isNameChar (t.dropWhile (· = ':'))

theorem nameAhead_colon {t : Text} : NameAhead (':' :: t) ↔ NameAhead t := by
  simp [NameAhead]

theorem nameAhead_cons {c : Char} {t : Text} (h : c ≠ ':') :
    NameAhead (c :: t) ↔ isNameChar c = true := by
  rw [NameAhead, List.dropWhile_cons_of_neg (by simpa using h), begins_cons]

theorem token?_named {colons name rest : Text} (hc : ∀ c ∈ colons, c = ':') (hn : name ≠ [])
    (hname : ∀ c ∈ name, isNameChar c = true) (hr : ¬ Begins isNameChar rest) :
    token? (':' :: (colons ++ (name ++ rest))) = some (':' :: (colons ++ name), rest) := by
  have hall : ∀ c ∈ colons, decide (c = ':') = true := fun c h ↦ decide_eq_true (hc c h)
  have hb : ¬ Begins (· = ':') (name ++ rest) := by
    obtain ⟨d, name, rfl⟩ := List.exists_cons_of_ne_nil hn
    rw [List.cons_append, begins_cons, decide_eq_true_iff]
    intro hd
    have h := hname d (by simp)
    rw [hd, isNameChar_colon] at h
    exact Bool.false_ne_true h
  simp only [token?]
  rw [Text.takeWhile_run hall hb, Text.dropWhile_run hall hb, Text.takeWhile_run hname hr,
    Text.dropWhile_run hname hr, if_neg (by simpa using hn), List.cons_append]

theorem token?_eq_some_iff {t token rest : Text} :
    token? t = some (token, rest) ↔
      IsPlaceholder token ∧ t = token ++ rest ∧ (token ≠ ['?'] → ¬ Begins isNameChar rest) := by
  constructor
  · intro h
    unfold token? at h
    split at h
    · obtain ⟨rfl, rfl⟩ := Prod.mk.inj (Option.some.inj h)
      exact ⟨.mark, rfl, fun hne ↦ absurd rfl hne⟩
    · next u =>
      dsimp only at h
      split at h
      · exact absurd h (by simp)
      · next hne =>
        obtain ⟨rfl, rfl⟩ := Prod.mk.inj (Option.some.inj h)
        refine ⟨.named (by simp) ?_ (by simpa using hne) fun c hc ↦ List.mem_takeWhile_imp hc, ?_,
          fun _ ↦ Text.not_begins_dropWhile isNameChar _⟩
        · intro c hc
          rcases List.mem_cons.mp hc with rfl | hc
          · rfl
          · simpa using List.mem_takeWhile_imp hc
        · rw [List.append_assoc, List.takeWhile_append_dropWhile, List.cons_append,
            List.takeWhile_append_dropWhile]
    · exact absurd h (by simp)
  · intro h
    obtain ⟨hp, rfl, hr⟩ := h
    cases hp with
    | mark => rfl
    | @named colons name hc hcolons hn hname =>
      obtain ⟨c, colons, rfl⟩ := List.exists_cons_of_ne_nil hc
      obtain ⟨rfl, hcs⟩ := List.forall_mem_cons.mp hcolons
      rw [List.cons_append, List.cons_append, List.append_assoc]
      exact token?_named hcs hn hname (hr (by simp))

theorem token?_eq_none_iff {c : Char} {t : Text} :
    token? (c :: t) = none ↔ c ≠ '?' ∧ (c = ':' → ¬ NameAhead t) := by
  unfold token?
  split
  · next h => simp [(List.cons.inj h).1]
  · next u h =>
    obtain ⟨rfl, rfl⟩ := List.cons.inj h
    cases hd : t.dropWhile (· = ':') with
    | nil => simp [NameAhead, hd, Begins]
    | cons d v => by_cases hn : isNameChar d = true <;> simp [NameAhead, hd, begins_cons, hn]
  · next h₁ h₂ =>
    have hm : c ≠ '?' := fun h ↦ h₁ t (by rw [h])
    have hc : c ≠ ':' := fun h ↦ h₂ t (by rw [h])
    simp [hm, hc]

theorem nameAhead_of_begins {t : Text} (h : Begins isNameChar t) : NameAhead t := by
  obtain ⟨c, hc, hn⟩ := h
  obtain ⟨u, rfl⟩ := List.head?_eq_some_iff.mp hc
  refine (nameAhead_cons ?_).mpr hn
  intro hc
  rw [hc, isNameChar_colon] at hn
  exact Bool.false_ne_true hn

theorem IsPlaceholder.nameAhead {token : Text} (h : IsPlaceholder token) (hm : token ≠ ['?'])
    (t : Text) : NameAhead (token ++ t) := by
  cases h with
  | mark => exact absurd rfl hm
  | @named colons name _ hc hn hname =>
    rw [NameAhead, List.append_assoc,
      List.dropWhile_append_of_pos fun c h ↦ decide_eq_true (hc c h)]
    change NameAhead (name ++ t)
    obtain ⟨d, name, rfl⟩ := List.exists_cons_of_ne_nil hn
    exact nameAhead_of_begins (begins_cons.mpr (hname d (by simp)))

theorem not_nameAhead_append {before t : Text} (hp : IsPlain (':' :: before))
    (ht : (':' :: before).getLast? = some ':' → ¬ NameAhead t) : ¬ NameAhead (before ++ t) := by
  induction before with
  | nil => exact ht rfl
  | cons d before ih =>
    obtain ⟨hd, -, hb⟩ := isPlain_cons.mp hp
    by_cases h : d = ':'
    · subst h
      rw [List.cons_append, nameAhead_colon]
      exact ih hd fun hl ↦ ht (by rwa [List.getLast?_cons_cons])
    · rw [List.cons_append, nameAhead_cons h, ← begins_cons (t := before)]
      exact hb rfl

namespace Split

theorem text_cons {before token : Text} {pieces : List (Text × Text)} {rest : Text} :
    text ⟨(before, token) :: pieces, rest⟩ = before ++ token ++ text ⟨pieces, rest⟩ := by
  simp [text]

theorem text_extend (c : Char) (s : Split) : (s.cons c).text = c :: s.text := by
  obtain ⟨_ | ⟨⟨before, token⟩, pieces⟩, rest⟩ := s <;> simp [cons, text]

variable {before token rest : Text} {pieces : List (Text × Text)} {c : Char}

theorem isCut_nil : IsCut ⟨[], rest⟩ ↔ IsPlain rest :=
  ⟨fun h ↦ h.plain_rest, fun h ↦ ⟨by simp, by simp, h, by simp⟩⟩

theorem isCut_piece :
    IsCut ⟨(before, token) :: pieces, rest⟩ ↔
      IsPlain before ∧ IsPlaceholder token ∧
        (token ≠ ['?'] →
          before.getLast? ≠ some ':' ∧ ¬ Begins isNameChar (text ⟨pieces, rest⟩)) ∧
        IsCut ⟨pieces, rest⟩ := by
  constructor
  · intro h
    obtain ⟨ht, hts⟩ := List.forall_mem_cons.mp h.placeholder
    obtain ⟨hb, hbs⟩ := List.forall_mem_cons.mp h.plain
    refine ⟨hb, ht, ?_, hts, hbs, h.plain_rest, ?_⟩
    · simpa [text] using h.maximal [] pieces before token rfl
    · intro front back b k hs hk
      obtain ⟨hl, hr⟩ := h.maximal ((before, token) :: front) back b k
        (by rw [List.cons_append, ← hs]) hk
      refine ⟨fun he ↦ hl ?_, hr⟩
      rw [text_cons, List.getLast?_append, he, Option.some_or]
  · intro h
    obtain ⟨hb, ht, hm, hs⟩ := h
    refine ⟨List.forall_mem_cons.mpr ⟨ht, hs.placeholder⟩,
      List.forall_mem_cons.mpr ⟨hb, hs.plain⟩, hs.plain_rest, ?_⟩
    intro front back b k hp hk
    cases front with
    | nil =>
      obtain ⟨hpair, rfl⟩ := List.cons.inj hp
      obtain ⟨rfl, rfl⟩ := Prod.mk.inj hpair
      simpa [text] using hm hk
    | cons p front =>
      obtain ⟨rfl, hp'⟩ := List.cons.inj hp
      obtain ⟨hl, hr⟩ := hs.maximal front back b k hp' hk
      refine ⟨?_, hr⟩
      -- a colon at the end belongs to the pieces between, since no placeholder ends with one
      intro he
      have hlast := List.getLast?_eq_some_getLast ht.ne_nil
      rw [text_cons, List.getLast?_append, List.getLast?_append, hlast, Option.some_or,
        ← hlast] at he
      rcases Option.or_eq_some_iff.mp he with he | ⟨-, he⟩
      · exact hl he
      · exact ht.getLast?_ne he

theorem isCut_token :
    IsCut ⟨([], token) :: pieces, rest⟩ ↔
      token? (token ++ text ⟨pieces, rest⟩) = some (token, text ⟨pieces, rest⟩) ∧
        IsCut ⟨pieces, rest⟩ := by
  simp [isCut_piece, token?_eq_some_iff, isPlain_nil, and_assoc]

theorem isCut_cons {s : Split} :
    (s.cons c).IsCut ↔ s.IsCut ∧ token? (c :: s.text) = none := by
  obtain ⟨_ | ⟨⟨before, token⟩, pieces⟩, rest⟩ := s
  · rw [cons, isCut_nil, isCut_nil, isPlain_cons, token?_eq_none_iff]
    constructor
    · intro h
      obtain ⟨hp, hc, hb⟩ := h
      refine ⟨hp, hc, ?_⟩
      intro h
      subst h
      have hn := not_nameAhead_append (t := []) (isPlain_cons.mpr ⟨hp, hc, hb⟩) fun _ ↦
        Text.not_begins_nil isNameChar
      rwa [List.append_nil] at hn
    · intro h
      obtain ⟨hp, hc, hn⟩ := h
      exact ⟨hp, hc, fun h hb ↦ hn h (nameAhead_of_begins hb)⟩
  · rw [cons, isCut_piece, isCut_piece, isPlain_cons, token?_eq_none_iff, text_cons]
    constructor
    · intro h
      obtain ⟨⟨hp, hc, hb⟩, ht, hm, hs⟩ := h
      refine ⟨⟨hp, ht, fun hk ↦ ⟨fun he ↦ (hm hk).1 ?_, (hm hk).2⟩, hs⟩, hc, ?_⟩
      · rw [List.getLast?_cons, he, Option.getD_some]
      · intro h
        subst h
        rw [List.append_assoc]
        refine not_nameAhead_append (isPlain_cons.mpr ⟨hp, hc, hb⟩) fun hl ↦ ?_
        have hk : token = ['?'] := by_contra fun hk ↦ (hm hk).1 hl
        rw [hk, List.singleton_append, nameAhead_cons (by decide), isNameChar_mark]
        exact Bool.false_ne_true
    · intro h
      obtain ⟨⟨hp, ht, hm, hs⟩, hc, hn⟩ := h
      have hb : c = ':' → ¬ Begins isNameChar before := fun h hb ↦
        hn h (nameAhead_of_begins ((hb.append _).append _))
      refine ⟨⟨hp, hc, hb⟩, ht, fun hk ↦ ⟨?_, (hm hk).2⟩, hs⟩
      rw [List.getLast?_cons]
      cases hl : before.getLast? with
      | some d =>
        rw [Option.getD_some, ← hl]
        exact (hm hk).1
      | none =>
        have hnil := List.getLast?_eq_none_iff.mp hl
        subst hnil
        intro he
        exact hn (Option.some.inj he) (ht.nameAhead hk _)

theorem ofText_token {t after : Text} (h : token? t = some (token, after)) :
    ofText t = ⟨([], token) :: (ofText after).pieces, (ofText after).rest⟩ := by
  rw [ofText]
  split
  · next h' =>
    obtain ⟨rfl, rfl⟩ := Prod.mk.inj (Option.some.inj (h.symm.trans h'))
    rfl
  · next h' => exact absurd (h.symm.trans h') (by simp)

theorem ofText_cons {t : Text} (h : token? (c :: t) = none) :
    ofText (c :: t) = (ofText t).cons c := by
  rw [ofText]
  split
  · next h' => exact absurd (h.symm.trans h') (by simp)
  · rfl

theorem ofText_nil : ofText [] = ⟨[], []⟩ := by
  rw [ofText]
  split
  · next h => exact absurd h (by simp [token?])
  · rfl

theorem isCut_ofText (t : Text) : (ofText t).IsCut ∧ (ofText t).text = t := by
  induction t using ofText.induct with
  | case1 t token after h ih =>
    obtain ⟨-, ht, -⟩ := token?_eq_some_iff.mp h
    have htext : text ⟨(ofText after).pieces, (ofText after).rest⟩ = after := ih.2
    rw [ofText_token h]
    refine ⟨isCut_token.mpr ⟨?_, ih.1⟩, ?_⟩
    · rw [htext, ← ht, h]
    · rw [text_cons, htext, List.nil_append, ← ht]
  | case2 h => exact ofText_nil ▸ ⟨isCut_nil.mpr isPlain_nil, rfl⟩
  | case3 c t h ih =>
    have hn : token? (c :: (ofText t).text) = none := by rw [ih.2, h]
    rw [ofText_cons h]
    exact ⟨isCut_cons.mpr ⟨ih.1, hn⟩, by rw [text_extend, ih.2]⟩

theorem ofText_text {s : Split} (h : s.IsCut) : ofText s.text = s := by
  obtain ⟨pieces, rest⟩ := s
  induction pieces with
  | nil =>
    induction rest with
    | nil => exact ofText_nil
    | cons c rest ih =>
      obtain ⟨hr, hn⟩ := isCut_cons (s := ⟨[], rest⟩).mp h
      have hs := text_extend c ⟨[], rest⟩
      rw [cons] at hs
      rw [hs, ofText_cons hn, ih hr, cons]
  | cons p pieces ih =>
    obtain ⟨before, token⟩ := p
    induction before with
    | nil =>
      obtain ⟨ht, hp⟩ := isCut_token.mp h
      rw [text_cons, List.nil_append, ofText_token ht, ih hp]
    | cons c before ihb =>
      obtain ⟨hr, hn⟩ := isCut_cons (s := ⟨(before, token) :: pieces, rest⟩).mp h
      have hs := text_extend c ⟨(before, token) :: pieces, rest⟩
      rw [cons] at hs
      rw [hs, ofText_cons hn, ihb hr, cons]

/-- A statement has one cut, and the scanner finds it. -/
theorem ofText_eq_iff {t : Text} {s : Split} : ofText t = s ↔ s.IsCut ∧ s.text = t := by
  constructor
  · intro h
    subst h
    exact isCut_ofText t
  · intro h
    obtain ⟨hs, rfl⟩ := h
    exact ofText_text hs

end Split

end StatementView.Placeholder
