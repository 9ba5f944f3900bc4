import StatementView.Proofs.Text.Runs

namespace StatementView.Text

variable {p : Char → Bool} {t u : Text}

theorem begins_append (ht : t ≠ []) (u : Text) : Begins p (t ++ u) ↔ Begins p t := by
  obtain ⟨c, t, rfl⟩ := List.exists_cons_of_ne_nil ht
  rw [List.cons_append, begins_cons, begins_cons]

theorem not_begins_trim (t : Text) : ¬ Begins isBlank (trim t) := by
  have hprefix : trim t <+: trimStart t := List.reverse_suffix.mp (by
    rw [trim, trimEnd, List.reverse_reverse]
    exact List.dropWhile_suffix _)
  obtain ⟨rest, hrest⟩ := hprefix
  intro h
  have hstart := h.append rest
  rw [hrest] at hstart
  exact not_begins_dropWhile isBlank t hstart

theorem not_begins_reverse_trim (t : Text) : ¬ Begins isBlank (trim t).reverse := by
  rw [trim, trimEnd, List.reverse_reverse]
  exact not_begins_dropWhile isBlank _

theorem trim_eq_self_iff : trim t = t ↔ ¬ Begins isBlank t ∧ ¬ Begins isBlank t.reverse := by
  constructor
  · intro h
    have hstart := not_begins_trim t
    have hend := not_begins_reverse_trim t
    rw [h] at hstart hend
    exact ⟨hstart, hend⟩
  · intro h
    by_cases ht : t = []
    · rw [ht]
      rfl
    · have hnil : ∀ c ∈ ([] : Text), isBlank c = true := fun c hc ↦ nomatch hc
      have hrun := trim_run hnil hnil ht h.1 h.2
      rwa [List.nil_append, List.append_nil] at hrun

theorem trim_infix (t : Text) : trim t <:+: t := by
  obtain ⟨front, back, -, -, h⟩ := exists_trim t
  exact ⟨front, back, h.symm⟩

theorem trim_trim (t : Text) : trim (trim t) = trim t :=
  trim_eq_self_iff.mpr ⟨not_begins_trim t, not_begins_reverse_trim t⟩

theorem dropWhile_suffix_of_suffix (p : Char → Bool) (h : t <:+ u) :
    t.dropWhile p <:+ u.dropWhile p := by
  obtain ⟨front, rfl⟩ := h
  rw [List.dropWhile_append]
  split
  · exact List.suffix_refl _
  · exact (List.dropWhile_suffix p).trans (List.suffix_append _ t)

theorem dropWhile_prefix_of_prefix (p : Char → Bool) (h : t <+: u) :
    t.dropWhile p <+: u.dropWhile p := by
  obtain ⟨back, rfl⟩ := h
  rw [List.dropWhile_append]
  split
  · next he =>
    rw [List.isEmpty_iff.mp he]
    exact List.nil_prefix
  · exact List.prefix_append _ back

theorem trim_suffix (h : t <:+ u) : trim t <:+ trim u := by
  rw [trim, trim, trimEnd, trimEnd, List.reverse_suffix]
  apply dropWhile_prefix_of_prefix
  rw [List.reverse_prefix]
  exact dropWhile_suffix_of_suffix isBlank h

theorem trim_append_append (ht : t ≠ []) (hs : trim t = t) (middle : Text) (hu : u ≠ [])
    (he : ¬ Begins isBlank u.reverse) : trim (t ++ middle ++ u) = t ++ middle ++ u := by
  refine trim_eq_self_iff.mpr ⟨?_, ?_⟩
  · rw [List.append_assoc, begins_append ht]
    exact (trim_eq_self_iff.mp hs).1
  · rw [List.reverse_append, begins_append (mt List.reverse_eq_nil_iff.mp hu)]
    exact he

theorem infix_join (separator : Text) {ts : List Text} (h : t ∈ ts) :
    t <:+: join separator ts := by
  induction ts with
  | nil => cases h
  | cons u ts ih =>
    cases ts with
    | nil =>
      rw [List.mem_singleton.mp h]
      exact List.infix_refl u
    | cons v ts =>
      rw [join, List.append_assoc]
      rcases List.mem_cons.mp h with rfl | h
      · exact (List.prefix_append t _).isInfix
      · exact (ih h).trans
          ((List.suffix_append separator _).trans (List.suffix_append u _)).isInfix

theorem mem_of_mem_join {separator : Text} {ts : List Text} {c : Char}
    (h : c ∈ join separator ts) : c ∈ separator ∨ ∃ t ∈ ts, c ∈ t := by
  induction ts with
  | nil => cases h
  | cons t ts ih =>
    cases ts with
    | nil => exact .inr ⟨t, List.mem_singleton_self t, h⟩
    | cons u ts =>
      rw [join, List.append_assoc, List.mem_append, List.mem_append] at h
      rcases h with ht | hs | hrest
      · exact .inr ⟨t, List.mem_cons_self, ht⟩
      · exact .inl hs
      · rcases ih hrest with hs | ⟨v, hv, hc⟩
        · exact .inl hs
        · exact .inr ⟨v, List.mem_cons_of_mem t hv, hc⟩

theorem join_ne_nil (separator : Text) {ts : List Text} (h : ∀ t ∈ ts, t ≠ []) (hts : ts ≠ []) :
    join separator ts ≠ [] := by
  obtain ⟨t, ts, rfl⟩ := List.exists_cons_of_ne_nil hts
  have ht := h t (by simp)
  cases ts with
  | nil => exact ht
  | cons u ts =>
    rw [join, List.append_assoc]
    exact List.append_ne_nil_of_left_ne_nil ht _

theorem trim_join (separator : Text) {ts : List Text} (h : ∀ t ∈ ts, t ≠ [] ∧ trim t = t) :
    trim (join separator ts) = join separator ts := by
  induction ts with
  | nil => rfl
  | cons t ts ih =>
    obtain ⟨⟨hne, ht⟩, hts⟩ := List.forall_mem_cons.mp h
    cases ts with
    | nil => exact ht
    | cons u ts =>
      have hrest := join_ne_nil separator (fun v hv ↦ (hts v hv).1) (List.cons_ne_nil u ts)
      rw [join]
      exact trim_append_append hne ht separator hrest (trim_eq_self_iff.mp (ih hts)).2

theorem infix_of_infix_append {front : Text} (hf : ∀ c ∈ front, isBlank c = true) (hu : u ≠ [])
    (hs : ¬ Begins isBlank u) (h : u <:+: front ++ t) : u <:+: t := by
  induction front with
  | nil => exact h
  | cons c front ih =>
    obtain ⟨hc, hf⟩ := List.forall_mem_cons.mp hf
    rw [List.cons_append, List.infix_cons_iff] at h
    rcases h with hprefix | hinfix
    · -- a text that begins with no blank cannot begin among the blanks
      obtain ⟨d, u, rfl⟩ := List.exists_cons_of_ne_nil hu
      obtain ⟨rfl, -⟩ := List.cons_prefix_cons.mp hprefix
      exact absurd (begins_cons.mpr hc) hs
    · exact ih hf hinfix

/-- Trimming a text takes nothing away from a text inside it whose ends are not blank. -/
theorem infix_trim (hu : u ≠ []) (htrim : trim u = u) (h : u <:+: t) : u <:+: trim t := by
  obtain ⟨hs, he⟩ := trim_eq_self_iff.mp htrim
  obtain ⟨front, back, hf, hb, ht⟩ := exists_trim t
  rw [ht, List.append_assoc] at h
  have hcore := infix_of_infix_append hf hu hs h
  rw [← List.reverse_infix, List.reverse_append] at hcore
  exact List.reverse_infix.mp (infix_of_infix_append
    (fun c hc ↦ hb c (List.mem_reverse.mp hc)) (mt List.reverse_eq_nil_iff.mp hu) he hcore)

end StatementView.Text
