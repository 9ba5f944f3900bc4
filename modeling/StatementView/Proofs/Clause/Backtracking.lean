import StatementView.Proofs.Clause.Placement

namespace StatementView.Clause

open Text (SameLetters isBlank)

def cuts : Text → List (Text × Text)
  | [] => []
  | c :: t => (if isBlank c then [([], t)] else []) ++ (cuts t).map fun p ↦ (c :: p.1, p.2)

/-- The gaps behind a keyword in every way to find the others. -/
def ways : List Text → Text → List (List Text)
  | [], t => (afterBlank? t).toList.map ([·])
  | k :: keywords, t =>
    (cuts t).flatMap fun p ↦
      ((afterKeyword? k p.2).toList.flatMap (ways keywords)).map (p.1 :: ·)

def leads : Text → List Text
  | [] => [[]]
  | c :: t => if isBlank c then leads t ++ [c :: t] else [c :: t]

def Pattern.ways (p : Pattern) (t : Text) : List (List Text) :=
  match p.keywords with
  | [] => [[]]
  | k :: keywords =>
    (leads t).flatMap fun u ↦ (afterKeyword? k u).toList.flatMap (Clause.ways keywords)

theorem skipBlanks_eq_findSome? {α : Type} (accept : Text → Option α) (t : Text) :
    skipBlanks accept t = (leads t).findSome? accept := by
  induction t with
  | nil => simp [skipBlanks, leads]
  | cons c t ih =>
    rw [skipBlanks, leads, ih]
    by_cases hc : isBlank c = true
    · rw [if_pos hc, if_pos hc, List.findSome?_append, List.findSome?_singleton]
      cases (leads t).findSome? accept <;> rfl
    · rw [if_neg hc, if_neg hc, List.findSome?_singleton]

theorem seek_eq_findSome? {α : Type} (accept : Text → Option α) (t : Text) :
    seek accept t = (cuts t).findSome? fun p ↦ (accept p.2).map (p.1, ·) := by
  induction t with
  | nil => rfl
  | cons c t ih =>
    have hmap : ((cuts t).map fun p ↦ (c :: p.1, p.2)).findSome?
          (fun p ↦ (accept p.2).map (p.1, ·)) =
        (seek accept t).map fun p ↦ (c :: p.1, p.2) := by
      rw [ih, List.map_findSome?, List.findSome?_map]
      congr 1
      funext p
      simp only [Function.comp_apply, Option.map_map]
      rfl
    rw [seek, cuts, List.findSome?_append, hmap]
    by_cases hc : isBlank c = true
    · rw [if_pos hc, if_pos hc, List.findSome?_singleton]
      cases accept t <;> rfl
    · rw [if_neg hc, if_neg hc, List.findSome?_nil, Option.none_or]

theorem mem_cuts_iff {t : Text} {p : Text × Text} :
    p ∈ cuts t ↔ ∃ c, t = p.1 ++ c :: p.2 ∧ isBlank c = true := by
  obtain ⟨gap, u⟩ := p
  induction t generalizing gap with
  | nil => simp [cuts]
  | cons d t ih =>
    rw [cuts, List.mem_append]
    constructor
    · intro h
      rcases h with h | h
      · by_cases hd : isBlank d = true
        · rw [if_pos hd] at h
          obtain ⟨rfl, rfl⟩ := Prod.mk.inj (List.mem_singleton.mp h)
          exact ⟨d, rfl, hd⟩
        · rw [if_neg hd] at h
          cases h
      · obtain ⟨⟨gap', u'⟩, hq, he⟩ := List.mem_map.mp h
        obtain ⟨rfl, rfl⟩ := Prod.mk.inj he
        obtain ⟨c, rfl, hc⟩ := (ih gap').mp hq
        exact ⟨c, rfl, hc⟩
    · intro h
      obtain ⟨c, ht, hc⟩ := h
      cases gap with
      | nil =>
        obtain ⟨rfl, rfl⟩ := List.cons.inj ht
        exact .inl (by simp [hc])
      | cons e gap =>
        obtain ⟨rfl, rfl⟩ := List.cons.inj ht
        exact .inr (List.mem_map.mpr ⟨(gap, u), (ih gap).mpr ⟨c, rfl, hc⟩, rfl⟩)

theorem suffix_of_mem_cuts {t : Text} {p : Text × Text} (h : p ∈ cuts t) : p.2 <:+ t := by
  obtain ⟨c, ht, -⟩ := mem_cuts_iff.mp h
  exact ⟨p.1 ++ [c], by simp [ht]⟩

theorem mem_leads_iff {t u : Text} :
    u ∈ leads t ↔ ∃ lead, (∀ c ∈ lead, isBlank c = true) ∧ t = lead ++ u := by
  induction t with
  | nil =>
    rw [leads, List.mem_singleton]
    constructor
    · intro h
      exact ⟨[], by simp, by simp [h]⟩
    · intro h
      obtain ⟨lead, -, ht⟩ := h
      exact (List.append_eq_nil_iff.mp ht.symm).2
  | cons d t ih =>
    rw [leads]
    by_cases hd : isBlank d = true
    · rw [if_pos hd, List.mem_append, ih, List.mem_singleton]
      constructor
      · intro h
        rcases h with ⟨lead, hl, rfl⟩ | rfl
        · exact ⟨d :: lead, List.forall_mem_cons.mpr ⟨hd, hl⟩, rfl⟩
        · exact ⟨[], by simp, rfl⟩
      · intro h
        obtain ⟨lead, hl, ht⟩ := h
        cases lead with
        | nil => exact .inr ht.symm
        | cons e lead =>
          obtain ⟨rfl, rfl⟩ := List.cons.inj ht
          exact .inl ⟨lead, (List.forall_mem_cons.mp hl).2, rfl⟩
    · rw [if_neg hd, List.mem_singleton]
      constructor
      · intro h
        exact ⟨[], by simp, h.symm⟩
      · intro h
        obtain ⟨lead, hl, ht⟩ := h
        cases lead with
        | nil => exact ht.symm
        | cons e lead =>
          obtain ⟨rfl, -⟩ := List.cons.inj ht
          exact absurd (List.forall_mem_cons.mp hl).1 hd

theorem mem_ways_iff {keywords : List Text} {t : Text} {gs : List Text} :
    gs ∈ ways keywords t ↔ ∃ later blank tail, FitsBehind keywords later blank ∧
      behind later blank tail = t ∧ gs = later.map Later.gap ++ [tail] := by
  induction keywords generalizing t gs with
  | nil =>
    simp only [ways, List.mem_map, Option.mem_toList, afterBlank?_eq_some_iff]
    constructor
    · intro h
      obtain ⟨tail, ⟨c, rfl, hc⟩, rfl⟩ := h
      exact ⟨[], c, tail, fitsBehind_nil.mpr ⟨rfl, hc⟩, rfl, rfl⟩
    · intro h
      obtain ⟨later, c, tail, hf, rfl, rfl⟩ := h
      obtain ⟨rfl, hc⟩ := fitsBehind_nil.mp hf
      exact ⟨tail, ⟨c, rfl, hc⟩, rfl⟩
  | cons k keywords ih =>
    simp only [ways, List.mem_flatMap, List.mem_map, Option.mem_toList, mem_cuts_iff,
      afterKeyword?_eq_some_iff, ih]
    constructor
    · intro h
      obtain ⟨⟨gap, u⟩, ⟨c, rfl, hc⟩, gs', ⟨rest, ⟨w, hu, hw⟩, later, blank, tail, hf, hr, rfl⟩,
        rfl⟩ := h
      dsimp only at hu
      subst hu hr
      exact ⟨⟨gap, c, w⟩ :: later, blank, tail, fitsBehind_cons.mpr ⟨_, _, rfl, hw, hc, hf⟩,
        behind_cons .., rfl⟩
    · intro h
      obtain ⟨later, blank, tail, hf, rfl, rfl⟩ := h
      obtain ⟨l, later, rfl, hw, hc, hf⟩ := fitsBehind_cons.mp hf
      exact ⟨(l.gap, l.word ++ behind later blank tail), ⟨l.blank, behind_cons .., hc⟩,
        later.map Later.gap ++ [tail],
        ⟨behind later blank tail, ⟨l.word, rfl, hw⟩, later, blank, tail, hf, rfl, rfl⟩, rfl⟩

theorem pairwise_cuts (t : Text) : (cuts t).Pairwise fun p q ↦ q.2 <:+ p.2 := by
  induction t with
  | nil => exact .nil
  | cons c t ih =>
    have hmap : ((cuts t).map fun p ↦ (c :: p.1, p.2)).Pairwise fun p q ↦ q.2 <:+ p.2 :=
      List.pairwise_map.mpr ih
    rw [cuts]
    split
    · refine List.pairwise_cons.mpr ⟨fun q hq ↦ ?_, hmap⟩
      obtain ⟨p, hp, rfl⟩ := List.mem_map.mp hq
      change p.2 <:+ t
      exact suffix_of_mem_cuts hp
    · exact hmap

/-- Where the keywords behind a first find are not found, they are not found behind a later one. -/
theorem gaps?_eq_none_of_suffix {k k' : Text} {keywords : List Text} {u v rest rest' : Text}
    (hv : v <:+ u) (hu : afterKeyword? k u = some rest) (hv' : afterKeyword? k v = some rest')
    (h : gaps? (k' :: keywords) rest = none) : gaps? (k' :: keywords) rest' = none := by
  obtain ⟨w, rfl, hw⟩ := afterKeyword?_eq_some_iff.mp hu
  obtain ⟨w', rfl, hw'⟩ := afterKeyword?_eq_some_iff.mp hv'
  have hlen := hv.length_le
  have hww := hw.length_eq.symm.trans hw'.length_eq
  simp only [List.length_append] at hlen
  have hrest : rest' <:+ rest :=
    List.suffix_of_suffix_length_le ((List.suffix_append w' rest').trans hv)
      (List.suffix_append w rest) (by omega)
  apply Option.eq_none_iff_forall_ne_some.mpr
  intro gs hg
  obtain ⟨later, blank, tail, hf, ht, -⟩ := exists_of_gaps? hg
  have hs := isSome_gaps? hf (ht ▸ hrest)
  rw [h] at hs
  exact Bool.false_ne_true hs

theorem head?_flatMap_toList {α β : Type} (a? : Option α) (f : α → List β) :
    (a?.toList.flatMap f).head? = a?.bind fun a ↦ (f a).head? := by
  cases a? with
  | none => rfl
  | some a => simp

theorem head?_ways (keywords : List Text) (t : Text) :
    (ways keywords t).head? = gaps? keywords t := by
  induction keywords generalizing t with
  | nil =>
    rw [ways, gaps?]
    cases afterBlank? t <;> rfl
  | cons k keywords ih =>
    rw [ways, List.head?_flatMap]
    simp only [List.head?_map, head?_flatMap_toList, ih]
    cases keywords with
    | nil =>
      rw [gaps?, seek_eq_findSome?, List.map_findSome?]
      congr 1
      funext p
      simp only [Function.comp_apply, Option.map_map]
      cases afterKeyword? k p.2 with
      | none => rfl
      | some rest =>
        rw [Option.bind_some, Option.bind_some, gaps?]
        cases afterBlank? rest with
        | none => rfl
        | some tail => rfl
    | cons k' keywords =>
      rw [gaps?, seek_eq_findSome?]
      -- going back to a longer front leaves a shorter rest, where nothing more is found
      have hp := pairwise_cuts t
      generalize cuts t = ps at hp
      induction ps with
      | nil => rfl
      | cons p ps ihp =>
        obtain ⟨hfirst, hps⟩ := List.pairwise_cons.mp hp
        rw [List.findSome?_cons, List.findSome?_cons]
        cases hk : afterKeyword? k p.2 with
        | none => exact ihp hps
        | some rest =>
          cases hg : gaps? (k' :: keywords) rest with
          | some gs => simp [hg]
          | none =>
            simp only [Option.bind_some, hg, Option.map_none, Option.map_some]
            apply List.findSome?_eq_none_iff.mpr
            intro q hq
            cases hkq : afterKeyword? k q.2 with
            | none => rfl
            | some rest' =>
              have hnone := gaps?_eq_none_of_suffix (hfirst q hq) hk hkq hg
              rw [Option.bind_some, hnone, Option.map_none]

/-- The gaps that a pattern finds are the first ones of a matcher that goes back. -/
theorem Pattern.head?_ways (p : Pattern) (t : Text) : (p.ways t).head? = p.gaps? t := by
  obtain ⟨_ | ⟨k, keywords⟩⟩ := p
  · rfl
  · simp only [ways, gaps?]
    rw [skipBlanks_eq_findSome?, List.head?_flatMap]
    simp only [head?_flatMap_toList, Clause.head?_ways]

end StatementView.Clause
