import StatementView.Combination.Walk
import StatementView.Proofs.Combination.Recursion

namespace StatementView

variable {n i : Nat} {is js ks : List Nat}

theorem nextPositions?_append_of_some (front : List Nat) (h : nextPositions? n is = some js) :
    nextPositions? n (front ++ is) = some (front ++ js) := by
  induction front with
  | nil => exact h
  | cons i front ih => exact nextPositions?_cons_eq_some_iff.mpr (.inl ⟨_, ih, rfl⟩)

theorem IsAscent.length_le_bound (h : IsAscent n is) : is.length ≤ n := by
  rcases h.length_le fun i _ ↦ Nat.zero_le i with rfl | hl
  · exact Nat.zero_le n
  · rwa [Nat.zero_add] at hl

namespace Walk

theorem minus_of_le {a b : Nat} (h : b ≤ a) : minus a b = .ok (a - b) := if_pos h

theorem read_append_cons {α : Type} (front : List α) (a : α) (back : List α) :
    read (front ++ a :: back) front.length = .ok a := by
  rw [read, List.getElem?_append_right (Nat.le_refl _), Nat.sub_self, List.getElem?_cons_zero]

theorem write_append_cons {α : Type} (front : List α) (a b : α) (back : List α) :
    write (front ++ a :: back) front.length b = .ok (front ++ b :: back) := by
  rw [write, if_pos (by simp), List.set_append_right _ _ (Nat.le_refl _), Nat.sub_self,
    List.set_cons_zero]

theorem closeUp_eq (front : List Nat) (i : Nat) (back : List Nat) :
    closeUp (front ++ i :: back) (front.length + 1) back.length =
      .ok (front ++ List.range' i (back.length + 1)) := by
  induction back generalizing front i with
  | nil => rfl
  | cons b back ih =>
    have hsplit (c : Nat) : front ++ i :: c :: back = front ++ [i] ++ c :: back := by
      rw [List.append_assoc, List.singleton_append]
    have hlen : front.length + 1 = (front ++ [i]).length := by
      rw [List.length_append, List.length_singleton]
    have hwrite : write (front ++ i :: b :: back) (front.length + 1) (i + 1) =
        .ok (front ++ i :: (i + 1) :: back) := by
      rw [hsplit, hsplit, hlen, write_append_cons]
    have hrest := ih (front ++ [i]) (i + 1)
    rw [← hsplit, ← hlen] at hrest
    rw [List.length_cons, closeUp, minus_of_le (Nat.le_add_left 1 _), Nat.add_sub_cancel]
    simp only [bind, Except.bind, read_append_cons, hwrite]
    rw [hrest, List.range'_succ (n := back.length + 1), List.append_assoc, List.singleton_append]

/-- The search from the back finds the position that moves up in the next combination, and the
positions behind it. -/
theorem pivot?_append (front back : List Nat) (hl : (front ++ back).length ≤ n)
    (hback : nextPositions? n back = none) :
    (pivot? n (front ++ back) front.length = .ok none ∧
      nextPositions? n (front ++ back) = none) ∨
    ∃ lead i rest, front ++ back = lead ++ i :: rest ∧
      pivot? n (front ++ back) front.length = .ok (some lead.length) ∧
      nextPositions? n (front ++ back) =
        some (lead ++ List.range' (i + 1) (rest.length + 1)) := by
  induction front using List.reverseRecOn generalizing back with
  | nil => exact .inl ⟨rfl, hback⟩
  | append_singleton front i ih =>
    have hsplit : front ++ [i] ++ back = front ++ i :: back := by
      rw [List.append_assoc, List.singleton_append]
    rw [hsplit] at hl ⊢
    have hlen : (front ++ i :: back).length = front.length + (back.length + 1) :=
      List.length_append
    have hpivot : pivot? n (front ++ i :: back) (front ++ [i]).length =
        if i < n - (front ++ i :: back).length + front.length then .ok (some front.length)
        else pivot? n (front ++ i :: back) front.length := by
      rw [List.length_append, List.length_singleton, pivot?, read_append_cons, minus_of_le hl]
      rfl
    rw [hpivot]
    by_cases hroom : i + back.length + 1 < n
    · have hnext : nextPositions? n (i :: back) = some (List.range' (i + 1) (back.length + 1)) :=
        nextPositions?_cons_eq_some_iff.mpr (.inr ⟨hback, hroom, rfl⟩)
      rw [if_pos (by omega)]
      exact .inr ⟨front, i, back, rfl, rfl, nextPositions?_append_of_some front hnext⟩
    · -- this position cannot move either, so the search goes on in front of it
      have hnone : nextPositions? n (i :: back) = none :=
        nextPositions?_cons_eq_none_iff.mpr ⟨hback, by omega⟩
      rw [if_neg (by omega)]
      exact ih (i :: back) hl hnone

theorem advance_eq (hl : is.length ≤ n) : advance n is = .ok (nextPositions? n is) := by
  -- the search begins with all positions in front of it and none behind
  have hsearch := pivot?_append (n := n) is [] (by rwa [List.append_nil]) rfl
  rw [List.append_nil] at hsearch
  rw [advance]
  rcases hsearch with ⟨hpivot, hnext⟩ | ⟨lead, i, rest, rfl, hpivot, hnext⟩
  · rw [hpivot, hnext]
    rfl
  · have hcount : (lead ++ i :: rest).length - (lead.length + 1) = rest.length := by
      rw [List.length_append, List.length_cons]
      omega
    rw [hpivot, hnext]
    simp only [bind, Except.bind, read_append_cons, write_append_cons, hcount, closeUp_eq]

end Walk

namespace Combinations

variable {α : Type}

theorem toList_eq_cons {c : Combinations α} (h : c.upcoming = some is) :
    c.toList = pick c.elements is :: c.tail.toList := by
  rw [toList, h, toList, tail]
  dsimp only
  rw [h, Option.bind_some]
  cases hnext : nextPositions? c.elements.length is with
  | none => rw [positionsFrom_none hnext]; rfl
  | some js => rw [positionsFrom_some hnext]; rfl

theorem toList_eq_nil {c : Combinations α} (h : c.upcoming = none) : c.toList = [] := by
  rw [toList, h]

theorem head?_eq (c : Combinations α) : c.head? = c.toList.head? := by
  cases h : c.upcoming with
  | none => rw [head?, toList_eq_nil h, h]; rfl
  | some is => rw [head?, toList_eq_cons h, h]; rfl

theorem toList_tail (c : Combinations α) : c.tail.toList = c.toList.tail := by
  cases h : c.upcoming with
  | none =>
    have htail : c.tail.upcoming = none := by rw [tail, h]; rfl
    rw [toList_eq_nil h, toList_eq_nil htail]
    rfl
  | some is => rw [toList_eq_cons h]; rfl

theorem toList_tail_iterate (c : Combinations α) (m : Nat) :
    (tail^[m] c).toList = c.toList.drop m := by
  induction m with
  | zero => rfl
  | succ m ih => rw [Function.iterate_succ_apply', toList_tail, ih, List.tail_drop]

end Combinations

namespace Walk

variable {α : Type} {w : Walk α} {c : Combinations α}

/-- A walk is at a place of an enumeration: what it answers next is the combination that comes next
there, and while it is not done its positions ascend. -/
structure IsAt (w : Walk α) (c : Combinations α) : Prop where
  elements : w.elements = c.elements
  upcoming : c.upcoming =
    if w.done then none
    else if w.started then nextPositions? w.elements.length w.positions
    else some w.positions
  ascent : w.done = false → IsAscent w.elements.length w.positions

theorem isAt_start (elements : List α) (level : Nat) :
    (start elements level).IsAt (Combinations.start elements level) where
  elements := rfl
  upcoming := by simp [start, Combinations.start]
  ascent := by
    intro h
    have hl : ¬ (level = 0 ∨ elements.length < level) := of_decide_eq_false h
    exact Combinations.isAscent_range (Nat.not_lt.mp (not_or.mp hl).2)

theorem mapM_read {l : List α} (h : ∀ i ∈ is, i < l.length) :
    is.mapM (read l) = .ok (Combinations.pick l is) := by
  induction is with
  | nil => rfl
  | cons i is ih =>
    obtain ⟨hi, his⟩ := List.forall_mem_cons.mp h
    have hread : read l i = .ok l[i] := by rw [read, List.getElem?_eq_getElem hi]
    rw [List.mapM_cons, hread, ih his, Combinations.pick_cons hi]
    rfl

section Next

variable {elements : List α}

theorem next_first (h : IsAscent elements.length is) :
    (⟨elements, is, false, false⟩ : Walk α).next =
      .ok (some (Combinations.pick elements is), ⟨elements, is, true, false⟩) := by
  simp only [next, answer, mapM_read h.below]
  rfl

theorem next_step (h : IsAscent elements.length is)
    (hnext : nextPositions? elements.length is = some js) :
    (⟨elements, is, true, false⟩ : Walk α).next =
      .ok (some (Combinations.pick elements js), ⟨elements, js, true, false⟩) := by
  have hjs := isAscent_nextPositions? h hnext
  simp only [next, advance_eq h.length_le_bound, hnext, answer, bind, Except.bind,
    mapM_read hjs.below]
  rfl

theorem next_last (h : IsAscent elements.length is)
    (hnext : nextPositions? elements.length is = none) :
    (⟨elements, is, true, false⟩ : Walk α).next = .ok (none, ⟨elements, is, true, true⟩) := by
  simp only [next, advance_eq h.length_le_bound, hnext]
  rfl

end Next

theorem exists_next (h : w.IsAt c) : ∃ w', w.next = .ok (c.head?, w') ∧ w'.IsAt c.tail := by
  obtain ⟨elements, is, started, done⟩ := w
  obtain ⟨_, _⟩ := c
  obtain ⟨rfl, rfl, hascent⟩ := h
  cases done with
  | true => exact ⟨⟨elements, is, started, true⟩, rfl, rfl, rfl, hascent⟩
  | false =>
    have his : IsAscent elements.length is := hascent rfl
    cases started with
    | false => exact ⟨⟨elements, is, true, false⟩, next_first his, rfl, rfl, hascent⟩
    | true =>
      cases hnext : nextPositions? elements.length is with
      | none =>
        refine ⟨⟨elements, is, true, true⟩, ?_, rfl, ?_, fun h ↦ nomatch h⟩
        · rw [next_last his hnext]
          rfl
        · simp [Combinations.tail]
      | some js =>
        refine ⟨⟨elements, js, true, false⟩, ?_, rfl, ?_, fun _ ↦ isAscent_nextPositions? his hnext⟩
        · rw [next_step his hnext]
          rfl
        · simp [Combinations.tail]

theorem exists_calls (h : w.IsAt c) (m : Nat) :
    ∃ w', w.calls m = .ok ((List.range m).map (c.toList[·]?), w') ∧
      w'.IsAt (Combinations.tail^[m] c) := by
  induction m generalizing w c with
  | zero => exact ⟨w, rfl, h⟩
  | succ m ih =>
    obtain ⟨w₁, hnext, h₁⟩ := exists_next h
    obtain ⟨w₂, hcalls, h₂⟩ := ih h₁
    refine ⟨w₂, ?_, h₂⟩
    rw [calls, hnext]
    simp only [bind, Except.bind, hcalls]
    rw [List.range_succ_eq_map, List.map_cons, List.map_map, c.head?_eq, c.toList_tail,
      List.head?_eq_getElem?]
    have hshift : (c.toList.tail[·]?) = (c.toList[·]?) ∘ Nat.succ :=
      funext fun _ ↦ List.getElem?_tail
    rw [hshift]

end Walk

/-- The combinations of `level` elements stand at all ascending positions of that number, each once
and in lexicographic order; they are those of the recursion, and there are as many as ways to choose
`level` of the elements. After any number of calls the enumeration goes on with the rest of them and
then stays at its end, and a walk in place answers every call alike without a fault. -/
theorem combinations_enumerate {α : Type} (elements : List α) (level : Nat) :
    combinations elements level =
        (extensions elements.length level).map (Combinations.pick elements) ∧
      (extensions elements.length level).Pairwise (List.Lex (· < ·)) ∧
      (∀ is, is ∈ extensions elements.length level ↔
        0 < level ∧ IsAscent elements.length is ∧ is.length = level) ∧
      (combinations elements level).length =
        (if level = 0 then 0 else elements.length.choose level) ∧
      (level = 0 ∨ elements.length < level → combinations elements level = []) ∧
      ∀ m,
        (Combinations.tail^[m] (.start elements level)).toList =
            (combinations elements level).drop m ∧
          (Combinations.tail^[m] (.start elements level)).head? =
            (combinations elements level)[m]? ∧
          ∃ w : Walk α,
            (Walk.start elements level).calls m =
                .ok ((List.range m).map ((combinations elements level)[·]?), w) ∧
              ∀ k, ∃ w' : Walk α,
                w.calls k =
                  .ok ((List.range k).map (((combinations elements level).drop m)[·]?), w') := by
  have heq := combinations_eq_map_extensions elements level
  refine ⟨heq, pairwise_extensions _ _, fun _ ↦ mem_extensions_iff, ?_, ?_, ?_⟩
  · rw [heq, List.length_map]
    split
    · next h0 => rw [extensions_eq_nil (.inl h0), List.length_nil]
    · next h0 => exact length_extensions (Nat.pos_of_ne_zero h0)
  · intro h
    rw [heq, extensions_eq_nil h, List.map_nil]
  · intro m
    have hdrop := Combinations.toList_tail_iterate (.start elements level) m
    obtain ⟨w, hcalls, hw⟩ := Walk.exists_calls (Walk.isAt_start elements level) m
    refine ⟨hdrop, ?_, w, hcalls, ?_⟩
    · rw [Combinations.head?_eq, hdrop, List.head?_drop]
      rfl
    · intro k
      obtain ⟨w', hrest, -⟩ := Walk.exists_calls hw k
      rw [hdrop] at hrest
      exact ⟨w', hrest⟩

end StatementView
