import StatementView.Proofs.Binding.Insertion

namespace StatementView.Key

theorem text_ofName (t : Text) : (ofName t).text = t := by
  obtain ⟨n, -, ht, hi⟩ | hname := ofName_cases t
  · rw [hi]
    exact ht
  · rw [hname]
    rfl

theorem ofName_injective : Function.Injective ofName := by
  intro t u h
  rw [← text_ofName t, h, text_ofName]

/-- A text stands for a position exactly if it is the canonical decimal of one, and otherwise for
itself as a name: this is what reading a word from it and writing the word again decides, with signs,
zeros in front and overflows told apart by the second step or the first. The key written back is
always the text, so different names have different keys. -/
theorem ofName_exact :
    (∀ t n, ofName t = .index n ↔
        Decimal.Canonical t ∧ Decimal.value t = n ∧ n < Decimal.wordBound) ∧
      (∀ t s, ofName t = .name s ↔
        s = t ∧ ¬ (Decimal.Canonical t ∧ Decimal.value t < Decimal.wordBound)) ∧
      (∀ t, ofName t =
        match Decimal.word? t with
        | some n => if Decimal.natural n = t then .index n else .name t
        | none => .name t) ∧
      (∀ t, (ofName t).text = t) ∧ Function.Injective ofName := by
  refine ⟨?_, ?_, fun _ ↦ rfl, text_ofName, ofName_injective⟩
  · intro t n
    rw [ofName_eq_index_iff, Decimal.natural_eq_iff, and_comm, and_assoc]
  · intro t s
    rw [ofName_eq_name_iff]
    refine and_congr_right fun _ ↦ ⟨?_, ?_⟩
    · rintro hall ⟨hc, hlt⟩
      exact hall _ hlt (Decimal.natural_value hc)
    · rintro hnot n hn ht
      obtain ⟨hc, rfl⟩ := Decimal.natural_eq_iff.mp ht
      exact hnot ⟨hc, hn⟩

example : ∀ t ∈ ["", "+5", "-0", "007", "٣", "18446744073709551616"].map String.toList,
    ofName t = .name t := by decide

end StatementView.Key
