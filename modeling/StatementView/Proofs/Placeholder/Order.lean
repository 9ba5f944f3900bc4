import StatementView.Proofs.Placeholder.Lookups

namespace StatementView

namespace Bindings.Agree

open Placeholder (AgreeOn substitute)

variable {a b : Bindings}

theorem agreeOn (h : a.Agree b) (tokens : List Text) : AgreeOn tokens a b :=
  ⟨fun n ↦ h (.index n), fun _ _ key _ ↦ h key⟩

theorem substitute_eq (h : a.Agree b) (t : Text) : substitute a t = substitute b t :=
  (h.agreeOn _).substitute_eq

end Bindings.Agree

namespace Bindings

open Placeholder (substitute)

/-- Bindings are a finite map from canonical keys. A key has the value put last under it; each entry
takes out what its key has just before and leaves all other keys alone; the size is the number of
different keys; and entries with different keys may be put in any order. -/
theorem putAll_finite_map (b : Bindings) (entries : List (Key × Value)) :
    (∀ t : Text, (∀ n, Key.ofName t = .index n ↔ n < Decimal.wordBound ∧ Decimal.natural n = t) ∧
        ∀ s, Key.ofName t = .name s ↔ s = t ∧ ∀ n < Decimal.wordBound, Decimal.natural n ≠ t) ∧
      (∀ key, (b.putAll entries).get? key = (entries.reverse.lookup key).or (b.get? key)) ∧
      (b.exchangeAll entries).2 = b.putAll entries ∧
      (∀ i, (b.exchangeAll entries).1[i]? =
        entries[i]?.map fun entry ↦ (b.putAll (entries.take i)).get? entry.1) ∧
      (∀ i entry, entries[i]? = some entry → ∀ key ≠ entry.1,
        (b.putAll (entries.take (i + 1))).get? key = (b.putAll (entries.take i)).get? key) ∧
      (b.putAll entries).size = (b.keys ∪ (entries.map Prod.fst).toFinset).card ∧
      (∀ key, key ∈ b.keys ↔ (b.get? key).isSome = true) ∧
      ofEntries entries = empty.putAll entries ∧
      (ofEntries entries).size = (entries.map Prod.fst).toFinset.card ∧
      ((entries.map Prod.fst).Nodup → ∀ entries', entries.Perm entries' →
        (∀ key, (b.putAll entries).get? key = (b.putAll entries').get? key) ∧
        (b.putAll entries).firstIndex = (b.putAll entries').firstIndex ∧
        ∀ t, substitute (b.putAll entries) t = substitute (b.putAll entries') t) := by
  have hsize (c : Bindings) :
      (c.putAll entries).size = (c.keys ∪ (entries.map Prod.fst).toFinset).card := by
    rw [size_eq_card, keys_putAll]
  have hempty : (ofEntries entries).size = (entries.map Prod.fst).toFinset.card := by
    have h := hsize empty
    rwa [show empty.keys = ∅ from rfl, Finset.empty_union] at h
  refine ⟨fun t ↦ ⟨fun n ↦ Key.ofName_eq_index_iff, fun s ↦ Key.ofName_eq_name_iff⟩,
    b.get?_putAll entries, b.exchangeAll_snd entries, b.getElem?_exchangeAll entries, ?_, hsize b,
    fun _ ↦ mem_keys_iff, rfl, hempty, ?_⟩
  · intro i entry hi key hkey
    rw [putAll_take_succ b hi, get?_put, if_neg hkey]
  · intro hn entries' hp
    have h : (b.putAll entries).Agree (b.putAll entries') := Agree.putAll_perm hp hn fun _ ↦ rfl
    exact ⟨h, h.firstIndex_eq, h.substitute_eq⟩

theorem putAll_finite_map_mixed :
    ([(Key.ofName ['1'], .integer 5), (.name ['1'], .null), (Key.ofName ['i', 'd'], .bool true)].map
        (Prod.fst : Key × Value → Key)).Nodup ∧
      (empty.putAll [(Key.ofName ['1'], .integer 5), (.name ['1'], .null),
        (Key.ofName ['i', 'd'], .bool true)]).get? (.index 1) = some (.integer 5) ∧
      substitute (empty.putAll [(Key.ofName ['1'], .integer 5), (.name ['1'], .null),
          (Key.ofName ['i', 'd'], .bool true)]) "? :id".toList =
        substitute (empty.putAll [(Key.ofName ['i', 'd'], .bool true), (.name ['1'], .null),
          (Key.ofName ['1'], .integer 5)]) "? :id".toList := by
  have hn : ([(Key.ofName ['1'], .integer 5), (.name ['1'], .null),
      (Key.ofName ['i', 'd'], .bool true)].map (Prod.fst : Key × Value → Key)).Nodup := by decide
  obtain ⟨-, hget, -, -, -, -, -, -, -, horder⟩ := putAll_finite_map empty
    [(Key.ofName ['1'], .integer 5), (.name ['1'], .null), (Key.ofName ['i', 'd'], .bool true)]
  refine ⟨hn, ?_, ?_⟩
  · rw [hget]
    rfl
  · obtain ⟨-, -, hsubstitute⟩ := horder hn _ (List.reverse_perm _).symm
    exact hsubstitute _

end Bindings

end StatementView
