import Mathlib.Data.Set.Finite.Range
import Mathlib.Data.Set.Finite.List
import StatementView.Binding.Basic

namespace StatementView

theorem find?_putEntry (key k : Key) (value : Value) (entries : List (Key × Value)) :
    ((putEntry key value entries).find? fun entry ↦ entry.1 = k).map Prod.snd =
      if k = key then some value
      else (entries.find? fun entry ↦ entry.1 = k).map Prod.snd := by
  induction entries with
  | nil =>
    by_cases hk : k = key
    · simp [putEntry, hk]
    · simp [putEntry, hk, Ne.symm hk]
  | cons entry entries ih =>
    obtain ⟨k', v⟩ := entry
    by_cases h : k' = key
    · subst h
      by_cases hk : k = k'
      · simp [putEntry, hk]
      · simp [putEntry, hk, Ne.symm hk]
    · by_cases hk : k' = k
      · subst hk
        simp [putEntry, h]
      · simpa [putEntry, h, hk] using ih

namespace Bindings

theorem get?_put (b : Bindings) (key k : Key) (value : Value) :
    (b.put key value).get? k = if k = key then some value else b.get? k :=
  find?_putEntry key k value b.entries

theorem ofValues_concat (start : Nat) (values : List Value) (value : Value) :
    ofValues start (values ++ [value]) =
      (ofValues start values).put (.index (start + values.length)) value := by
  simp only [ofValues, ofEntries, List.zipIdx_append, List.map_append, List.foldl_append,
    List.zipIdx_singleton, List.map_singleton, List.foldl_cons, List.foldl_nil]

theorem getIndex?_ofValues (start : Nat) (values : List Value) (i : Nat) :
    (ofValues start values).getIndex? (start + i) = values[i]? := by
  induction values using List.reverseRecOn generalizing i with
  | nil => rfl
  | append_singleton values value ih =>
    rw [getIndex?, ofValues_concat, get?_put]
    split
    · next hk =>
      have hi : i = values.length := by
        have := Key.index.inj hk
        omega
      rw [hi, List.getElem?_concat_length]
    · next hk =>
      have hi : i ≠ values.length := fun h ↦ hk (by rw [h])
      have hv : (values ++ [value])[i]? = values[i]? := by
        rcases Nat.lt_or_gt_of_ne hi with hlt | hgt
        · exact List.getElem?_append_left hlt
        · have hlen : (values ++ [value]).length ≤ i := by
            rw [List.length_append, List.length_singleton]
            omega
          rw [List.getElem?_eq_none hlen, List.getElem?_eq_none hgt.le]
      rw [hv]
      exact ih i

theorem get?_ofValues_eq_none {start : Nat} {k : Key} (h : ∀ i, k ≠ .index (start + i))
    (values : List Value) : (ofValues start values).get? k = none := by
  induction values using List.reverseRecOn with
  | nil => rfl
  | append_singleton values value ih => rw [ofValues_concat, get?_put, if_neg (h _), ih]

/-- The values stand at consecutive positions from `start` on, and nothing is bound behind them. -/
def IsRun (b : Bindings) (start : Nat) (values : List Value) : Prop :=
  ∀ i ≤ values.length, b.getIndex? (start + i) = values[i]?

variable {b : Bindings} {start : Nat}

theorem isRun_nil : b.IsRun start [] ↔ b.getIndex? start = none := by
  simp [IsRun]

theorem isRun_cons {value : Value} {values : List Value} :
    b.IsRun start (value :: values) ↔
      b.getIndex? start = some value ∧ b.IsRun (start + 1) values := by
  constructor
  · intro h
    refine ⟨h 0 (Nat.zero_le _), ?_⟩
    intro i hi
    rw [Nat.add_assoc, Nat.add_comm 1 i]
    exact h (i + 1) (Nat.succ_le_succ hi)
  · intro h i hi
    cases i with
    | zero => exact h.1
    | succ i =>
      have hs := h.2 i (Nat.le_of_succ_le_succ hi)
      rwa [Nat.add_assoc, Nat.add_comm 1 i] at hs

theorem exists_unbound (b : Bindings) (start : Nat) : ∃ n, b.getIndex? (start + n) = none := by
  have hinj : Function.Injective fun n ↦ Key.index (start + n) := by
    intro m n h
    exact Nat.add_left_cancel (Key.index.inj h)
  obtain ⟨_, ⟨n, rfl⟩, hn⟩ := (Set.infinite_range_of_injective hinj).exists_notMem_finite
    (List.finite_toSet (b.entries.map Prod.fst))
  refine ⟨n, ?_⟩
  rw [getIndex?, get?, Option.map_eq_none_iff, List.find?_eq_none]
  intro entry he hk
  exact hn (List.mem_map.mpr ⟨entry, he, of_decide_eq_true hk⟩)

theorem exists_isRun (b : Bindings) (start : Nat) : ∃ values, b.IsRun start values := by
  obtain ⟨n, hn⟩ := b.exists_unbound start
  induction n generalizing start with
  | zero => exact ⟨[], isRun_nil.mpr hn⟩
  | succ n ih =>
    cases hv : b.getIndex? start with
    | none => exact ⟨[], isRun_nil.mpr hv⟩
    | some value =>
      rw [← Nat.add_assoc, Nat.add_right_comm] at hn
      obtain ⟨values, hr⟩ := ih (start + 1) hn
      exact ⟨value :: values, isRun_cons.mpr ⟨hv, hr⟩⟩

theorem isRun_ofValues (start : Nat) (values : List Value) :
    (ofValues start values).IsRun start values :=
  fun i _ ↦ getIndex?_ofValues start values i

theorem firstIndex_positional {values : List Value} (h : values ≠ []) :
    (positional values).firstIndex = 0 := by
  obtain ⟨value, rest, rfl⟩ := List.exists_cons_of_ne_nil h
  have h0 := (isRun_cons.mp (isRun_ofValues 0 (value :: rest))).1
  simp [firstIndex, containsIndex, positional, h0]

theorem firstIndex_oneBased {values : List Value} (h : values ≠ []) :
    (oneBased values).firstIndex = 1 := by
  obtain ⟨value, rest, rfl⟩ := List.exists_cons_of_ne_nil h
  have h1 := (isRun_cons.mp (isRun_ofValues 1 (value :: rest))).1
  have h0 : (ofValues 1 (value :: rest)).getIndex? 0 = none := by
    apply get?_ofValues_eq_none
    intro i hi
    have := Key.index.inj hi
    omega
  simp [firstIndex, containsIndex, oneBased, h0, h1]

end Bindings

end StatementView
