import Mathlib.Data.List.Nodup
import StatementView.Proofs.Binding.Insertion
import StatementView.Proofs.Value.Equality

namespace StatementView

theorem putEntry_of_fresh {key : Key} {entries : List (Key × Value)}
    (h : ∀ entry ∈ entries, entry.1 ≠ key) (value : Value) :
    putEntry key value entries = entries ++ [(key, value)] := by
  induction entries with
  | nil => rfl
  | cons entry entries ih =>
    obtain ⟨hne, hrest⟩ := List.forall_mem_cons.mp h
    rw [putEntry, if_neg hne, ih hrest, List.cons_append]

namespace Bindings

def values (b : Bindings) : List Value := b.entries.map Prod.snd

theorem entries_ofValues (start : Nat) (values : List Value) :
    (ofValues start values).entries =
      (values.zipIdx start).map fun (value, n) ↦ (.index n, value) := by
  induction values using List.reverseRecOn with
  | nil => rfl
  | append_singleton values value ih =>
    have hfresh : ∀ entry ∈ (ofValues start values).entries,
        entry.1 ≠ .index (start + values.length) := by
      rw [ih]
      intro entry hentry hkey
      obtain ⟨⟨v, n⟩, hn, rfl⟩ := List.mem_map.mp hentry
      exact (List.snd_lt_add_of_mem_zipIdx hn).ne (Key.index.inj hkey)
    rw [ofValues_concat]
    refine (putEntry_of_fresh hfresh value).trans ?_
    rw [ih, List.zipIdx_append, List.map_append]
    rfl

theorem values_ofValues (start : Nat) (values : List Value) :
    (ofValues start values).values = values := by
  rw [Bindings.values, entries_ofValues, List.map_map]
  exact List.zipIdx_map_fst start values

theorem get?_of_mem {b : Bindings} {key : Key} {value : Value} (h : (key, value) ∈ b.entries) :
    b.get? key = some value := by
  have hsome : (b.entries.find? fun entry ↦ entry.1 = key).isSome :=
    List.find?_isSome.mpr ⟨_, h, decide_eq_true rfl⟩
  obtain ⟨entry, hentry⟩ := Option.isSome_iff_exists.mp hsome
  have hfound : decide (entry.1 = key) = true :=
    List.find?_some (p := fun e : Key × Value ↦ e.1 = key) hentry
  have hmem := List.mem_of_find?_eq_some hentry
  -- the entry that is found has the key, and so it is the one with `value`
  rw [get?, hentry, List.inj_on_of_nodup_map b.nodup_keys hmem h (of_decide_eq_true hfound)]
  rfl

namespace Agree

variable {a b : Bindings}

theorem size_eq (h : a.Agree b) : a.size = b.size := by
  rw [size_eq_card, size_eq_card]
  congr 1
  ext key
  rw [mem_keys_iff, mem_keys_iff, h key]

theorem same_eq (h : a.Agree b) : a.same b = Value.areNumeric a.values := by
  rw [same, h.size_eq, beq_self_eq_true, Bool.true_and, values, Value.areNumeric_eq_all,
    List.all_map, Bool.eq_iff_iff, List.all_eq_true, List.all_eq_true]
  refine forall₂_congr fun (key, value) hentry ↦ ?_
  have hvalue : (value == value) = value.isNumeric := value.same_self
  rw [Function.comp_apply, ← hvalue]
  dsimp only
  rw [← h key, get?_of_mem hentry]

end Agree

end Bindings

end StatementView
