import StatementView.Binding.Json
import StatementView.Proofs.Binding.Equality
import StatementView.Proofs.Decimal.Canonical
import StatementView.Proofs.Json.Fields
import StatementView.Proofs.Placeholder.Order

namespace StatementView

namespace Value

theorem ofJsons_eq_map (items : List Json) : ofJsons items = items.map ofJson := by
  induction items with
  | nil => rfl
  | cons item items ih => rw [ofJsons, ih, List.map_cons]

end Value

namespace Json

def numbered (start : Nat) (items : List Json) : List (Text × Json) :=
  (items.zipIdx start).map fun (item, n) ↦ (Decimal.natural n, item)

theorem nodup_keys_numbered (start : Nat) (items : List Json) :
    ((numbered start items).map Prod.fst).Nodup := by
  have hkeys : (numbered start items).map Prod.fst =
      (List.range' start items.length).map Decimal.natural := by
    rw [numbered, List.map_map, ← List.zipIdx_map_snd, List.map_map]
    rfl
  rw [hkeys]
  exact List.Nodup.map Decimal.natural_injective List.nodup_range'

end Json

namespace Bindings

open Placeholder (substitute)

theorem nodup_keys_positions (start : Nat) (values : List Value) :
    (((values.zipIdx start).map fun (value, n) ↦ (Key.index n, value)).map Prod.fst).Nodup := by
  rw [← entries_ofValues]
  exact (ofValues start values).nodup_keys

theorem entries_numbered {start : Nat} {items : List Json}
    (h : start + items.length ≤ Decimal.wordBound) :
    ((Json.numbered start items).map fun (key, value) ↦ (Key.ofName key, Value.ofJson value)) =
      ((Value.ofJsons items).zipIdx start).map fun (value, n) ↦ (.index n, value) := by
  rw [Json.numbered, Value.ofJsons_eq_map, List.zipIdx_map, List.map_map, List.map_map]
  refine List.map_congr_left fun (item, n) hn ↦ ?_
  have hlt : n < Decimal.wordBound := (List.snd_lt_add_of_mem_zipIdx hn).trans_le h
  have hkey : Key.ofName (Decimal.natural n) = .index n := Key.ofName_eq_index_iff.mpr ⟨hlt, rfl⟩
  exact congrArg (·, Value.ofJson item) hkey

/-- The fields may be given in any order. They are stored in ascending order of their keys, and
read as the values at the positions from `start` on. -/
theorem ofJson_fields_numbered {start : Nat} {items : List Json}
    (h : start + items.length ≤ Decimal.wordBound) {fields : List (Text × Json)}
    (hp : fields.Perm (Json.numbered start items)) :
    ∃ stored b, Json.ofFields fields = .object stored ∧ stored.Perm fields ∧
      Json.Ascending stored ∧ ofJson (.object stored) = .ok b ∧
      (∀ key, (ofValues start (Value.ofJsons items)).get? key = b.get? key) ∧
      (ofValues start (Value.ofJsons items)).same b = Value.areNumeric (Value.ofJsons items) ∧
      ∀ t, substitute (ofValues start (Value.ofJsons items)) t = substitute b t := by
  have hn := (hp.map Prod.fst).nodup_iff.mpr (Json.nodup_keys_numbered start items)
  obtain ⟨stored, hstored, hperm, hascending⟩ := Json.ofFields_eq hn
  have hentries := (hperm.trans hp).map
    fun (key, value) ↦ (Key.ofName key, Value.ofJson value)
  rw [entries_numbered h] at hentries
  have hb : (ofValues start (Value.ofJsons items)).Agree (ofEntries _) :=
    Agree.putAll_perm hentries.symm (nodup_keys_positions start _) fun _ ↦ rfl
  refine ⟨stored, _, hstored, hperm, hascending, rfl, hb, ?_, hb.substitute_eq⟩
  rw [hb.same_eq, values_ofValues]

/-- An array and the object of its items under their numbers are one collection, from zero on as the
array itself and from one on as the converted items counted from one. The two have the same lookups,
are equal unless a float is no number, and give every statement the same values. The length of an
array is a word. -/
theorem ofJson_numbered (items : List Json) (h : items.length < Decimal.wordBound) :
    ofJson (.array items) = .ok (positional (Value.ofJsons items)) ∧
      (∀ fields : List (Text × Json), fields.Perm (Json.numbered 0 items) →
        ∃ stored b, Json.ofFields fields = .object stored ∧ stored.Perm fields ∧
          Json.Ascending stored ∧ ofJson (.object stored) = .ok b ∧
          (∀ key, (positional (Value.ofJsons items)).get? key = b.get? key) ∧
          (positional (Value.ofJsons items)).same b = Value.areNumeric (Value.ofJsons items) ∧
          ∀ t, substitute (positional (Value.ofJsons items)) t = substitute b t) ∧
      ∀ fields : List (Text × Json), fields.Perm (Json.numbered 1 items) →
        ∃ stored b, Json.ofFields fields = .object stored ∧ stored.Perm fields ∧
          Json.Ascending stored ∧ ofJson (.object stored) = .ok b ∧
          (∀ key, (oneBased (Value.ofJsons items)).get? key = b.get? key) ∧
          (oneBased (Value.ofJsons items)).same b = Value.areNumeric (Value.ofJsons items) ∧
          ∀ t, substitute (oneBased (Value.ofJsons items)) t = substitute b t := by
  refine ⟨rfl, ?_, ?_⟩
  · intro fields hp
    exact ofJson_fields_numbered (by omega) hp
  · intro fields hp
    exact ofJson_fields_numbered (by omega) hp

theorem ofJson_numbered_eleven :
    ((List.range 11).map fun n ↦ Json.integer n).length < Decimal.wordBound ∧
      ∃ stored b,
        Json.ofFields (Json.numbered 1 ((List.range 11).map fun n ↦ Json.integer n)).reverse =
          .object stored ∧
        stored.map Prod.fst =
          ["1", "10", "11", "2", "3", "4", "5", "6", "7", "8", "9"].map String.toList ∧
        ofJson (.object stored) = .ok b ∧
        b.getIndex? 10 = some (.integer 9) ∧
        (oneBased (Value.ofJsons ((List.range 11).map fun n ↦ Json.integer n))).same b = true := by
  have hlength : ((List.range 11).map fun n ↦ Json.integer n).length < Decimal.wordBound := by
    decide
  obtain ⟨-, -, hone⟩ := ofJson_numbered _ hlength
  obtain ⟨stored, b, hstored, -, -, hread, hget, hsame, -⟩ := hone _ (List.reverse_perm _)
  refine ⟨hlength, stored, b, hstored, ?_, hread, ?_, hsame.trans rfl⟩
  · rw [← Json.object.inj hstored]
    rfl
  · exact (hget (.index 10)).symm

end Bindings

end StatementView
