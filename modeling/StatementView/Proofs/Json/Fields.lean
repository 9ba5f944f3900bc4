import Mathlib.Data.Char
import Mathlib.Data.List.Lex
import Mathlib.Data.List.Induction
import StatementView.Json.Basic

namespace StatementView.Json

def Ascending (fields : List (Text × Json)) : Prop := fields.Pairwise fun x y ↦ x.1 < y.1

variable {key : Text} {value : Json} {fields : List (Text × Json)}

theorem put_perm (h : ∀ field ∈ fields, field.1 ≠ key) :
    (put key value fields).Perm ((key, value) :: fields) := by
  induction fields with
  | nil => rfl
  | cons field fields ih =>
    obtain ⟨hne, hrest⟩ := List.forall_mem_cons.mp h
    rw [put]
    split
    · rfl
    · rw [if_neg (Ne.symm hne)]
      exact ((ih hrest).cons field).trans (.swap ..)

theorem eq_or_mem_of_mem_put {field : Text × Json} (h : field ∈ put key value fields) :
    field.1 = key ∨ field ∈ fields := by
  induction fields with
  | nil => exact .inl (congrArg Prod.fst (List.mem_singleton.mp h))
  | cons first fields ih =>
    rw [put] at h
    split at h
    · exact (List.mem_cons.mp h).imp_left (congrArg Prod.fst)
    · split at h
      · exact (List.mem_cons.mp h).imp (congrArg Prod.fst) (List.mem_cons_of_mem first)
      · rcases List.mem_cons.mp h with rfl | hrest
        · exact .inr List.mem_cons_self
        · exact (ih hrest).imp_right (List.mem_cons_of_mem first)

theorem ascending_put (h : Ascending fields) : Ascending (put key value fields) := by
  induction fields with
  | nil => exact List.pairwise_singleton _ _
  | cons first fields ih =>
    obtain ⟨hfirst, hrest⟩ := List.pairwise_cons.mp h
    rw [put]
    split
    · next hlt =>
      refine List.pairwise_cons.mpr ⟨List.forall_mem_cons.mpr ⟨hlt, ?_⟩, h⟩
      intro field hfield
      exact lt_trans hlt (hfirst field hfield)
    · next hge =>
      split
      · next heq => exact List.pairwise_cons.mpr ⟨heq ▸ hfirst, hrest⟩
      · next hne =>
        have hlt : first.1 < key := lt_of_le_of_ne (not_lt.mp hge) (Ne.symm hne)
        refine List.pairwise_cons.mpr ⟨?_, ih hrest⟩
        intro field hfield
        rcases eq_or_mem_of_mem_put hfield with hkey | hfield
        · exact hkey ▸ hlt
        · exact hfirst field hfield

theorem ofFields_eq (h : (fields.map Prod.fst).Nodup) :
    ∃ stored, ofFields fields = .object stored ∧ stored.Perm fields ∧ Ascending stored := by
  induction fields using List.reverseRecOn with
  | nil => exact ⟨[], rfl, .nil, .nil⟩
  | append_singleton fields field ih =>
    rw [List.map_append, List.nodup_append] at h
    obtain ⟨hn, -, hapart⟩ := h
    obtain ⟨stored, hstored, hperm, hascending⟩ := ih hn
    refine ⟨put field.1 field.2 stored, ?_, ?_, ascending_put hascending⟩
    · rw [ofFields, List.foldl_append, Json.object.inj hstored]
      rfl
    · have hfresh : ∀ f ∈ stored, f.1 ≠ field.1 := by
        intro f hf
        exact hapart f.1 (List.mem_map_of_mem (hperm.mem_iff.mp hf)) field.1 List.mem_cons_self
      exact (put_perm hfresh).trans ((hperm.cons _).trans (List.perm_append_singleton _ _).symm)

end StatementView.Json
