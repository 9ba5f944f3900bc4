import StatementView.Summary.Basic
import StatementView.Proofs.Clause.Matching
import StatementView.Proofs.Clause.Richest

namespace StatementView

open Clause (Pattern Placement)

namespace Family

variable {f : Family} {t : Text} {p : Pattern} {captures : List Capture}

theorem exists_of_firstMatch? (h : f.firstMatch? t = some (p, captures)) :
    ∃ s : List Text, s.Sublist f.vocabulary.optional ∧
      p = Pattern.ofKeywords (f.vocabulary.mandatory ++ s) ∧ p.captures? t = some captures := by
  rw [firstMatch?_eq] at h
  obtain ⟨s, hs, hm⟩ := List.exists_of_findSome?_eq_some h
  obtain ⟨_, hc, he⟩ := Option.map_eq_some_iff.mp hm
  obtain ⟨rfl, rfl⟩ := Prod.mk.inj he
  exact ⟨s, Vocabulary.mem_selections_iff.mp hs, rfl, hc⟩

theorem sublist_of_firstMatch? (h : f.firstMatch? t = some (p, captures)) :
    p.keywords.Sublist f.vocabulary.keywords := by
  obtain ⟨s, hs, rfl, -⟩ := exists_of_firstMatch? h
  have hsub := sublist_keywords hs
  rw [keywords_ofKeywords hsub]
  exact hsub

theorem mandatory_eq (f : Family) :
    ∃ c k keywords, f.vocabulary.mandatory = (c :: k) :: keywords ∧ Text.isBlank c = false := by
  cases f
  · exact ⟨'S', "ELECT".toList, ["FROM".toList], rfl, by decide⟩
  · exact ⟨'D', "ELETE".toList, ["FROM".toList], rfl, by decide⟩
  · exact ⟨'U', "PDATE".toList, ["SET".toList], rfl, by decide⟩
  · exact ⟨'I', "NSERT".toList, ["INTO".toList], rfl, by decide⟩

theorem exists_placement_of_firstMatch? (h : f.firstMatch? t = some (p, captures)) :
    ∃ r : Placement, r.Earliest p.keywords t ∧ captures.map Capture.keyword = p.keywords ∧
      captures.map Capture.value = r.gaps.map Text.trim := by
  obtain ⟨s, hs, rfl, hc⟩ := exists_of_firstMatch? h
  have hkeywords := keywords_ofKeywords (sublist_keywords hs)
  obtain ⟨c, k, keywords, hm, hblank⟩ := f.mandatory_eq
  rw [hm, List.cons_append] at hc hkeywords ⊢
  obtain ⟨r, hr, hk, hv⟩ := Clause.exists_placement_of_captures? hblank hc
  rw [hkeywords]
  exact ⟨r, hr, hk.trans hkeywords, hv⟩

end Family

theorem Summary.firstMatch?_of_find {t : Text} {family : Family} {pattern : Pattern}
    {captures : List Capture} (h : find t = .matched family pattern captures) :
    family.firstMatch? t = some (pattern, captures) := by
  unfold find at h
  split at h
  · cases h
  · split at h
    · cases h
    · next hf =>
      cases h
      exact hf

theorem Summary.find_of_firstMatch? {t : Text} {family : Family} {pattern : Pattern}
    {captures : List Capture} (hd : Family.detect t = some family)
    (hf : family.firstMatch? t = some (pattern, captures)) :
    find t = .matched family pattern captures := by
  rw [find, hd]
  dsimp only
  rw [hf]

end StatementView
