import StatementView.Proofs.Literal
import StatementView.Proofs.Summary.Wrapping
import StatementView.Proofs.Text.Trimming

namespace StatementView.Summary

open Text (Begins isBlank trim)

def kept (share : Nat) (value : Text) : Text :=
  if value.length > share then firstLine share value else value

/-- A keyword with what is shown of its value, and the marker behind it where a value is longer than
its share. -/
def clauseText (share : Nat) (marker : Text) (shown : Text → Text) (c : Capture) : Text :=
  if c.value = [] then c.keyword
  else c.keyword ++ ' ' :: (shown (kept share c.value) ++
    if c.value.length > share then marker else [])

/-- A piece of a value is shown for the value within its share: a front of it that is empty only
where the value is, and all of it exactly where it fits. -/
structure StandsFor (share : Nat) (value piece : Text) : Prop where
  front : piece <+: value
  fits : piece.length ≤ share
  ne_nil : value ≠ [] → piece ≠ []
  whole_iff : piece = value ↔ value.length ≤ share

variable {share : Nat} {marker value : Text}

theorem kept_isPrefix (share : Nat) (value : Text) : kept share value <+: value := by
  unfold kept
  split
  · exact firstLine_isPrefix share value
  · exact List.prefix_refl value

theorem length_kept_le (share : Nat) (value : Text) : (kept share value).length ≤ share := by
  unfold kept
  split
  · exact length_firstLine_le share value
  · next h => exact Nat.not_lt.mp h

theorem kept_eq_self_iff : kept share value = value ↔ value.length ≤ share := by
  constructor
  · intro h
    rw [← h]
    exact length_kept_le share value
  · intro h
    exact if_neg (Nat.not_lt.mpr h)

theorem kept_nil (share : Nat) : kept share [] = [] :=
  List.prefix_nil.mp (kept_isPrefix share [])

theorem kept_ne_nil (hs : 0 < share) (hv : trim value = value) (hne : value ≠ []) :
    kept share value ≠ [] := by
  unfold kept
  split
  · obtain ⟨c, t, rfl⟩ := List.exists_cons_of_ne_nil hne
    have hc := (Text.trim_eq_self_iff.mp hv).1
    rw [Text.begins_cons, Bool.not_eq_true] at hc
    rw [← Nat.succ_pred_eq_of_pos hs]
    exact firstLine_ne_nil hc _ t
  · exact hne

theorem standsFor_kept (hs : 0 < share) (hv : trim value = value) :
    StandsFor share value (kept share value) where
  front := kept_isPrefix share value
  fits := length_kept_le share value
  ne_nil := kept_ne_nil hs hv
  whole_iff := kept_eq_self_iff

theorem budget_pos (width count : Nat) : 0 < budget width count := by
  unfold budget
  split
  · exact Nat.le_max_right width 1
  · exact Nat.le_max_right _ 1

theorem shorten_eq (share : Nat) (marker value : Text) :
    shorten share marker value =
      Literal.escape (kept share value) ++ if value.length > share then marker else [] := by
  unfold shorten kept
  split
  · rfl
  · exact (List.append_nil _).symm

theorem shorten_eq_nil_iff (hm : marker ≠ []) : shorten share marker value = [] ↔ value = [] := by
  rw [shorten_eq, List.append_eq_nil_iff, Literal.escape_eq_nil_iff]
  constructor
  · intro h
    obtain ⟨hkept, hmarker⟩ := h
    by_cases hlong : value.length > share
    · rw [if_pos hlong] at hmarker
      exact absurd hmarker hm
    · rwa [kept_eq_self_iff.mpr (Nat.not_lt.mp hlong)] at hkept
  · rintro rfl
    exact ⟨kept_nil share, if_neg (Nat.not_lt_zero share)⟩

theorem part_eq_clauseText (hm : marker ≠ []) (c : Capture) :
    part share marker c = clauseText share marker Literal.escape c := by
  simp only [part, clauseText, List.isEmpty_iff, shorten_eq_nil_iff hm]
  rw [shorten_eq]

theorem trim_clauseText {c : Capture} (hk : c.keyword ≠ [] ∧ trim c.keyword = c.keyword)
    (hv : trim c.value = c.value) (hm : marker ≠ []) (hend : ¬ Begins isBlank marker.reverse) :
    trim (clauseText share marker Literal.escape c) =
      clauseText share marker Literal.escape c := by
  unfold clauseText
  split
  · exact hk.2
  · next hne =>
    split
    · -- the marker is at the end
      have h := Text.trim_append_append hk.1 hk.2 (' ' :: Literal.escape (kept share c.value)) hm
        hend
      rwa [List.append_assoc, List.cons_append] at h
    · next hshort =>
      have hescape : trim (Literal.escape c.value) = Literal.escape c.value := by
        rw [Literal.trim_escape, hv]
      have h := Text.trim_append_append hk.1 hk.2 [' '] (mt Literal.escape_eq_nil_iff.mp hne)
        (Text.trim_eq_self_iff.mp hescape).2
      rw [kept_eq_self_iff.mpr (Nat.not_lt.mp hshort), List.append_nil]
      rwa [List.append_assoc, List.singleton_append] at h

theorem clauseText_ne_nil {c : Capture} (hk : c.keyword ≠ []) (shown : Text → Text) :
    clauseText share marker shown c ≠ [] := by
  unfold clauseText
  split
  · exact hk
  · exact List.append_ne_nil_of_left_ne_nil hk _

theorem unescape_clauseText_append {c : Capture} (hk : '\\' ∉ c.keyword) (hm : '\\' ∉ marker)
    (rest : Text) :
    Literal.unescape (clauseText share marker Literal.escape c ++ rest) =
      clauseText share marker id c ++ Literal.unescape rest := by
  have hmark : '\\' ∉ (if c.value.length > share then marker else []) := by
    split
    · exact hm
    · exact List.not_mem_nil
  unfold clauseText
  split
  · exact Literal.unescape_append hk rest
  · rw [List.append_assoc, Literal.unescape_append hk, List.cons_append,
      Literal.unescape_cons (by decide), List.append_assoc, Literal.unescape_escape_append,
      Literal.unescape_append hmark, List.append_assoc, List.cons_append, List.append_assoc]
    rfl

/-- A line of clauses is the clauses joined with single blanks. Each is its keyword alone, or its
keyword, a blank and a front of its value, escaped, with the marker behind it exactly where that is
not the whole value; and taking the backslashes of the line away gives the fronts back. -/
theorem shrink_eq_join_clauses (width : Nat) (marker : Text) (captures : List Capture)
    (hk : ∀ c ∈ captures, c.keyword ≠ [] ∧ trim c.keyword = c.keyword)
    (hv : ∀ c ∈ captures, trim c.value = c.value) (hm : marker ≠ [])
    (hend : ¬ Begins isBlank marker.reverse) :
    (∀ c ∈ captures, StandsFor (budget width captures.length) c.value
        (kept (budget width captures.length) c.value)) ∧
      shrink width marker captures = Text.join [' ']
        (captures.map (clauseText (budget width captures.length) marker Literal.escape)) ∧
      ((∀ c ∈ captures, '\\' ∉ c.keyword) → '\\' ∉ marker →
        Literal.unescape (shrink width marker captures) = Text.join [' ']
          (captures.map (clauseText (budget width captures.length) marker id))) := by
  have hparts : captures.map (part (budget width captures.length) marker) =
      captures.map (clauseText (budget width captures.length) marker Literal.escape) :=
    List.map_congr_left fun c _ ↦ part_eq_clauseText hm c
  have hjoin : shrink width marker captures = Text.join [' ']
      (captures.map (clauseText (budget width captures.length) marker Literal.escape)) := by
    rw [shrink, hparts]
    refine Text.trim_join _ ?_
    intro t ht
    obtain ⟨c, hc, rfl⟩ := List.mem_map.mp ht
    exact ⟨clauseText_ne_nil (hk c hc).1 _, trim_clauseText (hk c hc) (hv c hc) hm hend⟩
  refine ⟨fun c hc ↦ standsFor_kept (budget_pos _ _) (hv c hc), hjoin, ?_⟩
  intro hbackslash hmarker
  rw [hjoin]
  exact Literal.unescape_join fun c hc ↦ unescape_clauseText_append (hbackslash c hc) hmarker

theorem shrink_eq_join_clauses_three :
    (∀ c ∈ [(⟨"INSERT".toList, "alpha beta gamma".toList⟩ : Capture), ⟨"INTO".toList, []⟩,
        ⟨"VALUES".toList, "'x'".toList⟩],
      (c.keyword ≠ [] ∧ trim c.keyword = c.keyword) ∧ trim c.value = c.value) ∧
    " [...]".toList ≠ [] ∧ ¬ Begins isBlank " [...]".toList.reverse ∧
    StandsFor 12 "alpha beta gamma".toList "alpha beta".toList ∧
    shrink 51 " [...]".toList
        [⟨"INSERT".toList, "alpha beta gamma".toList⟩, ⟨"INTO".toList, []⟩,
          ⟨"VALUES".toList, "'x'".toList⟩] =
      "INSERT alpha beta [...] INTO VALUES \\'x\\'".toList ∧
    Literal.unescape (shrink 51 " [...]".toList
        [⟨"INSERT".toList, "alpha beta gamma".toList⟩, ⟨"INTO".toList, []⟩,
          ⟨"VALUES".toList, "'x'".toList⟩]) =
      "INSERT alpha beta [...] INTO VALUES 'x'".toList := by
  have hends : ∀ c ∈ [(⟨"INSERT".toList, "alpha beta gamma".toList⟩ : Capture),
      ⟨"INTO".toList, []⟩, ⟨"VALUES".toList, "'x'".toList⟩],
      (c.keyword ≠ [] ∧ trim c.keyword = c.keyword) ∧ trim c.value = c.value := by decide
  have hmarker : ¬ Begins isBlank " [...]".toList.reverse := by
    rw [show " [...]".toList.reverse = "]...[ ".toList from rfl]
    exact mt Text.begins_cons.mp (by decide)
  obtain ⟨hstands, hjoin, hread⟩ := shrink_eq_join_clauses 51 " [...]".toList
    [⟨"INSERT".toList, "alpha beta gamma".toList⟩, ⟨"INTO".toList, []⟩,
      ⟨"VALUES".toList, "'x'".toList⟩]
    (fun c hc ↦ (hends c hc).1) (fun c hc ↦ (hends c hc).2) (by decide) hmarker
  have hpiece := hstands ⟨"INSERT".toList, "alpha beta gamma".toList⟩ List.mem_cons_self
  refine ⟨hends, by decide, hmarker, hpiece, hjoin.trans (by decide), ?_⟩
  exact (hread (by decide) (by decide)).trans (by decide)

end StatementView.Summary
