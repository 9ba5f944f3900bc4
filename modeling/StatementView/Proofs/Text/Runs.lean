import Mathlib.Data.List.TakeWhile
import StatementView.Text.Blank

namespace StatementView.Text

def Begins (p : Char → Bool) (t : Text) : Prop := ∃ c ∈ t.head?, p c = true

theorem begins_cons {p : Char → Bool} {c : Char} {t : Text} : Begins p (c :: t) ↔ p c = true := by
  simp [Begins]

theorem not_begins_nil (p : Char → Bool) : ¬ Begins p [] := by simp [Begins]

theorem not_begins_dropWhile (p : Char → Bool) (t : Text) : ¬ Begins p (t.dropWhile p) := by
  intro h
  obtain ⟨c, hc, hp⟩ := h
  have hd := List.head?_dropWhile_not p t
  rw [Option.mem_def.mp hc] at hd
  exact Bool.false_ne_true (hd.symm.trans hp)

theorem Begins.append {p : Char → Bool} {t : Text} (h : Begins p t) (u : Text) :
    Begins p (t ++ u) := by
  obtain ⟨c, hc, hp⟩ := h
  exact ⟨c, by simp [Option.mem_def.mp hc], hp⟩

variable {p : Char → Bool} {w rest : Text}

theorem takeWhile_run (hw : ∀ c ∈ w, p c = true) (hr : ¬ Begins p rest) :
    (w ++ rest).takeWhile p = w := by
  rw [List.takeWhile_append_of_pos hw]
  cases rest with
  | nil => simp
  | cons c rest => rw [List.takeWhile_cons_of_neg (mt begins_cons.mpr hr), List.append_nil]

theorem dropWhile_run (hw : ∀ c ∈ w, p c = true) (hr : ¬ Begins p rest) :
    (w ++ rest).dropWhile p = rest := by
  rw [List.dropWhile_append_of_pos hw]
  cases rest with
  | nil => rfl
  | cons c rest => exact List.dropWhile_cons_of_neg (mt begins_cons.mpr hr)

theorem exists_trim (t : Text) :
    ∃ front back : Text, (∀ c ∈ front, isBlank c = true) ∧ (∀ c ∈ back, isBlank c = true) ∧
      t = front ++ t.trim ++ back := by
  refine ⟨t.takeWhile isBlank, ((trimStart t).reverse.takeWhile isBlank).reverse, ?_, ?_, ?_⟩
  · intro c hc
    exact List.mem_takeWhile_imp hc
  · intro c hc
    exact List.mem_takeWhile_imp (List.mem_reverse.mp hc)
  · have h : trimStart t =
        trim t ++ ((trimStart t).reverse.takeWhile isBlank).reverse := by
      rw [trim, trimEnd, ← List.reverse_append, List.takeWhile_append_dropWhile,
        List.reverse_reverse]
    rw [List.append_assoc, ← h]
    exact (List.takeWhile_append_dropWhile).symm

theorem trim_run {front core back : Text} (hf : ∀ c ∈ front, isBlank c = true)
    (hb : ∀ c ∈ back, isBlank c = true) (hne : core ≠ []) (hs : ¬ Begins isBlank core)
    (he : ¬ Begins isBlank core.reverse) : trim (front ++ core ++ back) = core := by
  have hstart : ¬ Begins isBlank (core ++ back) := by
    obtain ⟨c, core, rfl⟩ := List.exists_cons_of_ne_nil hne
    rw [List.cons_append, begins_cons]
    exact mt begins_cons.mpr hs
  have hback : ∀ c ∈ back.reverse, isBlank c = true := fun c hc ↦ hb c (List.mem_reverse.mp hc)
  rw [trim, trimStart, List.append_assoc, dropWhile_run hf hstart, trimEnd, List.reverse_append,
    dropWhile_run hback he, List.reverse_reverse]

end StatementView.Text
