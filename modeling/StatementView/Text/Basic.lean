namespace StatementView

abbrev Text := List Char

/-- A reader of texts that may refuse one, for a reason that it tells or keeps to itself. -/
abbrev Reader (α : Type) := Text → Except (Option Text) α

def Reader.ofOption {α : Type} (read? : Text → Option α) : Reader α := fun t ↦
  match read? t with
  | some a => .ok a
  | none => .error none

namespace Text

/-- The text with its ASCII letters in upper case. -/
def upper (t : Text) : Text := t.map Char.toUpper

def lower (t : Text) : Text := t.map Char.toLower

def holds (word : Text) : Text → Bool
  | [] => word.isEmpty
  | c :: t => word.isPrefixOf (c :: t) || holds word t

def after? : Text → Text → Option Text
  | [], t => some t
  | _ :: _, [] => none
  | a :: start, c :: t => if a = c then after? start t else none

def before? (ending t : Text) : Option Text :=
  (after? ending.reverse t.reverse).map List.reverse

def join (separator : Text) : List Text → Text
  | [] => []
  | [t] => t
  | t :: u :: ts => t ++ separator ++ join separator (u :: ts)

theorem after?_append (start t : Text) : after? start (start ++ t) = some t := by
  induction start with
  | nil => cases t <;> rfl
  | cons a start ih => simp [after?, ih]

theorem eq_append_of_after? {start t rest : Text} (h : after? start t = some rest) :
    t = start ++ rest := by
  induction start generalizing t with
  | nil => cases t <;> simp_all [after?]
  | cons a start ih =>
    cases t with
    | nil => simp [after?] at h
    | cons c t =>
      simp only [after?] at h
      split at h
      · next hac => rw [hac, ih h]; rfl
      · simp at h

theorem after?_eq_some_iff {start t rest : Text} :
    after? start t = some rest ↔ t = start ++ rest := by
  constructor
  · exact eq_append_of_after?
  · intro h
    rw [h, after?_append]

theorem before?_eq_some_iff {ending t rest : Text} :
    before? ending t = some rest ↔ t = rest ++ ending := by
  rw [before?, Option.map_eq_some_iff]
  constructor
  · intro h
    obtain ⟨u, hu, rfl⟩ := h
    rw [← List.reverse_reverse t, eq_append_of_after? hu, List.reverse_append,
      List.reverse_reverse]
  · intro h
    refine ⟨rest.reverse, ?_, List.reverse_reverse rest⟩
    rw [h, List.reverse_append, after?_append]

end Text

end StatementView
