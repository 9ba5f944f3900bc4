import StatementView.Proofs.Binding.Lookup
import StatementView.Proofs.Placeholder.Resolution

namespace StatementView

def Bindings.SameLiterals (a b : Bindings) : Prop :=
  ∀ key, (a.get? key).map Value.literal = (b.get? key).map Value.literal

namespace Placeholder

variable {a b : Bindings}

theorem Reading.literal?_eq (r : Reading) : r.literal? = r.value?.map Value.literal := by
  cases r <;> rfl

theorem Reading.literal?_ofValue? (value? : Option Value) :
    (ofValue? value?).literal? = value?.map Value.literal := by
  rw [literal?_eq, value?_ofValue?]

theorem Reading.advance_congr {r s : Reading} (h : r.literal? = s.literal?) (cursor : Nat) :
    r.advance cursor = s.advance cursor := by
  have hfound := congrArg Option.isSome h
  rw [literal?_eq, literal?_eq, Option.isSome_map, Option.isSome_map] at hfound
  rw [advance_eq, advance_eq, hfound]

theorem literal?_read (h : a.SameLiterals b) (cursor : Nat) (token : Text) :
    (read a cursor token).literal? = (read b cursor token).literal? := by
  have hindex := h (.index cursor)
  unfold read
  split
  · rw [Reading.literal?_ofValue?, Reading.literal?_ofValue?]
    exact hindex
  · next name =>
    split
    · rfl
    · have hname := h (.ofName name)
      rw [Reading.literal?_ofValue?, Reading.literal?_ofValue?, Option.map_or, Option.map_or]
      exact congrArg₂ Option.or hname hindex
  · rfl

theorem map_text_place_congr (h : a.SameLiterals b) (cursor : Nat) (tokens : List Text) :
    (place a cursor tokens).map Placed.text = (place b cursor tokens).map Placed.text := by
  induction tokens generalizing cursor with
  | nil => rfl
  | cons token tokens ih =>
    have hread := literal?_read h cursor token
    have htext : (read a cursor token).literal?.getD token =
        (read b cursor token).literal?.getD token := congrArg (·.getD token) hread
    rw [place, place, List.map_cons, List.map_cons, Reading.advance_congr hread, ih]
    exact congrArg (· :: _) htext

end Placeholder

namespace Bindings.SameLiterals

open Placeholder (substitute)

variable {a b : Bindings}

theorem firstIndex_eq (h : a.SameLiterals b) : a.firstIndex = b.firstIndex := by
  have hcontains (n : Nat) : a.containsIndex n = b.containsIndex n := by
    have hn := congrArg Option.isSome (h (.index n))
    rwa [Option.isSome_map, Option.isSome_map] at hn
  rw [firstIndex, firstIndex, hcontains, hcontains]

theorem substitute_eq (h : a.SameLiterals b) (t : Text) : substitute a t = substitute b t := by
  rw [substitute, substitute, Placeholder.fill_append, Placeholder.fill_append, h.firstIndex_eq,
    Placeholder.map_text_place_congr h]

theorem put (b : Bindings) (key : Key) {v w : Value} (h : v.literal = w.literal) :
    (b.put key v).SameLiterals (b.put key w) := by
  intro k
  rw [get?_put, get?_put]
  split
  · exact congrArg some h
  · rfl

end Bindings.SameLiterals

end StatementView
