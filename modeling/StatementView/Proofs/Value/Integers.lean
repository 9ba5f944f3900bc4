import StatementView.Proofs.Binding.Numbered
import StatementView.Proofs.Command.Session
import StatementView.Proofs.Json.Integers
import StatementView.Proofs.Value.Grouping

namespace StatementView

namespace Json

def Item.ofInteger (n : Int) : Item := ⟨[], n, [], List.forall_mem_nil _, List.forall_mem_nil _⟩

theorem text_array_integers (numbers : List Int) :
    text (.array (numbers.map .integer)) = arrayText (numbers.map .ofInteger) := by
  have htexts : texts (numbers.map .integer) = (numbers.map Item.ofInteger).map Item.text := by
    induction numbers with
    | nil => rfl
    | cons n numbers ih =>
      have hitem : (Item.ofInteger n).text = Decimal.integer n := List.append_nil _
      rw [List.map_cons, texts, ih, List.map_cons, List.map_cons, hitem]
      rfl
  rw [text, htexts]
  rfl

end Json

namespace Value

open Decimal (signedBound wordBound)

theorem ofJson_integer (n : Int) :
    ofJson (.integer n) = if n < signedBound then .integer n else .numeral (Decimal.integer n) := by
  have hmax : n ≤ maxInteger ↔ n < signedBound := by
    have hbound : maxInteger + 1 = signedBound := rfl
    omega
  rw [ofJson]
  simp only [hmax]

theorem literal_ofJson_integer (n : Int) : (ofJson (.integer n)).literal = Decimal.integer n := by
  rw [ofJson_integer]
  split <;> rfl

theorem literal_ofJson_array (items : List Json) :
    (ofJson (.array items)).literal =
      Text.join [',', ' '] (items.map fun item ↦ (ofJson item).literal) := by
  rw [ofJson, literal, literals_eq_map, ofJsons_eq_map, List.map_map]
  rfl

/-- The canonical digits of an integer from `-2 ^ 63` to `2 ^ 64 - 1` are read as this integer and
written as its literal again, which is an integer value below `2 ^ 63` and a numeral from there on.
An array of such integers, with any blanks around them, is written as their digits in order with
commas between them. -/
theorem literal_of_integer_texts :
    (∀ n : Int, -(signedBound : Int) ≤ n → n < wordBound →
      Json.ofText? (Decimal.integer n) = some (.integer n) ∧
        ofJson (.integer n) =
          (if n < signedBound then .integer n else .numeral (Decimal.integer n)) ∧
        (ofJson (.integer n)).literal = Decimal.integer n ∧
        ∀ output, (Command.escape Json.read (Decimal.integer n)).ending output =
          (.ok (), output ++ Command.printed [Decimal.integer n])) ∧
    (∀ items : List Json.Item,
      (∀ i ∈ items, -(signedBound : Int) ≤ i.number ∧ i.number < wordBound) →
        Json.ofText? (Json.arrayText items) =
            some (.array (items.map fun i ↦ .integer i.number)) ∧
          (ofJson (.array (items.map fun i ↦ .integer i.number))).literal =
            Text.join [',', ' '] (items.map fun i ↦ Decimal.integer i.number) ∧
          ∀ output, (Command.escape Json.read (Json.arrayText items)).ending output =
            (.ok (), output ++ Command.printed
              [Text.join [',', ' '] (items.map fun i ↦ Decimal.integer i.number)])) ∧
    ∀ numbers : List Int,
      Json.text (.array (numbers.map .integer)) = Json.arrayText (numbers.map .ofInteger) := by
  refine ⟨?_, ?_, Json.text_array_integers⟩
  · intro n hlo hhi
    have hread := Json.ofText?_integer hlo hhi
    refine ⟨hread, ofJson_integer n, literal_ofJson_integer n, ?_⟩
    intro output
    rw [Command.ending_escape (Json.read_eq_ok hread), literal_ofJson_integer]
  · intro items h
    have hread := Json.ofText?_arrayText h
    have hliteral : (ofJson (.array (items.map fun i ↦ .integer i.number))).literal =
        Text.join [',', ' '] (items.map fun i ↦ Decimal.integer i.number) := by
      rw [literal_ofJson_array, List.map_map]
      exact congrArg (Text.join _) (List.map_congr_left fun i _ ↦ literal_ofJson_integer i.number)
    refine ⟨hread, hliteral, ?_⟩
    intro output
    rw [Command.ending_escape (Json.read_eq_ok hread), hliteral]

theorem literal_of_integer_texts_bounds :
    (-(signedBound : Int) ≤ 9223372036854775808 ∧ (9223372036854775808 : Int) < wordBound) ∧
      ofJson (.integer 9223372036854775808) = .numeral "9223372036854775808".toList ∧
      (Command.escape Json.read "9223372036854775808".toList).ending [] =
        (.ok (), "9223372036854775808\n".toList) ∧
      (∀ i ∈ [Json.Item.ofInteger (-9223372036854775808),
          ⟨[' '], 18446744073709551615, [], by simp [Json.IsSpace], by simp⟩],
        -(signedBound : Int) ≤ i.number ∧ i.number < wordBound) ∧
      Json.ofText? "[-9223372036854775808, 18446744073709551615]".toList =
        some (.array [.integer (-9223372036854775808), .integer 18446744073709551615]) ∧
      (ofJson (.array [.integer (-9223372036854775808), .integer 18446744073709551615])).literal =
        "-9223372036854775808, 18446744073709551615".toList := by
  have hrange : -(signedBound : Int) ≤ 9223372036854775808 ∧
      (9223372036854775808 : Int) < wordBound := by decide
  have hitems : ∀ i ∈ [Json.Item.ofInteger (-9223372036854775808),
      ⟨[' '], 18446744073709551615, [], by simp [Json.IsSpace], by simp⟩],
      -(signedBound : Int) ≤ i.number ∧ i.number < wordBound := by
    simp [Json.Item.ofInteger, signedBound, wordBound]
  obtain ⟨hone, hmany, -⟩ := literal_of_integer_texts
  obtain ⟨-, hvalue, -, hprint⟩ := hone _ hrange.1 hrange.2
  obtain ⟨hread, hliteral, -⟩ := hmany _ hitems
  exact ⟨hrange, hvalue, hprint [], hitems, hread, hliteral⟩

end Value

end StatementView
