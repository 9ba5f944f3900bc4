import StatementView.Value.Basic

namespace StatementView.Value

mutual

/-- Every float in the value is a number, an infinite one included. -/
def isNumeric : Value → Bool
  | .float x => !x.isNaN
  | .list items => areNumeric items
  | .bound inner => inner.isNumeric
  | .null | .bool _ | .integer _ | .numeral _ | .text _ | .bytes _ | .object _ => true

def areNumeric : List Value → Bool
  | [] => true
  | item :: items => item.isNumeric && areNumeric items

end

theorem areNumeric_eq_all (items : List Value) : areNumeric items = items.all isNumeric := by
  induction items with
  | nil => rfl
  | cons item items ih => rw [areNumeric, ih, List.all_cons]

theorem float_beq_self (x : Float) : (x == x) = !x.isNaN := by
  change x.toModel.unpack.beq x.toModel.unpack = !x.toModel.unpack.isNaN
  cases x.toModel.unpack with
  | infinity sign => cases sign <;> rfl
  | notANumber => rfl
  | zero sign => rfl
  | finite sign mantissa exponent _ =>
    have hexponent : compare exponent exponent = .eq := Std.ReflCmp.compare_self
    have hmantissa : compare mantissa mantissa = .eq := Std.ReflCmp.compare_self
    have h : (compare exponent exponent).then (compare mantissa mantissa) = .eq := by
      rw [hexponent, hmantissa]
      rfl
    cases sign with
    | positive => exact beq_iff_eq.mpr (congrArg some h)
    | negative => exact beq_iff_eq.mpr (congrArg some (congrArg Ordering.swap h))

mutual

theorem same_self : ∀ v : Value, v.same v = v.isNumeric
  | .null => rfl
  | .bool b => by rw [same, isNumeric, beq_self_eq_true]
  | .integer n => by rw [same, isNumeric, beq_self_eq_true]
  | .float x => by rw [same, isNumeric, float_beq_self]
  | .numeral t => by rw [same, isNumeric, beq_self_eq_true]
  | .text t => by rw [same, isNumeric, beq_self_eq_true]
  | .bytes raw => by rw [same, isNumeric, beq_self_eq_true]
  | .list items => by rw [same, isNumeric, sameItems_self]
  | .bound inner => by rw [same, isNumeric, same_self]
  | .object t => by rw [same, isNumeric, beq_self_eq_true]

theorem sameItems_self : ∀ items : List Value, sameItems items items = areNumeric items
  | [] => rfl
  | item :: items => by rw [sameItems, areNumeric, same_self, sameItems_self]

end

end StatementView.Value
