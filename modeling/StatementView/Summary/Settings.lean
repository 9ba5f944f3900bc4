import StatementView.Json.Written

namespace StatementView.Summary

structure Settings where
  width : Nat
  marker : Text

inductive SettingsFault where
  | noWidth

def SettingsFault.message : SettingsFault → Text
  | .noWidth => "Config error: max_char_width must be at least 1".toList

namespace Settings

def default : Settings := ⟨100, " [...]".toList⟩

def check (s : Settings) : Except SettingsFault Settings :=
  if s.width = 0 then .error .noWidth else .ok s

open Json (Piece Written)

def width? : Written → Option Nat
  | .number n =>
    if n.negative ∨ n.fraction ≠ [] ∨ n.exponent.isSome then none
    else if n.digits < Decimal.wordBound then some n.digits
    else none
  | _ => none

def marker? : Written → Option Text
  | .string pieces => Json.text? pieces
  | _ => none

/-- The settings with the values that are given for their names; one that is not given has its
default. -/
def read? {α : Type} (width? : α → Option Nat) (marker? : α → Option Text)
    (given : Text → Option α) : Option Settings := do
  let width ←
    match given "max_char_width".toList with
    | some value => width? value
    | none => some default.width
  let marker ←
    match given "truncation_marker".toList with
    | some value => marker? value
    | none => some default.marker
  pure ⟨width, marker⟩

def isSingle (keys : List Text) : Bool :=
  ["max_char_width".toList, "truncation_marker".toList].all fun name ↦ keys.count name ≤ 1

/-- The settings that a document writes: an object, of which other fields are ignored, or an array
of the settings in order. -/
def ofWritten? : Written → Option Settings
  | .array items =>
    if items.length > 2 then none
    else read? width? marker? fun name ↦
      if name = "max_char_width".toList then items[0]? else items[1]?
  | .object fields => do
    let named ← fields.mapM fun (key, value) ↦ (Json.text? key).map (·, value)
    if isSingle (named.map Prod.fst) then read? width? marker? fun name ↦ named.lookup name
    else none
  | _ => none

def ofJsonText? (t : Text) : Option Settings := (Written.ofText? t).bind ofWritten?

end Settings

end StatementView.Summary
