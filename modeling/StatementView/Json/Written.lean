import StatementView.Json.Token

namespace StatementView.Json

open Decimal (Numeral)

inductive Written where
  | null
  | bool (b : Bool)
  | number (n : Numeral)
  | string (pieces : List Piece)
  | array (items : List Written)
  | object (fields : List (List Piece × Written))

namespace Written

/-- An open container: an array with its items, last first, or an object with its fields, last
first, and the key whose value is being read. -/
inductive Frame where
  | array (items : List Written)
  | object (fields : List (List Piece × Written)) (key : List Piece)

/-- What may come next: a value, or the end of an array just opened; a key, or the end of an object
just opened; a colon; or what can follow a finished value. -/
inductive Expect where
  | value (orClose : Bool)
  | key (fields : List (List Piece × Written)) (orClose : Bool)
  | colon (fields : List (List Piece × Written)) (key : List Piece)
  | after (value : Written)

def take? : List Frame × Expect → Token → Option (List Frame × Expect)
  | (stack, .value orClose), token =>
    match token with
    | .null => some (stack, .after .null)
    | .bool b => some (stack, .after (.bool b))
    | .number n => some (stack, .after (.number n))
    | .string pieces => some (stack, .after (.string pieces))
    | .openArray => some (.array [] :: stack, .value true)
    | .openObject => some (stack, .key [] true)
    | .closeArray =>
      match orClose, stack with
      | true, .array _ :: stack => some (stack, .after (.array []))
      | _, _ => none
    | _ => none
  | (stack, .key fields orClose), token =>
    match token with
    | .string key => some (stack, .colon fields key)
    | .closeObject => if orClose then some (stack, .after (.object [])) else none
    | _ => none
  | (stack, .colon fields key), token =>
    match token with
    | .colon => some (.object fields key :: stack, .value false)
    | _ => none
  | (stack, .after value), token =>
    match token, stack with
    | .comma, .array items :: stack => some (.array (value :: items) :: stack, .value false)
    | .comma, .object fields key :: stack => some (stack, .key ((key, value) :: fields) false)
    | .closeArray, .array items :: stack =>
      some (stack, .after (.array (value :: items).reverse))
    | .closeObject, .object fields key :: stack =>
      some (stack, .after (.object ((key, value) :: fields).reverse))
    | _, _ => none

def done? : List Frame × Expect → Option Written
  | ([], .after value) => some value
  | _ => none

def ofTokens? (tokens : List Token) : Option Written :=
  (tokens.foldlM take? ([], .value false)).bind done?

def ofText? (t : Text) : Option Written := (tokens? t).bind ofTokens?

end Written

/-- The characters of a string. Two units of a surrogate pair make one character, and a surrogate on
its own makes none. -/
def text? : List Piece → Option Text
  | [] => some []
  | .char c :: pieces => (text? pieces).map (c :: ·)
  | .unit n :: pieces =>
    if 0xD800 ≤ n ∧ n < 0xDC00 then
      match pieces with
      | .unit low :: pieces =>
        if 0xDC00 ≤ low ∧ low < 0xE000 then
          (text? pieces).map (Char.ofNat (0x10000 + (n - 0xD800) * 0x400 + (low - 0xDC00)) :: ·)
        else none
      | _ => none
    else if 0xDC00 ≤ n ∧ n < 0xE000 then none
    else (text? pieces).map (Char.ofNat n :: ·)

end StatementView.Json
