import StatementView.Json.Basic
import StatementView.Decimal.Shortest

namespace StatementView.Json

def escapeChar (c : Char) : Text :=
  match c with
  | '"' => ['\\', '"']
  | '\\' => ['\\', '\\']
  | '\x08' => ['\\', 'b']
  | '\x0C' => ['\\', 'f']
  | '\n' => ['\\', 'n']
  | '\r' => ['\\', 'r']
  | '\t' => ['\\', 't']
  | _ =>
    if c < ' ' then "\\u00".toList ++ Text.lowerHex [UInt8.ofNat c.toNat] else [c]

def quoted (t : Text) : Text := '"' :: t.flatMap escapeChar ++ ['"']

/-- A finite float with the fewest digits that read back, of two equally near the even ones. Leading
exponents from -5 to 15 are written without an exponent and with a point. -/
def floatText (x : Float) : Text :=
  let sign := if Decimal.isNegative x then ['-'] else []
  if x == 0 then sign ++ "0.0".toList
  else
    let d := Decimal.shortest .even x
    if -5 ≤ d.leading ∧ d.leading ≤ 15 then
      sign ++ d.positional ++ (if d.exponent ≥ 0 then ['.', '0'] else [])
    else sign ++ d.scientific

mutual

def text : Json → Text
  | .null => "null".toList
  | .bool b => if b then "true".toList else "false".toList
  | .integer n => Decimal.integer n
  | .float x => floatText x
  | .string t => quoted t
  | .array items => '[' :: Text.join [','] (texts items) ++ [']']
  | .object fields => '\x7b' :: Text.join [','] (fieldTexts fields) ++ ['\x7d']

def texts : List Json → List Text
  | [] => []
  | item :: items => text item :: texts items

def fieldTexts : List (Text × Json) → List Text
  | [] => []
  | (key, value) :: fields => (quoted key ++ ':' :: text value) :: fieldTexts fields

end

end StatementView.Json
