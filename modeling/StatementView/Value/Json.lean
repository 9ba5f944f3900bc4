import StatementView.Value.Basic
import StatementView.Json.Printer

namespace StatementView.Value

mutual

/-- The value of a document. An integer beyond the integer values is a numeral, and an object is
known by its compact text. -/
def ofJson : Json → Value
  | .null => .null
  | .bool b => .bool b
  | .integer n => if n ≤ maxInteger then .integer n else .numeral (Decimal.integer n)
  | .float x => .float x
  | .string t => .text t
  | .array items => .list (ofJsons items)
  | .object fields => .object (Json.text (.object fields))

def ofJsons : List Json → List Value
  | [] => []
  | item :: items => ofJson item :: ofJsons items

end

end StatementView.Value
