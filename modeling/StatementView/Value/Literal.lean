import StatementView.Value.Basic
import StatementView.Literal

namespace StatementView.Value

def bytesLiteral (raw : List UInt8) : Text :=
  match Text.decode? raw with
  | some t => Literal.quoted t
  | none => Literal.hex raw

mutual

/-- The literal of a value. An object is escaped and not quoted. -/
def literal : Value → Text
  | .null => "NULL".toList
  | .bool b => if b then ['1'] else ['0']
  | .integer n => Decimal.integer n
  | .float x => floatText x
  | .numeral t => t
  | .text t => Literal.quoted t
  | .bytes raw => bytesLiteral raw
  | .list items => Text.join [',', ' '] (literals items)
  | .bound inner => Literal.quoted inner.plain
  | .object t => Literal.escape t

def literals : List Value → List Text
  | [] => []
  | item :: items => item.literal :: literals items

end

end StatementView.Value
