import StatementView.Binding.Basic
import StatementView.Value.Json

namespace StatementView

inductive BindingFault where
  | noDocument (reason : Option Text)
  | noCollection (found : Json)

namespace BindingFault

def kindText : Json → Text
  | .null => "null".toList
  | .bool _ => "a boolean".toList
  | .integer _ | .float _ => "a number".toList
  | .string _ => "a string".toList
  | .array _ => "an array".toList
  | .object _ => "an object".toList

def detail? : BindingFault → Option Text
  | .noDocument reason => reason
  | .noCollection found =>
    some ("parameters must be a JSON array or object, got ".toList ++ kindText found)

/-- The wording of a fault; none where the reader keeps its reason to itself. -/
def message? (fault : BindingFault) : Option Text :=
  fault.detail?.map ("Serialization error: ".toList ++ ·)

end BindingFault

namespace Bindings

def ofJson : Json → Except BindingFault Bindings
  | .array items => .ok (positional (Value.ofJsons items))
  | .object fields =>
    .ok (ofEntries (fields.map fun (key, value) ↦ (Key.ofName key, Value.ofJson value)))
  | found => .error (.noCollection found)

def read (json : Reader Json) (t : Text) : Except BindingFault Bindings :=
  match json t with
  | .ok document => ofJson document
  | .error reason => .error (.noDocument reason)

def ofJsonText (t : Text) : Except BindingFault Bindings := read Json.read t

end Bindings

end StatementView
