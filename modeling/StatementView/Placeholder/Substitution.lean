import StatementView.Placeholder.Split
import StatementView.Binding.Basic
import StatementView.Value.Literal
import StatementView.Event

namespace StatementView.Placeholder

inductive Reading where
  | verbatim
  | missing
  | found (value : Value)

namespace Reading

def ofValue? : Option Value → Reading
  | some value => .found value
  | none => .missing

def literal? : Reading → Option Text
  | .found value => some value.literal
  | _ => none

def advance : Reading → Nat → Nat
  | .found _, cursor => cursor + 1
  | _, cursor => cursor

end Reading

/-- A question mark takes the value at the cursor. A name behind one colon takes its own value, or
else the one at the cursor. Anything else, a name behind more colons included, is left alone. -/
def read (b : Bindings) (cursor : Nat) : Text → Reading
  | ['?'] => .ofValue? (b.getIndex? cursor)
  | ':' :: name =>
    if name.head? = some ':' then .verbatim
    else .ofValue? ((b.getName? name).or (b.getIndex? cursor))
  | _ => .verbatim

structure Placed where
  token : Text
  cursor : Nat
  reading : Reading

def Placed.text (p : Placed) : Text := p.reading.literal?.getD p.token

/-- The placeholders read one after the other from a cursor on. -/
def place (b : Bindings) : Nat → List Text → List Placed
  | _, [] => []
  | cursor, token :: tokens =>
    let reading := read b cursor token
    ⟨token, cursor, reading⟩ :: place b (reading.advance cursor) tokens

def placed (b : Bindings) (t : Text) : List Placed := place b b.firstIndex (Split.ofText t).tokens

def fill : List (Text × Text) → List Placed → Text
  | (before, _) :: pieces, p :: ps => before ++ p.text ++ fill pieces ps
  | _, _ => []

def substitute (b : Bindings) (t : Text) : Text :=
  let s := Split.ofText t
  fill s.pieces (place b b.firstIndex s.tokens) ++ s.rest

def Placed.event? (p : Placed) : Option Event :=
  match p.reading with
  | .missing =>
    some
      { target := "sqlpeek.params".toList
        level := .debug
        fields :=
          [("placeholder".toList, .text p.token), ("cursor".toList, .count p.cursor),
           ("message".toList, .text "no bound value; leaving placeholder".toList)] }
  | _ => none

def events (b : Bindings) (t : Text) : List Event := (placed b t).filterMap Placed.event?

end StatementView.Placeholder
